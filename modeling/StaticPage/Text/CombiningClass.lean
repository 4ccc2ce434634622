import StaticPage.Text.CharTable

/-!
# Marks and combining classes

A mark is a character that goes with the one before it, whether it takes room of its own or not.

Of several marks on a character, those that touch it in the same place have the same class, and their
order tells. Marks of different classes may come in any order, and the canonical one is that of the
classes. Characters of class zero are no such marks. The tables are those of version 17.0 of Unicode.
-/

namespace StaticPage.Text

def markRows : List String :=
  ["300-36f;483-489;591-5bd;5bf;5c1-5c2;5c4-5c5;5c7;610-61a;64b-65f;670;6d6-6dc;6df-6e4;6e7-6e8",
    "6ea-6ed;711;730-74a;7a6-7b0;7eb-7f3;7fd;816-819;81b-823;825-827;829-82d;859-85b;897-89f",
    "8ca-8e1;8e3-903;93a-93c;93e-94f;951-957;962-963;981-983;9bc;9be-9c4;9c7-9c8;9cb-9cd;9d7",
    "9e2-9e3;9fe;a01-a03;a3c;a3e-a42;a47-a48;a4b-a4d;a51;a70-a71;a75;a81-a83;abc;abe-ac5;ac7-ac9",
    "acb-acd;ae2-ae3;afa-aff;b01-b03;b3c;b3e-b44;b47-b48;b4b-b4d;b55-b57;b62-b63;b82;bbe-bc2",
    "bc6-bc8;bca-bcd;bd7;c00-c04;c3c;c3e-c44;c46-c48;c4a-c4d;c55-c56;c62-c63;c81-c83;cbc;cbe-cc4",
    "cc6-cc8;cca-ccd;cd5-cd6;ce2-ce3;cf3;d00-d03;d3b-d3c;d3e-d44;d46-d48;d4a-d4d;d57;d62-d63",
    "d81-d83;dca;dcf-dd4;dd6;dd8-ddf;df2-df3;e31;e34-e3a;e47-e4e;eb1;eb4-ebc;ec8-ece;f18-f19;f35",
    "f37;f39;f3e-f3f;f71-f84;f86-f87;f8d-f97;f99-fbc;fc6;102b-103e;1056-1059;105e-1060;1062-1064",
    "1067-106d;1071-1074;1082-108d;108f;109a-109d;135d-135f;1712-1715;1732-1734;1752-1753;1772-1773",
    "17b4-17d3;17dd;180b-180d;180f;1885-1886;18a9;1920-192b;1930-193b;1a17-1a1b;1a55-1a5e;1a60-1a7c",
    "1a7f;1ab0-1add;1ae0-1aeb;1b00-1b04;1b34-1b44;1b6b-1b73;1b80-1b82;1ba1-1bad;1be6-1bf3;1c24-1c37",
    "1cd0-1cd2;1cd4-1ce8;1ced;1cf4;1cf7-1cf9;1dc0-1dff;20d0-20f0;2cef-2cf1;2d7f;2de0-2dff;302a-302f",
    "3099-309a;a66f-a672;a674-a67d;a69e-a69f;a6f0-a6f1;a802;a806;a80b;a823-a827;a82c;a880-a881",
    "a8b4-a8c5;a8e0-a8f1;a8ff;a926-a92d;a947-a953;a980-a983;a9b3-a9c0;a9e5;aa29-aa36;aa43;aa4c-aa4d",
    "aa7b-aa7d;aab0;aab2-aab4;aab7-aab8;aabe-aabf;aac1;aaeb-aaef;aaf5-aaf6;abe3-abea;abec-abed;fb1e",
    "fe00-fe0f;fe20-fe2f;101fd;102e0;10376-1037a;10a01-10a03;10a05-10a06;10a0c-10a0f;10a38-10a3a",
    "10a3f;10ae5-10ae6;10d24-10d27;10d69-10d6d;10eab-10eac;10efa-10eff;10f46-10f50;10f82-10f85",
    "11000-11002;11038-11046;11070;11073-11074;1107f-11082;110b0-110ba;110c2;11100-11102",
    "11127-11134;11145-11146;11173;11180-11182;111b3-111c0;111c9-111cc;111ce-111cf;1122c-11237",
    "1123e;11241;112df-112ea;11300-11303;1133b-1133c;1133e-11344;11347-11348;1134b-1134d;11357",
    "11362-11363;11366-1136c;11370-11374;113b8-113c0;113c2;113c5;113c7-113ca;113cc-113d0;113d2",
    "113e1-113e2;11435-11446;1145e;114b0-114c3;115af-115b5;115b8-115c0;115dc-115dd;11630-11640",
    "116ab-116b7;1171d-1172b;1182c-1183a;11930-11935;11937-11938;1193b-1193e;11940;11942-11943",
    "119d1-119d7;119da-119e0;119e4;11a01-11a0a;11a33-11a39;11a3b-11a3e;11a47;11a51-11a5b",
    "11a8a-11a99;11b60-11b67;11c2f-11c36;11c38-11c3f;11c92-11ca7;11ca9-11cb6;11d31-11d36;11d3a",
    "11d3c-11d3d;11d3f-11d45;11d47;11d8a-11d8e;11d90-11d91;11d93-11d97;11ef3-11ef6;11f00-11f01",
    "11f03;11f34-11f3a;11f3e-11f42;11f5a;13440;13447-13455;1611e-1612f;16af0-16af4;16b30-16b36",
    "16f4f;16f51-16f87;16f8f-16f92;16fe4;16ff0-16ff1;1bc9d-1bc9e;1cf00-1cf2d;1cf30-1cf46",
    "1d165-1d169;1d16d-1d172;1d17b-1d182;1d185-1d18b;1d1aa-1d1ad;1d242-1d244;1da00-1da36",
    "1da3b-1da6c;1da75;1da84;1da9b-1da9f;1daa1-1daaf;1e000-1e006;1e008-1e018;1e01b-1e021",
    "1e023-1e024;1e026-1e02a;1e08f;1e130-1e136;1e2ae;1e2ec-1e2ef;1e4ec-1e4ef;1e5ee-1e5ef;1e6e3",
    "1e6e6;1e6ee-1e6ef;1e6f5;1e8d0-1e8d6;1e944-1e94a;e0100-e01ef"]

def marks : CharTable Unit :=
  .ofRows markRows fun _ => ()

/-- A character that goes with the one before it. -/
def isMark (c : Char) : Bool :=
  marks.contains c

/-! ### Classes -/

/-- The runs of characters of another class than zero, and their classes in decimal. -/
def combiningClassRows : List String :=
  ["300-314 230;315 232;316-319 220;31a 232;31b 216;31c-320 220;321-322 202;323-326 220",
    "327-328 202;329-333 220;334-338 1;339-33c 220;33d-344 230;345 240;346 230;347-349 220",
    "34a-34c 230;34d-34e 220;350-352 230;353-356 220;357 230;358 232;359-35a 220;35b 230;35c 233",
    "35d-35e 234;35f 233;360-361 234;362 233;363-36f 230;483-487 230;591 220;592-595 230;596 220",
    "597-599 230;59a 222;59b 220;59c-5a1 230;5a2-5a7 220;5a8-5a9 230;5aa 220;5ab-5ac 230;5ad 222",
    "5ae 228;5af 230;5b0 10;5b1 11;5b2 12;5b3 13;5b4 14;5b5 15;5b6 16;5b7 17;5b8 18;5b9-5ba 19",
    "5bb 20;5bc 21;5bd 22;5bf 23;5c1 24;5c2 25;5c4 230;5c5 220;5c7 18;610-617 230;618 30;619 31",
    "61a 32;64b 27;64c 28;64d 29;64e 30;64f 31;650 32;651 33;652 34;653-654 230;655-656 220",
    "657-65b 230;65c 220;65d-65e 230;65f 220;670 35;6d6-6dc 230;6df-6e2 230;6e3 220;6e4 230",
    "6e7-6e8 230;6ea 220;6eb-6ec 230;6ed 220;711 36;730 230;731 220;732-733 230;734 220;735-736 230",
    "737-739 220;73a 230;73b-73c 220;73d 230;73e 220;73f-741 230;742 220;743 230;744 220;745 230",
    "746 220;747 230;748 220;749-74a 230;7eb-7f1 230;7f2 220;7f3 230;7fd 220;816-819 230",
    "81b-823 230;825-827 230;829-82d 230;859-85b 220;897-898 230;899-89b 220;89c-89f 230",
    "8ca-8ce 230;8cf-8d3 220;8d4-8e1 230;8e3 220;8e4-8e5 230;8e6 220;8e7-8e8 230;8e9 220",
    "8ea-8ec 230;8ed-8ef 220;8f0 27;8f1 28;8f2 29;8f3-8f5 230;8f6 220;8f7-8f8 230;8f9-8fa 220",
    "8fb-8ff 230;93c 7;94d 9;951 230;952 220;953-954 230;9bc 7;9cd 9;9fe 230;a3c 7;a4d 9;abc 7",
    "acd 9;b3c 7;b4d 9;bcd 9;c3c 7;c4d 9;c55 84;c56 91;cbc 7;ccd 9;d3b-d3c 9;d4d 9;dca 9",
    "e38-e39 103;e3a 9;e48-e4b 107;eb8-eb9 118;eba 9;ec8-ecb 122;f18-f19 220;f35 220;f37 220",
    "f39 216;f71 129;f72 130;f74 132;f7a-f7d 130;f80 130;f82-f83 230;f84 9;f86-f87 230;fc6 220",
    "1037 7;1039-103a 9;108d 220;135d-135f 230;1714-1715 9;1734 9;17d2 9;17dd 230;18a9 228;1939 222",
    "193a 230;193b 220;1a17 230;1a18 220;1a60 9;1a75-1a7c 230;1a7f 220;1ab0-1ab4 230;1ab5-1aba 220",
    "1abb-1abc 230;1abd 220;1abf-1ac0 220;1ac1-1ac2 230;1ac3-1ac4 220;1ac5-1ac9 230;1aca 220",
    "1acb-1adc 230;1add 220;1ae0-1ae5 230;1ae6 220;1ae7-1aea 230;1aeb 234;1b34 7;1b44 9;1b6b 230",
    "1b6c 220;1b6d-1b73 230;1baa-1bab 9;1be6 7;1bf2-1bf3 9;1c37 7;1cd0-1cd2 230;1cd4 1",
    "1cd5-1cd9 220;1cda-1cdb 230;1cdc-1cdf 220;1ce0 230;1ce2-1ce8 1;1ced 220;1cf4 230;1cf8-1cf9 230",
    "1dc0-1dc1 230;1dc2 220;1dc3-1dc9 230;1dca 220;1dcb-1dcc 230;1dcd 234;1dce 214;1dcf 220",
    "1dd0 202;1dd1-1df5 230;1df6 232;1df7-1df8 228;1df9 220;1dfa 218;1dfb 230;1dfc 233;1dfd 220",
    "1dfe 230;1dff 220;20d0-20d1 230;20d2-20d3 1;20d4-20d7 230;20d8-20da 1;20db-20dc 230;20e1 230",
    "20e5-20e6 1;20e7 230;20e8 220;20e9 230;20ea-20eb 1;20ec-20ef 220;20f0 230;2cef-2cf1 230;2d7f 9",
    "2de0-2dff 230;302a 218;302b 228;302c 232;302d 222;302e-302f 224;3099-309a 8;a66f 230",
    "a674-a67d 230;a69e-a69f 230;a6f0-a6f1 230;a806 9;a82c 9;a8c4 9;a8e0-a8f1 230;a92b-a92d 220",
    "a953 9;a9b3 7;a9c0 9;aab0 230;aab2-aab3 230;aab4 220;aab7-aab8 230;aabe-aabf 230;aac1 230",
    "aaf6 9;abed 9;fb1e 26;fe20-fe26 230;fe27-fe2d 220;fe2e-fe2f 230;101fd 220;102e0 220",
    "10376-1037a 230;10a0d 220;10a0f 230;10a38 230;10a39 1;10a3a 220;10a3f 9;10ae5 230;10ae6 220",
    "10d24-10d27 230;10d69-10d6d 230;10eab-10eac 230;10efa-10efb 220;10efd-10eff 220",
    "10f46-10f47 220;10f48-10f4a 230;10f4b 220;10f4c 230;10f4d-10f50 220;10f82 230;10f83 220",
    "10f84 230;10f85 220;11046 9;11070 9;1107f 9;110b9 9;110ba 7;11100-11102 230;11133-11134 9",
    "11173 7;111c0 9;111ca 7;11235 9;11236 7;112e9 7;112ea 9;1133b-1133c 7;1134d 9;11366-1136c 230",
    "11370-11374 230;113ce-113d0 9;11442 9;11446 7;1145e 230;114c2 9;114c3 7;115bf 9;115c0 7",
    "1163f 9;116b6 9;116b7 7;1172b 9;11839 9;1183a 7;1193d-1193e 9;11943 7;119e0 9;11a34 9;11a47 9",
    "11a99 9;11c3f 9;11d42 7;11d44-11d45 9;11d97 9;11f41-11f42 9;1612f 9;16af0-16af4 1",
    "16b30-16b36 230;16ff0-16ff1 6;1bc9e 1;1d165-1d166 216;1d167-1d169 1;1d16d 226;1d16e-1d172 216",
    "1d17b-1d182 220;1d185-1d189 230;1d18a-1d18b 220;1d1aa-1d1ad 230;1d242-1d244 230",
    "1e000-1e006 230;1e008-1e018 230;1e01b-1e021 230;1e023-1e024 230;1e026-1e02a 230;1e08f 230",
    "1e130-1e136 230;1e2ae 230;1e2ec-1e2ef 230;1e4ec-1e4ed 232;1e4ee 220;1e4ef 230;1e5ee 230",
    "1e5ef 220;1e6e3 230;1e6e6 230;1e6ee-1e6ef 230;1e6f5 230;1e8d0-1e8d6 220;1e944-1e949 230",
    "1e94a 7"]

/-- The classes other than zero. -/
def combiningClasses : CharTable Nat :=
  .ofRows combiningClassRows fun words => ((words.headD "").toNat?).getD 0

def combiningClass (c : Char) : Nat :=
  (combiningClasses.get? c).getD 0

/-- The class of the signs that take the vowel from a letter. -/
def vowelKillerClass : Nat := 9

end StaticPage.Text
