import Mathlib.Tactic.SplitIfs
import StaticPage.Json.Printer
import StaticPage.Json.Reader

/-!
# Strings read back from their text

The printer works on characters and the reader on bytes, and `utf8` is what lies between them. A
character is read back from how it stands in a string, `stringBytes_escapeChar`: an escape gives the
character that it is of, and the bytes of every other character stand for themselves, since none of them
is a quote, a backslash or a control character.
-/

namespace StaticPage.Json

/-! ### The bytes of a text -/

def utf8 (s : List Char) : Bytes :=
  s.flatMap String.utf8EncodeChar

@[simp] theorem utf8_nil : utf8 [] = [] := rfl

@[simp] theorem utf8_append (s t : List Char) : utf8 (s ++ t) = utf8 s ++ utf8 t :=
  List.flatMap_append

theorem utf8_cons (c : Char) (s : List Char) : utf8 (c :: s) = String.utf8EncodeChar c ++ utf8 s :=
  rfl

theorem utf8EncodeChar_of_lt {c : Char} (h : c.toNat < 128) :
    String.utf8EncodeChar c = [Reader.byte c] := by
  have hle : c.val.toNat ≤ 0x7f := Nat.le_of_lt_succ h
  simp only [String.utf8EncodeChar, hle, if_true]
  rfl

theorem utf8_cons_of_lt {c : Char} (h : c.toNat < 128) (s : List Char) :
    utf8 (c :: s) = Reader.byte c :: utf8 s := by
  rw [utf8_cons, utf8EncodeChar_of_lt h]
  rfl

theorem length_le_utf8 (s : List Char) : s.length ≤ (utf8 s).length := by
  induction s with
  | nil => simp
  | cons c s ih =>
      have hpos : 0 < (String.utf8EncodeChar c).length :=
        List.length_pos_iff.2 String.utf8EncodeChar_ne_nil
      rw [utf8_cons, List.length_append, List.length_cons]
      omega

theorem toByteArray_utf8 (s : String) : (⟨(utf8 s.toList).toArray⟩ : ByteArray) = s.toUTF8 := by
  change _ = s.toByteArray
  rw [← String.utf8Encode_toList]
  ext1
  simp [List.utf8Encode, utf8]

theorem toList_toUTF8 (s : String) : s.toUTF8.data.toList = utf8 s.toList := by
  rw [← toByteArray_utf8]

theorem fromUTF8?_toUTF8 (s : String) : String.fromUTF8? s.toUTF8 = some s := by
  unfold String.fromUTF8?
  rw [dif_pos (show s.toUTF8.IsValidUTF8 from s.isValidUTF8)]
  rfl

theorem le_of_mem_utf8EncodeChar {c : Char} {b : UInt8} (hc : 128 ≤ c.toNat)
    (h : b ∈ String.utf8EncodeChar c) : 128 ≤ b := by
  have hlt : ¬ c.val.toNat ≤ 0x7f := Nat.not_le.2 (Nat.lt_of_succ_le hc)
  simp only [String.utf8EncodeChar, hlt, if_false] at h
  rw [UInt8.le_iff_toNat_le]
  split at h
  · simp only [List.mem_cons, List.not_mem_nil, or_false] at h
    rcases h with rfl | rfl <;> simp <;> omega
  · split at h
    · simp only [List.mem_cons, List.not_mem_nil, or_false] at h
      rcases h with rfl | rfl | rfl <;> simp <;> omega
    · simp only [List.mem_cons, List.not_mem_nil, or_false] at h
      rcases h with rfl | rfl | rfl | rfl <;> simp <;> omega

namespace Reader

theorem toNat_byte {c : Char} (h : c.toNat < 128) : (byte c).toNat = c.toNat := by
  change c.toNat % 256 = c.toNat
  omega

theorem byte_inj {c d : Char} (hc : c.toNat < 128) (hd : d.toNat < 128) (h : byte c = byte d) :
    c = d := by
  apply Char.toNat_inj.1
  rw [← toNat_byte hc, ← toNat_byte hd, h]

/-! ### Bytes that stand for themselves -/

/-- A byte that stands for itself in a string. -/
def IsPlain (b : UInt8) : Prop :=
  b ≠ byte '"' ∧ b ≠ byte '\\' ∧ 0x20 ≤ b

theorem isPlain_of_mem {c : Char} (hquote : c ≠ '"') (hslash : c ≠ '\\') (hle : 0x20 ≤ c.toNat)
    {b : UInt8} (hb : b ∈ String.utf8EncodeChar c) : IsPlain b := by
  by_cases hlt : c.toNat < 128
  · rw [utf8EncodeChar_of_lt hlt, List.mem_singleton] at hb
    subst hb
    refine ⟨fun h => hquote ?_, fun h => hslash ?_, ?_⟩
    · exact byte_inj hlt (by decide) h
    · exact byte_inj hlt (by decide) h
    · rw [UInt8.le_iff_toNat_le, toNat_byte hlt]
      exact hle
  · have hge : 128 ≤ b.toNat := UInt8.le_iff_toNat_le.1 (le_of_mem_utf8EncodeChar (by omega) hb)
    refine ⟨?_, ?_, UInt8.le_iff_toNat_le.2 (Nat.le_trans (by decide) hge)⟩
    · rintro rfl
      exact absurd hge (by decide)
    · rintro rfl
      exact absurd hge (by decide)

theorem stringBytes_plain {b : UInt8} (h : IsPlain b) (content s : Bytes) :
    stringBytes content (b :: s) = stringBytes (b :: content) s := by
  obtain ⟨hquote, hslash, hle⟩ := h
  rw [stringBytes]
  rw [if_neg (by simpa using hquote), if_neg (by simpa using hslash), if_neg (UInt8.not_lt.2 hle)]

theorem stringBytes_plains {bs : Bytes} (h : ∀ b ∈ bs, IsPlain b) (content s : Bytes) :
    stringBytes content (bs ++ s) = stringBytes (bs.reverse ++ content) s := by
  induction bs generalizing content with
  | nil => rfl
  | cons b bs ih =>
      have hbs : ∀ b ∈ bs, IsPlain b := fun b hb => h b (List.mem_cons_of_mem _ hb)
      rw [List.cons_append, stringBytes_plain (h b List.mem_cons_self), ih hbs]
      simp

/-! ### Escapes -/

theorem stringBytes_escape {s cs rest : Bytes} (content : Bytes) (h : escape s = .ok (cs, rest)) :
    stringBytes content (byte '\\' :: s) = stringBytes (cs.reverse ++ content) rest := by
  rw [stringBytes]
  rw [if_neg (by decide), if_pos (by decide)]
  split
  · rename_i e he
    rw [h] at he
    cases he
  · rename_i cs' rest' he
    rw [h] at he
    cases he
    rfl

theorem hexValue?_hexDigit (n : Nat) : hexValue? (byte (hexDigit n)) = some (n % 16) := by
  have hdigit : ∀ d < 16, hexValue? (byte (Nat.digitChar d)) = some d := by decide
  exact hdigit (n % 16) (Nat.mod_lt n (by decide))

theorem hexDigit_lt (n : Nat) : (hexDigit n).toNat < 128 := by
  have hdigit : ∀ d < 16, (Nat.digitChar d).toNat < 128 := by decide
  exact hdigit (n % 16) (Nat.mod_lt n (by decide))

theorem escape_control {c : Char} (h : c.toNat < 0x20) (s : Bytes) :
    escape (utf8 ['u', '0', '0', hexDigit (c.toNat / 16), hexDigit c.toNat] ++ s)
      = .ok (String.utf8EncodeChar c, s) := by
  have hfour : hexFour (byte '0' :: byte '0' :: byte (hexDigit (c.toNat / 16)) ::
      byte (hexDigit c.toNat) :: s) = .ok (c.toNat, s) := by
    have hzero : hexValue? (byte '0') = some 0 := rfl
    simp only [hexFour, hexValue?_hexDigit, hzero, Except.ok.injEq, Prod.mk.injEq, and_true]
    omega
  rw [utf8_cons_of_lt (by decide), utf8_cons_of_lt (by decide), utf8_cons_of_lt (by decide),
    utf8_cons_of_lt (hexDigit_lt _), utf8_cons_of_lt (hexDigit_lt _)]
  simp only [utf8_nil, List.cons_append, List.nil_append]
  rw [escape, if_pos (by decide), hexEscape, hfour]
  simp only
  rw [if_neg (by omega), if_neg (by omega), charBytes, Char.ofNat_toNat]

theorem stringBytes_escapeChar (c : Char) (content s : Bytes) :
    stringBytes content (utf8 (escapeChar c) ++ s)
      = stringBytes ((String.utf8EncodeChar c).reverse ++ content) s := by
  have hletter (c l : Char) (h : escape (utf8 [l] ++ s) = .ok (String.utf8EncodeChar c, s)) :
      stringBytes content (utf8 ['\\', l] ++ s)
        = stringBytes ((String.utf8EncodeChar c).reverse ++ content) s :=
    stringBytes_escape content h
  unfold escapeChar
  split_ifs with hquote hslash hn hr ht hb hf hcontrol
  · rw [hquote]
    exact hletter '"' '"' rfl
  · rw [hslash]
    exact hletter '\\' '\\' rfl
  · rw [hn]
    exact hletter '\n' 'n' rfl
  · rw [hr]
    exact hletter '\r' 'r' rfl
  · rw [ht]
    exact hletter '\t' 't' rfl
  · rw [hb]
    exact hletter '\x08' 'b' rfl
  · rw [hf]
    exact hletter '\x0c' 'f' rfl
  · exact stringBytes_escape content (escape_control hcontrol s)
  · rw [utf8_cons, utf8_nil, List.append_nil]
    exact stringBytes_plains (fun b hb => isPlain_of_mem hquote hslash (by omega) hb) content s

theorem stringBytes_flatMap_escapeChar (s : List Char) (content rest : Bytes) :
    stringBytes content (utf8 (s.flatMap escapeChar) ++ byte '"' :: rest)
      = .ok (content.reverse ++ utf8 s, rest) := by
  induction s generalizing content with
  | nil =>
      rw [List.flatMap_nil, utf8_nil, List.nil_append, List.append_nil, stringBytes,
        if_pos (by decide)]
  | cons c s ih =>
      rw [List.flatMap_cons, utf8_append, List.append_assoc, stringBytes_escapeChar, ih, utf8_cons]
      simp

/-- A string is read back from the text behind its opening quote. -/
theorem string_escaped (s : String) (rest : Bytes) :
    string (utf8 (s.toList.flatMap escapeChar) ++ byte '"' :: rest) = .ok (s, rest) := by
  unfold string
  rw [stringBytes_flatMap_escapeChar]
  simp only [List.reverse_nil, List.nil_append]
  rw [toByteArray_utf8, fromUTF8?_toUTF8]

end Reader

end StaticPage.Json
