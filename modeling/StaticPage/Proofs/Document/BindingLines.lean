import StaticPage.Document.Parser
import StaticPage.Document.Printer
import StaticPage.Proofs.Text.Cutting

/-!
# Binding lines read back

The form of a binding line is stated without its loops: `sides?_eq_some_iff` is the grammar of the two
sides of the equals sign, `fetched?_eq_some_iff` that of a right side with a URL. A binding that was read
from a line is `Legible`, and a legible binding is read back from the line it is written as.
-/

namespace StaticPage

open Text (isBlank trim trimStart Bare)

namespace Header

variable {s t name right target url : List Char} {marked : Bool}

theorem isNameChar_range {c : Char} (h : isNameChar c = true) :
    (65 ≤ c.toNat ∧ c.toNat ≤ 90) ∨ (97 ≤ c.toNat ∧ c.toNat ≤ 122) ∨
      (48 ≤ c.toNat ∧ c.toNat ≤ 57) ∨ c.toNat = 95 := by
  change (decide (65 ≤ c.val ∧ c.val ≤ 90) || (decide (97 ≤ c.val) && decide (c.val ≤ 122)) ||
    (decide (48 ≤ c.val) && decide (c.val ≤ 57)) || c == '_') = true at h
  simp only [Bool.or_eq_true, Bool.and_eq_true, decide_eq_true_eq, beq_iff_eq,
    UInt32.le_iff_toNat_le] at h
  change (((65 ≤ c.toNat ∧ c.toNat ≤ 90) ∨ (97 ≤ c.toNat ∧ c.toNat ≤ 122)) ∨
    (48 ≤ c.toNat ∧ c.toNat ≤ 57)) ∨ c = '_' at h
  rcases h with ((h | h) | h) | rfl
  · exact .inl h
  · exact .inr (.inl h)
  · exact .inr (.inr (.inl h))
  · exact .inr (.inr (.inr rfl))

theorem isBlank_of_isNameChar {c : Char} (h : isNameChar c = true) : isBlank c = false := by
  have hrange := isNameChar_range h
  simp only [isBlank, Bool.or_eq_false_iff, Bool.and_eq_false_iff, decide_eq_false_iff_not,
    beq_eq_false_iff_ne]
  omega

theorem not_isNameChar_of_isBlank {c : Char} (h : isBlank c = true) : isNameChar c = false := by
  cases hname : isNameChar c with
  | false => rfl
  | true => simp [isBlank_of_isNameChar hname] at h

theorem not_isTargetChar_of_isBlank {c : Char} (h : isBlank c = true) : isTargetChar c = false := by
  simp [isTargetChar, h]

theorem isBlank_of_isTargetChar {c : Char} (h : isTargetChar c = true) : isBlank c = false := by
  simp only [isTargetChar, Bool.and_eq_true, Bool.not_eq_true'] at h
  exact h.2

/-- Blanks and a sign that is not blank begin with a character that no kind without blanks and without
the sign has. -/
theorem head?_blanks_append {p : Char → Bool} {bl : List Char} {sign : Char}
    (hbl : ∀ c ∈ bl, p c = false) (hsign : p sign = false) (rest : List Char) :
    ∀ c ∈ (bl ++ sign :: rest).head?, p c = false := by
  cases bl with
  | nil =>
      intro c hc
      cases hc
      exact hsign
  | cons b bl =>
      intro c hc
      cases hc
      exact hbl b List.mem_cons_self

theorem trimStart_blanks_append {bl : List Char} {sign : Char} (hbl : ∀ c ∈ bl, isBlank c = true)
    (hsign : isBlank sign = false) (rest : List Char) :
    trimStart (bl ++ sign :: rest) = sign :: rest := by
  rw [Text.trimStart_append hbl, Text.trimStart_of_head]
  intro c hc
  cases hc
  exact hsign

/-! ### Operands -/

theorem operand?_isSome_iff : (operand? s).isSome ↔ s ≠ [] := by
  rw [operand?]
  split
  · rw [Option.isSome_map, List.getLast?_isSome]
  · rename_i h
    simp only [Option.isSome_some, true_iff]
    rintro rfl
    exact h rfl

theorem operand?_cases {x : List Char} (h : operand? s = some x) :
    (x = trimStart s ∧ x ≠ []) ∨ (trim s = [] ∧ trim x = []) := by
  rw [operand?] at h
  split at h
  · rename_i hempty
    rw [List.isEmpty_iff] at hempty
    obtain ⟨c, hc, rfl⟩ := Option.map_eq_some_iff.1 h
    obtain ⟨l, hl, hblank⟩ := Text.exists_trimStart s
    rw [hempty, List.append_nil] at hl
    have hcblank : isBlank c = true := hblank c (hl ▸ List.mem_of_getLast? hc)
    refine .inr ⟨?_, Text.trim_append (l := [c]) (by simpa using hcblank) []⟩
    rw [trim, hempty, Text.trimEnd_nil]
  · rename_i hne
    cases h
    exact .inl ⟨rfl, by simpa using hne⟩

theorem trim_operand? {x : List Char} (h : operand? s = some x) : trim x = trim s := by
  rcases operand?_cases h with ⟨rfl, -⟩ | ⟨hs, hx⟩
  · rw [trim, Text.trimStart_of_head (Text.head?_trimStart s), ← trim]
  · rw [hs, hx]

theorem mem_of_operand? {x : List Char} (h : operand? s = some x) {c : Char} (hc : c ∈ x) : c ∈ s := by
  rw [operand?] at h
  split at h
  · obtain ⟨a, ha, rfl⟩ := Option.map_eq_some_iff.1 h
    rw [List.mem_singleton.1 hc]
    exact List.mem_of_getLast? ha
  · cases h
    exact (List.dropWhile_suffix isBlank).subset hc

/-- What is read of a text after one blank: the text, or the blank if it is empty. -/
def padded (s : List Char) : List Char :=
  if s = [] then [' '] else s

theorem operand?_blank (hs : ∀ c ∈ s.head?, isBlank c = false) :
    operand? (' ' :: s) = some (padded s) := by
  have htrim : trimStart (' ' :: s) = s :=
    (Text.trimStart_append Text.blank_space s).trans (Text.trimStart_of_head hs)
  rw [operand?, htrim, padded]
  split
  · rename_i h
    rw [if_pos (List.isEmpty_iff.1 h), List.isEmpty_iff.1 h]
    rfl
  · rename_i h
    rw [if_neg (by simpa using h)]

/-! ### The sides of a line -/

def markText (marked : Bool) : List Char :=
  if marked then ['!'] else []

theorem eq_of_mark (s : List Char) : s = markText (mark s).1 ++ (mark s).2 := by
  unfold mark
  split <;> rfl

theorem mark_append {c : Char} (hc : isNameChar c = true) (rest : List Char) :
    mark (markText marked ++ c :: rest) = (marked, c :: rest) := by
  cases marked with
  | true => rfl
  | false =>
      rw [markText, if_neg Bool.false_ne_true, List.nil_append, mark]
      intro s' heq
      cases heq
      exact absurd hc (by decide)

/-- The grammar of a binding line: a mark or none, a name, blanks, an equals sign, and an operand. -/
theorem sides?_eq_some_iff : sides? s = some (marked, name, right) ↔ ∃ bl rest,
    s = markText marked ++ (name ++ (bl ++ '=' :: rest)) ∧ name ≠ [] ∧
      (∀ c ∈ name, isNameChar c = true) ∧ (∀ c ∈ bl, isBlank c = true) ∧
      operand? rest = some right := by
  constructor
  · intro h
    rw [sides?] at h
    have hmark := eq_of_mark s
    generalize mark s = m at h hmark
    obtain ⟨marked', t⟩ := m
    dsimp only at h hmark
    split at h
    · cases h
    · rename_i hname
      split at h
      · rename_i rest htrim
        obtain ⟨right', hright, heq⟩ := Option.map_eq_some_iff.1 h
        cases heq
        obtain ⟨bl, hbl, hblank⟩ := Text.exists_trimStart (t.dropWhile isNameChar)
        refine ⟨bl, rest, ?_, by simpa using hname, fun c hc => List.mem_takeWhile_imp hc, hblank, hright⟩
        rw [← htrim, ← hbl, List.takeWhile_append_dropWhile, ← hmark]
      · cases h
  · rintro ⟨bl, rest, rfl, hne, hname, hblank, hright⟩
    obtain ⟨c, name', rfl⟩ := List.exists_cons_of_ne_nil hne
    have hstop : ∀ c ∈ (bl ++ '=' :: rest).head?, isNameChar c = false :=
      head?_blanks_append (fun c hc => not_isNameChar_of_isBlank (hblank c hc)) (by decide) rest
    rw [sides?, List.cons_append, mark_append (hname c List.mem_cons_self)]
    dsimp only
    rw [← List.cons_append, Text.takeWhile_append hname hstop, Text.dropWhile_append hname hstop,
      trimStart_blanks_append hblank (by decide)]
    simp [hright]

theorem sides?_eq_none {c : Char} (hs : s.head? = some c) (hmark : c ≠ '!')
    (hname : isNameChar c = false) : sides? s = none := by
  rw [Option.eq_none_iff_forall_ne_some]
  rintro ⟨marked, name, right⟩ hsides
  obtain ⟨bl, rest, rfl, hne, hchars, -, -⟩ := sides?_eq_some_iff.1 hsides
  obtain ⟨a, name, rfl⟩ := List.exists_cons_of_ne_nil hne
  cases marked with
  | true =>
      cases hs
      exact hmark rfl
  | false =>
      cases hs
      simp [hchars _ List.mem_cons_self] at hname

/-- The grammar of a right side with a URL: a target, blanks, two signs, and something after them. -/
theorem fetched?_eq_some_iff : fetched? s = some (target, url) ↔ ∃ bl rest,
    s = target ++ (bl ++ '<' :: '<' :: rest) ∧ target ≠ [] ∧ (∀ c ∈ target, isTargetChar c = true) ∧
      (∀ c ∈ bl, isBlank c = true) ∧ rest ≠ [] ∧ url = trim rest := by
  constructor
  · intro h
    rw [fetched?] at h
    split at h
    · cases h
    · rename_i htarget
      split at h
      · rename_i rest htrim
        obtain ⟨x, hx, heq⟩ := Option.map_eq_some_iff.1 h
        cases heq
        obtain ⟨bl, hbl, hblank⟩ := Text.exists_trimStart (s.dropWhile isTargetChar)
        refine ⟨bl, rest, ?_, by simpa using htarget, fun c hc => List.mem_takeWhile_imp hc, hblank,
          operand?_isSome_iff.1 (by simp [hx]), trim_operand? hx⟩
        rw [← htrim, ← hbl, List.takeWhile_append_dropWhile]
      · cases h
  · rintro ⟨bl, rest, rfl, hne, htarget, hblank, hrest, rfl⟩
    have hstop : ∀ c ∈ (bl ++ '<' :: '<' :: rest).head?, isTargetChar c = false :=
      head?_blanks_append (fun c hc => not_isTargetChar_of_isBlank (hblank c hc)) (by decide) _
    obtain ⟨x, hx⟩ := Option.isSome_iff_exists.1 (operand?_isSome_iff.2 hrest)
    rw [fetched?, Text.takeWhile_append htarget hstop, Text.dropWhile_append htarget hstop,
      trimStart_blanks_append hblank (by decide)]
    simp [hne, hx, trim_operand? hx]

theorem fetched?_append {r : List Char} (h : fetched? (s ++ r) = none) : fetched? s = none := by
  rw [Option.eq_none_iff_forall_ne_some] at h ⊢
  rintro ⟨target, url⟩ hs
  obtain ⟨bl, rest, rfl, hne, htarget, hblank, hrest, -⟩ := fetched?_eq_some_iff.1 hs
  refine h (target, trim (rest ++ r)) (fetched?_eq_some_iff.2
    ⟨bl, rest ++ r, by simp, hne, htarget, hblank, by simp [hrest], rfl⟩)

end Header

/-! ### Legible bindings -/

def Binding.rightText (b : Binding) : List Char :=
  b.target.toList ++ (b.url?.elim [] fun url => " << ".toList ++ url.toList)

theorem Binding.text_eq (b : Binding) : b.text
    = Header.markText b.isLazy ++ (b.name.toList ++ ([' '] ++ '=' :: ' ' :: b.rightText)) := by
  obtain ⟨name, target, origin, line⟩ := b
  cases origin <;> simp [text, rightText, url?, isLazy, Header.markText]

/-- What a right side with or without a URL has to be like. -/
inductive Binding.Right (target : List Char) : Option String → Prop where
  | manual (hbare : Bare target) (hnone : Header.fetched? target = none) : Right target none
  | fetched {url : String} (hne : target ≠ []) (htarget : ∀ c ∈ target, Header.isTargetChar c = true)
      (hbare : Bare url.toList) : Right target (some url)

/-- A binding that a line can declare. -/
structure Binding.Legible (b : Binding) : Prop where
  name_ne : b.name.toList ≠ []
  name_chars : ∀ c ∈ b.name.toList, Header.isNameChar c = true
  right : Binding.Right b.target.toList b.url?
  newline : '\n' ∉ b.rightText

namespace Header

variable {s right : List Char} {marked : Bool}

/-- A right side without a URL has none when its blanks at the ends are gone. -/
theorem fetched?_trim {x : List Char} (hx : operand? s = some x) (h : fetched? x = none) :
    fetched? (trim x) = none := by
  rcases operand?_cases hx with ⟨rfl, -⟩ | ⟨-, hempty⟩
  · obtain ⟨r, hr, -⟩ := Text.exists_trimEnd (trimStart s)
    rw [trim, Text.trimStart_of_head (Text.head?_trimStart s)]
    rw [hr] at h
    exact fetched?_append h
  · rw [hempty]
    rfl

end Header

theorem Line.legible_of_binding? {line : Line} {b : Binding} (hline : '\n' ∉ line.text.toList)
    (h : line.binding? = some b) : b.Legible := by
  obtain ⟨⟨marked, name, right⟩, hsides, hb⟩ := Option.map_eq_some_iff.1 h
  obtain ⟨bl, rest, hs, hne, hname, -, hright⟩ := Header.sides?_eq_some_iff.1 hsides
  have hnewline : '\n' ∉ right := by
    intro hc
    have hrest := Header.mem_of_operand? hright hc
    exact hline (by rw [hs]; simp [hrest])
  dsimp only at hb
  split at hb
  · rename_i target url hfetched
    obtain ⟨bl', rest', rfl, htarget_ne, htarget, -, -, rfl⟩ := Header.fetched?_eq_some_iff.1 hfetched
    have htarget_newline : '\n' ∉ target := fun hc => hnewline (by simp [hc])
    have hurl_newline : '\n' ∉ trim rest' := fun hc =>
      hnewline (by simp [(Text.trim_isInfix rest').subset hc])
    have hright : Binding.Right target (some (String.ofList (trim rest'))) :=
      .fetched htarget_ne htarget (by simpa using Text.bare_trim rest')
    subst hb
    cases marked <;>
      exact ⟨by simpa using hne, by simpa using hname, by simpa [Binding.url?] using hright,
        by simp [Binding.rightText, Binding.url?, htarget_newline, hurl_newline]⟩
  · rename_i hfetched
    have hright' : Binding.Right (trim right) none :=
      .manual (Text.bare_trim right) (Header.fetched?_trim hright hfetched)
    have htarget_newline : '\n' ∉ trim right := fun hc => hnewline ((Text.trim_isInfix right).subset hc)
    subst hb
    exact ⟨by simpa using hne, by simpa using hname, by simpa [Binding.url?] using hright',
      by simpa [Binding.rightText, Binding.url?] using htarget_newline⟩

/-- A line that has the sides of a binding is neither a comment nor blank. -/
theorem Line.declares?_of_sides? (line : Line) {name right : List Char} {marked : Bool}
    (h : Header.sides? line.text.toList = some (marked, name, right)) :
    line.declares? = line.binding? := by
  obtain ⟨bl, rest, hline, hne, hname, -⟩ := Header.sides?_eq_some_iff.1 h
  obtain ⟨a, name, rfl⟩ := List.exists_cons_of_ne_nil hne
  have ha : Header.isNameChar a = true := hname a List.mem_cons_self
  obtain ⟨c, hc, hblank, hcomment⟩ :
      ∃ c, line.text.toList.head? = some c ∧ Text.isBlank c = false ∧ c ≠ '#' := by
    rw [hline]
    cases marked with
    | true => exact ⟨'!', rfl, by decide, by decide⟩
    | false =>
        refine ⟨a, rfl, Header.isBlank_of_isNameChar ha, ?_⟩
        rintro rfl
        exact absurd ha (by decide)
  have htrim : (trim line.text.toList).head? = some c := by
    rw [Text.head?_trim (by simpa [hc] using hblank), hc]
  have hempty : (trim line.text.toList).isEmpty = false := by
    rw [List.isEmpty_eq_false_iff]
    intro hnil
    rw [hnil] at htrim
    cases htrim
  rw [declares?, isComment, isBlank, htrim, hempty]
  simp [hcomment]

namespace Binding

theorem Legible.head?_rightText {b : Binding} (h : b.Legible) :
    ∀ c ∈ b.rightText.head?, isBlank c = false := by
  have hright := h.right
  rw [rightText]
  generalize b.url? = url at hright
  cases hright with
  | manual hbare => simpa using hbare.head
  | fetched hne htarget =>
      obtain ⟨c, target, hc⟩ := List.exists_cons_of_ne_nil hne
      rw [hc] at htarget
      simpa [hc] using Header.isBlank_of_isTargetChar (htarget c List.mem_cons_self)

theorem Right.read_manual {target : List Char} (h : Right target none) :
    Header.fetched? (Header.padded target) = none ∧ trim (Header.padded target) = target := by
  cases h with
  | manual hbare hnone =>
      rw [Header.padded]
      split
      · rename_i hempty
        rw [hempty]
        exact ⟨rfl, rfl⟩
      · exact ⟨hnone, hbare.trim_eq⟩

theorem Right.read_fetched {target : List Char} {url : String} (h : Right target (some url)) :
    Header.fetched? (Header.padded (target ++ (" << ".toList ++ url.toList)))
      = some (target, url.toList) := by
  cases h with
  | fetched hne htarget hbare =>
      rw [Header.padded, if_neg (by simp [hne])]
      refine Header.fetched?_eq_some_iff.2 ⟨[' '], ' ' :: url.toList, by simp, hne, htarget,
        Text.blank_space, by simp, ?_⟩
      rw [Text.trim_blank, hbare.trim_eq]

theorem Legible.sides?_text {b : Binding} (h : b.Legible) :
    Header.sides? b.text = some (b.isLazy, b.name.toList, Header.padded b.rightText) :=
  Header.sides?_eq_some_iff.2 ⟨[' '], ' ' :: b.rightText, b.text_eq, h.name_ne, h.name_chars,
    Text.blank_space, Header.operand?_blank h.head?_rightText⟩

/-- A legible binding is read back. -/
theorem Legible.binding?_text {b : Binding} (h : b.Legible) (number : Nat) :
    Line.binding? ⟨number, String.ofList b.text⟩ = some { b with line := number } := by
  rw [Line.binding?, String.toList_ofList, h.sides?_text, Option.map_some]
  have hright := h.right
  obtain ⟨name, target, origin, line⟩ := b
  cases origin with
  | manual =>
      obtain ⟨hfetched, htrim⟩ := hright.read_manual
      simp only [rightText, url?, Option.elim_none, List.append_nil, hfetched, htrim, String.ofList_toList]
  | eager url =>
      have hfetched := hright.read_fetched
      simp only [rightText, url?, Option.elim_some, hfetched, isLazy, Bool.false_eq_true, if_false,
        String.ofList_toList]
  | lazy template =>
      have hfetched := hright.read_fetched
      simp only [rightText, url?, Option.elim_some, hfetched, isLazy, if_true, String.ofList_toList]

theorem Legible.newline_text {b : Binding} (h : b.Legible) : '\n' ∉ b.text := by
  have hname : '\n' ∉ b.name.toList := fun hc => absurd (h.name_chars _ hc) (by decide)
  have hmark : '\n' ∉ Header.markText b.isLazy := by
    cases b.isLazy <;> decide
  rw [text_eq]
  simp [hname, hmark, h.newline]

/-- The last character of a legible binding is no carriage return, which a line would lose. -/
theorem Legible.getLast?_text {b : Binding} (h : b.Legible) : b.text.getLast? ≠ some '\r' := by
  have hbare {s : List Char} (hs : Bare s) : (' ' :: s).getLast? ≠ some '\r' := by
    cases s with
    | nil => decide
    | cons c s =>
        rw [List.getLast?_cons_cons]
        intro hlast
        exact absurd (hs.last _ hlast) (by decide)
  have hlast : (' ' :: b.rightText).getLast? ≠ some '\r' := by
    have hright := h.right
    rw [rightText]
    generalize b.url? = url at hright
    cases hright with
    | manual hbare' => simpa using hbare hbare'
    | @fetched url _ _ hurl =>
        have heq : ' ' :: (b.target.toList ++ (" << ".toList ++ url.toList))
            = (' ' :: b.target.toList ++ [' ', '<', '<']) ++ ' ' :: url.toList := by simp
        rw [Option.elim_some, heq, List.getLast?_append_of_ne_nil _ (List.cons_ne_nil _ _)]
        exact hbare hurl
  have heq : b.text
      = (Header.markText b.isLazy ++ (b.name.toList ++ [' ', '='])) ++ ' ' :: b.rightText := by
    simp [text_eq]
  rw [heq, List.getLast?_append_of_ne_nil _ (List.cons_ne_nil _ _)]
  exact hlast

theorem Legible.declares?_text {b : Binding} (h : b.Legible) (number : Nat) :
    Line.declares? ⟨number, String.ofList b.text⟩ = some { b with line := number } := by
  rw [← h.binding?_text number]
  apply Line.declares?_of_sides? ⟨number, String.ofList b.text⟩
  rw [String.toList_ofList]
  exact h.sides?_text

end Binding

end StaticPage
