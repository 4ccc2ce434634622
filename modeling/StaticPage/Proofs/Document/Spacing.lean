import StaticPage.Proofs.Document.Reading

/-!
# The blanks of a binding line

Blanks around the signs of a binding line say nothing: whatever blanks are chosen, the name, the target and the
URL are read as they were written. Signs inside them do no harm either. The name ends at the first sign that is
no character of a name, a target that a URL follows has neither a blank nor the first sign of `<<`, and the URL
is all that is left. A right side that has not this form is a target as a whole.
-/

namespace StaticPage

open Text (isBlank trim Bare)

/-! ### Texts of one line -/

namespace Text

variable {s : List Char}

/-- Blanks without a line break, or nothing. -/
def Spacing (s : List Char) : Prop :=
  ∀ c ∈ s, isBlank c = true ∧ c ≠ '\n'

instance : Decidable (Spacing s) :=
  decidable_of_iff (s.all fun c => isBlank c && c != '\n') (by simp [Spacing])

theorem Spacing.blank (h : Spacing s) : ∀ c ∈ s, isBlank c = true :=
  fun c hc => (h c hc).1

theorem Spacing.not_mem (h : Spacing s) : '\n' ∉ s :=
  fun hc => (h _ hc).2 rfl

theorem trim_spaced (hs : Bare s) {l r : List Char} (hl : ∀ c ∈ l, isBlank c = true)
    (hr : ∀ c ∈ r, isBlank c = true) : trim (l ++ (s ++ r)) = s := by
  have hend : trimEnd (s ++ r) = s := by
    have hback : (s ++ r).reverse.dropWhile isBlank = s.reverse.dropWhile isBlank := by
      rw [List.reverse_append]
      exact List.dropWhile_append_of_pos fun c hc => hr c (List.mem_reverse.1 hc)
    rw [trimEnd, hback]
    exact trimEnd_of_last hs.last
  rw [trim_append hl, trim]
  cases s with
  | nil =>
      rw [List.nil_append, ← List.append_nil r, trimStart_append hr, trimStart_nil, trimEnd_nil]
  | cons a s =>
      rw [trimStart_of_head (s := a :: s ++ r) hs.head]
      exact hend

theorem lines_of_not_mem (hne : s ≠ []) (h : '\n' ∉ s) : lines s = [s] := by
  rw [lines, List.splitOn_eq_singleton h]
  simpa using hne

end Text

theorem numberedLines_of_not_mem {source : String} (hne : source.toList ≠ [])
    (h : '\n' ∉ source.toList) : numberedLines source = [⟨1, source⟩] := by
  rw [numberedLines, Text.lines_of_not_mem hne h, List.zipIdx_singleton, List.map_singleton]
  simp

theorem Document.parse_of_sides? {source : String} {b : Binding} {sides : Bool × List Char × List Char}
    (h : '\n' ∉ source.toList) (hsides : Header.sides? source.toList = some sides)
    (hb : Line.binding? ⟨1, source⟩ = some b) : parse source = .ok ⟨[b], []⟩ := by
  have hne : source.toList ≠ [] := by
    intro hnil
    rw [hnil] at hsides
    cases hsides
  have hdeclares : Line.declares? ⟨1, source⟩ = some b := by
    rw [Line.declares?_of_sides? ⟨1, source⟩ hsides, hb]
  have hbody : Line.inBody ⟨1, source⟩ = false := by
    rw [Line.inBody, hb, Option.isNone_some, Bool.and_false]
  refine parse_eq_ok_iff.2 ⟨?_, List.nodup_singleton _, ?_⟩
  · rw [numberedLines_of_not_mem hne h, List.filterMap_cons_some hdeclares, List.filterMap_nil]
  · rw [numberedLines_of_not_mem hne h, List.filter_cons_of_neg (by simp [hbody]), List.filter_nil]
    exact .nil

namespace Header

variable {s bl name right : List Char} {marked : Bool}

/-! ### Right sides -/

/-- A text is a target, the sign `<<` and something after it, with or without blanks around the sign. -/
def Fetches (s : List Char) : Prop :=
  ∃ target bl bl' rest, s = target ++ (bl ++ '<' :: '<' :: (bl' ++ rest)) ∧
    target ≠ [] ∧ (∀ c ∈ target, c ≠ '<' ∧ isBlank c = false) ∧ (∀ c ∈ bl, isBlank c = true) ∧
      (∀ c ∈ bl', isBlank c = true) ∧ rest ≠ [] ∧ '\n' ∉ rest

theorem isTargetChar_iff {c : Char} : isTargetChar c = true ↔ c ≠ '<' ∧ isBlank c = false := by
  simp [isTargetChar]

theorem fetched?_eq_none_iff (h : '\n' ∉ s) : fetched? s = none ↔ ¬ Fetches s := by
  rw [← not_iff_not, not_not, ← Ne, Option.ne_none_iff_exists']
  constructor
  · rintro ⟨⟨target, url⟩, hfetched⟩
    obtain ⟨bl, rest, rfl, hne, htarget, hbl, hrest, -⟩ := fetched?_eq_some_iff.1 hfetched
    refine ⟨target, bl, [], rest, rfl, hne, fun c hc => isTargetChar_iff.1 (htarget c hc), hbl, by simp,
      hrest, ?_⟩
    intro hc
    apply h
    simp [hc]
  · rintro ⟨target, bl, bl', rest, rfl, hne, htarget, hbl, -, hrest, -⟩
    exact ⟨(target, trim (bl' ++ rest)), fetched?_eq_some_iff.2 ⟨bl, bl' ++ rest, rfl, hne,
      fun c hc => isTargetChar_iff.2 (htarget c hc), hbl, by simp [hrest], rfl⟩⟩

/-! ### Lines -/

theorem operand?_spaced (hbl : ∀ c ∈ bl, isBlank c = true) (hne : s ≠ [])
    (hs : ∀ c ∈ s.head?, isBlank c = false) : operand? (bl ++ s) = some s := by
  rw [operand?, Text.trimStart_append hbl, Text.trimStart_of_head hs]
  exact if_neg (by simpa using hne)

end Header

/-! ### Binding lines -/

namespace Document

/-- A binding line with `s₁` and `s₂` around its equals sign. -/
def spacedLine (marked : Bool) (name s₁ s₂ right : String) : String :=
  (if marked then "!" else "") ++ name ++ s₁ ++ "=" ++ s₂ ++ right

/-- A right side with `s₃` and `s₄` around the sign in front of the URL. -/
def spacedFetch (target s₃ s₄ url : String) : String :=
  target ++ s₃ ++ "<<" ++ s₄ ++ url

/-- One or more ASCII letters, digits or underscores. -/
structure IsName (name : String) : Prop where
  ne_nil : name.toList ≠ []
  chars : ∀ c ∈ name.toList, c.isAlphanum ∨ c = '_'

/-- A text that can end a line: it has no line break, and no blanks at its ends. -/
structure IsOperand (s : String) : Prop where
  ne_nil : s.toList ≠ []
  bare : Bare s.toList
  newline : '\n' ∉ s.toList

variable {marked : Bool} {name s₁ s₂ right : String}

theorem IsName.isNameChar (h : IsName name) : ∀ c ∈ name.toList, Header.isNameChar c = true := by
  intro c hc
  simpa [Header.isNameChar] using h.chars c hc

theorem toList_spacedLine : (spacedLine marked name s₁ s₂ right).toList
    = Header.markText marked ++ (name.toList ++ (s₁.toList ++ '=' :: (s₂.toList ++ right.toList))) := by
  cases marked <;> simp [spacedLine, Header.markText]

theorem newline_spacedLine (hname : IsName name) (h₁ : Text.Spacing s₁.toList)
    (h₂ : Text.Spacing s₂.toList) (hright : '\n' ∉ right.toList) :
    '\n' ∉ (spacedLine marked name s₁ s₂ right).toList := by
  have hmark : '\n' ∉ Header.markText marked := by
    cases marked <;> decide
  have hchars : '\n' ∉ name.toList := fun hc => absurd (hname.isNameChar _ hc) (by decide)
  rw [toList_spacedLine]
  simp [hmark, hchars, h₁.not_mem, h₂.not_mem, hright]

theorem sides?_spacedLine (hname : IsName name) (h₁ : Text.Spacing s₁.toList)
    (h₂ : Text.Spacing s₂.toList) (hne : right.toList ≠ [])
    (hhead : ∀ c ∈ right.toList.head?, isBlank c = false) :
    Header.sides? (spacedLine marked name s₁ s₂ right).toList
      = some (marked, name.toList, right.toList) := by
  rw [toList_spacedLine]
  exact Header.sides?_eq_some_iff.2 ⟨s₁.toList, s₂.toList ++ right.toList, rfl, hname.ne_nil,
    hname.isNameChar, h₁.blank, Header.operand?_spaced h₂.blank hne hhead⟩

theorem parse_spacedFetch {target s₃ s₄ url s₅ : String} (hname : IsName name) (h₁ : Text.Spacing s₁.toList)
    (h₂ : Text.Spacing s₂.toList) (hne : target.toList ≠ [])
    (htarget : ∀ c ∈ target.toList, c ≠ '<' ∧ isBlank c = false) (h₃ : Text.Spacing s₃.toList)
    (h₄ : Text.Spacing s₄.toList) (hurl : IsOperand url) (h₅ : Text.Spacing s₅.toList) :
    parse (spacedLine marked name s₁ s₂ (spacedFetch target s₃ s₄ url ++ s₅))
      = .ok ⟨[⟨name, target, if marked then .lazy url else .eager url, 1⟩], []⟩ := by
  obtain ⟨a, rest, ha⟩ := List.exists_cons_of_ne_nil hne
  have hright : (spacedFetch target s₃ s₄ url ++ s₅).toList
      = target.toList ++ (s₃.toList ++ '<' :: '<' :: (s₄.toList ++ (url.toList ++ s₅.toList))) := by
    simp [spacedFetch]
  have hsides := @sides?_spacedLine marked _ _ _ (spacedFetch target s₃ s₄ url ++ s₅) hname h₁ h₂
    (by simp [hright, hne]) (by simpa [hright, ha] using (htarget a (by simp [ha])).2)
  have hnewline : '\n' ∉ (spacedFetch target s₃ s₄ url ++ s₅).toList := by
    have htarget' : '\n' ∉ target.toList := fun hc => absurd (htarget _ hc).2 (by decide)
    rw [hright]
    simp [htarget', h₃.not_mem, h₄.not_mem, hurl.newline, h₅.not_mem]
  have hfetched : Header.fetched? (spacedFetch target s₃ s₄ url ++ s₅).toList
      = some (target.toList, url.toList) := by
    rw [hright]
    refine Header.fetched?_eq_some_iff.2 ⟨s₃.toList, _, rfl, hne,
      fun c hc => Header.isTargetChar_iff.2 (htarget c hc), h₃.blank, by simp [hurl.ne_nil], ?_⟩
    exact (Text.trim_spaced hurl.bare h₄.blank h₅.blank).symm
  apply parse_of_sides? (newline_spacedLine hname h₁ h₂ hnewline) hsides
  rw [Line.binding?, hsides, Option.map_some]
  simp only [hfetched, String.ofList_toList]

theorem parse_spacedText {text s₅ : String} (hname : IsName name) (h₁ : Text.Spacing s₁.toList)
    (h₂ : Text.Spacing s₂.toList) (htext : IsOperand text) (h₅ : Text.Spacing s₅.toList)
    (hnone : ¬ Header.Fetches (text ++ s₅).toList) :
    parse (spacedLine marked name s₁ s₂ (text ++ s₅)) = .ok ⟨[⟨name, text, .manual, 1⟩], []⟩ := by
  have hsides := @sides?_spacedLine marked _ _ _ (text ++ s₅) hname h₁ h₂ (by simp [htext.ne_nil])
    (by
      rw [String.toList_append, List.head?_append_of_ne_nil _ htext.ne_nil]
      exact htext.bare.head)
  have hnewline : '\n' ∉ (text ++ s₅).toList := by
    simp [htext.newline, h₅.not_mem]
  have htrim : trim (text ++ s₅).toList = text.toList := by
    rw [String.toList_append]
    exact Text.trim_spaced (l := []) htext.bare (by simp) h₅.blank
  have hfetched := (Header.fetched?_eq_none_iff hnewline).2 hnone
  apply parse_of_sides? (newline_spacedLine hname h₁ h₂ hnewline) hsides
  rw [Line.binding?, hsides, Option.map_some]
  simp only [hfetched, htrim, String.ofList_toList]

/-- **A binding line is read as what it was written for, whatever blanks it has.** With a URL it makes an eager
binding, or a lazy one if it is marked. Without one it makes a manual binding. -/
theorem parse_spacedLine {s₅ : String} (hname : IsName name) (h₁ : Text.Spacing s₁.toList)
    (h₂ : Text.Spacing s₂.toList) (h₅ : Text.Spacing s₅.toList) :
    (∀ target s₃ s₄ url : String, target.toList ≠ [] →
      (∀ c ∈ target.toList, c ≠ '<' ∧ isBlank c = false) → Text.Spacing s₃.toList →
      Text.Spacing s₄.toList → IsOperand url →
        parse (spacedLine marked name s₁ s₂ (spacedFetch target s₃ s₄ url ++ s₅))
          = .ok ⟨[⟨name, target, if marked then .lazy url else .eager url, 1⟩], []⟩) ∧
    ∀ text : String, IsOperand text → ¬ Header.Fetches (text ++ s₅).toList →
      parse (spacedLine marked name s₁ s₂ (text ++ s₅)) = .ok ⟨[⟨name, text, .manual, 1⟩], []⟩ := by
  constructor
  · intro target s₃ s₄ url hne htarget h₃ h₄ hurl
    exact parse_spacedFetch hname h₁ h₂ hne htarget h₃ h₄ hurl h₅
  · intro text htext hnone
    exact parse_spacedText hname h₁ h₂ htext h₅ hnone

/-- The signs may stand in a target, in a URL and in a right side without one. -/
theorem parse_spacedLine_signs :
    parse "!l_1\t=a=b\u00a0<<<http://x/ {p}\r" = .ok ⟨[⟨"l_1", "a=b", .lazy "<http://x/ {p}", 1⟩], []⟩ ∧
      parse "!l_1\t=a b<<c\r" = .ok ⟨[⟨"l_1", "a b<<c", .manual, 1⟩], []⟩ := by
  have hname : IsName "l_1" := ⟨by decide, by simp⟩
  have h₁ : Text.Spacing "\t".toList := by decide
  have h₂ : Text.Spacing "".toList := by decide
  have h₃ : Text.Spacing "\u00a0".toList := by decide
  have h₅ : Text.Spacing "\r".toList := by decide
  have hurl : IsOperand "<http://x/ {p}" := ⟨by decide, ⟨by simp [isBlank], by simp [isBlank]⟩, by decide⟩
  have htext : IsOperand "a b<<c" := ⟨by decide, ⟨by simp [isBlank], by simp [isBlank]⟩, by decide⟩
  have hnone : ¬ Header.Fetches ("a b<<c" ++ "\r").toList :=
    (Header.fetched?_eq_none_iff (by decide)).1 (by with_unfolding_all rfl)
  have h := @parse_spacedLine true "l_1" "\t" "" "\r" hname h₁ h₂ h₅
  exact ⟨h.1 "a=b" "\u00a0" "" "<http://x/ {p}" (by decide) (by simp [isBlank]) h₃ h₂ hurl,
    h.2 "a b<<c" htext hnone⟩

end Document

end StaticPage
