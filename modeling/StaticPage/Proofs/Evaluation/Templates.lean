import StaticPage.Proofs.Text.Cutting
import StaticPage.Template

/-!
# Templates and their pieces

The pieces of a template say all that its text says. Written one after the other, with braces around what each
placeholder asks for, they are the text again, less the blanks that stand just inside the braces of a
placeholder: `trims_partsOf`. And nothing is left unread: a literal piece holds no brace pair with something in
it, since the reader tries each opening brace before it goes on, which is the invariant `Clear` of its loop.
Expanding puts texts in the places of the placeholders and changes nothing else.
-/

namespace StaticPage

open Text (isBlank trim Bare)

namespace Placeholder

def braced (p : Placeholder) : String :=
  "\x7b" ++ p.expression ++ "\x7d"

theorem expression_ofText (inner : List Char) : (ofText inner).expression.toList = trim inner := by
  rw [ofText]
  cases hcut : Text.cut? '.' (trim inner) with
  | none => exact String.toList_ofList
  | some sides =>
      rw [Text.eq_of_cut? hcut]
      simp [expression]

end Placeholder

namespace Template

/-- Some pieces one after the other, with a text in the place of each placeholder. -/
def fill (f : Placeholder → String) : List TemplatePart → String
  | [] => ""
  | .literal text :: rest => text ++ fill f rest
  | .hole p :: rest => f p ++ fill f rest

/-- `tight` is `raw` without the blanks just inside the braces of the placeholders among some pieces. -/
inductive Trims : List TemplatePart → (raw tight : List Char) → Prop where
  | nil : Trims [] [] []
  | literal (text : String) {rest : List TemplatePart} {raw tight : List Char} (h : Trims rest raw tight) :
      Trims (.literal text :: rest) (text.toList ++ raw) (text.toList ++ tight)
  | hole (p : Placeholder) {l r : List Char} (hl : ∀ c ∈ l, isBlank c = true)
      (hr : ∀ c ∈ r, isBlank c = true) (hbare : Bare p.expression.toList)
      {rest : List TemplatePart} {raw tight : List Char} (h : Trims rest raw tight) :
      Trims (.hole p :: rest) ('\x7b' :: (l ++ p.expression.toList ++ r) ++ '\x7d' :: raw)
        ('\x7b' :: p.expression.toList ++ '\x7d' :: tight)

/-- A text holds an opening brace, something that is no closing brace, and a closing brace. -/
def HasHole (s : List Char) : Prop :=
  ∃ before inner after, s = before ++ '\x7b' :: (inner ++ '\x7d' :: after) ∧ inner ≠ [] ∧ '\x7d' ∉ inner

variable {s text raw tight : List Char} {rest : List TemplatePart}

/-! ### The text of the pieces -/

theorem trims_literal (text : List Char) (h : Trims rest raw tight) :
    Trims (literal text rest) (text.reverse ++ raw) (text.reverse ++ tight) := by
  rw [literal]
  split
  · rename_i hempty
    rw [List.isEmpty_iff.1 hempty]
    exact h
  · simpa using Trims.literal (String.ofList text.reverse) h

theorem toList_fill_literal (f : Placeholder → String) (text : List Char) (parts : List TemplatePart) :
    (fill f (literal text parts)).toList = text.reverse ++ (fill f parts).toList := by
  rw [literal]
  split
  · rename_i hempty
    rw [List.isEmpty_iff.1 hempty]
    rfl
  · simp [fill]

theorem toList_fill_hole (p : Placeholder) (parts : List TemplatePart) :
    (fill Placeholder.braced (.hole p :: parts)).toList
      = '\x7b' :: p.expression.toList ++ '\x7d' :: (fill Placeholder.braced parts).toList := by
  simp [fill, Placeholder.braced]

/-- The pieces of a text are the text, less the blanks just inside braces. -/
theorem trims_partsOf (text s : List Char) :
    Trims (partsOf text s) (text.reverse ++ s) (fill Placeholder.braced (partsOf text s)).toList := by
  fun_induction partsOf text s with
  | case1 text =>
      rw [toList_fill_literal]
      exact trims_literal text .nil
  | case2 text s inner rest hcut hempty ih =>
      rw [List.isEmpty_iff.1 hempty] at hcut
      simpa using ih
  | case3 text s inner rest hcut hempty ih =>
      obtain ⟨l, r, hinner, hl, hr⟩ := Text.exists_trim inner
      have hbare : Bare (Placeholder.ofText inner).expression.toList := by
        rw [Placeholder.expression_ofText]
        exact Text.bare_trim inner
      have hhole := Trims.hole (.ofText inner) hl hr hbare ih
      rw [Placeholder.expression_ofText, ← hinner, ← Placeholder.expression_ofText] at hhole
      rw [toList_fill_literal, toList_fill_hole, Text.eq_of_cut? hcut]
      exact trims_literal text hhole
  | case4 text s hcut ih => simpa using ih
  | case5 text c s hc ih => simpa using ih

/-! ### Nothing unread in the literals -/

/-- No brace pair with something in it begins in what has been read. -/
def Clear (text s : List Char) : Prop :=
  ∀ before inner after, text.reverse ++ s = before ++ '\x7b' :: (inner ++ '\x7d' :: after) → inner ≠ [] →
    '\x7d' ∉ inner → text.length ≤ before.length

theorem Clear.not_hasHole (h : Clear text s) : ¬ HasHole text.reverse := by
  rintro ⟨before, inner, after, htext, hne, hinner⟩
  have hle := h before inner (after ++ s) (by simp [htext]) hne hinner
  have hlength := congrArg List.length htext
  simp only [List.length_reverse, List.length_append, List.length_cons] at hlength
  omega

theorem clear_nil (s : List Char) : Clear [] s :=
  fun before _ _ _ _ _ => Nat.zero_le before.length

theorem Clear.cons {c : Char} (h : Clear text (c :: s))
    (hc : ∀ inner after, c = '\x7b' → s = inner ++ '\x7d' :: after → '\x7d' ∉ inner → inner = []) :
    Clear (c :: text) s := by
  intro before inner after heq hne hinner
  have hsplit : text.reverse ++ c :: s = before ++ '\x7b' :: (inner ++ '\x7d' :: after) := by
    simpa using heq
  have hle := h before inner after hsplit hne hinner
  have hne' : text.length ≠ before.length := by
    intro hlength
    obtain ⟨-, hrest⟩ := List.append_inj hsplit (by simpa using hlength)
    obtain ⟨rfl, hs⟩ := List.cons.inj hrest
    exact hne (hc inner after rfl hs hinner)
  simp only [List.length_cons]
  omega

theorem not_hasHole_of_literal {t : String} (h : ¬ HasHole text.reverse)
    (hrest : .literal t ∈ rest → ¬ HasHole t.toList) (ht : .literal t ∈ literal text rest) :
    ¬ HasHole t.toList := by
  rw [literal] at ht
  split at ht
  · exact hrest ht
  · rcases List.mem_cons.1 ht with heq | ht
    · cases heq
      rwa [String.toList_ofList]
    · exact hrest ht

theorem Clear.not_hasHole_partsOf (h : Clear text s) {t : String} (ht : .literal t ∈ partsOf text s) :
    ¬ HasHole t.toList := by
  fun_induction partsOf text s with
  | case1 text => exact not_hasHole_of_literal h.not_hasHole (by simp) ht
  | case2 text s inner rest hcut hempty ih =>
      refine ih (h.cons fun inner' after _ hs hinner' => ?_) ht
      rw [Text.cut?_eq_some_iff.2 ⟨hs, hinner'⟩] at hcut
      cases hcut
      exact List.isEmpty_iff.1 hempty
  | case3 text s inner rest hcut hempty ih =>
      refine not_hasHole_of_literal h.not_hasHole (fun ht => ?_) ht
      rcases List.mem_cons.1 ht with heq | ht
      · cases heq
      · exact ih (clear_nil rest) ht
  | case4 text s hcut ih =>
      refine ih (h.cons fun inner' after _ hs hinner' => ?_) ht
      rw [Text.cut?_eq_some_iff.2 ⟨hs, hinner'⟩] at hcut
      cases hcut
  | case5 text c s hc ih => exact ih (h.cons fun _ _ heq => absurd heq hc) ht

/-! ### Expansion -/

theorem expandParts_fill (f : Placeholder → String) (parts : List TemplatePart) :
    expandParts (fun p => some (f p)) parts = some (fill f parts) := by
  induction parts with
  | nil => rfl
  | cons part rest ih =>
      cases part with
      | literal text => rw [expandParts, ih, fill, Option.map_some]
      | hole p => rw [expandParts, ih, fill, Option.bind_some, Option.map_some]

/-- **A template is read without loss.** Its pieces are its text, less the blanks just inside the braces of its
placeholders, no placeholder is left in a literal piece, and expanding replaces the placeholders alone. -/
theorem parse_lossless (raw : String) :
    Trims (parse raw).parts raw.toList (fill Placeholder.braced (parse raw).parts).toList ∧
      (∀ text, .literal text ∈ (parse raw).parts → ¬ HasHole text.toList) ∧
      ∀ f : Placeholder → String,
        ((parse raw).expand fun p => some (f p)).map Prod.fst = some (fill f (parse raw).parts) := by
  refine ⟨trims_partsOf [] raw.toList, fun text htext => (clear_nil _).not_hasHole_partsOf htext, fun f => ?_⟩
  rw [expand, expandParts_fill]
  rfl

/-- Of braces one after the other, the first one that has something behind it and a closing one begins a
placeholder; braces with nothing between them and a brace that is not closed are left as they are. -/
example : (parse "a\x7b\x7d/\x7b\x7b b.c.d \x7d\x7d\x7be").parts =
    [.literal "a\x7b\x7d/", .hole ⟨"\x7b b", some "c.d"⟩, .literal "\x7d\x7be"] := by
  with_unfolding_all rfl

end Template

end StaticPage
