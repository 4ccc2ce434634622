import StaticPage.Html.Blocks
import StaticPage.Proofs.Text.Cutting

/-!
# Tags in a text

A tag of a text is a stretch from a `<` to the next `>`. After a `<` everything belongs to the tag until it
is closed, another `<` as well, so that the tags of a text are the longest stretches of this kind, and none
of them overlaps another one. A text that ends with a `>` leaves no tag open, so what follows it has its own
tags, `Closed.tags_append`. Escaped text has none.
-/

namespace StaticPage.Html

/-- The tags of a text that begins in a tag, or between tags. -/
def tagsFrom : (inner : Option (List Char)) → List Char → List (List Char)
  | _, [] => []
  | none, c :: s => if c = '<' then tagsFrom (some ['<']) s else tagsFrom none s
  | some inner, c :: s =>
    if c = '>' then (inner ++ ['>']) :: tagsFrom none s else tagsFrom (some (inner ++ [c])) s

def tags (s : List Char) : List (List Char) :=
  tagsFrom none s

variable {s text inner : List Char} {start : Option (List Char)}

theorem tagsFrom_none_append (htext : '<' ∉ text) (s : List Char) :
    tagsFrom none (text ++ s) = tagsFrom none s := by
  induction text with
  | nil => rfl
  | cons c text ih =>
      rw [List.mem_cons, not_or] at htext
      rw [List.cons_append, tagsFrom, if_neg (Ne.symm htext.1)]
      exact ih htext.2

theorem tagsFrom_append (h : s.getLast? = some '>') (start : Option (List Char)) (r : List Char) :
    tagsFrom start (s ++ r) = tagsFrom start s ++ tags r := by
  induction s generalizing start with
  | nil => cases h
  | cons c s ih =>
      have hrest (next : Option (List Char)) (hs : s ≠ []) :
          tagsFrom next (s ++ r) = tagsFrom next s ++ tags r := by
        apply ih
        rwa [List.getLast?_cons_of_ne_nil hs] at h
      by_cases hs : s = []
      · subst hs
        obtain rfl : c = '>' := by simpa using h
        cases start <;> rfl
      · cases start with
        | none =>
            rw [List.cons_append, tagsFrom, tagsFrom]
            split
            · exact hrest _ hs
            · exact hrest _ hs
        | some inner =>
            rw [List.cons_append, tagsFrom, tagsFrom]
            split
            · rw [hrest _ hs, List.cons_append]
            · exact hrest _ hs

/-- A text that leaves no tag open since it ends with a `>`, if with anything. -/
def Closed (s : List Char) : Prop :=
  ∀ c ∈ s.getLast?, c = '>'

theorem closed_of_getLast? (h : s.getLast? = some '>') : Closed s := by
  intro c hc
  rw [h] at hc
  exact (Option.some.inj hc).symm

theorem Closed.append (hs : Closed s) {t : List Char} (ht : Closed t) : Closed (s ++ t) := by
  intro c hc
  rw [List.getLast?_append, Option.mem_def, Option.or_eq_some_iff] at hc
  rcases hc with hc | ⟨-, hc⟩
  · exact ht c hc
  · exact hs c hc

theorem Closed.tags_append (h : Closed s) (r : List Char) : tags (s ++ r) = tags s ++ tags r := by
  cases hs : s.getLast? with
  | none =>
      rw [List.getLast?_eq_none_iff] at hs
      rw [hs]
      rfl
  | some c =>
      obtain rfl := h c hs
      exact tagsFrom_append hs none r

/-! ### Escaped text -/

def escapes : List (List Char) :=
  ["&amp;".toList, "&lt;".toList, "&gt;".toList, "&quot;".toList]

theorem escapeChar_cases (c : Char) : escapeChar c ∈ escapes ∨
    escapeChar c = [c] ∧ c ≠ '&' ∧ c ≠ '<' ∧ c ≠ '>' ∧ c ≠ '"' := by
  unfold escapeChar
  split
  · exact .inl (by decide)
  · split
    · exact .inl (by decide)
    · split
      · exact .inl (by decide)
      · split
        · exact .inl (by decide)
        · rename_i hamp hlt hgt hquot
          exact .inr ⟨rfl, hamp, hlt, hgt, hquot⟩

/-- Escaped text has no character that could begin or end a tag or an attribute. -/
theorem not_special_of_mem_escapeText {c : Char} (h : c ∈ escapeText s) : c ≠ '<' ∧ c ≠ '>' ∧ c ≠ '"' := by
  obtain ⟨a, -, hc⟩ := List.mem_flatMap.1 h
  rcases escapeChar_cases a with hescape | ⟨heq, -, hplain⟩
  · have hescapes : ∀ e ∈ escapes, ∀ c ∈ e, c ≠ '<' ∧ c ≠ '>' ∧ c ≠ '"' := by simp [escapes]
    exact hescapes _ hescape c hc
  · rw [heq, List.mem_singleton] at hc
    exact hc ▸ hplain

theorem lt_not_mem_escapeText (s : List Char) : '<' ∉ escapeText s :=
  fun hmem => (not_special_of_mem_escapeText hmem).1 rfl

/-- Every ampersand in escaped text begins what a special character is written as. -/
theorem exists_escape_of_escapeText {front back : List Char} (h : escapeText s = front ++ '&' :: back) :
    ∃ e ∈ escapes, e <+: '&' :: back := by
  induction s generalizing front with
  | nil =>
      rw [escapeText_nil] at h
      exact absurd h.symm (by simp)
  | cons a s ih =>
      rw [escapeText_cons] at h
      -- The ampersand is in what the first character is written as, or behind it.
      rcases List.append_eq_append_iff.1 h with ⟨more, hfront, hrest⟩ | ⟨more, ha, hback⟩
      · exact ih hrest
      · cases more with
        | nil =>
            have hnext : escapeText s = [] ++ '&' :: back := hback.symm
            exact ih hnext
        | cons c more =>
            obtain ⟨rfl, hback⟩ := List.cons.inj hback
            rcases escapeChar_cases a with hescape | ⟨heq, hamp, -⟩
            · have hfirst : ∀ e ∈ escapes, ∀ f m : List Char, e = f ++ '&' :: m → f = [] := by
                intro e he f m hfm
                cases f with
                | nil => rfl
                | cons b f =>
                    have htail : '&' ∈ e.tail := by rw [hfm]; simp
                    have hescapes : ∀ e ∈ escapes, '&' ∉ e.tail := by decide
                    exact absurd htail (hescapes e he)
              refine ⟨escapeChar a, hescape, ?_⟩
              obtain rfl := hfirst _ hescape front more ha
              rw [ha, hback]
              exact ⟨_, rfl⟩
            · rw [heq] at ha
              have hmem : '&' ∈ [a] := by rw [ha]; simp
              exact absurd (List.mem_singleton.1 hmem).symm hamp

/-- The first character of a text that escaped text stands for, and what is left of it. -/
def unescapeFirst : List Char → Option (Char × List Char)
  | '&' :: 'a' :: 'm' :: 'p' :: ';' :: rest => some ('&', rest)
  | '&' :: 'l' :: 't' :: ';' :: rest => some ('<', rest)
  | '&' :: 'g' :: 't' :: ';' :: rest => some ('>', rest)
  | '&' :: 'q' :: 'u' :: 'o' :: 't' :: ';' :: rest => some ('"', rest)
  | c :: rest => some (c, rest)
  | [] => none

theorem unescapeFirst_escapeChar (c : Char) (rest : List Char) :
    unescapeFirst (escapeChar c ++ rest) = some (c, rest) := by
  unfold escapeChar
  split_ifs with hamp hlt hgt hquot
  · rw [hamp]; rfl
  · rw [hlt]; rfl
  · rw [hgt]; rfl
  · rw [hquot]; rfl
  · rw [List.singleton_append, unescapeFirst]
    · intro r h; exact absurd h hamp
    · intro r h; exact absurd h hamp
    · intro r h; exact absurd h hamp
    · intro r h; exact absurd h hamp

theorem escapeText_injective {s' : List Char} (h : escapeText s = escapeText s') : s = s' := by
  have hne (c : Char) (t : List Char) : escapeText (c :: t) ≠ [] := by
    rw [escapeText_cons]
    unfold escapeChar
    split_ifs <;> simp
  induction s generalizing s' with
  | nil =>
      cases s' with
      | nil => rfl
      | cons c s' => exact absurd h.symm (hne c s')
  | cons a s ih =>
      cases s' with
      | nil => exact absurd h (hne a s)
      | cons b s' =>
          rw [escapeText_cons, escapeText_cons] at h
          have hfirst := congrArg unescapeFirst h
          rw [unescapeFirst_escapeChar, unescapeFirst_escapeChar] at hfirst
          obtain ⟨rfl, hrest⟩ := Prod.mk.inj (Option.some.inj hfirst)
          rw [ih hrest]

end StaticPage.Html
