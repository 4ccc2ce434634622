import StaticPage.Proofs.Text.Cutting
import StaticPage.Ranking.Key

/-!
# Sort keys read back

A list of sort keys that was read is written key by key, and reading it again gives the same keys. There
is one exception, and it is exact: a caret in front of the first path is taken for the caret that makes
the whole list ascending, so that the path comes back without it, or not at all.
-/

namespace StaticPage.SortKey

open Text (isBlank trim trimStart Bare)

variable {k : SortKey} {keys : List SortKey} {spec part path : List Char} {allAscending : Bool}

/-- A key that a part of a list can spell. -/
structure Legible (k : SortKey) : Prop where
  path_ne : k.path.toList ≠ []
  bare : Bare k.path.toList
  comma : ',' ∉ k.path.toList
  /-- A path with a caret at its end is one of an ascending key. -/
  caret : k.path.toList.getLast? = some '^' → k.ascending = true

/-! ### One key -/

theorem ofPart?_trim (allAscending : Bool) (part : List Char) :
    ofPart? allAscending (trim part) = ofPart? allAscending part := by
  rw [ofPart?, ofPart?, Text.trim_trim]

theorem ofPart?_caret (allAscending : Bool) (path : List Char) :
    ofPart? allAscending (path ++ ['^'])
      = if (trim path).isEmpty then none else some ⟨String.ofList (trim path), true⟩ := by
  have htrim : trim (path ++ ['^']) = trimStart path ++ ['^'] := Text.trim_concat (by decide) path
  have hsuffix : Text.dropSuffix? ['^'] (trimStart path ++ ['^']) = some (trimStart path) :=
    Text.dropSuffix?_eq_some_iff.2 rfl
  have hpath : trim (trimStart path) = trim path := by
    rw [trim, Text.trimStart_of_head (Text.head?_trimStart path), ← trim]
  rw [ofPart?, htrim, hsuffix]
  simp only [hpath, Bool.or_true]

theorem ofPart?_plain (hcaret : (trim part).getLast? ≠ some '^') :
    ofPart? allAscending part
      = if (trim part).isEmpty then none else some ⟨String.ofList (trim part), allAscending⟩ := by
  have hsuffix : Text.dropSuffix? ['^'] (trim part) = none := by
    rw [Text.dropSuffix?_eq_none_iff]
    rintro ⟨l, hl⟩
    exact hcaret (by rw [← hl, List.getLast?_concat])
  rw [ofPart?, hsuffix]
  simp only [Bool.or_false]

theorem part_cases (part : List Char) :
    (∃ path, trim part = path ++ ['^']) ∨ (trim part).getLast? ≠ some '^' := by
  by_cases h : (trim part).getLast? = some '^'
  · exact .inl ⟨_, (List.dropLast_append_getLast? _ h).symm⟩
  · exact .inr h

/-- The path of a key is a stretch of the part that spells it. -/
theorem path_infix_of_ofPart? (h : ofPart? allAscending part = some k) : k.path.toList <:+: part := by
  rw [← ofPart?_trim] at h
  refine List.IsInfix.trans ?_ (Text.trim_isInfix part)
  rcases part_cases part with ⟨path, hpath⟩ | hcaret
  · rw [hpath, ofPart?_caret] at h
    split at h
    · cases h
    · cases h
      rw [hpath, String.toList_ofList]
      exact (Text.trim_isInfix path).trans (List.prefix_append _ _).isInfix
  · rw [ofPart?_trim, ofPart?_plain hcaret] at h
    split at h
    · cases h
    · cases h
      exact ⟨[], [], by simp⟩

theorem legible_of_ofPart? (hcomma : ',' ∉ part) (h : ofPart? allAscending part = some k) :
    k.Legible := by
  have hcomma' : ',' ∉ k.path.toList := fun hc => hcomma ((path_infix_of_ofPart? h).subset hc)
  rw [← ofPart?_trim] at h
  rcases part_cases part with ⟨path, hpath⟩ | hcaret
  · rw [hpath, ofPart?_caret] at h
    split at h
    · cases h
    · rename_i hne
      cases h
      exact ⟨by simpa using hne, by simpa using Text.bare_trim path, hcomma', fun _ => rfl⟩
  · rw [ofPart?_trim, ofPart?_plain hcaret] at h
    split at h
    · cases h
    · rename_i hne
      cases h
      exact ⟨by simpa using hne, by simpa using Text.bare_trim part, hcomma',
        fun hlast => absurd (by simpa using hlast) hcaret⟩

theorem Legible.ofPart?_text (h : k.Legible) : ofPart? false k.text = some k := by
  obtain ⟨path, ascending⟩ := k
  have htrim := h.bare.trim_eq
  have hne := h.path_ne
  dsimp only at htrim hne
  cases ascending with
  | true =>
      rw [text, if_pos rfl, ofPart?_caret, htrim, if_neg (by simpa using hne), String.ofList_toList]
  | false =>
      have hcaret : path.toList.getLast? ≠ some '^' := fun hlast => by cases h.caret hlast
      rw [text, if_neg Bool.false_ne_true, ofPart?_plain (by rwa [htrim]), htrim,
        if_neg (by simpa using hne), String.ofList_toList]

/-! ### What a list spells -/

theorem parseList_trim (spec : List Char) : parseList (trim spec) = parseList spec := by
  rw [parseList, parseList, Text.trim_trim]

theorem parseList_of_bare (hbare : Bare spec) : parseList spec =
    if spec.head? = some '^' then (spec.tail.splitOn ',').filterMap (ofPart? true)
    else (spec.splitOn ',').filterMap (ofPart? false) := by
  rw [parseList, hbare.trim_eq]
  cases spec with
  | nil => rfl
  | cons c spec =>
      by_cases hc : c = '^'
      · subst hc
        rfl
      · rw [if_neg (by simpa using hc)]
        split
        rename_i heq
        split at heq
        · rename_i hcons
          exact absurd (List.cons.inj hcons).1 hc
        · cases heq
          rfl

/-- A part of a list spells a key: its path, which is not blank, and a caret behind it if the key is ascending
by itself. -/
inductive SpelledPart (allAscending : Bool) (part : List Char) : SortKey → Prop where
  | marked {path : List Char} (hpart : trim part = path ++ ['^']) (hpath : trim path ≠ []) :
      SpelledPart allAscending part ⟨String.ofList (trim path), true⟩
  | plain (hpart : (trim part).getLast? ≠ some '^') (hpath : trim part ≠ []) :
      SpelledPart allAscending part ⟨String.ofList (trim part), allAscending⟩

/-- The parts of a list spell keys, in their order. A part without a path spells none. -/
inductive SpelledParts (allAscending : Bool) : List (List Char) → List SortKey → Prop where
  | nil : SpelledParts allAscending [] []
  | key {part : List Char} {parts : List (List Char)} {k : SortKey} {keys : List SortKey}
      (hpart : SpelledPart allAscending part k) (hparts : SpelledParts allAscending parts keys) :
      SpelledParts allAscending (part :: parts) (k :: keys)
  | skip {part : List Char} {parts : List (List Char)} {keys : List SortKey}
      (hpart : trim part = [] ∨ ∃ path, trim part = path ++ ['^'] ∧ trim path = [])
      (hparts : SpelledParts allAscending parts keys) : SpelledParts allAscending (part :: parts) keys

/-- A list spells keys, with commas between them. A caret in front of it makes every key ascending. -/
inductive Spelled (spec : List Char) (keys : List SortKey) : Prop where
  | ascending {rest : List Char} (hspec : trim spec = '^' :: rest)
      (hparts : SpelledParts true (rest.splitOn ',') keys)
  | mixed (hspec : (trim spec).head? ≠ some '^') (hparts : SpelledParts false ((trim spec).splitOn ',') keys)

theorem ofPart?_eq_some_iff : ofPart? allAscending part = some k ↔ SpelledPart allAscending part k := by
  rw [← ofPart?_trim]
  rcases part_cases part with ⟨path, hpath⟩ | hcaret
  · rw [hpath, ofPart?_caret]
    constructor
    · intro h
      split at h
      · cases h
      · rename_i hne
        cases h
        exact .marked hpath (by simpa using hne)
    · intro h
      cases h with
      | marked hpart hne =>
          obtain rfl : path = _ := List.append_cancel_right (hpath.symm.trans hpart)
          rw [if_neg (by simpa using hne)]
      | plain hpart => exact absurd (hpath ▸ List.getLast?_concat) hpart
  · rw [ofPart?_trim, ofPart?_plain hcaret]
    constructor
    · intro h
      split at h
      · cases h
      · rename_i hne
        cases h
        exact .plain hcaret (by simpa using hne)
    · intro h
      cases h with
      | marked hpart => exact absurd (hpart ▸ List.getLast?_concat) hcaret
      | plain _ hne => rw [if_neg (by simpa using hne)]

theorem ofPart?_eq_none_iff : ofPart? allAscending part = none ↔
    trim part = [] ∨ ∃ path, trim part = path ++ ['^'] ∧ trim path = [] := by
  rw [← ofPart?_trim]
  rcases part_cases part with ⟨path, hpath⟩ | hcaret
  · rw [hpath, ofPart?_caret]
    simp
  · have hlast (path : List Char) : trim part ≠ path ++ ['^'] := fun h => hcaret (h ▸ List.getLast?_concat)
    rw [ofPart?_trim, ofPart?_plain hcaret]
    simp [hlast]

theorem filterMap_ofPart?_eq_iff {parts : List (List Char)} :
    parts.filterMap (ofPart? allAscending) = keys ↔ SpelledParts allAscending parts keys := by
  constructor
  · rintro rfl
    induction parts with
    | nil => exact .nil
    | cons part parts ih =>
        cases hpart : ofPart? allAscending part with
        | none =>
            rw [List.filterMap_cons_none hpart]
            exact .skip (ofPart?_eq_none_iff.1 hpart) ih
        | some k =>
            rw [List.filterMap_cons_some hpart]
            exact .key (ofPart?_eq_some_iff.1 hpart) ih
  · intro h
    induction h with
    | nil => rfl
    | key hpart _ ih => rw [List.filterMap_cons_some (ofPart?_eq_some_iff.2 hpart), ih]
    | skip hpart _ ih => rw [List.filterMap_cons_none (ofPart?_eq_none_iff.2 hpart), ih]

/-- **A list of keys is read as what it spells.** -/
theorem parseList_eq_iff : parseList spec = keys ↔ Spelled spec keys := by
  have hparts := parseList_of_bare (Text.bare_trim spec)
  rw [parseList_trim] at hparts
  rw [hparts]
  split
  · rename_i hcaret
    obtain ⟨rest, hrest⟩ := List.head?_eq_some_iff.1 hcaret
    rw [hrest, List.tail_cons, filterMap_ofPart?_eq_iff]
    constructor
    · exact .ascending hrest
    · intro h
      cases h with
      | ascending hspec hparts =>
          obtain rfl := (List.cons.inj (hrest.symm.trans hspec)).2
          exact hparts
      | mixed hspec => exact absurd hcaret hspec
  · rename_i hcaret
    rw [filterMap_ofPart?_eq_iff]
    constructor
    · exact .mixed hcaret
    · intro h
      cases h with
      | ascending hspec => exact absurd (hspec ▸ rfl) hcaret
      | mixed _ hparts => exact hparts

/-! ### Lists of keys -/

def Careted (keys : List SortKey) : Prop :=
  ∃ k ∈ keys.head?, k.path.toList.head? = some '^'

theorem exists_parseList (spec : List Char) : ∃ allAscending list, list ⊆ spec ∧
    parseList spec = (list.splitOn ',').filterMap (ofPart? allAscending) := by
  have hsubset : trim spec ⊆ spec := (Text.trim_isInfix spec).subset
  rw [parseList]
  split
  rename_i allAscending list heq
  refine ⟨allAscending, list, ?_, rfl⟩
  split at heq
  · rename_i rest htrim
    cases heq
    exact List.Subset.trans (List.subset_cons_self '^' list) (htrim ▸ hsubset)
  · cases heq
    exact hsubset

theorem legible_of_mem_parseList (h : k ∈ parseList spec) : k.Legible ∧ k.path.toList ⊆ spec := by
  obtain ⟨allAscending, list, hsubset, heq⟩ := exists_parseList spec
  rw [heq] at h
  obtain ⟨part, hpart, hk⟩ := List.mem_filterMap.1 h
  refine ⟨legible_of_ofPart? (Text.not_mem_of_mem_splitOn hpart) hk, ?_⟩
  have hlist : part ⊆ spec := List.Subset.trans (Text.subset_of_mem_splitOn hpart) hsubset
  exact List.Subset.trans (path_infix_of_ofPart? hk).subset hlist

theorem filterMap_ofPart? (parts : List (List Char)) :
    parts.filterMap (ofPart? allAscending) = (parts.map trim).filterMap (ofPart? allAscending) := by
  rw [List.filterMap_map]
  exact List.filterMap_congr fun part _ => (ofPart?_trim allAscending part).symm

theorem Legible.text_ne (h : k.Legible) : k.text ≠ [] := by
  rw [text]
  split <;> simp [h.path_ne]

theorem Legible.bare_text (h : k.Legible) : Bare k.text := by
  rw [text]
  split
  · simpa using h.bare.append (Text.bare_singleton (c := '^') (by decide)) h.path_ne (by simp) []
  · exact h.bare

theorem Legible.comma_text (h : k.Legible) : ',' ∉ k.text := by
  have := h.comma
  rw [text]
  split <;> simpa

theorem Legible.head?_text (h : k.Legible) : k.text.head? = k.path.toList.head? := by
  rw [text]
  split
  · exact List.head?_append_of_ne_nil _ h.path_ne
  · rfl

theorem bare_listText (h : ∀ k ∈ keys, k.Legible) : Bare (listText keys) :=
  Text.bare_intercalate (by simpa using fun k hk => (h k hk).text_ne)
    (by simpa using fun k hk => (h k hk).bare_text)

theorem parseList_blank (spec : List Char) : parseList (' ' :: spec) = parseList spec := by
  rw [parseList, Text.trim_blank, ← parseList]

/-- The keys of a list of texts with commas between them are those of the texts. -/
theorem filterMap_splitOn {texts : List (List Char)} (hne : texts ≠ []) (h : ∀ t ∈ texts, ',' ∉ t) :
    (([',', ' '].intercalate texts).splitOn ',').filterMap (ofPart? allAscending)
      = texts.filterMap (ofPart? allAscending) := by
  rw [filterMap_ofPart?, Text.map_trim_splitOn hne h (by decide), ← filterMap_ofPart?]

/-- Without a caret in front, a list is read back. -/
theorem parseList_listText (h : ∀ k ∈ keys, k.Legible) (hcaret : ¬ Careted keys) :
    parseList (listText keys) = keys := by
  cases keys with
  | nil => rfl
  | cons k keys =>
      have hk := h k List.mem_cons_self
      have hhead : (listText (k :: keys)).head? ≠ some '^' := by
        rw [listText, List.map_cons, Text.head?_intercalate _ hk.text_ne, hk.head?_text]
        exact fun heq => hcaret ⟨k, rfl, heq⟩
      have hcommas : ∀ t ∈ (k :: keys).map text, ',' ∉ t := by
        intro t ht
        obtain ⟨a, ha, rfl⟩ := List.mem_map.1 ht
        exact (h a ha).comma_text
      have hread : ∀ a ∈ k :: keys, (ofPart? false ∘ text) a = some a :=
        fun a ha => (h a ha).ofPart?_text
      rw [parseList_of_bare (bare_listText h), if_neg hhead, listText,
        filterMap_splitOn (by simp) hcommas, List.filterMap_map, List.filterMap_congr hread,
        List.filterMap_some]

/-- With a caret in front, something else is read: the first path comes back shorter, or not at all. -/
theorem parseList_listText_ne (h : ∀ k ∈ keys, k.Legible) (hcaret : Careted keys) :
    parseList (listText keys) ≠ keys := by
  obtain ⟨k, hmem, hhead⟩ := hcaret
  obtain ⟨rest, rfl⟩ : ∃ rest, keys = k :: rest := by
    cases keys with
    | nil => cases hmem
    | cons a rest =>
        cases hmem
        exact ⟨rest, rfl⟩
  have hk := h k List.mem_cons_self
  obtain ⟨path, hpath⟩ : ∃ path, k.path.toList = '^' :: path := by
    cases hlist : k.path.toList with
    | nil => simp [hlist] at hhead
    | cons c path =>
        rw [hlist] at hhead
        cases hhead
        exact ⟨path, rfl⟩
  obtain ⟨tail, htail⟩ : ∃ tail, k.text = '^' :: tail := by
    rw [text, hpath]
    split <;> exact ⟨_, rfl⟩
  have htext : listText (k :: rest) = '^' :: [',', ' '].intercalate (tail :: rest.map text) := by
    rw [listText, List.map_cons, htail, List.intercalate_cons_cons_left]
  have hcommas : ∀ t ∈ tail :: rest.map text, ',' ∉ t := by
    intro t ht
    rcases List.mem_cons.1 ht with rfl | ht
    · have := hk.comma_text
      rw [htail, List.mem_cons, not_or] at this
      exact this.2
    · obtain ⟨a, ha, rfl⟩ := List.mem_map.1 ht
      exact (h a (List.mem_cons_of_mem _ ha)).comma_text
  rw [parseList_of_bare (bare_listText h), htext, List.head?_cons, if_pos rfl, List.tail_cons,
    filterMap_splitOn (List.cons_ne_nil _ _) hcommas, List.filterMap_cons]
  intro heq
  split at heq
  · -- a key is lost
    have := List.length_filterMap_le (ofPart? true) (rest.map text)
    rw [heq, List.length_cons, List.length_map] at this
    omega
  · -- the first key has a shorter path
    rename_i k' hk'
    cases (List.cons.inj heq).1
    cases hdirection : k.ascending with
    | true =>
        have : tail = path ++ ['^'] := by
          rw [text, if_pos hdirection, hpath, List.cons_append, List.cons.injEq] at htail
          exact htail.2.symm
        rw [this, ofPart?_caret] at hk'
        split at hk'
        · cases hk'
        · rw [Option.some.injEq] at hk'
          have hlist : k.path.toList = trim path := by rw [← hk', String.toList_ofList]
          have := Text.length_trim_le path
          rw [← hlist, hpath, List.length_cons] at this
          omega
    | false =>
        have : tail = path := by
          rw [text, hdirection, if_neg Bool.false_ne_true, hpath, List.cons.injEq] at htail
          exact htail.2.symm
        have := (path_infix_of_ofPart? hk').length_le
        rw [hpath, ‹tail = path›, List.length_cons] at this
        omega

/-- A list of legible keys is read back exactly if no caret stands in front. -/
theorem parseList_listText_iff (h : ∀ k ∈ keys, k.Legible) :
    parseList (listText keys) = keys ↔ ¬ Careted keys :=
  ⟨fun heq hcaret => parseList_listText_ne h hcaret heq, parseList_listText h⟩

end StaticPage.SortKey
