import StaticPage.Document.Body
import StaticPage.Document.Printer
import StaticPage.Proofs.Ranking.SortKeys

/-!
# Loop heads read back

A loop head is cut at signs and at the word ` in `, so what is read from a line has the signs no longer in
it. That makes a head `Legible`, and its text is cut where it was put together. Two things can go wrong all
the same, and `Plain` excludes them: the variables, joined by commas and blanks, can make a new
occurrence of the word, and the first sort path can begin with a caret.
-/

namespace StaticPage

open Text (trim Bare)

def inWord : List Char := [' ', 'i', 'n', ' ']

theorem toList_inWord : " in ".toList = inWord := rfl

def forWord : List Char := ['f', 'o', 'r', ' ']

theorem toList_forWord : "for ".toList = forWord := rfl

variable {l r s : List Char}

/-- The word is found where it was put, unless the text in front of it and one blank have it already. -/
theorem cutWord?_inWord_iff :
    Text.cutWord? inWord (l ++ inWord ++ r) = some (l, r) ↔ ¬ inWord <:+: l ++ [' '] := by
  constructor
  · rintro hcut ⟨a, b, hab⟩
    have hlength := congrArg List.length hab
    have heq : l ++ inWord ++ r = a ++ inWord ++ (b ++ ['i', 'n', ' '] ++ r) := by
      calc l ++ inWord ++ r = (l ++ [' ']) ++ ['i', 'n', ' '] ++ r := by simp [inWord]
        _ = a ++ inWord ++ (b ++ ['i', 'n', ' '] ++ r) := by simp [← hab]
    have hfirst := Text.length_le_of_cutWord? hcut heq
    simp only [List.length_append, inWord, List.length_cons, List.length_nil] at hlength
    omega
  · intro hinfix
    refine Text.cutWord?_append fun a b hab => ?_
    by_contra hlt
    rw [not_le] at hlt
    -- an earlier occurrence begins in the text, and shares at most the last blank with the word
    obtain ⟨m, rfl⟩ : a <+: l :=
      List.prefix_of_prefix_length_le ⟨inWord ++ b, by simpa using hab.symm⟩
        ⟨inWord ++ r, by simp⟩ hlt.le
    simp only [List.append_assoc, List.append_cancel_left_eq] at hab
    rcases m with _ | ⟨x, _ | ⟨y, _ | ⟨z, m⟩⟩⟩
    · simp at hlt
    · simp [inWord] at hab
    · simp [inWord] at hab
    · rcases m with _ | ⟨t, m⟩
      · simp [inWord] at hab
        obtain ⟨rfl, rfl, rfl, -⟩ := hab
        exact hinfix ⟨a, [], by simp [inWord]⟩
      · simp [inWord] at hab
        obtain ⟨rfl, rfl, rfl, rfl, -⟩ := hab
        exact hinfix ⟨a, m ++ [' '], by simp [inWord]⟩

namespace Item

variable {vars : List String} {clause : List Char} {item : Item} {header : LoopHeader}

/-! ### The grammar of a loop head -/

theorem variables?_eq_ok_iff : variables? s = .ok vars ↔
    vars = ((s.splitOn ',').map trim).map String.ofList ∧ vars.length ≤ 2 ∧ ∀ v ∈ vars, v.toList ≠ [] := by
  have hempty : (((s.splitOn ',').map trim).any List.isEmpty = true) ↔
      ¬ ∀ v ∈ ((s.splitOn ',').map trim).map String.ofList, v.toList ≠ [] := by
    simp
  rw [variables?]
  split
  · rename_i hcount
    simp only [reduceCtorEq, false_iff]
    rintro ⟨rfl, hlength, -⟩
    rw [List.length_map] at hlength
    omega
  · rename_i hcount
    split
    · rename_i hany
      simp only [reduceCtorEq, false_iff]
      rintro ⟨rfl, -, hne⟩
      exact hempty.1 hany hne
    · rename_i hany
      rw [hempty, not_not] at hany
      rw [Except.ok.injEq]
      constructor
      · rintro rfl
        exact ⟨rfl, by simpa using hcount, hany⟩
      · rintro ⟨rfl, -⟩
        rfl

/-- What is written after `for`. -/
theorem clause?_eq_ok_iff : clause? clause = .ok item ↔
    ∃ left spec front back header, (Text.cut? ':' clause).getD (clause, []) = (left, spec) ∧
      Text.cutWord? inWord left = some (front, back) ∧ ¬ inWord <:+: back ∧
      variables? front = .ok header.vars ∧ trim back ≠ [] ∧
      header.source = String.ofList (trim back) ∧ header.sort = SortKey.parseList spec ∧
      item = .loop header := by
  rw [clause?]
  generalize (Text.cut? ':' clause).getD (clause, []) = sides
  obtain ⟨left, spec⟩ := sides
  rw [toList_inWord]
  constructor
  · intro h
    dsimp only at h
    split at h
    · rename_i front back hsplit
      obtain ⟨hcut, hback⟩ := (Text.splitWord_eq_pair_iff (by simp [inWord])).1 hsplit
      cases hvars : variables? front with
      | error cause =>
          rw [hvars] at h
          cases h
      | ok vars =>
          rw [hvars] at h
          change (if (trim back).isEmpty then _ else _) = _ at h
          split at h
          · cases h
          · rename_i hsource
            cases h
            exact ⟨left, spec, front, back, ⟨vars, String.ofList (trim back), SortKey.parseList spec⟩,
              rfl, hcut, hback, hvars, by simpa using hsource, rfl, rfl, rfl⟩
    · cases h
  · rintro ⟨_, _, front, back, ⟨vars, source, sort⟩, heq, hcut, hback, hvars, hsource, rfl, rfl, rfl⟩
    cases heq
    have hsplit := (Text.splitWord_eq_pair_iff (by simp [inWord])).2 ⟨hcut, hback⟩
    dsimp only at hvars ⊢
    rw [hsplit]
    dsimp only
    rw [hvars]
    change (if (trim back).isEmpty then _ else _) = _
    rw [if_neg (by simpa using hsource)]

theorem loop?_eq_ok_iff : loop? s = .ok item ↔
    ∃ front rest clause, Text.cut? ']' s = some (front, rest) ∧
      trim front.tail = forWord ++ clause ∧ clause? clause = .ok item := by
  rw [loop?, toList_forWord]
  cases hcut : Text.cut? ']' s with
  | none => simp
  | some sides =>
      obtain ⟨front, rest⟩ := sides
      dsimp only
      cases hfor : Text.dropPrefix? forWord (trim front.tail) with
      | none =>
          rw [Text.dropPrefix?_eq_none_iff] at hfor
          simp only [reduceCtorEq, false_iff]
          rintro ⟨_, _, clause, heq, hclause, -⟩
          cases heq
          exact hfor ⟨clause, hclause.symm⟩
      | some clause =>
          have hclause := Text.eq_append_of_dropPrefix? hfor
          constructor
          · exact fun h => ⟨front, rest, clause, rfl, hclause, h⟩
          · rintro ⟨_, _, clause', heq, hclause', h⟩
            cases heq
            rw [hclause, List.append_cancel_left_eq] at hclause'
            rw [hclause']
            exact h

end Item

/-! ### Legible heads -/

namespace LoopHeader

variable {h : LoopHeader}

def varsText (h : LoopHeader) : List Char :=
  [',', ' '].intercalate (h.vars.map String.toList)

def leftText (h : LoopHeader) : List Char :=
  h.varsText ++ inWord ++ h.source.toList

def sortText (h : LoopHeader) : List Char :=
  if h.sort.isEmpty then [] else ':' :: ' ' :: SortKey.listText h.sort

theorem text_eq (h : LoopHeader) :
    h.text = '[' :: (forWord ++ (h.leftText ++ h.sortText)) ++ [']'] := by
  have htext : h.text = "[for ".toList ++ h.varsText ++ " in ".toList ++ h.source.toList ++
      (if h.sort.isEmpty then [] else ": ".toList ++ SortKey.listText h.sort) ++ [']'] := rfl
  have hopen : "[for ".toList = '[' :: forWord := rfl
  have hcolon : ": ".toList = [':', ' '] := rfl
  rw [htext, hopen, hcolon, toList_inWord, leftText, sortText]
  simp only [List.append_assoc, List.cons_append, List.nil_append]

/-- A character that can stand between the brackets of a line. -/
def Inside (c : Char) : Prop :=
  c ≠ ']' ∧ c ≠ '\n'

structure Legible (h : LoopHeader) : Prop where
  vars_ne : h.vars ≠ []
  vars_le : h.vars.length ≤ 2
  var_ne : ∀ v ∈ h.vars, v.toList ≠ []
  var_bare : ∀ v ∈ h.vars, Bare v.toList
  var_comma : ∀ v ∈ h.vars, ',' ∉ v.toList
  source_ne : h.source.toList ≠ []
  source_bare : Bare h.source.toList
  source_word : ¬ inWord <:+: h.source.toList
  keys : ∀ k ∈ h.sort, k.Legible
  colon : ':' ∉ h.leftText
  inside : ∀ c ∈ h.leftText ++ h.sortText, Inside c

/-- What is written of the variables and the source has the characters that were read, and the signs and
blanks between them. -/
theorem forall_mem_leftText {p : Char → Prop} (hsigns : ∀ c ∈ [',', ' ', 'i', 'n'], p c)
    (hvars : ∀ v ∈ h.vars, ∀ c ∈ v.toList, p c) (hsource : ∀ c ∈ h.source.toList, p c) :
    ∀ c ∈ h.leftText, p c := by
  have hin : ∀ c ∈ inWord, p c := by
    intro c hc
    exact hsigns c (by simp [inWord] at hc ⊢; tauto)
  refine List.forall_mem_append.2 ⟨List.forall_mem_append.2 ⟨?_, hin⟩, hsource⟩
  refine Text.forall_mem_intercalate (fun c hc => hsigns c (by simp at hc ⊢; tauto)) ?_
  simpa using hvars

theorem forall_mem_sortText {p : Char → Prop} (hsigns : ∀ c ∈ [',', ' ', ':', '^'], p c)
    (hkeys : ∀ k ∈ h.sort, ∀ c ∈ k.path.toList, p c) : ∀ c ∈ h.sortText, p c := by
  rw [sortText]
  split
  · simp
  · have hlist : ∀ c ∈ SortKey.listText h.sort, p c := by
      refine Text.forall_mem_intercalate (fun c hc => hsigns c (by simp at hc ⊢; tauto)) ?_
      intro t ht
      obtain ⟨k, hk, rfl⟩ := List.mem_map.1 ht
      rw [SortKey.text]
      split
      · exact List.forall_mem_append.2 ⟨hkeys k hk, by simpa using hsigns '^' (by simp)⟩
      · exact hkeys k hk
    intro c hc
    rcases List.mem_cons.1 hc with rfl | hc
    · exact hsigns ':' (by simp)
    · rcases List.mem_cons.1 hc with rfl | hc
      · exact hsigns ' ' (by simp)
      · exact hlist c hc

theorem legible_of_loop? (hs : '\n' ∉ s) (hloop : Item.loop? s = .ok (.loop h)) : h.Legible := by
  obtain ⟨front, rest, clause, hcut, hclause, hread⟩ := Item.loop?_eq_ok_iff.1 hloop
  obtain ⟨left, spec, vars, back, header, hsides, hword, hback, hvars, hne, hsource, hsort, heq⟩ :=
    Item.clause?_eq_ok_iff.1 hread
  cases heq
  obtain ⟨hcolon, hleft, hspec⟩ := Text.cut?_getD hsides
  obtain ⟨rfl, hbracket⟩ := Text.cut?_eq_some_iff.1 hcut
  obtain ⟨hvars, hcount, hvar⟩ := Item.variables?_eq_ok_iff.1 hvars
  have hclause : ∀ c ∈ clause, Inside c := by
    intro c hc
    have hfront : c ∈ front := by
      refine List.mem_of_mem_tail ((Text.trim_isInfix front.tail).subset ?_)
      rw [hclause]
      exact List.mem_append_right _ hc
    refine ⟨?_, ?_⟩
    · rintro rfl
      exact hbracket hfront
    · rintro rfl
      exact hs (List.mem_append_left _ hfront)
  have hleft_eq := Text.eq_of_cutWord? hword
  have hvar_mem : ∀ v ∈ h.vars, v.toList ⊆ left ∧ Bare v.toList ∧ ',' ∉ v.toList := by
    intro v hv
    rw [hvars] at hv
    simp only [List.map_map, List.mem_map] at hv
    obtain ⟨piece, hpiece, rfl⟩ := hv
    simp only [Function.comp_apply, String.toList_ofList]
    have hsubset : trim piece ⊆ vars :=
      List.Subset.trans (Text.trim_isInfix piece).subset (Text.subset_of_mem_splitOn hpiece)
    refine ⟨?_, Text.bare_trim piece, fun hc => ?_⟩
    · rw [hleft_eq, List.append_assoc]
      exact List.Subset.trans hsubset (List.subset_append_left _ _)
    · exact Text.not_mem_of_mem_splitOn hpiece ((Text.trim_isInfix piece).subset hc)
  have hsource_mem : h.source.toList <:+: back := by
    rw [hsource, String.toList_ofList]
    exact Text.trim_isInfix back
  have hsource_left : h.source.toList ⊆ left := by
    rw [hleft_eq]
    exact List.Subset.trans hsource_mem.subset (List.subset_append_right _ _)
  have hkeys : ∀ k ∈ h.sort, k.Legible ∧ k.path.toList ⊆ spec := by
    rw [hsort]
    exact fun k hk => SortKey.legible_of_mem_parseList hk
  exact {
    vars_ne := by rw [hvars]; simp [List.splitOn_ne_nil]
    vars_le := hcount
    var_ne := hvar
    var_bare := fun v hv => (hvar_mem v hv).2.1
    var_comma := fun v hv => (hvar_mem v hv).2.2
    source_ne := by rw [hsource]; simpa using hne
    source_bare := by rw [hsource, String.toList_ofList]; exact Text.bare_trim back
    source_word := fun hin => hback (hin.trans hsource_mem)
    keys := fun k hk => (hkeys k hk).1
    colon := by
      have := forall_mem_leftText (h := h) (p := (· ≠ ':')) (by simp)
        (fun v hv c hc heq => hcolon (heq ▸ (hvar_mem v hv).1 hc))
        (fun c hc heq => hcolon (heq ▸ hsource_left hc))
      exact fun hc => this ':' hc rfl
    inside := by
      refine List.forall_mem_append.2 ⟨?_, ?_⟩
      · exact forall_mem_leftText (by simp [Inside])
          (fun v hv c hc => hclause c (hleft ((hvar_mem v hv).1 hc)))
          fun c hc => hclause c (hleft (hsource_left hc))
      · exact forall_mem_sortText (by simp [Inside])
          fun k hk c hc => hclause c (hspec ((hkeys k hk).2 hc)) }

/-! ### Reading a head back -/

/-- A head whose text is not misread: the variables and the blank after them do not have the word ` in `,
and the first sort path does not begin with a caret. -/
structure Plain (h : LoopHeader) : Prop where
  vars : ¬ inWord <:+: h.varsText ++ [' ']
  sort : ¬ SortKey.Careted h.sort

theorem Legible.bare_clause (hl : h.Legible) : Bare (forWord ++ (h.leftText ++ h.sortText)) := by
  have hf : Bare ['f'] := Text.bare_singleton (by decide)
  by_cases hsort : h.sort = []
  · have hbare := hf.append hl.source_bare (by simp) hl.source_ne (['o', 'r', ' '] ++ h.varsText ++ inWord)
    rw [sortText, hsort, List.isEmpty_nil, if_pos rfl, List.append_nil, leftText]
    simpa [forWord] using hbare
  · have hne : SortKey.listText h.sort ≠ [] := by
      refine Text.intercalate_ne_nil (by simpa using hsort) ?_
      simpa using fun k hk => (hl.keys k hk).text_ne
    have hbare := hf.append (SortKey.bare_listText hl.keys) (by simp) hne
      (['o', 'r', ' '] ++ h.leftText ++ [':', ' '])
    rw [sortText, if_neg (by simpa using hsort)]
    simpa [forWord] using hbare

theorem Legible.loop?_text (hl : h.Legible) :
    Item.loop? h.text = Item.clause? (h.leftText ++ h.sortText) := by
  have hbracket : ']' ∉ '[' :: (forWord ++ (h.leftText ++ h.sortText)) := by
    have hinside : ']' ∉ h.leftText ++ h.sortText := fun hc => (hl.inside ']' hc).1 rfl
    rw [List.mem_cons, List.mem_append, not_or, not_or]
    exact ⟨by decide, by decide, hinside⟩
  rw [Item.loop?, text_eq, Text.cut?_append hbracket]
  dsimp only [List.tail_cons]
  rw [hl.bare_clause.trim_eq, toList_forWord, Text.dropPrefix?_append]

theorem Legible.cut?_clause (hl : h.Legible) : ∃ spec, SortKey.parseList spec
    = SortKey.parseList (SortKey.listText h.sort) ∧
    (Text.cut? ':' (h.leftText ++ h.sortText)).getD (h.leftText ++ h.sortText, [])
      = (h.leftText, spec) := by
  rw [sortText]
  split
  · rename_i hsort
    rw [List.isEmpty_iff.1 hsort]
    refine ⟨[], rfl, ?_⟩
    rw [List.append_nil, Text.cut?_eq_none_iff.2 hl.colon, Option.getD_none]
  · refine ⟨' ' :: SortKey.listText h.sort, SortKey.parseList_blank _, ?_⟩
    rw [Text.cut?_append hl.colon, Option.getD_some]

theorem Legible.variables?_varsText (hl : h.Legible) : Item.variables? h.varsText = .ok h.vars := by
  refine Item.variables?_eq_ok_iff.2 ⟨?_, hl.vars_le, hl.var_ne⟩
  rw [varsText, Text.map_trim_splitOn (by simpa using hl.vars_ne) (by simpa using hl.var_comma) (by decide)]
  have hread : ∀ v ∈ h.vars, ((String.ofList ∘ trim) ∘ String.toList) v = v := by
    intro v hv
    rw [Function.comp_apply, Function.comp_apply, (hl.var_bare v hv).trim_eq, String.ofList_toList]
  rw [List.map_map, List.map_map, List.map_congr_left hread, List.map_id']

/-- Variables cannot be read from a text that is much shorter than they are. -/
theorem length_varsText_le {front : List Char} (hvars : Item.variables? front = .ok h.vars) :
    h.varsText.length ≤ front.length + 1 := by
  obtain ⟨hvars, hcount, -⟩ := Item.variables?_eq_ok_iff.1 hvars
  have hfront : [','].intercalate (front.splitOn ',') = front := List.intercalate_splitOn ','
  have hlist : h.vars.map String.toList = (front.splitOn ',').map trim := by
    rw [hvars, List.map_map]
    exact (List.map_congr_left fun t _ => String.toList_ofList).trans (List.map_id _)
  have hpieces : (front.splitOn ',').length ≤ 2 := by
    simpa [hvars] using hcount
  rw [varsText, hlist]
  generalize front.splitOn ',' = pieces at hfront hpieces
  rcases pieces with _ | ⟨t, _ | ⟨u, _ | ⟨v, pieces⟩⟩⟩
  · exact Nat.zero_le _
  · have ht := Text.length_trim_le t
    simp [← hfront]
    omega
  · have ht := Text.length_trim_le t
    have hu := Text.length_trim_le u
    simp [← hfront, List.intercalate_cons_cons]
    omega
  · simp at hpieces

/-- A legible head is read back exactly if it is plain. -/
theorem Legible.clause?_text_iff (hl : h.Legible) :
    Item.clause? (h.leftText ++ h.sortText) = .ok (.loop h) ↔ h.Plain := by
  obtain ⟨spec, hspec, hcolon⟩ := hl.cut?_clause
  constructor
  · intro hread
    obtain ⟨left, spec', front, back, header, hsides, hword, -, hvars, -, -, hsort, heq⟩ :=
      Item.clause?_eq_ok_iff.1 hread
    cases heq
    rw [hcolon] at hsides
    cases hsides
    refine ⟨?_, ?_⟩
    · rintro ⟨a, b, hab⟩
      have hlength := congrArg List.length hab
      have heq : h.leftText = a ++ inWord ++ (b ++ ['i', 'n', ' '] ++ h.source.toList) := by
        calc h.leftText = (h.varsText ++ [' ']) ++ ['i', 'n', ' '] ++ h.source.toList := by
              simp [leftText, inWord]
          _ = a ++ inWord ++ (b ++ ['i', 'n', ' '] ++ h.source.toList) := by simp [← hab]
      have hfirst := Text.length_le_of_cutWord? hword heq
      have hvars := length_varsText_le hvars
      simp only [List.length_append, inWord, List.length_cons, List.length_nil] at hlength
      omega
    · rw [← SortKey.parseList_listText_iff hl.keys, ← hspec]
      exact hsort.symm
  · intro hplain
    refine Item.clause?_eq_ok_iff.2 ⟨h.leftText, spec, h.varsText, h.source.toList, h, hcolon,
      cutWord?_inWord_iff.2 hplain.vars, hl.source_word, hl.variables?_varsText, ?_, ?_, ?_, rfl⟩
    · rw [hl.source_bare.trim_eq]
      exact hl.source_ne
    · rw [hl.source_bare.trim_eq, String.ofList_toList]
    · rw [hspec, SortKey.parseList_listText hl.keys hplain.sort]

end LoopHeader

end StaticPage
