import Mathlib.Data.List.Basic
import Mathlib.Data.List.TakeWhile
import StaticPage.Text.Characters
import StaticPage.Text.Split

/-!
# Trimming and cutting

Trimming and cutting are loops over characters. This module says what they find: a trimmed text is
`Bare`, a cut is at the first occurrence, and lines that are written one after the other are read as
they were written. What comes after it does not look into the loops again.
-/

namespace StaticPage.Text

variable {s t l r word : List Char} {c : Char}

/-! ### Trimming -/

/-- A text without blanks at its two ends. -/
structure Bare (s : List Char) : Prop where
  head : ∀ c ∈ s.head?, isBlank c = false
  last : ∀ c ∈ s.getLast?, isBlank c = false

theorem bare_nil : Bare [] :=
  ⟨by simp, by simp⟩

theorem trimStart_of_head (h : ∀ c ∈ s.head?, isBlank c = false) : trimStart s = s := by
  cases s with
  | nil => rfl
  | cons a s => rw [trimStart, List.dropWhile_cons_of_neg (by simp [h a rfl])]

theorem trimEnd_of_last (h : ∀ c ∈ s.getLast?, isBlank c = false) : trimEnd s = s := by
  have hreverse : trimStart s.reverse = s.reverse :=
    trimStart_of_head (by rwa [List.head?_reverse])
  rw [trimEnd, ← trimStart, hreverse, List.reverse_reverse]

theorem Bare.trim_eq (h : Bare s) : trim s = s := by
  rw [trim, trimStart_of_head h.head, trimEnd_of_last h.last]

theorem trimStart_append (hl : ∀ c ∈ l, isBlank c = true) (s : List Char) :
    trimStart (l ++ s) = trimStart s :=
  List.dropWhile_append_of_pos hl

theorem trim_append (hl : ∀ c ∈ l, isBlank c = true) (s : List Char) :
    trim (l ++ s) = trim s := by
  rw [trim, trimStart_append hl, ← trim]

theorem blank_replicate (n : Nat) : ∀ c ∈ List.replicate n ' ', isBlank c = true := by
  intro c hc
  rw [List.eq_of_mem_replicate hc]
  rfl

theorem blank_space : ∀ c ∈ [' '], isBlank c = true :=
  blank_replicate 1

theorem trim_blank (s : List Char) : trim (' ' :: s) = trim s :=
  trim_append blank_space s

theorem exists_trimStart (s : List Char) :
    ∃ l, s = l ++ trimStart s ∧ ∀ c ∈ l, isBlank c = true :=
  ⟨s.takeWhile isBlank, List.takeWhile_append_dropWhile.symm, fun _ hc => List.mem_takeWhile_imp hc⟩

theorem exists_trimEnd (s : List Char) :
    ∃ r, s = trimEnd s ++ r ∧ ∀ c ∈ r, isBlank c = true := by
  obtain ⟨l, hl, hblank⟩ := exists_trimStart s.reverse
  refine ⟨l.reverse, ?_, fun c hc => hblank c (List.mem_reverse.1 hc)⟩
  rw [trimEnd, ← trimStart, ← List.reverse_append, ← hl, List.reverse_reverse]

theorem exists_trim (s : List Char) : ∃ l r, s = l ++ trim s ++ r ∧ (∀ c ∈ l, isBlank c = true) ∧
    ∀ c ∈ r, isBlank c = true := by
  obtain ⟨l, hl, hl'⟩ := exists_trimStart s
  obtain ⟨r, hr, hr'⟩ := exists_trimEnd (trimStart s)
  refine ⟨l, r, ?_, hl', hr'⟩
  rw [trim, List.append_assoc, ← hr, ← hl]

theorem blank_of_trim_eq_nil (h : trim s = []) : ∀ c ∈ s, isBlank c = true := by
  obtain ⟨l, r, hs, hl, hr⟩ := exists_trim s
  rw [h, List.append_nil] at hs
  rw [hs]
  exact List.forall_mem_append.2 ⟨hl, hr⟩

theorem trim_isInfix (s : List Char) : trim s <:+: s := by
  obtain ⟨l, r, h, -, -⟩ := exists_trim s
  exact ⟨l, r, h.symm⟩

theorem length_trim_le (s : List Char) : (trim s).length ≤ s.length :=
  (trim_isInfix s).length_le

theorem head?_trimStart (s : List Char) : ∀ c ∈ (trimStart s).head?, isBlank c = false := by
  intro c hc
  have h := List.head?_dropWhile_not isBlank s
  rw [trimStart, Option.mem_def] at hc
  rwa [hc] at h

theorem bare_trim (s : List Char) : Bare (trim s) := by
  refine ⟨?_, ?_⟩
  · obtain ⟨r, hr, -⟩ := exists_trimEnd (trimStart s)
    intro c hc
    refine head?_trimStart s c ?_
    rw [Option.mem_def, ← trim] at *
    rw [hr, List.head?_append, hc, Option.some_or]
  · intro c hc
    rw [trim, trimEnd, List.getLast?_reverse] at hc
    exact head?_trimStart _ c hc

theorem head?_trim (hs : ∀ c ∈ s.head?, isBlank c = false) : (trim s).head? = s.head? := by
  cases s with
  | nil => rfl
  | cons a s =>
      obtain ⟨r, hr, hblank⟩ := exists_trimEnd (a :: s)
      rw [trim, trimStart_of_head hs]
      cases hend : trimEnd (a :: s) with
      | nil =>
          rw [hend, List.nil_append] at hr
          have := hs a rfl
          simp [hblank a (hr ▸ List.mem_cons_self)] at this
      | cons b t =>
          rw [hend, List.cons_append, List.cons.injEq] at hr
          rw [List.head?_cons, List.head?_cons, hr.1]

theorem trim_trim (s : List Char) : trim (trim s) = trim s :=
  (bare_trim s).trim_eq

theorem trim_concat (hc : isBlank c = false) (s : List Char) :
    trim (s ++ [c]) = trimStart s ++ [c] := by
  have hstart : trimStart (s ++ [c]) = trimStart s ++ [c] := by
    obtain ⟨l, hl, hblank⟩ := exists_trimStart s
    conv_lhs => rw [hl, List.append_assoc, trimStart_append hblank]
    refine trimStart_of_head fun a ha => ?_
    rw [List.head?_append, Option.mem_def] at ha
    cases hhead : (trimStart s).head? with
    | none =>
        rw [hhead] at ha
        cases ha
        exact hc
    | some b =>
        rw [hhead] at ha
        cases ha
        exact head?_trimStart s a hhead
  rw [trim, hstart]
  exact trimEnd_of_last (by simpa using hc)

theorem bare_singleton (h : isBlank c = false) : Bare [c] :=
  ⟨by simpa using h, by simpa using h⟩

theorem Bare.append (hs : Bare s) (ht : Bare t) (hs' : s ≠ []) (ht' : t ≠ []) (m : List Char) :
    Bare (s ++ m ++ t) := by
  refine ⟨fun c hc => hs.head c ?_, fun c hc => ht.last c ?_⟩
  · rwa [List.append_assoc, List.head?_append_of_ne_nil _ hs'] at hc
  · rwa [List.getLast?_append_of_ne_nil _ ht'] at hc

/-! ### Stretches -/

theorem takeWhile_append {α : Type} {p : α → Bool} {s t : List α} (hs : ∀ c ∈ s, p c = true)
    (ht : ∀ c ∈ t.head?, p c = false) : (s ++ t).takeWhile p = s := by
  rw [List.takeWhile_append_of_pos hs]
  cases t with
  | nil => simp
  | cons c t => rw [List.takeWhile_cons_of_neg (by simp [ht c rfl]), List.append_nil]

theorem dropWhile_append {α : Type} {p : α → Bool} {s t : List α} (hs : ∀ c ∈ s, p c = true)
    (ht : ∀ c ∈ t.head?, p c = false) : (s ++ t).dropWhile p = t := by
  rw [List.dropWhile_append_of_pos hs]
  cases t with
  | nil => rfl
  | cons c t => rw [List.dropWhile_cons_of_neg (by simp [ht c rfl])]

/-! ### Cutting at a character -/

theorem cut?_append (h : c ∉ l) (r : List Char) : cut? c (l ++ c :: r) = some (l, r) := by
  induction l with
  | nil => simp [cut?]
  | cons a l ih =>
      rw [List.mem_cons, not_or] at h
      have ha : (a == c) = false := beq_eq_false_iff_ne.2 fun heq => h.1 heq.symm
      simp only [List.cons_append, cut?, ha, Bool.false_eq_true, if_false, ih h.2, Option.map_some]

theorem cut?_eq_none_iff : cut? c s = none ↔ c ∉ s := by
  induction s with
  | nil => simp [cut?]
  | cons a s ih =>
      rw [cut?, List.mem_cons, not_or]
      split
      · rename_i ha
        simp [beq_iff_eq.1 ha]
      · rename_i ha
        rw [Option.map_eq_none_iff, ih]
        refine ⟨fun h => ⟨fun heq => ha (beq_iff_eq.2 heq.symm), h⟩, And.right⟩

theorem cut?_eq_some_iff : cut? c s = some (l, r) ↔ s = l ++ c :: r ∧ c ∉ l := by
  refine ⟨fun h => ⟨eq_of_cut? h, ?_⟩, fun ⟨hs, hl⟩ => hs ▸ cut?_append hl r⟩
  induction s generalizing l with
  | nil => cases h
  | cons a s ih =>
      rw [cut?] at h
      split at h
      · cases h
        exact List.not_mem_nil
      · rename_i ha
        obtain ⟨⟨l', r'⟩, hcut, heq⟩ := Option.map_eq_some_iff.1 h
        cases heq
        rw [List.mem_cons, not_or]
        exact ⟨fun heq => ha (beq_iff_eq.2 heq.symm), ih hcut⟩

/-- A text cut at a sign, or left whole where the sign is missing. -/
theorem cut?_getD (h : (cut? c s).getD (s, []) = (l, r)) : c ∉ l ∧ l ⊆ s ∧ r ⊆ s := by
  cases hcut : cut? c s with
  | none =>
      rw [hcut] at h
      cases h
      exact ⟨cut?_eq_none_iff.1 hcut, List.Subset.refl s, List.nil_subset s⟩
  | some sides =>
      rw [hcut] at h
      cases h
      obtain ⟨rfl, hl⟩ := cut?_eq_some_iff.1 hcut
      exact ⟨hl, List.subset_append_left _ _,
        List.Subset.trans (List.subset_cons_self _ _) (List.subset_append_right _ _)⟩

/-- A list with a sign and a blank between its members is one with the sign alone, and the blank in front
of all members but the first. -/
theorem intercalate_blank (c : Char) (t : List Char) (ts : List (List Char)) :
    [c, ' '].intercalate (t :: ts) = [c].intercalate (t :: ts.map (' ' :: ·)) := by
  induction ts generalizing t with
  | nil => rfl
  | cons a ts ih =>
      rw [List.intercalate_cons_cons, ih, List.map_cons, List.intercalate_cons_cons,
        List.intercalate_cons_cons_left]
      simp

/-- Members without the sign are read back, apart from the blanks at their ends. -/
theorem map_trim_splitOn {ts : List (List Char)} (hne : ts ≠ []) (h : ∀ t ∈ ts, c ∉ t)
    (hc : c ≠ ' ') : (([c, ' '].intercalate ts).splitOn c).map trim = ts.map trim := by
  obtain ⟨t, ts, rfl⟩ := List.exists_cons_of_ne_nil hne
  have hpieces : ∀ a ∈ t :: ts.map (' ' :: ·), c ∉ a := by
    intro a ha
    rcases List.mem_cons.1 ha with rfl | ha
    · exact h a List.mem_cons_self
    · obtain ⟨b, hb, rfl⟩ := List.mem_map.1 ha
      simpa [hc] using h b (List.mem_cons_of_mem _ hb)
  rw [intercalate_blank, List.splitOn_intercalate c hpieces (List.cons_ne_nil _ _), List.map_cons,
    List.map_map, List.map_cons, List.cons.injEq]
  refine ⟨rfl, List.map_congr_left fun a _ => ?_⟩
  exact trim_blank a

/-! ### Cutting at a word -/

theorem dropPrefix?_append (word r : List Char) : dropPrefix? word (word ++ r) = some r := by
  induction word with
  | nil => rfl
  | cons w word ih => simpa [dropPrefix?] using ih

theorem dropPrefix?_eq_some_iff : dropPrefix? word s = some r ↔ s = word ++ r :=
  ⟨eq_append_of_dropPrefix?, fun h => h ▸ dropPrefix?_append word r⟩

theorem dropPrefix?_eq_none_iff : dropPrefix? word s = none ↔ ¬ word <+: s := by
  rw [Option.eq_none_iff_forall_ne_some]
  simp only [ne_eq, dropPrefix?_eq_some_iff]
  exact ⟨fun h ⟨r, hr⟩ => h r hr.symm, fun h r hr => h ⟨r, hr.symm⟩⟩

theorem dropSuffix?_eq_some_iff : dropSuffix? word s = some l ↔ s = l ++ word := by
  rw [dropSuffix?, Option.map_eq_some_iff]
  simp only [dropPrefix?_eq_some_iff]
  constructor
  · rintro ⟨r, hr, rfl⟩
    rw [← List.reverse_reverse s, hr, List.reverse_append, List.reverse_reverse]
  · rintro rfl
    exact ⟨l.reverse, List.reverse_append, List.reverse_reverse l⟩

theorem dropSuffix?_eq_none_iff : dropSuffix? word s = none ↔ ¬ word <:+ s := by
  rw [Option.eq_none_iff_forall_ne_some]
  simp only [ne_eq, dropSuffix?_eq_some_iff]
  exact ⟨fun h ⟨r, hr⟩ => h r hr.symm, fun h r hr => h ⟨r, hr.symm⟩⟩

theorem cutWord?_eq_none_iff : cutWord? word s = none ↔ ¬ word <:+: s := by
  induction s with
  | nil => simp [cutWord?, List.infix_nil]
  | cons a s ih =>
      rw [cutWord?, List.infix_cons_iff, not_or]
      cases hfront : dropPrefix? word (a :: s) with
      | some r => simp [dropPrefix?_eq_some_iff.1 hfront]
      | none =>
          rw [Option.map_eq_none_iff, ih]
          exact ⟨fun h => ⟨dropPrefix?_eq_none_iff.1 hfront, h⟩, And.right⟩

theorem eq_of_cutWord? (h : cutWord? word s = some (l, r)) : s = l ++ word ++ r := by
  induction s generalizing l r with
  | nil =>
      rw [cutWord?] at h
      split at h
      · rename_i hword
        cases h
        simpa using hword.symm
      · cases h
  | cons a s ih =>
      rw [cutWord?] at h
      cases hfront : dropPrefix? word (a :: s) with
      | some rest =>
          rw [hfront] at h
          cases h
          exact eq_append_of_dropPrefix? hfront
      | none =>
          rw [hfront] at h
          obtain ⟨⟨l', r'⟩, hcut, heq⟩ := Option.map_eq_some_iff.1 h
          cases heq
          rw [ih hcut]
          rfl

/-- A cut is at the first occurrence of the word. -/
theorem length_le_of_cutWord? (h : cutWord? word s = some (l, r)) {l' r' : List Char}
    (hs : s = l' ++ word ++ r') : l.length ≤ l'.length := by
  induction s generalizing l l' r with
  | nil =>
      have := congrArg List.length (eq_of_cutWord? h)
      simp only [List.length_nil, List.length_append] at this
      omega
  | cons a s ih =>
      rw [cutWord?] at h
      cases hfront : dropPrefix? word (a :: s) with
      | some rest =>
          rw [hfront] at h
          cases h
          exact Nat.zero_le _
      | none =>
          rw [hfront] at h
          obtain ⟨⟨l₁, r₁⟩, hcut, heq⟩ := Option.map_eq_some_iff.1 h
          cases heq
          cases l' with
          | nil => exact absurd ⟨r', hs.symm⟩ (dropPrefix?_eq_none_iff.1 hfront)
          | cons b l' =>
              rw [List.cons_append, List.cons_append, List.cons.injEq] at hs
              exact Nat.succ_le_succ (ih hcut hs.2)

theorem cutWord?_append (hfirst : ∀ l' r', l ++ word ++ r = l' ++ word ++ r' → l.length ≤ l'.length) :
    cutWord? word (l ++ word ++ r) = some (l, r) := by
  cases hcut : cutWord? word (l ++ word ++ r) with
  | none => exact absurd ⟨l, r, rfl⟩ (cutWord?_eq_none_iff.1 hcut)
  | some sides =>
      obtain ⟨l', r'⟩ := sides
      have hs := eq_of_cutWord? hcut
      have hlength : l.length = l'.length :=
        Nat.le_antisymm (hfirst l' r' hs) (length_le_of_cutWord? hcut rfl)
      obtain ⟨hword, rfl⟩ := List.append_inj hs (by simp [hlength])
      rw [List.append_cancel_right hword]

/-- A text falls into two pieces where the word occurs once. -/
theorem splitWord_eq_pair_iff (hword : word ≠ []) :
    splitWord word s = [l, r] ↔ cutWord? word s = some (l, r) ∧ ¬ word <:+: r := by
  have hone (t : List Char) : splitWord word t = [r] ↔ t = r ∧ ¬ word <:+: r := by
    rw [splitWord]
    split
    · rename_i l' r' hcut
      rw [dif_neg hword]
      have hne : splitWord word r' ≠ [] := by
        rw [splitWord]
        split <;> simp [hword]
      refine ⟨fun h => absurd (List.cons.inj h).2 hne, fun h => absurd ?_ h.2⟩
      exact ⟨l', r', by rw [← eq_of_cutWord? hcut, h.1]⟩
    · rename_i hcut
      rw [List.cons.injEq]
      exact ⟨fun h => ⟨h.1, h.1 ▸ cutWord?_eq_none_iff.1 hcut⟩, fun h => ⟨h.1, rfl⟩⟩
  rw [splitWord]
  split
  · rename_i l' r' hcut
    rw [dif_neg hword, List.cons.injEq, hone, hcut, Option.some.injEq, Prod.mk.injEq, and_assoc]
  · rename_i hcut
    simp [hcut]

/-! ### Lists of texts -/

theorem head?_intercalate (sep : List Char) (ht : t ≠ []) (ts : List (List Char)) :
    (sep.intercalate (t :: ts)).head? = t.head? := by
  cases ts with
  | nil => rw [List.intercalate_singleton]
  | cons a ts => rw [List.intercalate_cons_cons, List.append_assoc, List.head?_append_of_ne_nil _ ht]

theorem intercalate_ne_nil {sep : List Char} {ts : List (List Char)} (hne : ts ≠ [])
    (h : ∀ t ∈ ts, t ≠ []) : sep.intercalate ts ≠ [] := by
  obtain ⟨t, ts, rfl⟩ := List.exists_cons_of_ne_nil hne
  have ht := h t List.mem_cons_self
  intro hnil
  have hhead := head?_intercalate sep ht ts
  rw [hnil] at hhead
  exact ht (List.head?_eq_none_iff.1 hhead.symm)

theorem bare_intercalate {sep : List Char} {ts : List (List Char)} (hne : ∀ t ∈ ts, t ≠ [])
    (hbare : ∀ t ∈ ts, Bare t) : Bare (sep.intercalate ts) := by
  induction ts with
  | nil => exact bare_nil
  | cons t ts ih =>
      cases ts with
      | nil => simpa using hbare t List.mem_cons_self
      | cons a ts =>
          have hne' : ∀ t ∈ a :: ts, t ≠ [] := fun t ht => hne t (List.mem_cons_of_mem _ ht)
          rw [List.intercalate_cons_cons]
          exact (hbare t List.mem_cons_self).append
            (ih hne' fun t ht => hbare t (List.mem_cons_of_mem _ ht)) (hne t List.mem_cons_self)
            (intercalate_ne_nil (List.cons_ne_nil _ _) hne') sep

/-- What holds of the members of a list and of what stands between them holds of the list as it is
written. -/
theorem forall_mem_intercalate {p : Char → Prop} {sep : List Char} {ts : List (List Char)}
    (hsep : ∀ c ∈ sep, p c) (h : ∀ t ∈ ts, ∀ c ∈ t, p c) : ∀ c ∈ sep.intercalate ts, p c := by
  induction ts with
  | nil => simp
  | cons t ts ih =>
      have ih := ih fun t ht => h t (List.mem_cons_of_mem _ ht)
      cases ts with
      | nil => simpa using h t List.mem_cons_self
      | cons a ts =>
          rw [List.intercalate_cons_cons]
          exact List.forall_mem_append.2
            ⟨List.forall_mem_append.2 ⟨h t List.mem_cons_self, hsep⟩, ih⟩

/-! ### Lines -/

theorem splitOn_flatMap {ts : List (List Char)} (h : ∀ t ∈ ts, '\n' ∉ t) :
    (ts.flatMap (· ++ ['\n'])).splitOn '\n' = ts ++ [[]] := by
  induction ts with
  | nil => rfl
  | cons t ts ih =>
      rw [List.flatMap_cons, List.append_assoc, List.singleton_append,
        List.splitOn_append_cons_self_of_not_mem (h t List.mem_cons_self),
        ih fun t ht => h t (List.mem_cons_of_mem _ ht), List.cons_append]

/-- Lines that are written with their line breaks are read as they were written. -/
theorem lines_flatMap {ts : List (List Char)}
    (h : ∀ t ∈ ts, '\n' ∉ t ∧ t.getLast? ≠ some '\r') :
    lines (ts.flatMap (· ++ ['\n'])) = ts := by
  have hkeep : ts.map dropReturn = ts.map id :=
    List.map_congr_left fun t ht => if_neg (h t ht).2
  rw [lines, splitOn_flatMap fun t ht => (h t ht).1]
  simp [hkeep]

theorem not_mem_of_mem_splitOn (ht : t ∈ s.splitOn c) : c ∉ t := by
  induction s generalizing t with
  | nil => simp_all
  | cons a s ih =>
      rw [List.splitOn_cons_eq_if_modifyHead] at ht
      split at ht
      · rcases List.mem_cons.1 ht with rfl | ht
        · exact List.not_mem_nil
        · exact ih ht
      · rename_i ha
        cases hpieces : s.splitOn c with
        | nil => simp [hpieces] at ht
        | cons piece pieces =>
            rw [hpieces, List.modifyHead_cons, List.mem_cons] at ht
            rcases ht with rfl | ht
            · rw [List.mem_cons, not_or]
              refine ⟨fun heq => ha (by simp [heq]), ih (by simp [hpieces])⟩
            · exact ih (by simp [hpieces, ht])

theorem subset_of_mem_splitOn (ht : t ∈ s.splitOn c) : t ⊆ s := by
  induction s generalizing t with
  | nil => simp_all
  | cons a s ih =>
      rw [List.splitOn_cons_eq_if_modifyHead] at ht
      split at ht
      · rcases List.mem_cons.1 ht with rfl | ht
        · exact List.nil_subset _
        · exact List.subset_cons_of_subset a (ih ht)
      · cases hpieces : s.splitOn c with
        | nil => simp [hpieces] at ht
        | cons piece pieces =>
            rw [hpieces, List.modifyHead_cons, List.mem_cons] at ht
            rcases ht with rfl | ht
            · exact List.cons_subset_cons a (ih (by simp [hpieces]))
            · exact List.subset_cons_of_subset a (ih (by simp [hpieces, ht]))

theorem not_mem_of_mem_lines (ht : t ∈ lines s) : '\n' ∉ t := by
  rcases List.mem_append.1 ht with ht | ht
  · obtain ⟨piece, hpiece, rfl⟩ := List.mem_map.1 ht
    have hpiece := not_mem_of_mem_splitOn ((List.dropLast_subset _ hpiece))
    rw [dropReturn]
    split
    · exact fun hc => hpiece (List.dropLast_subset _ hc)
    · exact hpiece
  · split at ht
    · cases ht
    · rw [List.mem_singleton] at ht
      rw [ht, List.getLast?_eq_some_getLast (List.splitOn_ne_nil _ _)]
      exact not_mem_of_mem_splitOn (List.getLast_mem _)

end StaticPage.Text
