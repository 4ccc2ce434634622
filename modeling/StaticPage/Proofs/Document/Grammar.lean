import StaticPage.Proofs.Document.Spelling

/-!
# Which texts are documents

Whether a text is a document is decided line by line: the names of its bindings differ, and each body line
spells an item and fits behind the body lines before it, of which only the last one counts. No block has to
be open in the reader's mind. The line that is blamed in a text that is no document is the first binding
line with a name bound before, and if there is none, the first body line that does not fit.
-/

namespace StaticPage

open Text (trim)

/-! ### Body lines that fit -/

namespace Line

/-- The indentation that the body line after this one may have at most: the same, or two more if this
line is the head of a loop. -/
def reach (line : Line) : Nat :=
  if "[for ".toList.isPrefixOf (trim line.text.toList) then line.indent + 2 else line.indent

/-- A body line fits behind those before it; the first one may have an indentation of `start`. -/
structure FitsAfter (start : Nat) (before : List Line) (line : Line) : Prop where
  even : line.indent % 2 = 0
  reach : line.indent ≤ before.getLast?.elim start Line.reach
  form : ∃ item, Item.Spelled (trim line.text.toList) item

def AllFit (start : Nat) (lines : List Line) : Prop :=
  ∀ before line after, lines = before ++ line :: after → line.FitsAfter start before

def FirstMisfit (start : Nat) (lines : List Line) (line : Line) : Prop :=
  ∃ before after, lines = before ++ line :: after ∧ AllFit start before ∧ ¬ line.FitsAfter start before

variable {start : Nat} {line other : Line} {lines before : List Line}

theorem FirstMisfit.not_allFit (h : FirstMisfit start lines line) : ¬ AllFit start lines := by
  obtain ⟨before, after, hlines, -, hmisfit⟩ := h
  exact fun hall => hmisfit (hall before line after hlines)

theorem reach_of_spelled {item : Item} (h : Item.Spelled (trim line.text.toList) item) :
    line.reach = item.reach line.indent := by
  rw [reach]
  generalize trim line.text.toList = text at h
  cases h with
  | prose hid => exact if_neg (by simp [List.isPrefixOf])
  | loop hopen => exact if_pos (List.isPrefixOf_iff_prefix.2 hopen)
  | field _ hopen => exact if_neg (mt List.isPrefixOf_iff_prefix.1 hopen)

/-- Of the lines before, the first one counts as long as it is the last one. -/
theorem fitsAfter_cons_iff :
    other.FitsAfter start (line :: before) ↔ other.FitsAfter line.reach before := by
  have hlast : (line :: before).getLast?.elim start Line.reach
      = before.getLast?.elim line.reach Line.reach := by
    rw [List.getLast?_cons]
    cases before.getLast? <;> rfl
  constructor
  · rintro ⟨heven, hreach, hform⟩
    exact ⟨heven, hlast ▸ hreach, hform⟩
  · rintro ⟨heven, hreach, hform⟩
    exact ⟨heven, hlast.symm ▸ hreach, hform⟩

theorem allFit_nil : AllFit start [] := by
  intro before line after h
  cases before <;> cases h

theorem allFit_cons_iff :
    AllFit start (line :: lines) ↔ line.FitsAfter start [] ∧ AllFit line.reach lines := by
  constructor
  · intro h
    refine ⟨h [] line lines rfl, fun before other after hlines => ?_⟩
    exact fitsAfter_cons_iff.1 (h (line :: before) other after (congrArg _ hlines))
  · rintro ⟨hline, hrest⟩ before other after hlines
    cases before with
    | nil =>
        cases hlines
        exact hline
    | cons _ before =>
        obtain ⟨rfl, htail⟩ := List.cons.inj hlines
        exact fitsAfter_cons_iff.2 (hrest before other after htail)

theorem FirstMisfit.cons (hline : line.FitsAfter start [])
    (h : FirstMisfit line.reach lines other) : FirstMisfit start (line :: lines) other := by
  obtain ⟨before, after, rfl, hbefore, hmisfit⟩ := h
  refine ⟨line :: before, after, rfl, allFit_cons_iff.2 ⟨hline, hbefore⟩, ?_⟩
  rwa [fitsAfter_cons_iff]

theorem firstMisfit_head (h : ¬ line.FitsAfter start []) : FirstMisfit start (line :: lines) line :=
  ⟨[], lines, rfl, allFit_nil, h⟩

/-- The flat scan goes through exactly if all lines fit, and blames the first one that does not. -/
theorem outline?_cases (start : Nat) (lines : List Line) :
    match outline? start lines with
    | .ok _ => AllFit start lines
    | .error fault => FirstMisfit start lines fault.line := by
  induction lines generalizing start with
  | nil => exact allFit_nil
  | cons line rest ih =>
      rw [outline?]
      by_cases hreach : start < line.indent
      · rw [if_pos hreach]
        exact firstMisfit_head fun h => absurd h.reach (Nat.not_le.2 hreach)
      rw [if_neg hreach]
      by_cases hodd : line.indent % 2 = 1
      · rw [if_pos hodd]
        exact firstMisfit_head fun h => absurd h.even (by omega)
      rw [if_neg hodd]
      cases hitem : Item.ofText? (trim line.text.toList) with
      | error cause =>
          refine firstMisfit_head fun h => ?_
          obtain ⟨item, hspelled⟩ := h.form
          rw [Item.ofText?_eq_ok_iff.2 hspelled] at hitem
          cases hitem
      | ok item =>
          have hspelled := Item.ofText?_eq_ok_iff.1 hitem
          have hline : line.FitsAfter start [] := ⟨by omega, Nat.not_lt.1 hreach, item, hspelled⟩
          have hrest := ih line.reach
          dsimp only
          rw [← reach_of_spelled hspelled]
          cases houtline : outline? line.reach rest with
          | error fault =>
              rw [houtline] at hrest
              exact FirstMisfit.cons hline hrest
          | ok entries =>
              rw [houtline] at hrest
              exact allFit_cons_iff.2 ⟨hline, hrest⟩

/-! ### Names that are bound before -/

def boundNames (lines : List Line) : List String :=
  (lines.filterMap declares?).map (·.name)

def DistinctNames (lines : List Line) : Prop :=
  lines.Pairwise fun line other => ∀ b b', line.Declares b → other.Declares b' → b.name ≠ b'.name

theorem distinctNames_iff : DistinctNames lines ↔ (boundNames lines).Nodup := by
  rw [boundNames, List.Nodup, List.pairwise_map, List.pairwise_filterMap, DistinctNames]
  simp only [declares?_eq_some_iff]
  exact ⟨fun h => h.imp fun hne b hb b' hb' => hne b b' hb hb',
    fun h => h.imp fun hne b b' hb hb' => hne b hb b' hb'⟩

theorem mem_boundNames_iff {name : String} :
    name ∈ boundNames lines ↔ ∃ line ∈ lines, ∃ b, line.Declares b ∧ b.name = name := by
  simp only [boundNames, List.mem_map, List.mem_filterMap, declares?_eq_some_iff]
  constructor
  · rintro ⟨b, ⟨line, hline, hb⟩, hname⟩
    exact ⟨line, hline, b, hb, hname⟩
  · rintro ⟨line, hline, b, hb, hname⟩
    exact ⟨b, ⟨line, hline, hb⟩, hname⟩

theorem bindings?_error {names : List String} {fault : SyntaxFault}
    (h : bindings? names lines = .error fault) : ∃ before after b,
      lines = before ++ fault.line :: after ∧ fault.line.declares? = some b ∧
      (∃ bindings, bindings? names before = .ok bindings) ∧
      (b.name ∈ names ∨ b.name ∈ boundNames before) := by
  induction lines generalizing names with
  | nil => cases h
  | cons line rest ih =>
      rw [bindings?] at h
      cases hdeclares : line.declares? with
      | none =>
          rw [hdeclares] at h
          obtain ⟨before, after, b, rfl, hb, ⟨bindings, hbefore⟩, hname⟩ := ih h
          refine ⟨line :: before, after, b, rfl, hb, ⟨bindings, ?_⟩, ?_⟩
          · rw [bindings?, hdeclares]
            exact hbefore
          · rw [boundNames, List.filterMap_cons_none hdeclares]
            exact hname
      | some b =>
          rw [hdeclares] at h
          dsimp only at h
          split at h
          · rename_i htaken
            cases h
            exact ⟨[], rest, b, rfl, hdeclares, ⟨[], rfl⟩, .inl (by simpa using htaken)⟩
          · rename_i hfree
            cases hrest : bindings? (b.name :: names) rest with
            | ok bindings =>
                rw [hrest] at h
                cases h
            | error fault' =>
                rw [hrest] at h
                cases h
                obtain ⟨before, after, b', rfl, hb', ⟨bindings, hbefore⟩, hname⟩ := ih hrest
                refine ⟨line :: before, after, b', rfl, hb', ⟨b :: bindings, ?_⟩, ?_⟩
                · rw [bindings?, hdeclares]
                  dsimp only
                  rw [if_neg hfree, hbefore]
                  rfl
                · rw [boundNames, List.filterMap_cons_some hdeclares, List.map_cons, List.mem_cons]
                  rw [List.mem_cons] at hname
                  tauto

end Line

/-! ### Documents -/

namespace Document

/-- The lines of a document: their bindings have names of their own, and the body lines fit. -/
structure Grammatical (lines : List Line) : Prop where
  names : Line.DistinctNames lines
  body : Line.AllFit 0 (lines.filter fun line => line.IsBody)

/-- The line to blame: the first one that binds a name again, or if there is none, the first body line
that does not fit. -/
inductive Blames (lines : List Line) : Line → Prop where
  | binding {before after : List Line} {line : Line} {b : Binding} (hlines : lines = before ++ line :: after)
      (hdeclares : line.Declares b) (hbefore : Line.DistinctNames before)
      (hagain : ∃ other ∈ before, ∃ b', other.Declares b' ∧ b'.name = b.name) : Blames lines line
  | body {line : Line} (hnames : Line.DistinctNames lines)
      (hmisfit : Line.FirstMisfit 0 (lines.filter fun line => line.IsBody) line) : Blames lines line

variable {lines : List Line} {line : Line}

theorem distinctNames_iff_bindings? :
    Line.DistinctNames lines ↔ ∃ bindings, Line.bindings? [] lines = .ok bindings := by
  simp only [Line.distinctNames_iff, Line.bindings?_eq_ok_iff]
  constructor
  · intro h
    exact ⟨_, rfl, h, by simp⟩
  · rintro ⟨_, rfl, h, -⟩
    exact h

theorem Blames.not_grammatical (h : Blames lines line) : ¬ Grammatical lines := by
  rintro ⟨hnames, hbody⟩
  cases h with
  | @binding before after _ b hlines hdeclares _ hagain =>
      obtain ⟨other, hother, b', hdeclares', hname⟩ := hagain
      rw [hlines] at hnames
      have hapart := (List.pairwise_append.1 hnames).2.2 other hother line List.mem_cons_self
      exact hapart b' b hdeclares' hdeclares hname
  | body _ hmisfit => exact hmisfit.not_allFit hbody

theorem Blames.mem (h : Blames lines line) : line ∈ lines := by
  cases h with
  | binding hlines =>
      rw [hlines]
      exact List.mem_append_right _ List.mem_cons_self
  | body _ hmisfit =>
      obtain ⟨before, after, hlines, -⟩ := hmisfit
      have hmem : line ∈ lines.filter fun line => line.IsBody := by
        rw [hlines]
        exact List.mem_append_right _ List.mem_cons_self
      exact List.mem_of_mem_filter hmem

/-- Lines are a document exactly if they are grammatical; a fault is at the line to blame. -/
theorem ofLines?_cases (lines : List Line) :
    match ofLines? lines with
    | .ok _ => Grammatical lines
    | .error fault => Blames lines fault.line := by
  cases hread : ofLines? lines with
  | ok d =>
      obtain ⟨hbindings, ⟨behind, hbehind⟩, hblock⟩ := ofLines?_eq_ok_iff_passes.1 hread
      obtain ⟨-, hscan⟩ := Node.scan_of_block? hblock
      rw [sayings_filter_isLeftToBody] at hscan
      have hcases := Line.outline?_cases 0 (lines.filter Line.inBody)
      rw [hscan, ← Line.filter_isBody] at hcases
      exact ⟨distinctNames_iff_bindings?.2 ⟨_, hbindings⟩, hcases⟩
  | error fault =>
      rcases ofLines?_eq_error_iff.1 hread with hbindings | ⟨hbindings, hblock⟩
      · obtain ⟨before, after, b, hlines, hdeclares, hbefore, hname⟩ := Line.bindings?_error hbindings
        have hagain := Line.mem_boundNames_iff.1 (hname.resolve_left (by simp))
        exact .binding hlines (Line.declares?_eq_some_iff.1 hdeclares)
          (distinctNames_iff_bindings?.2 hbefore) hagain
      · have hscan := Node.scan_of_block?_error hblock
        rw [sayings_filter_isLeftToBody] at hscan
        have hcases := Line.outline?_cases 0 (lines.filter Line.inBody)
        rw [hscan, ← Line.filter_isBody] at hcases
        exact .body (distinctNames_iff_bindings?.2 hbindings) hcases

/-- **A text is a document exactly if its lines are grammatical**, and where it is none, the line to blame is
given as it stands in the text, with its number. -/
theorem parse_accepts_grammar (source : String) :
    ((∃ d, parse source = .ok d) ↔ Grammatical (numberedLines source)) ∧
    ∀ fault, parse source = .error fault → Blames (numberedLines source) fault.line ∧
      1 ≤ fault.line.number ∧
      (Text.lines source.toList)[fault.line.number - 1]? = some fault.line.text.toList := by
  have hcases := ofLines?_cases (numberedLines source)
  cases hparse : parse source with
  | ok d =>
      rw [parse] at hparse
      rw [hparse] at hcases
      refine ⟨⟨fun _ => hcases, fun _ => ⟨d, rfl⟩⟩, ?_⟩
      rintro fault ⟨⟩
  | error fault =>
      rw [parse] at hparse
      rw [hparse] at hcases
      refine ⟨⟨?_, fun h => absurd h hcases.not_grammatical⟩, ?_⟩
      · rintro ⟨d, ⟨⟩⟩
      rintro _ ⟨⟩
      obtain ⟨i, hi⟩ := List.mem_iff_getElem?.1 hcases.mem
      rw [getElem?_numberedLines, Option.map_eq_some_iff] at hi
      obtain ⟨text, htext, hline⟩ := hi
      rw [← hline]
      refine ⟨hline ▸ hcases, Nat.succ_pos i, ?_⟩
      rw [String.toList_ofList]
      exact htext

/-- A line between two levels, below the head of a loop. -/
theorem parse_accepts_grammar_between_levels :
    parse "[for a in as]\n   b\n" = .error ⟨⟨2, "   b"⟩, .unexpectedIndent 2 3⟩ ∧
      Blames (numberedLines "[for a in as]\n   b\n") ⟨2, "   b"⟩ := by
  have hparse : parse "[for a in as]\n   b\n" = .error ⟨⟨2, "   b"⟩, .unexpectedIndent 2 3⟩ := by
    with_unfolding_all rfl
  exact ⟨hparse, ((parse_accepts_grammar _).2 _ hparse).1⟩

end Document

end StaticPage
