import StaticPage.Proofs.Document.Reading

/-!
# The canonical form read back

The canonical form of a legible document is a list of lines, and reading it back goes line by line: the
lines of the bindings declare the bindings, the blank line says nothing, and the lines of the body say what
they were written for, unless a loop head is not plain or a field at the margin has the form of a binding.
Each of these exceptions shows in the document that is read, if there is one: a misread head gives another
item at its place of the outline, and a field that is taken for a binding gives one binding too many.
-/

namespace StaticPage

open Text (trim Bare)

/-! ### Lines without their numbers -/

/-- A line with a number of no importance. -/
def Line.anon (text : List Char) : Line :=
  ⟨0, String.ofList text⟩

theorem Line.anon_text (line : Line) : Line.anon line.text.toList = ⟨0, line.text⟩ := by
  rw [Line.anon, String.ofList_toList]

theorem Line.unplaced_declares? (line : Line) :
    line.declares?.map Binding.unplaced = (Line.anon line.text.toList).declares? := by
  rw [anon_text, declares?, declares?]
  change Option.map _ (if line.isComment || line.isBlank then none else _)
    = if line.isComment || line.isBlank then none else _
  split
  · rfl
  · rw [binding?, binding?, Option.map_map]
    refine Option.map_congr fun sides _ => ?_
    obtain ⟨marked, name, right⟩ := sides
    simp only [Function.comp_apply]
    split <;> rfl

theorem Line.inBody_anon (line : Line) : (Line.anon line.text.toList).inBody = line.inBody := by
  rw [anon_text, inBody, inBody, binding?, binding?, Option.isNone_map, Option.isNone_map]
  rfl

theorem Line.reads_anon (line : Line) (entry : Nat × Item) :
    (Line.anon line.text.toList).Reads entry ↔ line.Reads entry := by
  rw [anon_text]
  exact ⟨fun h => ⟨h.indent, h.item⟩, fun h => ⟨h.indent, h.item⟩⟩

/-- What lines say does not depend on their numbers, apart from the lines of the bindings. -/
theorem unplaced_filterMap_declares? (lines : List Line) :
    (lines.filterMap Line.declares?).map Binding.unplaced
      = (lines.map (·.text.toList)).filterMap fun text => (Line.anon text).declares? := by
  rw [List.map_filterMap, List.filterMap_map]
  refine List.filterMap_congr fun line _ => ?_
  rw [Function.comp_apply, line.unplaced_declares?]

theorem filter_inBody (lines : List Line) :
    (lines.filter Line.inBody).map (·.text.toList)
      = (lines.map (·.text.toList)).filter fun text => (Line.anon text).inBody := by
  rw [List.filter_map]
  refine congrArg _ (List.filter_congr fun line _ => ?_)
  rw [Function.comp_apply, line.inBody_anon]

/-! ### The lines of the canonical form -/

namespace Item

variable {item : Item} {depth : Nat}

theorem Legible.not_comment_or_blank (h : item.Legible) (depth : Nat) :
    (Line.anon (lineText depth item)).isComment = false ∧
      (Line.anon (lineText depth item)).isBlank = false := by
  rw [Line.isComment, Line.isBlank, Line.anon, String.toList_ofList, h.trim_lineText]
  exact ⟨beq_eq_false_iff_ne.2 h.head?_text, List.isEmpty_eq_false_iff.2 h.text_ne⟩

theorem Legible.declares?_lineText_eq_none_iff (h : item.Legible) :
    (Line.anon (lineText depth item)).declares? = none ↔ ¬ LikeBinding depth item := by
  obtain ⟨hcomment, hblank⟩ := h.not_comment_or_blank depth
  rw [Line.declares?, hcomment, hblank, ← sides?_lineText, Line.binding?, Line.anon,
    String.toList_ofList]
  simp

theorem Legible.inBody_lineText (h : item.Legible) (hlike : ¬ LikeBinding depth item) :
    (Line.anon (lineText depth item)).inBody = true := by
  obtain ⟨hcomment, hblank⟩ := h.not_comment_or_blank depth
  have hdeclares := h.declares?_lineText_eq_none_iff.2 hlike
  rw [Line.declares?, hcomment, hblank] at hdeclares
  simp only [Bool.or_self, Bool.false_eq_true, if_false] at hdeclares
  rw [Line.inBody, hcomment, hblank, hdeclares]
  rfl

theorem Legible.reads_lineText_iff (h : item.Legible) (entry : Nat × Item) :
    (Line.anon (lineText depth item)).Reads entry ↔
      depth = entry.1 ∧ ofText? item.text = .ok entry.2 := by
  have htrim : trim (Line.anon (lineText depth item)).text.toList = item.text := by
    rw [Line.anon, String.toList_ofList, h.trim_lineText]
  have hindent : (Line.anon (lineText depth item)).indent = 2 * depth := h.indent_lineText 0
  constructor
  · rintro ⟨hentry, hitem⟩
    rw [hindent] at hentry
    rw [htrim] at hitem
    exact ⟨by omega, hitem⟩
  · rintro ⟨rfl, hitem⟩
    exact ⟨hindent, by rw [htrim, hitem]⟩

end Item

namespace Document

variable {d : Document}

/-- The blank line between bindings and body, where both are there. -/
def gap (d : Document) : List (List Char) :=
  if d.bindings.isEmpty || d.nodes.isEmpty then [] else [[]]

def bodyLines (d : Document) : List (List Char) :=
  (Node.outlineAll 0 d.nodes).map fun entry => Item.lineText entry.1 entry.2

def written (d : Document) : List (List Char) :=
  d.bindings.map Binding.text ++ (d.gap ++ d.bodyLines)

theorem text_eq (d : Document) : d.text = d.written.flatMap (· ++ ['\n']) := by
  have hgap : d.gap.flatMap (· ++ ['\n'])
      = if d.bindings.isEmpty || d.nodes.isEmpty then [] else ['\n'] := by
    rw [gap]
    split <;> rfl
  rw [text, written, bodyLines, List.flatMap_append, List.flatMap_append, hgap, List.flatMap_map,
    List.flatMap_map, List.append_assoc]
  rfl

theorem Legible.numberedLines_print (h : d.Legible) :
    (numberedLines d.print).map (·.text.toList) = d.written := by
  have hlines : ∀ t ∈ d.written, '\n' ∉ t ∧ t.getLast? ≠ some '\r' := by
    intro t ht
    rcases List.mem_append.1 ht with ht | ht
    · obtain ⟨b, hb, rfl⟩ := List.mem_map.1 ht
      exact ⟨(h.bindings b hb).newline_text, (h.bindings b hb).getLast?_text⟩
    · rcases List.mem_append.1 ht with ht | ht
      · rw [gap] at ht
        split at ht
        · cases ht
        · cases List.mem_singleton.1 ht
          decide
      · obtain ⟨entry, hentry, rfl⟩ := List.mem_map.1 ht
        have hitem := h.items entry hentry
        refine ⟨hitem.newline_lineText, ?_⟩
        rw [Item.lineText, List.getLast?_append_of_ne_nil _ hitem.text_ne]
        intro hlast
        exact absurd (hitem.bare_text.last _ hlast) (by decide)
  rw [print, numberedLines, String.toList_ofList, text_eq, Text.lines_flatMap hlines, List.map_map]
  refine Eq.trans (List.map_congr_left fun e _ => ?_) (List.zipIdx_map_fst 1 d.written)
  exact String.toList_ofList

/-! ### Reading the canonical form back -/

/-- A document of which no line is misread. -/
structure Plain (d : Document) : Prop where
  fields : ∀ path, .field path ∈ d.nodes → Header.sides? path.toList = none
  heads : ∀ depth header, (depth, .loop header) ∈ Node.outlineAll 0 d.nodes → header.Plain

/-- What the lines of the canonical form declare: the bindings, and what the body has of the form of a
binding. -/
theorem Legible.declares?_written (h : d.Legible) :
    d.written.filterMap (fun text => (Line.anon text).declares?)
      = d.bindings.map Binding.unplaced
        ++ d.bodyLines.filterMap fun text => (Line.anon text).declares? := by
  have hbindings : (d.bindings.map Binding.text).filterMap (fun text => (Line.anon text).declares?)
      = d.bindings.map Binding.unplaced := by
    rw [List.filterMap_map, ← List.filterMap_eq_map]
    refine List.filterMap_congr fun b hb => ?_
    exact (h.bindings b hb).declares?_text 0
  have hgap : d.gap.filterMap (fun text => (Line.anon text).declares?) = [] := by
    rw [gap]
    split <;> rfl
  rw [written, List.filterMap_append, List.filterMap_append, hbindings, hgap, List.nil_append]

theorem Legible.inBody_written (h : d.Legible)
    (hlike : ∀ entry ∈ Node.outlineAll 0 d.nodes, ¬ Item.LikeBinding entry.1 entry.2) :
    d.written.filter (fun text => (Line.anon text).inBody) = d.bodyLines := by
  have hbindings : (d.bindings.map Binding.text).filter (fun text => (Line.anon text).inBody) = [] := by
    rw [List.filter_eq_nil_iff]
    intro t ht
    obtain ⟨b, hb, rfl⟩ := List.mem_map.1 ht
    have hdeclares := (h.bindings b hb).binding?_text 0
    rw [Line.inBody, Line.anon, hdeclares]
    simp
  have hgap : d.gap.filter (fun text => (Line.anon text).inBody) = [] := by
    rw [gap]
    split <;> rfl
  have hbody : d.bodyLines.filter (fun text => (Line.anon text).inBody) = d.bodyLines := by
    rw [List.filter_eq_self]
    intro t ht
    obtain ⟨entry, hentry, rfl⟩ := List.mem_map.1 ht
    exact (h.items entry hentry).inBody_lineText (hlike entry hentry)
  rw [written, List.filter_append, List.filter_append, hbindings, hgap, hbody]
  rfl

/-- Nothing in the body is taken for a binding exactly if the lines of the canonical form declare the
bindings alone. -/
theorem Legible.declares?_written_iff (h : d.Legible) :
    d.written.filterMap (fun text => (Line.anon text).declares?) = d.bindings.map Binding.unplaced ↔
      ∀ entry ∈ Node.outlineAll 0 d.nodes, ¬ Item.LikeBinding entry.1 entry.2 := by
  rw [h.declares?_written, List.append_right_eq_self, bodyLines, List.filterMap_map,
    List.filterMap_eq_nil_iff]
  refine forall₂_congr fun entry hentry => ?_
  exact (h.items entry hentry).declares?_lineText_eq_none_iff

theorem Legible.reads_bodyLines_iff (h : d.Legible) :
    List.Forall₂ (fun text entry => (Line.anon text).Reads entry) d.bodyLines
        (Node.outlineAll 0 d.nodes) ↔
      ∀ entry ∈ Node.outlineAll 0 d.nodes, entry.2.Plain := by
  rw [bodyLines, List.forall₂_map_left_iff, List.forall₂_same]
  refine forall₂_congr fun entry hentry => ?_
  have hitem := h.items entry hentry
  rw [hitem.reads_lineText_iff, ← hitem.ofText?_text_iff]
  exact and_iff_right rfl

theorem plain_iff : d.Plain ↔
    (∀ entry ∈ Node.outlineAll 0 d.nodes, ¬ Item.LikeBinding entry.1 entry.2) ∧
      ∀ entry ∈ Node.outlineAll 0 d.nodes, entry.2.Plain := by
  constructor
  · intro h
    refine ⟨?_, ?_⟩
    · rintro ⟨_, _⟩ hentry ⟨path, rfl, rfl, hsides⟩
      rw [h.fields path (Node.field_mem_outlineAll_iff.1 hentry)] at hsides
      cases hsides
    · rintro ⟨depth, item⟩ hentry
      cases item with
      | loop header => exact h.heads depth header hentry
      | prose | field => exact trivial
  · rintro ⟨hlike, hplain⟩
    refine ⟨fun path hpath => ?_, fun depth header hentry => hplain _ hentry⟩
    have := hlike _ (Node.field_mem_outlineAll_iff.2 hpath)
    rw [← Option.not_isSome_iff_eq_none]
    exact fun hsides => this ⟨path, rfl, rfl, hsides⟩

theorem names_unplaced (bindings : List Binding) :
    (bindings.map Binding.unplaced).map (fun b => b.name) = bindings.map fun b => b.name := by
  rw [List.map_map]
  exact List.map_congr_left fun _ _ => rfl

theorem Legible.says_iff (h : d.Legible) {lines : List Line}
    (hlines : lines.map (·.text.toList) = d.written) :
    (∃ d', Says lines d' ∧ d'.unplaced = d.unplaced) ↔ d.Plain := by
  have hdeclares := unplaced_filterMap_declares? lines
  have hbody := filter_inBody lines
  rw [hlines] at hdeclares hbody
  have hreads (entries : List (Nat × Item)) :
      List.Forall₂ Line.Reads (lines.filter Line.inBody) entries ↔
        List.Forall₂ (fun text entry => (Line.anon text).Reads entry)
          ((lines.filter Line.inBody).map (·.text.toList)) entries := by
    rw [List.forall₂_map_left_iff]
    simp only [Line.reads_anon]
  rw [plain_iff]
  constructor
  · rintro ⟨d', ⟨hbindings, -, hread⟩, hequal⟩
    obtain ⟨hequal_bindings, hequal_nodes⟩ := Document.mk.inj hequal
    rw [hbindings, hdeclares] at hequal_bindings
    have hlike := h.declares?_written_iff.1 hequal_bindings
    rw [hequal_nodes, hreads, hbody, h.inBody_written hlike] at hread
    exact ⟨hlike, h.reads_bodyLines_iff.1 hread⟩
  · rintro ⟨hlike, hplain⟩
    have hbindings := hdeclares.trans (h.declares?_written_iff.2 hlike)
    refine ⟨⟨lines.filterMap Line.declares?, d.nodes⟩, ⟨rfl, ?_, ?_⟩,
      congrArg₂ Document.mk hbindings rfl⟩
    · have hnames := congrArg (List.map fun b : Binding => b.name) hbindings
      rw [names_unplaced, names_unplaced] at hnames
      rw [hnames]
      exact h.names_nodup
    · rw [hreads, hbody, h.inBody_written hlike]
      exact h.reads_bodyLines_iff.2 hplain

/-- A legible document is read back from its canonical form, up to the lines of its bindings, exactly if
no line of the form is misread. -/
theorem Legible.readBack_iff (h : d.Legible) :
    (∃ d', parse d.print = .ok d' ∧ d'.unplaced = d.unplaced) ↔ d.Plain := by
  rw [← h.says_iff h.numberedLines_print]
  simp only [parse_eq_ok_iff]

/-- **A document is read back from its canonical form**, up to the lines of its bindings, exactly if no
field at the margin has the form of a binding, no loop has variables that make the word ` in ` with the
blanks around them, and no list of sort keys begins with a caret. -/
theorem parse_print_iff {source : String} (h : parse source = .ok d) :
    (∃ d', parse d.print = .ok d' ∧ d'.unplaced = d.unplaced) ↔ d.Plain :=
  (legible_of_parse h).readBack_iff

/-- A list that a caret makes ascending is written with a caret at each key, and is read back. -/
theorem parse_print_iff_ascending :
    let d : Document := ⟨[⟨"a", "t", .eager "http://x", 1⟩],
      [.loop ⟨["k", "v"], "a", [⟨"v", true⟩]⟩ [.field "k", .prose "n" "x: y"]]⟩
    parse "a = t << http://x\n[for k, v in a: ^v]\n  k\n  \x7bn: x: y\x7d\n" = .ok d ∧
      ∃ d', parse d.print = .ok d' ∧ d'.unplaced = d.unplaced := by
  intro d
  have hparse : parse "a = t << http://x\n[for k, v in a: ^v]\n  k\n  \x7bn: x: y\x7d\n" = .ok d := by
    with_unfolding_all rfl
  have hplain : d.Plain := by
    refine ⟨by simp [d], ?_⟩
    intro depth header hheader
    simp only [d, Node.outlineAll, Node.outline, List.append_nil, List.mem_cons, Prod.mk.injEq,
      Item.loop.injEq, reduceCtorEq, and_false, List.not_mem_nil, or_false, List.mem_append] at hheader
    obtain ⟨-, rfl⟩ := hheader
    refine ⟨by decide, ?_⟩
    rintro ⟨k, hk, hcaret⟩
    cases hk
    exact absurd hcaret (by decide)
  exact ⟨hparse, (parse_print_iff hparse).2 hplain⟩

/-- A field with the form of a binding, which a tab keeps from being one, is written without the tab. -/
theorem parse_print_tab : ∃ d, parse "\ta = b\n" = .ok d ∧
    ¬ ∃ d', parse d.print = .ok d' ∧ d'.unplaced = d.unplaced := by
  have hparse : parse "\ta = b\n" = .ok ⟨[], [.field "a = b"]⟩ := by
    with_unfolding_all rfl
  refine ⟨_, hparse, ?_⟩
  rw [(legible_of_parse hparse).readBack_iff]
  intro hplain
  have hsides : Header.sides? "a = b".toList = some (false, ['a'], ['b']) := by
    with_unfolding_all rfl
  have := hplain.fields "a = b" List.mem_cons_self
  rw [hsides] at this
  cases this

end Document

end StaticPage
