import Mathlib.Data.List.Nodup
import StaticPage.Document.Parser
import StaticPage.Proofs.Document.BodyLines
import StaticPage.Proofs.Document.Outlines

/-!
# What reading a document gives

A text is read as a document exactly if the bindings of the document are those that its lines declare,
under names of their own, and the outline of its nodes is what its body lines say. Nothing else enters
into it. What a text is read as is `Legible`: its bindings and the items of its outline are.
-/

namespace StaticPage

open Text (trim Bare)

/-! ### Bindings -/

theorem Line.bindings?_eq_ok_iff {names : List String} {lines : List Line} {bindings : List Binding} :
    Line.bindings? names lines = .ok bindings ↔ bindings = lines.filterMap Line.declares? ∧
      (bindings.map (·.name)).Nodup ∧ ∀ b ∈ bindings, b.name ∉ names := by
  induction lines generalizing names bindings with
  | nil =>
      constructor
      · intro h
        cases h
        exact ⟨rfl, List.nodup_nil, by simp⟩
      · rintro ⟨rfl, -⟩
        rfl
  | cons line rest ih =>
      rw [Line.bindings?]
      cases hdeclares : line.declares? with
      | none =>
          rw [List.filterMap_cons_none hdeclares]
          exact ih
      | some b =>
          rw [List.filterMap_cons_some hdeclares]
          dsimp only
          split
          · rename_i htaken
            simp only [reduceCtorEq, false_iff]
            rintro ⟨rfl, -, hfree⟩
            exact hfree b List.mem_cons_self (by simpa using htaken)
          · rename_i hfree
            constructor
            · intro h
              cases hrest : Line.bindings? (b.name :: names) rest with
              | error fault =>
                  rw [hrest] at h
                  cases h
              | ok others =>
                  rw [hrest] at h
                  cases h
                  obtain ⟨rfl, hnodup, hnames⟩ := ih.1 hrest
                  simp only [List.mem_cons, not_or] at hnames
                  refine ⟨rfl, ?_, ?_⟩
                  · rw [List.map_cons, List.nodup_cons]
                    refine ⟨fun hmem => ?_, hnodup⟩
                    obtain ⟨a, ha, heq⟩ := List.mem_map.1 hmem
                    exact (hnames a ha).1 heq
                  · intro a ha
                    rcases List.mem_cons.1 ha with rfl | ha
                    · simpa using hfree
                    · exact (hnames a ha).2
            · rintro ⟨rfl, hnodup, hnames⟩
              rw [List.map_cons, List.nodup_cons] at hnodup
              have hothers : ∀ a ∈ rest.filterMap Line.declares?, a.name ∉ b.name :: names := by
                intro a ha
                rw [List.mem_cons, not_or]
                refine ⟨fun heq => hnodup.1 ?_, hnames a (List.mem_cons_of_mem _ ha)⟩
                exact List.mem_map.2 ⟨a, ha, heq⟩
              rw [ih.2 ⟨rfl, hnodup.2, hothers⟩]
              rfl

/-! ### Documents -/

namespace Document

/-- What the lines of a document say. -/
structure Says (lines : List Line) (d : Document) : Prop where
  bindings_eq : d.bindings = lines.filterMap Line.declares?
  names_nodup : (d.bindings.map (·.name)).Nodup
  body : List.Forall₂ Line.Reads (lines.filter Line.inBody) (Node.outlineAll 0 d.nodes)

theorem sayings_filter_isLeftToBody (lines : List Line) :
    Node.sayings (lines.filter Line.isLeftToBody) = lines.filter Line.inBody := by
  rw [Node.sayings, List.filter_filter]
  refine List.filter_congr fun line _ => ?_
  rw [Line.isLeftToBody, Line.inBody]
  cases line.isComment <;> cases line.isBlank <;> rfl

/-- A document has its bindings from one pass over the lines and its nodes from another one. -/
theorem ofLines?_eq_ok_iff_passes {lines : List Line} {d : Document} :
    ofLines? lines = .ok d ↔ Line.bindings? [] lines = .ok d.bindings ∧
      ∃ behind, Node.block? 0 (lines.filter Line.isLeftToBody) = .ok (d.nodes, behind) := by
  cases hbindings : Line.bindings? [] lines with
  | error fault =>
      rw [ofLines?, hbindings]
      constructor
      · rintro ⟨⟩
      · rintro ⟨⟨⟩, -⟩
  | ok bindings =>
      rw [ofLines?, hbindings]
      change (Node.block? 0 (lines.filter Line.isLeftToBody) >>= _) = _ ↔ _
      cases hblock : Node.block? 0 (lines.filter Line.isLeftToBody) with
      | error fault =>
          constructor
          · rintro ⟨⟩
          · rintro ⟨-, _, ⟨⟩⟩
      | ok block =>
          constructor
          · rintro ⟨⟩
            exact ⟨rfl, block.2, rfl⟩
          · rintro ⟨hbindings, behind, hblock⟩
            cases d
            cases hbindings
            cases hblock
            rfl

theorem ofLines?_eq_error_iff {lines : List Line} {fault : SyntaxFault} :
    ofLines? lines = .error fault ↔ Line.bindings? [] lines = .error fault ∨
      (∃ bindings, Line.bindings? [] lines = .ok bindings) ∧
        Node.block? 0 (lines.filter Line.isLeftToBody) = .error fault := by
  cases hbindings : Line.bindings? [] lines with
  | error fault' =>
      rw [ofLines?, hbindings]
      constructor
      · rintro ⟨⟩
        exact .inl rfl
      · rintro (h | ⟨⟨_, h⟩, -⟩)
        · rw [Except.error.inj h]
          rfl
        · cases h
  | ok bindings =>
      rw [ofLines?, hbindings]
      change (Node.block? 0 (lines.filter Line.isLeftToBody) >>= _) = _ ↔ _
      cases hblock : Node.block? 0 (lines.filter Line.isLeftToBody) with
      | error fault' =>
          constructor
          · rintro ⟨⟩
            exact .inr ⟨⟨bindings, rfl⟩, rfl⟩
          · rintro (h | ⟨-, h⟩) <;> cases h
            rfl
      | ok block =>
          constructor
          · rintro ⟨⟩
          · rintro (h | ⟨-, h⟩) <;> cases h

/-- **Lines are read as the document that they say**, and as nothing if they say none. -/
theorem ofLines?_eq_ok_iff {lines : List Line} {d : Document} :
    ofLines? lines = .ok d ↔ d.Says lines := by
  rw [ofLines?_eq_ok_iff_passes]
  constructor
  · rintro ⟨hbindings, ⟨behind, hsuffix⟩, hblock⟩
    obtain ⟨hbindings, hnodup, -⟩ := Line.bindings?_eq_ok_iff.1 hbindings
    obtain ⟨-, hscan⟩ := Node.scan_of_block? hblock
    rw [sayings_filter_isLeftToBody] at hscan
    exact ⟨hbindings, hnodup, ((@Line.outline?_eq_ok_iff 0 _ _).1 hscan).2⟩
  · intro h
    refine ⟨Line.bindings?_eq_ok_iff.2 ⟨h.bindings_eq, h.names_nodup, by simp⟩, ?_⟩
    have hscan : Line.outline? 0 (lines.filter Line.inBody) = .ok (Node.outlineAll 0 d.nodes) :=
      (@Line.outline?_eq_ok_iff 0 _ _).2 ⟨Node.fits_outlineAll d.nodes, h.body⟩
    cases hblock : Node.block? 0 (lines.filter Line.isLeftToBody) with
    | error fault =>
        have hfault := Node.scan_of_block?_error hblock
        rw [sayings_filter_isLeftToBody, hscan] at hfault
        cases hfault
    | ok block =>
        obtain ⟨nodes, behind⟩ := block
        obtain ⟨-, hscan'⟩ := Node.scan_of_block? hblock
        rw [sayings_filter_isLeftToBody, hscan] at hscan'
        -- a tree is determined by its outline
        have hnodes : Node.outlineAll 0 d.nodes = Node.outlineAll 0 nodes := Except.ok.inj hscan'
        have hnodes : d.nodes = nodes := by
          rw [← Node.ofOutline_outlineAll 0 d.nodes, hnodes, Node.ofOutline_outlineAll]
        rw [hnodes]
        exact ⟨behind, rfl⟩

theorem parse_eq_ok_iff {source : String} {d : Document} :
    parse source = .ok d ↔ d.Says (numberedLines source) :=
  ofLines?_eq_ok_iff

/-! ### Legible documents -/

theorem exists_mem_of_forall₂ {α β : Type} {r : α → β → Prop} {as : List α} {bs : List β}
    (h : List.Forall₂ r as bs) : ∀ b ∈ bs, ∃ a ∈ as, r a b := by
  induction h with
  | nil => simp
  | cons hab _ ih =>
      intro b hb
      rcases List.mem_cons.1 hb with rfl | hb
      · exact ⟨_, List.mem_cons_self, hab⟩
      · obtain ⟨a, ha, hab⟩ := ih b hb
        exact ⟨a, List.mem_cons_of_mem _ ha, hab⟩

structure Legible (d : Document) : Prop where
  bindings : ∀ b ∈ d.bindings, b.Legible
  names_nodup : (d.bindings.map (·.name)).Nodup
  items : ∀ entry ∈ Node.outlineAll 0 d.nodes, entry.2.Legible

theorem newline_numberedLines {source : String} {line : Line} (h : line ∈ numberedLines source) :
    '\n' ∉ line.text.toList := by
  rw [numberedLines, List.mem_map] at h
  obtain ⟨⟨text, number⟩, hmem, rfl⟩ := h
  rw [String.toList_ofList]
  exact Text.not_mem_of_mem_lines (List.fst_mem_of_mem_zipIdx hmem)

theorem legible_of_declares? {line : Line} {b : Binding} (hline : '\n' ∉ line.text.toList)
    (h : line.declares? = some b) : b.Legible := by
  rw [Line.declares?] at h
  split at h
  · cases h
  · exact Line.legible_of_binding? hline h

theorem legible_of_reads {line : Line} {entry : Nat × Item} (hline : '\n' ∉ line.text.toList)
    (hbody : line.inBody = true) (h : line.Reads entry) : entry.2.Legible := by
  simp only [Line.inBody, Line.isComment, Line.isBlank, Bool.and_eq_true, Bool.not_eq_true',
    beq_eq_false_iff_ne, List.isEmpty_eq_false_iff] at hbody
  exact Item.legible_of_ofText? hbody.1.2 (Text.bare_trim _) hbody.1.1
    (fun hc => hline ((Text.trim_isInfix _).subset hc)) h.item

theorem legible_of_parse {source : String} {d : Document} (h : parse source = .ok d) : d.Legible := by
  have hread := parse_eq_ok_iff.1 h
  refine ⟨?_, hread.names_nodup, ?_⟩
  · rw [hread.bindings_eq]
    intro b hb
    obtain ⟨line, hline, hdeclares⟩ := List.mem_filterMap.1 hb
    exact legible_of_declares? (newline_numberedLines hline) hdeclares
  · intro entry hentry
    obtain ⟨line, hline, hreads⟩ := exists_mem_of_forall₂ hread.body entry hentry
    obtain ⟨hmem, hbody⟩ := List.mem_filter.1 hline
    exact legible_of_reads (newline_numberedLines hmem) hbody hreads

end Document

end StaticPage
