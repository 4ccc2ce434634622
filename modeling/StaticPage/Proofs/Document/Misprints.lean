import StaticPage.Proofs.Document.RoundTrip
import StaticPage.Proofs.Document.Spelling

/-!
# Documents whose canonical form says something else

Three shapes are misread when they are written in the canonical form: a field at the margin that has the form
of a binding, loop variables that make the word ` in ` with the blanks around them, and a first sort path that
begins with a caret. Here they are described on the tree itself, with loops at any depth, `Node.Inside`. They
are the only ones, and none of them is ever read as what it was: `printed_form_boundary`.
-/

namespace StaticPage

/-! ### Loops at any depth -/

/-- A node is one of some nodes, or stands at any depth in the body of a loop among them. -/
inductive Node.Inside (n : Node) : List Node → Prop where
  | among {nodes : List Node} (h : n ∈ nodes) : Inside n nodes
  | nested {nodes body : List Node} {header : LoopHeader} (hloop : .loop header body ∈ nodes)
      (h : Inside n body) : Inside n nodes

namespace Node

variable {header : LoopHeader} {body nodes : List Node}

theorem Inside.mono {n : Node} {more : List Node} (h : Inside n nodes) (hsubset : nodes ⊆ more) :
    Inside n more := by
  cases h with
  | among hn => exact .among (hsubset hn)
  | nested hloop hn => exact .nested (hsubset hloop) hn

theorem outline_subset {n : Node} (depth : Nat) (hn : n ∈ nodes) :
    outline depth n ⊆ outlineAll depth nodes := by
  obtain ⟨front, rest, rfl⟩ := List.append_of_mem hn
  rw [outlineAll_append, outlineAll]
  exact List.subset_append_of_subset_right _ (List.subset_append_left _ _)

/-- A loop at any depth has its head in the outline. -/
theorem Inside.exists_mem_outlineAll (h : Inside (.loop header body) nodes) (depth : Nat) :
    ∃ level, (level, Item.loop header) ∈ outlineAll depth nodes := by
  induction h generalizing depth with
  | among hn => exact ⟨depth, outline_subset depth hn (by simp [outline])⟩
  | nested hloop _ ih =>
      obtain ⟨level, hlevel⟩ := ih (depth + 1)
      exact ⟨level, outline_subset depth hloop (by rw [outline]; exact List.mem_cons_of_mem _ hlevel)⟩

mutual

theorem inside_of_mem_outline {level : Nat} (depth : Nat) :
    (n : Node) → (level, Item.loop header) ∈ outline depth n → ∃ body, Inside (.loop header body) [n]
  | .prose id text => by simp [outline]
  | .field path => by simp [outline]
  | .loop other body => by
      intro h
      rw [outline, List.mem_cons] at h
      rcases h with heq | h
      · cases heq
        exact ⟨body, .among List.mem_cons_self⟩
      · obtain ⟨inner, hinner⟩ := inside_of_mem_outlineAll (depth + 1) body h
        exact ⟨inner, .nested List.mem_cons_self hinner⟩

theorem inside_of_mem_outlineAll {level : Nat} (depth : Nat) :
    (nodes : List Node) → (level, Item.loop header) ∈ outlineAll depth nodes →
      ∃ body, Inside (.loop header body) nodes
  | [] => by simp [outlineAll]
  | n :: rest => by
      intro h
      rw [outlineAll, List.mem_append] at h
      rcases h with h | h
      · obtain ⟨body, hbody⟩ := inside_of_mem_outline depth n h
        exact ⟨body, hbody.mono (by simp)⟩
      · obtain ⟨body, hbody⟩ := inside_of_mem_outlineAll depth rest h
        exact ⟨body, hbody.mono (List.subset_cons_self _ _)⟩

end

/-- The loop heads in an outline are those of the loops at any depth. -/
theorem forall_loop_iff {p : LoopHeader → Prop} :
    (∀ level header, (level, Item.loop header) ∈ outlineAll 0 nodes → p header) ↔
      ∀ header body, Inside (.loop header body) nodes → p header := by
  constructor
  · intro h header body hinside
    obtain ⟨level, hmem⟩ := hinside.exists_mem_outlineAll 0
    exact h level header hmem
  · intro h level header hmem
    obtain ⟨body, hinside⟩ := inside_of_mem_outlineAll 0 nodes hmem
    exact h header body hinside

end Node

/-! ### Shapes that are misread -/

theorem Header.sides?_eq_none_iff {s : List Char} : sides? s = none ↔ ¬ Declares s := by
  rw [declares_iff_isSome, Option.not_isSome_iff_eq_none]

namespace LoopHeader

variable {h : LoopHeader}

/-- The variables make the word ` in ` with the blanks around them. -/
def HidesWord (h : LoopHeader) : Prop :=
  " in ".toList <:+: ", ".toList.intercalate (h.vars.map String.toList) ++ [' ']

def BeginsWithCaret (h : LoopHeader) : Prop :=
  ∃ k ∈ h.sort.head?, ['^'] <+: k.path.toList

theorem plain_iff_shapes : h.Plain ↔ ¬ h.HidesWord ∧ ¬ h.BeginsWithCaret := by
  have hcaret (s : List Char) : s.head? = some '^' ↔ ['^'] <+: s := by
    cases s <;> simp [eq_comm]
  have hsort : SortKey.Careted h.sort ↔ h.BeginsWithCaret := by
    simp only [SortKey.Careted, BeginsWithCaret, hcaret]
  rw [← hsort]
  exact ⟨fun hplain => ⟨hplain.vars, hplain.sort⟩, fun hshapes => ⟨hshapes.1, hshapes.2⟩⟩

end LoopHeader

namespace Document

variable {d : Document}

theorem plain_iff_inside : d.Plain ↔
    (∀ path, .field path ∈ d.nodes → ¬ Header.Declares path.toList) ∧
      ∀ header body, Node.Inside (.loop header body) d.nodes →
        ¬ header.HidesWord ∧ ¬ header.BeginsWithCaret := by
  have hheads : (∀ level header, (level, Item.loop header) ∈ Node.outlineAll 0 d.nodes → header.Plain) ↔
      ∀ header body, Node.Inside (.loop header body) d.nodes →
        ¬ header.HidesWord ∧ ¬ header.BeginsWithCaret := by
    simp only [LoopHeader.plain_iff_shapes]
    exact Node.forall_loop_iff
  rw [← hheads]
  simp only [← Header.sides?_eq_none_iff]
  exact ⟨fun hplain => ⟨hplain.fields, hplain.heads⟩, fun h => ⟨h.1, h.2⟩⟩

/-- **The boundary of the canonical form.** A document that was read is read back from its canonical form, up
to the lines of its bindings, if and only if no field at the margin has the form of a binding, no loop at any
depth has variables that make the word ` in `, and no loop at any depth has a first sort path that begins
with a caret. -/
theorem printed_form_boundary {source : String} (h : parse source = .ok d) :
    (∃ d', parse d.print = .ok d' ∧ d'.unplaced = d.unplaced) ↔
      (∀ path, .field path ∈ d.nodes → ¬ Header.Declares path.toList) ∧
        (∀ header body, Node.Inside (.loop header body) d.nodes → ¬ header.HidesWord) ∧
        ∀ header body, Node.Inside (.loop header body) d.nodes → ¬ header.BeginsWithCaret := by
  rw [(legible_of_parse h).readBack_iff, plain_iff_inside]
  simp only [forall_and]

/-- The caret in front of a list of sort keys is no part of its first path, but a second one is. Below another
loop, too, it is lost when the list is read again. -/
theorem printed_form_boundary_caret :
    let header : LoopHeader := ⟨["b"], "a", [⟨"^c", true⟩]⟩
    let d : Document := ⟨[], [.loop ⟨["a"], "as", []⟩ [.loop header [.field "b = c"]]]⟩
    parse "[for a in as]\n  [for b in a: ^ ^c]\n    b = c\n" = .ok d ∧
      Node.Inside (.loop header [.field "b = c"]) d.nodes ∧ header.BeginsWithCaret ∧
      ¬ ∃ d', parse d.print = .ok d' ∧ d'.unplaced = d.unplaced := by
  intro header d
  have hparse : parse "[for a in as]\n  [for b in a: ^ ^c]\n    b = c\n" = .ok d := by
    with_unfolding_all rfl
  have hinside : Node.Inside (.loop header [.field "b = c"]) d.nodes :=
    .nested List.mem_cons_self (.among List.mem_cons_self)
  have hcaret : header.BeginsWithCaret := ⟨⟨"^c", true⟩, rfl, ['c'], rfl⟩
  refine ⟨hparse, hinside, hcaret, fun hread => ?_⟩
  exact ((printed_form_boundary hparse).1 hread).2.2 header _ hinside hcaret

end Document

end StaticPage
