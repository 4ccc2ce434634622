import Mathlib.Logic.Relation
import StaticPage.Proofs.Document.RoundTrip

/-!
# Rearranged documents

Blank lines and comments may be put anywhere, and a binding line may be moved past lines that bind
nothing. Such edits keep two lists of lines, the binding lines and the body lines, each in its order
(`relaid_iff`), and they can reach every text with the same two lists. Reading a text needs nothing
else of it: the bindings come from the one list, and the nodes from the outline of the other one
(`ofLines?_eq`). The numbers of the lines are only passed on.
-/

namespace StaticPage

open Relation (EqvGen)

/-! ### Reading without numbers -/

def SyntaxFault.unplaced (fault : SyntaxFault) : SyntaxFault :=
  { fault with line := { fault.line with number := 0 } }

def Line.unplaced (line : Line) : Line :=
  { line with number := 0 }

/-- What a reader gives, where `f` takes the numbers of lines out of a result. -/
def unplacing {α β : Type} (f : α → β) : Except SyntaxFault α → Except SyntaxFault β
  | .ok a => .ok (f a)
  | .error fault => .error fault.unplaced

namespace Line

@[simp] theorem text_unplaced (line : Line) : line.unplaced.text = line.text := rfl

@[simp] theorem indent_unplaced (line : Line) : line.unplaced.indent = line.indent := rfl

theorem declares?_unplaced (line : Line) :
    line.unplaced.declares? = line.declares?.map Binding.unplaced := by
  rw [unplaced_declares?, anon_text]
  rfl

theorem inBody_unplaced (line : Line) : line.unplaced.inBody = line.inBody := by
  rw [← inBody_anon line, anon_text]
  rfl

theorem bindings?_unplaced (names : List String) (lines : List Line) :
    bindings? names (lines.map unplaced) =
      unplacing (List.map Binding.unplaced) (bindings? names lines) := by
  induction lines generalizing names with
  | nil => rfl
  | cons line rest ih =>
      rw [List.map_cons, bindings?, bindings?, declares?_unplaced]
      cases line.declares? with
      | none => exact ih names
      | some b =>
          show (if names.contains b.name then _ else _) = unplacing _ (if _ then _ else _)
          split
          · rfl
          · rw [show b.unplaced.name = b.name from rfl, ih]
            cases bindings? (b.name :: names) rest <;> rfl

theorem outline?_unplaced (reach : Nat) (lines : List Line) :
    outline? reach (lines.map unplaced) = unplacing id (outline? reach lines) := by
  induction lines generalizing reach with
  | nil => rfl
  | cons line rest ih =>
      rw [List.map_cons, outline?, outline?]
      simp only [indent_unplaced, text_unplaced, ih]
      by_cases hdeep : reach < line.indent
      · simp only [hdeep, if_true]
        rfl
      by_cases hodd : line.indent % 2 = 1
      · simp only [hdeep, hodd, if_true, if_false]
        rfl
      simp only [hdeep, hodd, if_false]
      cases Item.ofText? (Text.trim line.text.toList) with
      | error cause => rfl
      | ok item =>
          dsimp only
          cases outline? (item.reach line.indent) rest <;> rfl

theorem bindings?_filter (names : List String) (lines : List Line) :
    bindings? names (lines.filter (·.declares?.isSome)) = bindings? names lines := by
  induction lines generalizing names with
  | nil => rfl
  | cons line rest ih =>
      cases hline : line.declares? with
      | none =>
          rw [List.filter_cons_of_neg (by simp [hline]), ih, bindings?, hline]
      | some b =>
          rw [List.filter_cons_of_pos (by simp [hline]), bindings?, bindings?, hline]
          dsimp only
          rw [ih]

end Line

namespace Document

/-- A document has its bindings from its binding lines and its nodes from the outline of its body
lines. -/
theorem ofLines?_eq (lines : List Line) :
    ofLines? lines = (do
      let bindings ← Line.bindings? [] (lines.filter (·.declares?.isSome))
      let outline ← Line.outline? 0 (lines.filter Line.inBody)
      .ok { bindings, nodes := Node.ofOutline outline }) := by
  rw [Line.bindings?_filter, ofLines?]
  cases Line.bindings? [] lines with
  | error fault => rfl
  | ok bindings =>
      show (Node.block? 0 (lines.filter Line.isLeftToBody) >>= _) = _ >>= _
      rw [← sayings_filter_isLeftToBody]
      cases hblock : Node.block? 0 (lines.filter Line.isLeftToBody) with
      | error fault =>
          rw [Node.scan_of_block?_error hblock]
          rfl
      | ok block =>
          rw [(Node.scan_of_block? hblock).2]
          show Except.ok _ = Except.ok _
          rw [Node.ofOutline_outlineAll]

theorem ofLines?_unplaced (lines : List Line) :
    ofLines? (lines.map Line.unplaced) = unplacing unplaced (ofLines? lines) := by
  have hdeclares : (lines.map Line.unplaced).filter (·.declares?.isSome) =
      (lines.filter (·.declares?.isSome)).map Line.unplaced := by
    rw [List.filter_map]
    refine congrArg _ (List.filter_congr fun line _ => ?_)
    simp [Line.declares?_unplaced]
  have hbody : (lines.map Line.unplaced).filter Line.inBody =
      (lines.filter Line.inBody).map Line.unplaced := by
    rw [List.filter_map]
    exact congrArg _ (List.filter_congr fun line _ => line.inBody_unplaced)
  rw [ofLines?_eq, ofLines?_eq, hdeclares, hbody, Line.bindings?_unplaced, Line.outline?_unplaced]
  cases Line.bindings? [] (lines.filter (·.declares?.isSome)) with
  | error fault => rfl
  | ok bindings => cases Line.outline? 0 (lines.filter Line.inBody) <;> rfl

theorem unplaced_numberedLines (source : String) :
    (numberedLines source).map Line.unplaced = (Text.lines source.toList).map Line.anon := by
  rw [numberedLines, List.map_map]
  show ((Text.lines source.toList).zipIdx 1).map (Line.anon ∘ Prod.fst) = _
  rw [← List.map_map, List.zipIdx_map_fst]

/-- What reading a text gives, without the numbers of its lines, is what its lines give that have
none. -/
theorem unplacing_parse (source : String) :
    unplacing unplaced (parse source) = ofLines? ((Text.lines source.toList).map Line.anon) := by
  rw [parse, ← ofLines?_unplaced, unplaced_numberedLines]

/-! ### Edits -/

/-- A line that says nothing: a blank line or a comment. -/
def Idle (text : List Char) : Prop :=
  (Line.anon text).isBlank = true ∨ (Line.anon text).isComment = true

def binds (text : List Char) : Bool :=
  (Line.anon text).declares?.isSome

def isBody (text : List Char) : Bool :=
  (Line.anon text).inBody

/-- One edit of the lines of a text: a line that says nothing is put somewhere, or a binding line is
moved past lines that bind nothing. -/
inductive Edit : List (List Char) → List (List Char) → Prop where
  | insert (front back : List (List Char)) {line : List Char} (hline : Idle line) :
      Edit (front ++ back) (front ++ line :: back)
  | move (front passed back : List (List Char)) {line : List Char} (hline : binds line = true)
      (hpassed : ∀ text ∈ passed, binds text = false) :
      Edit (front ++ line :: (passed ++ back)) (front ++ (passed ++ line :: back))

/-- Any number of edits were made, or taken back. -/
def Relaid : List (List Char) → List (List Char) → Prop :=
  EqvGen Edit

theorem line_cases (text : List Char) :
    Idle text ∧ binds text = false ∧ isBody text = false ∨
      binds text = true ∧ isBody text = false ∨ binds text = false ∧ isBody text = true := by
  simp only [Idle, binds, isBody, Line.declares?, Line.inBody]
  cases (Line.anon text).isComment <;> cases (Line.anon text).isBlank <;>
    cases (Line.anon text).binding? <;> simp

theorem Idle.not_binds {text : List Char} (h : Idle text) : binds text = false := by
  simp only [binds, Line.declares?]
  rcases h with h | h <;> simp [h]

theorem Idle.not_isBody {text : List Char} (h : Idle text) : isBody text = false := by
  simp only [isBody, Line.inBody]
  rcases h with h | h <;> simp [h]

theorem not_isBody_of_binds {text : List Char} (h : binds text = true) : isBody text = false := by
  rcases line_cases text with ⟨-, hb, -⟩ | ⟨-, hi⟩ | ⟨hb, -⟩
  · rw [h] at hb
    cases hb
  · exact hi
  · rw [h] at hb
    cases hb

variable {texts texts' : List (List Char)}

theorem Edit.filter_eq (h : Edit texts texts') :
    texts.filter binds = texts'.filter binds ∧ texts.filter isBody = texts'.filter isBody := by
  cases h with
  | insert front back hline => simp [hline.not_binds, hline.not_isBody]
  | move front passed back hline hpassed =>
      have hnone : passed.filter binds = [] := by
        rw [List.filter_eq_nil_iff]
        intro text htext
        simp [hpassed text htext]
      simp [hline, hnone, not_isBody_of_binds hline]

theorem Edit.cons (text : List Char) (h : Edit texts texts') : Edit (text :: texts) (text :: texts') := by
  cases h with
  | insert front back hline => exact .insert (text :: front) back hline
  | move front passed back hline hpassed => exact .move (text :: front) passed back hline hpassed

theorem Relaid.cons (text : List Char) (h : Relaid texts texts') :
    Relaid (text :: texts) (text :: texts') := by
  induction h with
  | rel _ _ h => exact .rel _ _ (h.cons text)
  | refl _ => exact .refl _
  | symm _ _ _ ih => exact .symm _ _ ih
  | trans _ _ _ _ _ ih ih' => exact .trans _ _ _ ih ih'

/-- A line of the body can be passed by any number of binding lines. -/
theorem relaid_pass {text : List Char} (htext : binds text = false) (bindings back : List (List Char))
    (hbindings : ∀ line ∈ bindings, binds line = true) :
    Relaid (text :: (bindings ++ back)) (bindings ++ text :: back) := by
  induction bindings with
  | nil => exact .refl _
  | cons line rest ih =>
      have hmove : Edit (line :: ([text] ++ (rest ++ back))) ([text] ++ line :: (rest ++ back)) :=
        .move [] [text] (rest ++ back) (hbindings line List.mem_cons_self) (by simpa using htext)
      refine .trans _ _ _ (.symm _ _ (.rel _ _ hmove)) ?_
      exact Relaid.cons line (ih fun line hline => hbindings line (List.mem_cons_of_mem _ hline))

/-- Every text can be relaid into its binding lines and then its body lines. -/
theorem relaid_sorted (texts : List (List Char)) :
    Relaid texts (texts.filter binds ++ texts.filter isBody) := by
  induction texts with
  | nil => exact .refl _
  | cons text rest ih =>
      refine .trans _ _ _ (ih.cons text) ?_
      rcases line_cases text with ⟨hidle, hb, hi⟩ | ⟨hb, hi⟩ | ⟨hb, hi⟩
      · rw [List.filter_cons_of_neg (by simp [hb]), List.filter_cons_of_neg (by simp [hi])]
        exact .symm _ _ (.rel _ _ (.insert [] _ hidle))
      · rw [List.filter_cons_of_pos hb, List.filter_cons_of_neg (by simp [hi])]
        exact .refl _
      · rw [List.filter_cons_of_neg (by simp [hb]), List.filter_cons_of_pos hi]
        exact relaid_pass hb _ _ fun line hline => (List.mem_filter.1 hline).2

/-- Texts are relaid into each other exactly if they have the same binding lines and the same body
lines, in the same order. -/
theorem relaid_iff : Relaid texts texts' ↔
    texts.filter binds = texts'.filter binds ∧ texts.filter isBody = texts'.filter isBody := by
  constructor
  · intro h
    induction h with
    | rel _ _ h => exact h.filter_eq
    | refl _ => exact ⟨rfl, rfl⟩
    | symm _ _ _ ih => exact ⟨ih.1.symm, ih.2.symm⟩
    | trans _ _ _ _ _ ih ih' => exact ⟨ih.1.trans ih'.1, ih.2.trans ih'.2⟩
  · rintro ⟨hbindings, hbody⟩
    refine .trans _ _ _ (relaid_sorted texts) ?_
    rw [hbindings, hbody]
    exact .symm _ _ (relaid_sorted texts')

/-- **Relaying the lines of a text does not change what it is read as**: the same document but for the
lines of its bindings, or a fault with the same cause at a line with the same text. -/
theorem parse_of_relaid {source source' : String}
    (h : Relaid (Text.lines source.toList) (Text.lines source'.toList)) :
    unplacing unplaced (parse source) = unplacing unplaced (parse source') := by
  obtain ⟨hbindings, hbody⟩ := relaid_iff.1 h
  have hdeclares (texts : List (List Char)) : (texts.map Line.anon).filter (·.declares?.isSome) =
      (texts.filter binds).map Line.anon :=
    List.filter_map
  have hin (texts : List (List Char)) : (texts.map Line.anon).filter Line.inBody =
      (texts.filter isBody).map Line.anon :=
    List.filter_map
  rw [unplacing_parse, unplacing_parse, ofLines?_eq, ofLines?_eq, hdeclares, hdeclares, hin, hin,
    hbindings, hbody]

/-- A binding is moved into the body of a loop, with a comment and a blank line. -/
theorem parse_of_relaid_nested :
    Relaid (Text.lines "a = a.json\n[for x in a]\n  x\n".toList)
        (Text.lines "# items\n[for x in a]\n \n      # each one\na = a.json\n  x\n\n".toList) ∧
      unplacing unplaced (parse "a = a.json\n[for x in a]\n  x\n") =
        unplacing unplaced (parse "# items\n[for x in a]\n \n      # each one\na = a.json\n  x\n\n") := by
  have hrelaid : Relaid (Text.lines "a = a.json\n[for x in a]\n  x\n".toList)
      (Text.lines "# items\n[for x in a]\n \n      # each one\na = a.json\n  x\n\n".toList) := by
    refine relaid_iff.2 ⟨?_, ?_⟩
    · with_unfolding_all rfl
    · with_unfolding_all rfl
  exact ⟨hrelaid, parse_of_relaid hrelaid⟩

end Document

end StaticPage
