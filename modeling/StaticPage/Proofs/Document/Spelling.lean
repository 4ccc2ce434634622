import StaticPage.Proofs.Document.Reading

/-!
# What the lines of a document spell

`Item.Spelled` is the grammar of a body line, with what each part of the line contributes, and `Line.Declares`
that of a binding line; a line is read as what it spells, and as nothing if it spells nothing. The lines of a
source, one after the other, are then the whole of the document that is read: the body lines its outline, the
binding lines its bindings.
-/

namespace StaticPage

open Text (trim)

/-! ### Body lines -/

namespace Item

/-- The text of a body line, without the blanks at its ends, spells an item. -/
inductive Spelled : List Char → Item → Prop where
  /-- A passage between braces: what is before the first colon, and what is after it. -/
  | prose {id text : List Char} (hid : ':' ∉ id) :
      Spelled ('\x7b' :: (id ++ ':' :: text) ++ ['\x7d'])
        (.prose (String.ofList (trim id)) (String.ofList (trim text)))
  /-- A loop head up to the first closing bracket. Before the first colon the word ` in ` stands once,
  between one or two variables and the source; after it there are sort keys. -/
  | loop {front rest left right spec vars source : List Char} {sort : List SortKey}
      (hopen : "[for ".toList <+: '[' :: front ++ ']' :: rest) (hfront : ']' ∉ front)
      (hclause : trim front = forWord ++ (left ++ right)) (hleft : ':' ∉ left)
      (hright : right = [] ∧ spec = [] ∨ right = ':' :: spec)
      (hparts : Text.splitWord inWord left = [vars, source])
      (hcount : (vars.splitOn ',').length ≤ 2) (hvars : ∀ v ∈ vars.splitOn ',', trim v ≠ [])
      (hsource : trim source ≠ []) (hsort : SortKey.Spelled spec sort) :
      Spelled ('[' :: front ++ ']' :: rest)
        (.loop ⟨(vars.splitOn ',').map fun v => String.ofList (trim v), String.ofList (trim source), sort⟩)
  /-- Any other text is a field. -/
  | field {text : List Char} (hbraces : ¬ (text.head? = some '\x7b' ∧ text.getLast? = some '\x7d'))
      (hopen : ¬ "[for ".toList <+: text) : Spelled text (.field (String.ofList text))

variable {s : List Char} {item : Item}

theorem eq_cons_concat {a b : Char} (hab : a ≠ b) (hfirst : s.head? = some a)
    (hlast : s.getLast? = some b) : s = a :: s.tail.dropLast ++ [b] := by
  obtain ⟨t, rfl⟩ := List.head?_eq_some_iff.1 hfirst
  rcases List.eq_nil_or_concat t with rfl | ⟨inner, c, rfl⟩
  · rw [List.getLast?_singleton, Option.some.injEq] at hlast
    exact absurd hlast hab
  · rw [List.concat_eq_append, ← List.cons_append, List.getLast?_concat, Option.some.injEq] at hlast
    rw [List.concat_eq_append, List.tail_cons, List.dropLast_concat, hlast, List.cons_append]

theorem cut?_getD_eq_iff {left spec clause : List Char} :
    (Text.cut? ':' clause).getD (clause, []) = (left, spec) ↔
      ∃ right, clause = left ++ right ∧ ':' ∉ left ∧ (right = [] ∧ spec = [] ∨ right = ':' :: spec) := by
  cases hcut : Text.cut? ':' clause with
  | none =>
      have hcolon := Text.cut?_eq_none_iff.1 hcut
      constructor
      · rintro ⟨⟩
        exact ⟨[], (List.append_nil _).symm, hcolon, .inl ⟨rfl, rfl⟩⟩
      · rintro ⟨right, rfl, -, ⟨rfl, rfl⟩ | rfl⟩
        · rw [List.append_nil]
          rfl
        · exact absurd (List.mem_append_right _ List.mem_cons_self) hcolon
  | some sides =>
      obtain ⟨l, r⟩ := sides
      obtain ⟨rfl, hl⟩ := Text.cut?_eq_some_iff.1 hcut
      constructor
      · rintro ⟨⟩
        exact ⟨':' :: spec, rfl, hl, .inr rfl⟩
      · rintro ⟨right, heq, hleft, ⟨rfl, rfl⟩ | rfl⟩
        · rw [List.append_nil] at heq
          rw [← heq] at hleft
          exact absurd (List.mem_append_right _ List.mem_cons_self) hleft
        · have hcut' := Text.cut?_append hleft spec
          rw [← heq, hcut] at hcut'
          exact Option.some.inj hcut'

theorem prose?_iff_spelled : prose? s = .ok item ↔ ∃ id text, s = id ++ ':' :: text ∧ ':' ∉ id ∧
    item = .prose (String.ofList (trim id)) (String.ofList (trim text)) := by
  simp only [prose?_eq_ok_iff, Text.cut?_eq_some_iff, and_assoc]

theorem variables?_iff_spelled {vars : List String} : variables? s = .ok vars ↔
    vars = (s.splitOn ',').map (fun v => String.ofList (trim v)) ∧ (s.splitOn ',').length ≤ 2 ∧
      ∀ v ∈ s.splitOn ',', trim v ≠ [] := by
  rw [variables?_eq_ok_iff, List.map_map]
  refine and_congr_right fun heq => ?_
  subst heq
  simp

theorem loop?_iff_spelled (hopen : "[for ".toList <+: s) : loop? s = .ok item ↔ Spelled s item := by
  rw [loop?_eq_ok_iff]
  constructor
  · rintro ⟨front, rest, clause, hcut, hclause, h⟩
    obtain ⟨left, spec, vars, source, header, hsides, hword, hback, hvars, hsource, hheader, hsort, rfl⟩ :=
      clause?_eq_ok_iff.1 h
    obtain ⟨right, rfl, hleft, hright⟩ := cut?_getD_eq_iff.1 hsides
    obtain ⟨hnames, hcount, hne⟩ := variables?_iff_spelled.1 hvars
    obtain ⟨rfl, hfront⟩ := Text.cut?_eq_some_iff.1 hcut
    -- the bracket that opens the line is before the one that closes the head
    obtain ⟨front, rfl⟩ : ∃ front', front = '[' :: front' := by
      obtain ⟨more, hmore⟩ := hopen
      cases front with
      | nil =>
          have := (List.cons.inj hmore).1
          exact absurd this (by decide)
      | cons c front =>
          obtain ⟨rfl, -⟩ := List.cons.inj hmore
          exact ⟨front, rfl⟩
    obtain ⟨names, source', sort⟩ := header
    dsimp only at hnames hheader hsort
    subst hnames hheader
    exact .loop hopen (fun hc => hfront (List.mem_cons_of_mem _ hc)) hclause hleft hright
      ((Text.splitWord_eq_pair_iff (by simp [inWord])).2 ⟨hword, hback⟩) hcount hne hsource
      (SortKey.parseList_eq_iff.1 hsort.symm)
  · intro h
    cases h with
    | prose =>
        obtain ⟨more, hmore⟩ := hopen
        cases hmore
    | field _ hfield => exact absurd hopen hfield
    | @loop front rest left right spec vars source sort hopen hfront hclause hleft hright hparts hcount hne
        hsource hsort =>
        obtain ⟨hword, hback⟩ := (Text.splitWord_eq_pair_iff (by simp [inWord])).1 hparts
        have hfront' : ']' ∉ '[' :: front := by
          rw [List.mem_cons, not_or]
          exact ⟨by decide, hfront⟩
        refine ⟨'[' :: front, rest, left ++ right, Text.cut?_append hfront' rest, hclause, ?_⟩
        refine clause?_eq_ok_iff.2 ⟨left, spec, vars, source, _,
          cut?_getD_eq_iff.2 ⟨right, rfl, hleft, hright⟩, hword, hback, ?_, hsource, rfl,
          (SortKey.parseList_eq_iff.2 hsort).symm, rfl⟩
        exact variables?_iff_spelled.2 ⟨rfl, hcount, hne⟩

/-- **A text is read as the item that it spells**, and as nothing if it spells none. -/
theorem ofText?_eq_ok_iff : ofText? s = .ok item ↔ Spelled s item := by
  rw [ofText?]
  by_cases hbraces : s.head? = some '\x7b' ∧ s.getLast? = some '\x7d'
  · rw [if_pos hbraces, prose?_iff_spelled]
    have hs := eq_cons_concat (by decide) hbraces.1 hbraces.2
    constructor
    · rintro ⟨id, text, hinner, hid, rfl⟩
      rw [hs, hinner]
      exact .prose hid
    · intro h
      cases h with
      | prose hid =>
          rw [List.cons_append, List.tail_cons, List.dropLast_concat]
          exact ⟨_, _, rfl, hid, rfl⟩
      | loop =>
          have := hbraces.1
          cases this
      | field hfield => exact absurd hbraces hfield
  · rw [if_neg hbraces]
    by_cases hopen : "[for ".toList <+: s
    · rw [if_pos (List.isPrefixOf_iff_prefix.2 hopen)]
      exact loop?_iff_spelled hopen
    · rw [if_neg (mt List.isPrefixOf_iff_prefix.1 hopen)]
      constructor
      · rintro ⟨⟩
        exact .field hbraces hopen
      · intro h
        cases h with
        | prose => exact absurd ⟨rfl, List.getLast?_concat⟩ hbraces
        | loop hopen' => exact absurd hopen' hopen
        | field => rfl

end Item

/-! ### Binding lines -/

namespace Header

/-- A text has the form of a binding: from the margin on a mark or none, a name, blanks, an equals sign, and
something after it. -/
structure Sides (s : List Char) (marked : Bool) (name right : List Char) : Prop where
  text : ∃ blanks, s = markText marked ++ (name ++ (blanks ++ '=' :: right)) ∧
    ∀ c ∈ blanks, Text.isBlank c = true
  name_ne : name ≠ []
  name_chars : ∀ c ∈ name, isNameChar c = true
  right_ne : right ≠ []

def Declares (s : List Char) : Prop :=
  ∃ marked name right, Sides s marked name right

/-- A right side is a target without a blank or a `<`, the sign `<<`, and something after it, which is the URL
but for the blanks at its ends. -/
inductive Fetched : List Char → List Char → List Char → Prop where
  | intro {before target between rest : List Char} (hbefore : ∀ c ∈ before, Text.isBlank c = true)
      (hne : target ≠ []) (htarget : ∀ c ∈ target, isTargetChar c = true)
      (hbetween : ∀ c ∈ between, Text.isBlank c = true) (hrest : rest ≠ []) :
      Fetched (before ++ (target ++ (between ++ '<' :: '<' :: rest))) target (trim rest)

variable {s name right operand target url : List Char} {marked : Bool}

theorem sides?_iff_sides : sides? s = some (marked, name, operand) ↔
    ∃ right, Sides s marked name right ∧ operand? right = some operand := by
  rw [sides?_eq_some_iff]
  constructor
  · rintro ⟨blanks, right, htext, hne, hname, hblanks, hoperand⟩
    have hright : right ≠ [] := operand?_isSome_iff.1 (by rw [hoperand]; rfl)
    exact ⟨right, ⟨⟨blanks, htext, hblanks⟩, hne, hname, hright⟩, hoperand⟩
  · rintro ⟨right, ⟨⟨blanks, htext, hblanks⟩, hne, hname, -⟩, hoperand⟩
    exact ⟨blanks, right, htext, hne, hname, hblanks, hoperand⟩

theorem Sides.exists_operand (h : Sides s marked name right) :
    ∃ operand, operand? right = some operand ∧ sides? s = some (marked, name, operand) := by
  obtain ⟨operand, hoperand⟩ := Option.isSome_iff_exists.1 (operand?_isSome_iff.2 h.right_ne)
  exact ⟨operand, hoperand, sides?_iff_sides.2 ⟨right, h, hoperand⟩⟩

theorem declares_iff_isSome : Declares s ↔ (sides? s).isSome = true := by
  rw [Option.isSome_iff_exists]
  constructor
  · rintro ⟨marked, name, right, hsides⟩
    obtain ⟨operand, -, hoperand⟩ := hsides.exists_operand
    exact ⟨_, hoperand⟩
  · rintro ⟨⟨marked, name, operand⟩, hsides⟩
    obtain ⟨right, hsides, -⟩ := sides?_iff_sides.1 hsides
    exact ⟨marked, name, right, hsides⟩

theorem Fetched.trimStart_eq (h : Fetched right target url) :
    ∃ between rest, Text.trimStart right = target ++ (between ++ '<' :: '<' :: rest) ∧ target ≠ [] ∧
      (∀ c ∈ target, isTargetChar c = true) ∧ (∀ c ∈ between, Text.isBlank c = true) ∧ rest ≠ [] ∧
      url = trim rest := by
  obtain ⟨hbefore, hne, htarget, hbetween, hrest⟩ := h
  rename_i before between rest
  refine ⟨between, rest, ?_, hne, htarget, hbetween, hrest, rfl⟩
  rw [Text.trimStart_append hbefore, Text.trimStart_of_head]
  obtain ⟨c, target, rfl⟩ := List.exists_cons_of_ne_nil hne
  simpa using isBlank_of_isTargetChar (htarget c List.mem_cons_self)

theorem fetched?_iff_fetched (hoperand : operand? right = some operand) :
    fetched? operand = some (target, url) ↔ Fetched right target url := by
  rcases operand?_cases hoperand with ⟨rfl, -⟩ | ⟨hright, hempty⟩
  · rw [fetched?_eq_some_iff]
    constructor
    · rintro ⟨between, rest, htext, hne, htarget, hbetween, hrest, rfl⟩
      obtain ⟨before, hbefore, hblank⟩ := Text.exists_trimStart right
      rw [hbefore, htext]
      exact .intro hblank hne htarget hbetween hrest
    · exact fun h => h.trimStart_eq
  · -- the right side is blank, and a target is not
    have hblank {target : List Char} (hne : target ≠ []) (htarget : ∀ c ∈ target, isTargetChar c = true)
        (hblank : ∀ c ∈ target, Text.isBlank c = true) : False := by
      obtain ⟨c, target, rfl⟩ := List.exists_cons_of_ne_nil hne
      have hc := isBlank_of_isTargetChar (htarget c List.mem_cons_self)
      rw [hblank c List.mem_cons_self] at hc
      cases hc
    constructor
    · intro h
      obtain ⟨between, rest, rfl, hne, htarget, -⟩ := fetched?_eq_some_iff.1 h
      exact (hblank hne htarget fun c hc =>
        Text.blank_of_trim_eq_nil hempty c (List.mem_append_left _ hc)).elim
    · rintro ⟨-, hne, htarget, -, -⟩
      refine (hblank hne htarget fun c hc => Text.blank_of_trim_eq_nil hright c ?_).elim
      exact List.mem_append_right _ (List.mem_append_left _ hc)

end Header

/-- A line declares a binding: one with a URL if the right side has one, else one whose target is the right side
but for the blanks at its ends. -/
inductive Line.Declares (line : Line) : Binding → Prop where
  | fetched {marked : Bool} {name right target url : List Char}
      (hsides : Header.Sides line.text.toList marked name right) (hfetched : Header.Fetched right target url) :
      Declares line ⟨String.ofList name, String.ofList target,
        if marked then .lazy (String.ofList url) else .eager (String.ofList url), line.number⟩
  | manual {marked : Bool} {name right : List Char}
      (hsides : Header.Sides line.text.toList marked name right)
      (hmanual : ∀ target url, ¬ Header.Fetched right target url) :
      Declares line ⟨String.ofList name, String.ofList (trim right), .manual, line.number⟩

namespace Line

variable {line : Line} {b : Binding}

theorem binding?_eq_some_iff : line.binding? = some b ↔ line.Declares b := by
  rw [binding?, Option.map_eq_some_iff]
  constructor
  · rintro ⟨⟨marked, name, operand⟩, hsides, rfl⟩
    obtain ⟨right, hsides, hoperand⟩ := Header.sides?_iff_sides.1 hsides
    dsimp only
    split
    · rename_i target url hfetched
      exact .fetched hsides ((Header.fetched?_iff_fetched hoperand).1 hfetched)
    · rename_i hmanual
      rw [Header.trim_operand? hoperand]
      refine .manual hsides fun target url hfetched => ?_
      rw [(Header.fetched?_iff_fetched hoperand).2 hfetched] at hmanual
      cases hmanual
  · intro h
    cases h with
    | @fetched marked name right target url hsides hfetched =>
        obtain ⟨operand, hoperand, htext⟩ := hsides.exists_operand
        refine ⟨(marked, name, operand), htext, ?_⟩
        dsimp only
        rw [(Header.fetched?_iff_fetched hoperand).2 hfetched]
    | @manual marked name right hsides hmanual =>
        obtain ⟨operand, hoperand, htext⟩ := hsides.exists_operand
        have hnone : Header.fetched? operand = none := by
          rw [Option.eq_none_iff_forall_ne_some]
          rintro ⟨target, url⟩ hfetched
          exact hmanual target url ((Header.fetched?_iff_fetched hoperand).1 hfetched)
        refine ⟨(marked, name, operand), htext, ?_⟩
        dsimp only
        rw [hnone, Header.trim_operand? hoperand]

theorem declares?_eq_some_iff : line.declares? = some b ↔ line.Declares b := by
  rw [← binding?_eq_some_iff]
  constructor
  · intro h
    rw [declares?] at h
    split at h
    · cases h
    · exact h
  · intro h
    obtain ⟨⟨marked, name, operand⟩, hsides, -⟩ := Option.map_eq_some_iff.1 h
    rw [declares?_of_sides? line hsides, h]

theorem Declares.line_eq (h : line.Declares b) : b.line = line.number := by
  cases h <;> rfl

theorem declares_iff : Header.Declares line.text.toList ↔ ∃ b, line.Declares b := by
  rw [Header.declares_iff_isSome]
  simp only [← binding?_eq_some_iff, ← Option.isSome_iff_exists, binding?, Option.isSome_map]

/-- A body line: no comment, not blank, and without the form of a binding. -/
structure IsBody (line : Line) : Prop where
  comment : (trim line.text.toList).head? ≠ some '#'
  blank : trim line.text.toList ≠ []
  binding : ¬ Header.Declares line.text.toList

theorem inBody_iff : line.inBody = true ↔ line.IsBody := by
  have hbinding : line.binding?.isNone = true ↔ ¬ Header.Declares line.text.toList := by
    rw [declares_iff]
    simp only [← binding?_eq_some_iff, ← Option.isSome_iff_exists]
    simp
  simp only [inBody, isComment, isBlank, Bool.and_eq_true, Bool.not_eq_true', beq_eq_false_iff_ne,
    List.isEmpty_eq_false_iff, hbinding]
  exact ⟨fun h => ⟨h.1.1, h.1.2, h.2⟩, fun h => ⟨⟨h.comment, h.blank⟩, h.binding⟩⟩

instance : DecidablePred IsBody :=
  fun _ => decidable_of_iff _ inBody_iff

theorem filter_isBody (lines : List Line) : (lines.filter fun line => line.IsBody) = lines.filter inBody :=
  List.filter_congr fun line _ => by simp [← inBody_iff]

instance : DecidablePred fun line : Line => ∃ b, line.Declares b :=
  fun line => decidable_of_iff (line.declares?.isSome = true) (by
    simp only [Option.isSome_iff_exists, declares?_eq_some_iff])

theorem filter_declares (lines : List Line) :
    (lines.filter fun line => ∃ b, line.Declares b) = lines.filter fun line => line.declares?.isSome := by
  refine List.filter_congr fun line _ => ?_
  rw [Bool.eq_iff_iff, decide_eq_true_iff, Option.isSome_iff_exists]
  simp only [declares?_eq_some_iff]

end Line

/-! ### Lines and their numbers -/

theorem getElem?_numberedLines (source : String) (i : Nat) :
    (numberedLines source)[i]? = (Text.lines source.toList)[i]?.map
      fun text => Line.mk (i + 1) (String.ofList text) := by
  rw [numberedLines, List.getElem?_map, List.getElem?_zipIdx, Option.map_map, Nat.add_comm]
  rfl

theorem forall₂_filterMap {α β : Type} {f : α → Option β} (as : List α) :
    List.Forall₂ (fun a b => f a = some b) (as.filter fun a => (f a).isSome) (as.filterMap f) := by
  induction as with
  | nil => exact .nil
  | cons a as ih =>
      cases hfa : f a with
      | none =>
          rw [List.filterMap_cons_none hfa, List.filter_cons_of_neg (by simp [hfa])]
          exact ih
      | some b =>
          rw [List.filterMap_cons_some hfa, List.filter_cons_of_pos (by simp [hfa])]
          exact .cons hfa ih

namespace Document

/-- **The tree is faithful to the lines.** The outline of a document that was read from a source is the list
of the body lines of the source, each of them with the depth of its indentation and with what it spells
itself; the block at the margin leaves no line behind; and the bindings are what the binding lines
declare, each with the number of its line. -/
theorem parse_faithful {source : String} {d : Document} (h : parse source = .ok d) :
    List.Forall₂ (fun line entry => line.indent = 2 * entry.1 ∧
        Item.Spelled (trim line.text.toList) entry.2)
      ((numberedLines source).filter fun line => line.IsBody) (Node.outlineAll 0 d.nodes) ∧
    (∃ hbehind, Node.block? 0 ((numberedLines source).filter Line.isLeftToBody)
      = .ok (d.nodes, ⟨[], hbehind⟩)) ∧
    List.Forall₂ (fun line b => line.Declares b ∧ b.line = line.number)
      ((numberedLines source).filter fun line => ∃ b, line.Declares b) d.bindings ∧
    ∀ i : Nat, (numberedLines source)[i]? = (Text.lines source.toList)[i]?.map
      fun text => Line.mk (i + 1) (String.ofList text) := by
  have hparsed := parse_eq_ok_iff.1 h
  refine ⟨?_, ?_, ?_, getElem?_numberedLines source⟩
  · rw [Line.filter_isBody]
    refine hparsed.body.imp fun line entry hread => ⟨hread.indent, ?_⟩
    exact Item.ofText?_eq_ok_iff.1 hread.item
  · obtain ⟨-, ⟨behind, hbehind⟩, hblock⟩ := ofLines?_eq_ok_iff_passes.1 h
    obtain ⟨rfl, -⟩ := Node.scan_of_block? hblock
    exact ⟨hbehind, hblock⟩
  · rw [hparsed.bindings_eq, Line.filter_declares]
    refine (forall₂_filterMap _).imp fun line b hread => ?_
    have hdeclares := Line.declares?_eq_some_iff.1 hread
    exact ⟨hdeclares, hdeclares.line_eq⟩

set_option maxRecDepth 4000 in
/-- Two loops, one in the other, with a blank line in the inner one and a line behind both. -/
theorem parse_faithful_nested :
    let d : Document := ⟨[⟨"c", "c.json", .manual, 6⟩],
      [.loop ⟨["a"], "as", []⟩ [.loop ⟨["b"], "a.bs", []⟩ [.field "b"]], .field "d"]⟩
    parse "[for a in as]\n  [for b in a.bs]\n\n    b\n\nc = c.json\nd\n" = .ok d ∧
      List.Forall₂ (fun line entry => line.indent = 2 * entry.1 ∧
          Item.Spelled (trim line.text.toList) entry.2)
        ((numberedLines "[for a in as]\n  [for b in a.bs]\n\n    b\n\nc = c.json\nd\n").filter
          fun line => line.IsBody) (Node.outlineAll 0 d.nodes) := by
  intro d
  have hparse : parse "[for a in as]\n  [for b in a.bs]\n\n    b\n\nc = c.json\nd\n" = .ok d := by
    with_unfolding_all rfl
  exact ⟨hparse, (parse_faithful hparse).1⟩

end Document

end StaticPage
