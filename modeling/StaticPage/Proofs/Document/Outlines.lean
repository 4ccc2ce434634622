import Mathlib.Data.List.Forall2
import StaticPage.Document.Body
import StaticPage.Proofs.Text.Cutting

/-!
# Outlines and trees

An outline fits if no line is deeper than the line before it lets it be. `Line.outline?` reads body lines
one after the other, with nothing but the reach of the line before in hand, and gives an outline that fits,
entry for entry. `Node.block?` reads the same lines with a block open for each level. The two agree: where
`block?` gives nodes, the scan gives the outline of these nodes before what it makes of the lines behind
the block, and a fault of one is the fault of the other.
-/

namespace StaticPage

/-! ### The flat scan -/

/-- The spaces of indentation that the next line may have at most: those of this line, and two more
if this line opens a loop. -/
def Item.reach (indent : Nat) : Item → Nat
  | loop _ => indent + 2
  | _ => indent

/-- The outline of body lines, if each of them fits: `reach` is the indentation that the next line may
have at most. An odd indentation has no level and is one too many for the level below it. -/
def Line.outline? (reach : Nat) : List Line → Except SyntaxFault (List (Nat × Item))
  | [] => .ok []
  | line :: rest =>
    let indent := line.indent
    if reach < indent then .error ⟨line, .unexpectedIndent reach indent⟩
    else if indent % 2 = 1 then .error ⟨line, .unexpectedIndent (indent - 1) indent⟩
    else
      match Item.ofText? (Text.trim line.text.toList) with
      | .error cause => .error ⟨line, cause⟩
      | .ok item => (outline? (item.reach indent) rest).map ((indent / 2, item) :: ·)

def Item.below (depth : Nat) : Item → Nat
  | .loop _ => depth + 1
  | _ => depth

theorem Item.reach_eq (depth : Nat) (item : Item) : item.reach (2 * depth) = 2 * item.below depth := by
  cases item <;> rfl

theorem Item.below_of_leaf {item : Item} (h : ∀ header, item ≠ .loop header) (depth : Nat) :
    item.below depth = depth := by
  cases item with
  | loop header => exact absurd rfl (h header)
  | prose | field => rfl

/-- An outline in which no entry is too deep, the first one being at most as deep as `level`. -/
inductive Fits : Nat → List (Nat × Item) → Prop where
  | nil {level : Nat} : Fits level []
  | cons {level depth : Nat} {item : Item} {rest : List (Nat × Item)} (hdepth : depth ≤ level)
      (hrest : Fits (item.below depth) rest) : Fits level ((depth, item) :: rest)

structure Line.Reads (line : Line) (entry : Nat × Item) : Prop where
  indent : line.indent = 2 * entry.1
  item : Item.ofText? (Text.trim line.text.toList) = .ok entry.2

/-- Reading body lines gives the outline of their entries, if it fits. -/
theorem Line.outline?_eq_ok_iff {level : Nat} {lines : List Line} {outline : List (Nat × Item)} :
    Line.outline? (2 * level) lines = .ok outline ↔
      Fits level outline ∧ List.Forall₂ Line.Reads lines outline := by
  induction lines generalizing level outline with
  | nil =>
      constructor
      · intro h
        cases h
        exact ⟨.nil, .nil⟩
      · rintro ⟨-, h⟩
        cases h
        rfl
  | cons line rest ih =>
      constructor
      · intro h
        rw [Line.outline?] at h
        split at h
        · cases h
        · rename_i hreach
          split at h
          · cases h
          · rename_i hodd
            split at h
            · cases h
            · rename_i item hitem
              have hindent : line.indent = 2 * (line.indent / 2) := by omega
              cases houtline : Line.outline? (item.reach line.indent) rest with
              | error fault =>
                  rw [houtline] at h
                  cases h
              | ok entries =>
                  rw [houtline] at h
                  cases h
                  rw [hindent, Item.reach_eq, ih] at houtline
                  exact ⟨.cons (by omega) houtline.1, .cons ⟨hindent, hitem⟩ houtline.2⟩
      · rintro ⟨hfits, hreads⟩
        cases hreads with
        | @cons _ entry _ entries hread hreads =>
            cases hfits with
            | cons hdepth hfits =>
                have houtline := ih.2 ⟨hfits, hreads⟩
                rw [← Item.reach_eq, ← hread.indent] at houtline
                have hindent := hread.indent
                rw [Line.outline?, hread.item]
                dsimp only at hindent ⊢
                rw [if_neg (by omega), if_neg (by omega), houtline, hindent]
                simp [Except.map]

section Steps

variable {level : Nat} {line : Line} {item : Item}

theorem Line.outline?_of_reads (hread : line.Reads (level, item)) (rest : List Line) :
    Line.outline? (2 * level) (line :: rest)
      = (Line.outline? (2 * item.below level) rest).map ((level, item) :: ·) := by
  have hindent := hread.indent
  rw [Line.outline?, hread.item, ← Item.reach_eq]
  dsimp only at hindent ⊢
  rw [if_neg (by omega), if_neg (by omega), hindent, Nat.mul_div_cancel_left level (by decide)]

theorem Line.outline?_of_fault {cause : SyntaxCause} (hindent : line.indent = 2 * level)
    (hitem : Item.ofText? (Text.trim line.text.toList) = .error cause) (rest : List Line) :
    Line.outline? (2 * level) (line :: rest) = .error ⟨line, cause⟩ := by
  rw [Line.outline?, hitem, if_neg (by omega), if_neg (by omega)]

/-- Before a line that is too shallow for the deeper of two levels, one may as well scan at the
other: a line between the two is a fault in both, and the same one. -/
theorem Line.outline?_succ {lines : List Line}
    (h : ∀ line ∈ lines.head?, line.indent < 2 * (level + 1)) :
    Line.outline? (2 * (level + 1)) lines = Line.outline? (2 * level) lines := by
  cases lines with
  | nil => rfl
  | cons line rest =>
      have hline := h line rfl
      rw [Line.outline?, Line.outline?, if_neg (Nat.not_lt.2 (Nat.le_of_lt hline))]
      by_cases hdeeper : 2 * level < line.indent
      · have hodd : line.indent = 2 * level + 1 := by omega
        rw [if_pos (by omega), if_pos hdeeper, hodd]
        rfl
      · rw [if_neg hdeeper]

end Steps

namespace Node

/-! ### From trees to outlines and back -/

def ofItem (item : Item) (body : List Node) : Node :=
  match item with
  | .prose id text => .prose id text
  | .field path => .field path
  | .loop header => .loop header body

/-- The nodes of an outline at a depth. The lines below an entry, up to the next one that is not
deeper, are its body. -/
def ofOutline (outline : List (Nat × Item)) : List Node :=
  match outline with
  | [] => []
  | (depth, item) :: rest =>
    ofItem item (ofOutline (rest.takeWhile fun e => depth < e.1)) ::
      ofOutline (rest.dropWhile fun e => depth < e.1)
termination_by outline.length
decreasing_by
  · have := (List.takeWhile_prefix (l := rest) fun e => decide (depth < e.1)).length_le
    simp only [List.length_cons]
    omega
  · have := (List.dropWhile_suffix (l := rest) fun e => decide (depth < e.1)).length_le
    simp only [List.length_cons]
    omega

mutual

theorem le_depth_of_mem_outline (depth : Nat) :
    (n : Node) → ∀ entry ∈ outline depth n, depth ≤ entry.1
  | .prose id text => by simp [outline]
  | .field path => by simp [outline]
  | .loop header body => by
      rw [outline]
      intro entry hentry
      rcases List.mem_cons.1 hentry with rfl | hentry
      · exact Nat.le_refl _
      · exact Nat.le_of_succ_le (le_depth_of_mem_outlineAll (depth + 1) body entry hentry)

theorem le_depth_of_mem_outlineAll (depth : Nat) :
    (nodes : List Node) → ∀ entry ∈ outlineAll depth nodes, depth ≤ entry.1
  | [] => by simp [outlineAll]
  | n :: rest => by
      rw [outlineAll]
      intro entry hentry
      rcases List.mem_append.1 hentry with hentry | hentry
      · exact le_depth_of_mem_outline depth n entry hentry
      · exact le_depth_of_mem_outlineAll depth rest entry hentry

end

theorem head?_outlineAll (depth : Nat) (nodes : List Node) :
    ∀ entry ∈ (outlineAll depth nodes).head?, entry.1 = depth := by
  cases nodes with
  | nil => simp [outlineAll]
  | cons n rest => cases n <;> simp [outlineAll, outline]

theorem outlineAll_append (depth : Nat) (front nodes : List Node) :
    outlineAll depth (front ++ nodes) = outlineAll depth front ++ outlineAll depth nodes := by
  induction front with
  | nil => rfl
  | cons n front ih => rw [List.cons_append, outlineAll, outlineAll, ih, List.append_assoc]

theorem field_mem_outlineAll_iff {depth : Nat} {path : String} {nodes : List Node} :
    (depth, Item.field path) ∈ outlineAll depth nodes ↔ .field path ∈ nodes := by
  induction nodes with
  | nil => simp [outlineAll]
  | cons n rest ih =>
      have hn : (depth, Item.field path) ∈ outline depth n ↔ .field path = n := by
        cases n with
        | prose id text => simp [outline]
        | field path' => simp [outline]
        | loop header body =>
            rw [outline, List.mem_cons]
            simp only [Prod.mk.injEq, reduceCtorEq, and_false, false_or, iff_false]
            intro hentry
            have := le_depth_of_mem_outlineAll (depth + 1) body _ hentry
            exact absurd this (Nat.not_succ_le_self depth)
      rw [outlineAll, List.mem_append, ih, hn, List.mem_cons]

variable {depth : Nat} {inner outer : List (Nat × Item)}

/-- Reading the line of a node takes the deeper lines that follow for its body. -/
theorem ofOutline_cons (item : Item) (hinner : ∀ entry ∈ inner, depth < entry.1)
    (houter : ∀ entry ∈ outer.head?, entry.1 ≤ depth) :
    ofOutline ((depth, item) :: (inner ++ outer)) = ofItem item (ofOutline inner) :: ofOutline outer := by
  have hdeeper : ∀ entry ∈ inner, decide (depth < entry.1) = true := by
    simpa using hinner
  have hnot : ∀ entry ∈ outer.head?, decide (depth < entry.1) = false := by
    simpa using houter
  rw [ofOutline, Text.takeWhile_append hdeeper hnot, Text.dropWhile_append hdeeper hnot]

mutual

theorem ofOutline_outline_append (depth : Nat) {rest : List (Nat × Item)}
    (hrest : ∀ entry ∈ rest.head?, entry.1 ≤ depth) :
    (n : Node) → ofOutline (outline depth n ++ rest) = n :: ofOutline rest
  | .prose id text => by
      rw [outline]
      exact ofOutline_cons (.prose id text) (List.forall_mem_nil _) hrest
  | .field path => by
      rw [outline]
      exact ofOutline_cons (.field path) (List.forall_mem_nil _) hrest
  | .loop header body => by
      have hbody := le_depth_of_mem_outlineAll (depth + 1) body
      rw [outline, List.cons_append, ofOutline_cons (.loop header) hbody hrest,
        ofOutline_outlineAll (depth + 1) body]
      rfl

/-- **A tree is determined by its outline.** -/
theorem ofOutline_outlineAll (depth : Nat) :
    (nodes : List Node) → ofOutline (outlineAll depth nodes) = nodes
  | [] => by
      rw [outlineAll, ofOutline]
  | n :: rest => by
      have hrest : ∀ entry ∈ (outlineAll depth rest).head?, entry.1 ≤ depth :=
        fun e he => Nat.le_of_eq (head?_outlineAll depth rest e he)
      rw [outlineAll, ofOutline_outline_append depth hrest n, ofOutline_outlineAll depth rest]

end

/-! ### Outlines of trees fit -/

theorem Fits.mono {level level' : Nat} {entries : List (Nat × Item)} (hle : level ≤ level')
    (h : Fits level entries) : Fits level' entries := by
  cases h with
  | nil => exact .nil
  | cons hdepth hrest => exact .cons (Nat.le_trans hdepth hle) hrest

mutual

theorem fits_outline_append {depth level : Nat} (hlevel : depth ≤ level)
    {rest : List (Nat × Item)} (hrest : Fits depth rest) :
    (n : Node) → Fits level (outline depth n ++ rest)
  | .prose id text => by
      rw [outline]
      exact .cons hlevel hrest
  | .field path => by
      rw [outline]
      exact .cons hlevel hrest
  | .loop header body => by
      rw [outline]
      exact .cons hlevel (fits_outlineAll_append (Nat.le_refl _) (Fits.mono (Nat.le_succ depth) hrest) body)

theorem fits_outlineAll_append {depth level : Nat} (hlevel : depth ≤ level)
    {rest : List (Nat × Item)} (hrest : Fits depth rest) :
    (nodes : List Node) → Fits level (outlineAll depth nodes ++ rest)
  | [] => by
      rw [outlineAll]
      exact Fits.mono hlevel hrest
  | n :: nodes => by
      rw [outlineAll, List.append_assoc]
      exact fits_outline_append hlevel (fits_outlineAll_append (Nat.le_refl _) hrest nodes) n

end

theorem fits_outlineAll (nodes : List Node) : Fits 0 (outlineAll 0 nodes) := by
  have h := fits_outlineAll_append (Nat.le_refl 0) .nil nodes
  rwa [List.append_nil] at h

/-! ### Blocks and the scan -/

def sayings (lines : List Line) : List Line :=
  lines.filter fun line => !line.isBlank

@[simp]
theorem sayings_cons_of_isBlank {line : Line} (h : line.isBlank = true) (rest : List Line) :
    sayings (line :: rest) = sayings rest :=
  List.filter_cons_of_neg (by simp [h])

@[simp]
theorem sayings_cons_of_not_isBlank {line : Line} (h : ¬ line.isBlank = true) (rest : List Line) :
    sayings (line :: rest) = line :: sayings rest :=
  List.filter_cons_of_pos (by simp [h])

theorem outline_leaf {item : Item} (h : ∀ header, item ≠ .loop header) (depth : Nat) :
    outline depth (leaf item) = [(depth, item)] := by
  cases item with
  | loop header => exact absurd rfl (h header)
  | prose | field => simp only [leaf, outline]

/-- What a block gives agrees with the scan of its lines: the same fault, or the outline of its nodes
and then what the scan makes of the lines behind it, of which the first one is not in the block. -/
def Agrees (level : Nat) (lines : List Line) :
    Except SyntaxFault (List Node × { behind : List Line // behind <:+ lines }) → Prop
  | .error fault => Line.outline? (2 * level) (sayings lines) = .error fault
  | .ok (nodes, ⟨behind, _⟩) =>
      (∀ line ∈ behind.head?, ¬ line.isBlank = true ∧ line.indent < 2 * level) ∧
      Line.outline? (2 * level) (sayings lines)
        = (Line.outline? (2 * level) (sayings behind)).map (outlineAll level nodes ++ ·)

theorem head?_sayings {level : Nat} {behind : List Line}
    (h : ∀ line ∈ behind.head?, ¬ line.isBlank = true ∧ line.indent < 2 * level) :
    ∀ line ∈ (sayings behind).head?, line.indent < 2 * level := by
  cases behind with
  | nil => simp [sayings]
  | cons line rest =>
      obtain ⟨hblank, hindent⟩ := h line rfl
      rw [sayings_cons_of_not_isBlank hblank]
      rintro _ ⟨⟩
      exact hindent

section Steps

variable {indent level : Nat} {line : Line} {item : Item} {lines rest after : List Line} {header : LoopHeader}
  {body : List Node}

def precede (front : List Node) (h : rest <:+ lines)
    (r : List Node × { behind : List Line // behind <:+ rest }) :
    List Node × { behind : List Line // behind <:+ lines } :=
  (front ++ r.1, ⟨r.2.1, r.2.2.trans h⟩)

/-- If the scan gives the outline of some nodes first, what agrees with the rest of it agrees with the whole
behind these nodes. -/
theorem Agrees.precede (front : List Node) (hsuffix : rest <:+ lines)
    (hscan : Line.outline? (2 * level) (sayings lines)
      = (Line.outline? (2 * level) (sayings rest)).map (outlineAll level front ++ ·))
    {r : Except SyntaxFault (List Node × { behind : List Line // behind <:+ rest })}
    (h : Agrees level rest r) : Agrees level lines (r.map (precede front hsuffix)) := by
  cases r with
  | error fault =>
      have hrest : Line.outline? (2 * level) (sayings rest) = .error fault := h
      change Line.outline? (2 * level) (sayings lines) = .error fault
      rw [hscan, hrest]
      rfl
  | ok r =>
      obtain ⟨nodes, behind, hsub⟩ := r
      obtain ⟨hbehind, hrest⟩ := h
      refine ⟨hbehind, ?_⟩
      rw [hscan, hrest]
      cases Line.outline? (2 * level) (sayings behind) with
      | error fault => rfl
      | ok entries => simp [Except.map, outlineAll_append]

theorem block?_of_isBlank (hblank : line.isBlank = true) :
    block? indent (line :: rest) = (block? indent rest).map (precede [] (List.suffix_cons line rest)) := by
  rw [block?, if_pos hblank]
  rcases block? indent rest with fault | ⟨nodes, behind⟩ <;> rfl

theorem scan_of_isBlank (hblank : line.isBlank = true) :
    Line.outline? (2 * level) (sayings (line :: rest))
      = (Line.outline? (2 * level) (sayings rest)).map (outlineAll level [] ++ ·) := by
  rw [sayings_cons_of_isBlank hblank]
  cases Line.outline? (2 * level) (sayings rest) <;> rfl

variable (hblank : ¬ line.isBlank = true)

include hblank

theorem block?_of_leaf (hread : line.Reads (level, item)) (hleaf : ∀ header, item ≠ .loop header) :
    block? (2 * level) (line :: rest)
      = (block? (2 * level) rest).map (precede [leaf item] (List.suffix_cons line rest)) := by
  have hindent : line.indent = 2 * level := hread.indent
  rw [block?, if_neg hblank, if_neg (by omega), if_neg (by omega), hread.item]
  cases item with
  | loop header => exact absurd rfl (hleaf header)
  | prose | field => rcases block? (2 * level) rest with fault | ⟨nodes, behind⟩ <;> rfl

theorem scan_of_leaf (hread : line.Reads (level, item)) (hleaf : ∀ header, item ≠ .loop header) :
    Line.outline? (2 * level) (sayings (line :: rest))
      = (Line.outline? (2 * level) (sayings rest)).map (outlineAll level [leaf item] ++ ·) := by
  rw [sayings_cons_of_not_isBlank hblank, Line.outline?_of_reads hread, Item.below_of_leaf hleaf, outlineAll,
    outline_leaf hleaf]
  rfl

theorem block?_of_head (hread : line.Reads (level, .loop header)) : block? (2 * level) (line :: rest) =
    match block? (2 * (level + 1)) rest with
    | .error fault => .error fault
    | .ok (body, ⟨after, h⟩) => (block? (2 * level) after).map
        (precede [.loop header body] (h.trans (List.suffix_cons line rest))) := by
  have hindent : line.indent = 2 * level := hread.indent
  rw [block?, if_neg hblank, if_neg (by omega), if_neg (by omega), hread.item, Nat.mul_add_one]
  dsimp only
  rcases block? (2 * level + 2) rest with fault | ⟨body, after, h⟩
  · rfl
  · dsimp only
    rcases block? (2 * level) after with fault | ⟨nodes, behind⟩ <;> rfl

/-- The scan of a loop: its head, its body, and what stands behind the body. -/
theorem scan_of_head (hread : line.Reads (level, .loop header)) {h : after <:+ rest}
    (hbody : Agrees (level + 1) rest (.ok (body, ⟨after, h⟩))) :
    Line.outline? (2 * level) (sayings (line :: rest))
      = (Line.outline? (2 * level) (sayings after)).map (outlineAll level [.loop header body] ++ ·) := by
  obtain ⟨hafter, hscan⟩ := hbody
  rw [sayings_cons_of_not_isBlank hblank, Line.outline?_of_reads hread, Item.below, hscan,
    Line.outline?_succ (head?_sayings hafter)]
  cases Line.outline? (2 * level) (sayings after) with
  | error fault => rfl
  | ok entries => simp [Except.map, outlineAll, outline]

theorem scan_of_head_error (hread : line.Reads (level, .loop header)) {fault : SyntaxFault}
    (hbody : Agrees (level + 1) rest (.error fault)) :
    Line.outline? (2 * level) (sayings (line :: rest)) = .error fault := by
  have hscan : Line.outline? (2 * (level + 1)) (sayings rest) = .error fault := hbody
  rw [sayings_cons_of_not_isBlank hblank, Line.outline?_of_reads hread, Item.below, hscan]
  rfl

end Steps

/-- **A block agrees with the scan of its lines.** -/
theorem agrees_block? (level : Nat) : (lines : List Line) → Agrees level lines (block? (2 * level) lines)
  | [] => by
      rw [block?]
      exact ⟨by simp, rfl⟩
  | line :: rest => by
      by_cases hblank : line.isBlank = true
      · rw [block?_of_isBlank hblank]
        exact (agrees_block? level rest).precede [] _ (scan_of_isBlank hblank)
      by_cases hless : line.indent < 2 * level
      · rw [block?, if_neg hblank, if_pos hless]
        refine ⟨?_, ?_⟩
        · rintro _ ⟨⟩
          exact ⟨hblank, hless⟩
        · cases Line.outline? (2 * level) (sayings (line :: rest)) <;> rfl
      by_cases hmore : 2 * level < line.indent
      · rw [block?, if_neg hblank, if_neg hless, if_pos hmore]
        dsimp only [Agrees]
        rw [sayings_cons_of_not_isBlank hblank, Line.outline?, if_pos hmore]
      -- The line is one of this very block.
      have hindent : line.indent = 2 * level := by omega
      cases hitem : Item.ofText? (Text.trim line.text.toList) with
      | error cause =>
          rw [block?, if_neg hblank, if_neg hless, if_neg hmore, hitem]
          dsimp only [Agrees]
          rw [sayings_cons_of_not_isBlank hblank, Line.outline?_of_fault hindent hitem]
      | ok item =>
          have hread : line.Reads (level, item) := ⟨hindent, hitem⟩
          by_cases hloop : ∃ header, item = .loop header
          · obtain ⟨header, rfl⟩ := hloop
            have hbody := agrees_block? (level + 1) rest
            rw [block?_of_head hblank hread]
            rcases hblock : block? (2 * (level + 1)) rest with fault | ⟨body, after, h⟩
            · rw [hblock] at hbody
              exact scan_of_head_error hblank hread hbody
            · rw [hblock] at hbody
              exact (agrees_block? level after).precede _ _ (scan_of_head hblank hread hbody)
          · have hleaf : ∀ header, item ≠ .loop header := fun header heq => hloop ⟨header, heq⟩
            rw [block?_of_leaf hblank hread hleaf]
            exact (agrees_block? level rest).precede _ _ (scan_of_leaf hblank hread hleaf)
termination_by lines => lines.length
decreasing_by
  all_goals simp only [List.length_cons]
  · omega
  · omega
  · have := h.length_le
    omega
  · omega

/-- Nothing stands to the left of the margin: a block at the margin takes every line, and its nodes are
those of the scan. -/
theorem scan_of_block? {lines behind : List Line} {nodes : List Node} {h : behind <:+ lines}
    (hblock : block? 0 lines = .ok (nodes, ⟨behind, h⟩)) :
    behind = [] ∧ Line.outline? 0 (sayings lines) = .ok (outlineAll 0 nodes) := by
  obtain ⟨hbehind, hscan⟩ := hblock ▸ agrees_block? 0 lines
  cases behind with
  | nil =>
      refine ⟨rfl, hscan.trans ?_⟩
      change Except.ok (outlineAll 0 nodes ++ []) = _
      rw [List.append_nil]
  | cons line rest => exact absurd (hbehind line rfl).2 (Nat.not_lt_zero _)

theorem scan_of_block?_error {lines : List Line} {fault : SyntaxFault}
    (hblock : block? 0 lines = .error fault) : Line.outline? 0 (sayings lines) = .error fault := by
  have h := agrees_block? 0 lines
  rw [hblock] at h
  exact h

end Node

end StaticPage
