import StaticPage.Proofs.Html.Elements
import StaticPage.Proofs.Html.Markup

/-!
# Nested markup

What blocks put around their content opens and closes in order, so that rendered blocks are well nested
as long as what is left of their prose is. The paragraph around prose goes in two steps, and each of them
looks at one end of it. If only one of the two tags is there, or they belong to two paragraphs, then what is
left of well nested prose is not, and the heading around it cannot make up for that: it is no paragraph,
`nest_outer`.
-/

namespace StaticPage

namespace Block

mutual

def proses : Block → List String
  | .prose _ html => [html]
  | .field _ _ => []
  | .loop _ iterations => prosesOfIterations iterations

def prosesAll : List Block → List String
  | [] => []
  | b :: rest => proses b ++ prosesAll rest

def prosesOfIterations : List (List Block) → List String
  | [] => []
  | body :: rest => prosesAll body ++ prosesOfIterations rest

end

end Block

namespace Html

variable {s t front back inner : List Char} {names : List Name}

/-- A text that stops in text, with every element closed that it opens, in order, and no other one. -/
structure WellNested (s : List Char) : Prop where
  stops : (Mode.text.scan s).1.isText = true
  nests : nest [] (Mode.text.scan s).2 = some []

instance (s : List Char) : Decidable (WellNested s) :=
  decidable_of_iff ((Mode.text.scan s).1.isText = true ∧ nest [] (Mode.text.scan s).2 = some [])
    ⟨fun ⟨hstops, hnests⟩ => ⟨hstops, hnests⟩, fun h => ⟨h.stops, h.nests⟩⟩

/-- A well nested text that does not stop in a `<`. -/
structure Whole (s : List Char) : Prop where
  stops : (Mode.text.scan s).1 = .text
  nests : nest [] (Mode.text.scan s).2 = some []

/-- A text that is not well nested, whatever stands around it. -/
def Torn (s : List Char) : Prop :=
  ∀ base, nest base (Mode.text.scan s).2 = none

theorem Whole.wellNested (h : Whole s) : WellNested s :=
  ⟨by rw [h.stops]; rfl, h.nests⟩

theorem Torn.not_wellNested (h : Torn s) : ¬ WellNested s := by
  intro hs
  have hnests := hs.nests
  rw [h []] at hnests
  cases hnests

theorem WellNested.scan_append (h : WellNested s) (t : List Char) :
    Mode.text.scan (s ++ '<' :: t) =
      ((Mode.text.scan ('<' :: t)).1, (Mode.text.scan s).2 ++ (Mode.text.scan ('<' :: t)).2) := by
  rw [Mode.scan_append rfl, Mode.scan_of_isText h.stops]

theorem Whole.scan_append (h : Whole s) (t : List Char) :
    Mode.text.scan (s ++ t) =
      ((Mode.text.scan t).1, (Mode.text.scan s).2 ++ (Mode.text.scan t).2) := by
  rw [Mode.scan_append rfl, h.stops]

theorem whole_nil : Whole [] :=
  ⟨rfl, rfl⟩

theorem Whole.append (hs : Whole s) (ht : Whole t) : Whole (s ++ t) := by
  refine ⟨?_, ?_⟩
  · rw [hs.scan_append, ht.stops]
  · rw [hs.scan_append, nest_append_of_some hs.nests, ht.nests]

theorem Whole.append_torn (hs : Whole s) (ht : Torn t) : Torn (s ++ t) := by
  intro base
  rw [hs.scan_append, nest_append_of_some (nest_above hs.nests base)]
  exact ht base

theorem Torn.append (hs : Torn s) (t : List Char) : Torn (s ++ t) := by
  intro base
  rw [Mode.scan_append rfl]
  exact nest_append_of_none (hs base) _

/-! ### What stands around markup -/

structure Encloses (front : List Char) (names : List Name) (back : List Char) : Prop where
  stops : (Mode.text.scan front).1 = .text
  opens : nest [] (Mode.text.scan front).2 = some names
  closes : nest names (Mode.text.scan ('<' :: back)).2 = some []
  ends : (Mode.text.scan ('<' :: back)).1 = .text

theorem Encloses.nest_front (h : Encloses front names back) (base : List Name) (s : List Char) :
    nest base (Mode.text.scan (front ++ s)).2 = nest (names ++ base) (Mode.text.scan s).2 := by
  rw [Mode.scan_append rfl, h.stops]
  exact nest_append_of_some (nest_above h.opens base) _

theorem Encloses.nest_back (h : Encloses front names back) (hs : WellNested s) :
    nest names (Mode.text.scan (s ++ '<' :: back)).2 = some [] := by
  rw [hs.scan_append, nest_append_of_some (nest_above hs.nests names)]
  exact h.closes

theorem Encloses.whole (h : Encloses front names back) (hs : WellNested s) :
    Whole (front ++ (s ++ '<' :: back)) := by
  refine ⟨?_, ?_⟩
  · rw [Mode.scan_append rfl, h.stops, hs.scan_append, h.ends]
  · rw [h.nest_front, List.append_nil, h.nest_back hs]

theorem Encloses.torn (h : Encloses front names back) (hs : Torn s) :
    Torn (front ++ (s ++ '<' :: back)) := by
  intro base
  rw [h.nest_front]
  exact hs.append _ _

theorem encloses_section :
    Encloses "<section class=\"section\">".toList ["section".toList] "/section>".toList :=
  ⟨rfl, rfl, rfl, rfl⟩

theorem encloses_box : Encloses "<div class=\"box\">".toList ["div".toList] "/div>".toList :=
  ⟨rfl, rfl, rfl, rfl⟩

theorem encloses_paragraph : Encloses "<p>".toList ["p".toList] "/p>".toList :=
  ⟨rfl, rfl, rfl, rfl⟩

def proseFront (id : String) : List Char :=
  "<section class=\"section\" id=\"".toList ++ escapeText id.toList ++
    "\">\n  <div class=\"container\">\n    <h2 class=\"subtitle has-text-weight-semibold\">".toList

theorem blockText_prose_eq (id html : String) :
    blockText (.prose id html) =
      proseFront id ++ (unwrapParagraph html.toList ++ "</h2>\n  </div>\n</section>".toList) :=
  (blockText_prose id html).trans (List.append_assoc _ _ _)

theorem encloses_heading (id : String) :
    Encloses (proseFront id) ["h2".toList, "div".toList, "section".toList]
      "/h2>\n  </div>\n</section>".toList := by
  have hid : '"' ∉ escapeText id.toList := fun hmem => (not_special_of_mem_escapeText hmem).2.2 rfl
  have hfront : Mode.text.scan "<section class=\"section\" id=\"".toList =
    (.quoted ⟨false, "section".toList⟩ true, []) := rfl
  have hopen := Mode.scan_append hfront (escapeText id.toList)
  rw [Mode.scan_quoted hid] at hopen
  have hclose : (Mode.quoted ⟨false, "section".toList⟩ true).scan
      "\">\n  <div class=\"container\">\n    <h2 class=\"subtitle has-text-weight-semibold\">".toList =
    (.text, [⟨false, "section".toList⟩, ⟨false, "div".toList⟩, ⟨false, "h2".toList⟩]) := by decide +kernel
  have hscan := Mode.scan_append hopen
    "\">\n  <div class=\"container\">\n    <h2 class=\"subtitle has-text-weight-semibold\">".toList
  rw [hclose] at hscan
  refine ⟨congrArg Prod.fst hscan, ?_, rfl, rfl⟩
  exact (congrArg (fun scanned => nest [] scanned.2) hscan).trans rfl

/-! ### Prose -/

/-- What is left of a text without the paragraph around it. -/
inductive Unwrapped : (html inner : List Char) → Prop where
  | plain {html : List Char} (hopen : ¬ "<p>".toList <+: html) (hclose : ¬ "</p>\n".toList <:+ html) :
    Unwrapped html html
  | paragraph (inner : List Char) : Unwrapped ("<p>".toList ++ (inner ++ "</p>\n".toList)) inner
  | opened {inner : List Char} (hclose : ¬ "</p>\n".toList <:+ "<p>".toList ++ inner) :
    Unwrapped ("<p>".toList ++ inner) inner
  | closed {inner : List Char} (hopen : ¬ "<p>".toList <+: inner) :
    Unwrapped (inner ++ "</p>\n".toList) inner

theorem unwrapped (html : List Char) : Unwrapped html (unwrapParagraph html) := by
  simp only [unwrapParagraph]
  cases hclose : Text.dropSuffix? "</p>\n".toList html with
  | none =>
      rw [Option.getD_none]
      rw [Text.dropSuffix?_eq_none_iff] at hclose
      cases hopen : Text.dropPrefix? "<p>".toList html with
      | none =>
          rw [Option.getD_none]
          exact .plain (Text.dropPrefix?_eq_none_iff.1 hopen) hclose
      | some inner =>
          obtain rfl := Text.dropPrefix?_eq_some_iff.1 hopen
          exact .opened hclose
  | some front =>
      obtain rfl := Text.dropSuffix?_eq_some_iff.1 hclose
      rw [Option.getD_some]
      cases hopen : Text.dropPrefix? "<p>".toList front with
      | none =>
          rw [Option.getD_none]
          exact .closed (Text.dropPrefix?_eq_none_iff.1 hopen)
      | some inner =>
          obtain rfl := Text.dropPrefix?_eq_some_iff.1 hopen
          rw [List.append_assoc]
          exact .paragraph inner

/-- The heading of a section cannot be closed behind a text. -/
def Stuck (inner : List Char) : Prop :=
  ∀ base, nest ("h2".toList :: base)
    (Mode.text.scan (inner ++ "</h2>\n  </div>\n</section>".toList)).2 = none

theorem Stuck.torn {html : String} (h : Stuck (unwrapParagraph html.toList)) (id : String) :
    Torn (blockText (.prose id html)) := by
  intro base
  rw [blockText_prose_eq, (encloses_heading id).nest_front]
  exact h _

/-- A text that takes the end of the heading for something else does not close it. -/
theorem stuck_of_heading (hstops : (Mode.text.scan (inner ++ "</h2>".toList)).1.isText = true)
    (h : ∀ base, nest ("h2".toList :: base) (Mode.text.scan (inner ++ "</h2>".toList)).2 = none ∨
      nest ("h2".toList :: base) (Mode.text.scan (inner ++ "</h2>".toList)).2 =
        some ("h2".toList :: base)) : Stuck inner := by
  have hrest {m : Mode} (hm : m.isText = true) (base : List Name) :
      nest ("h2".toList :: base) (m.scan "\n  </div>\n</section>".toList).2 = none := by
    cases m with
    | text => rfl
    | less => rfl
    | _ => cases hm
  intro base
  have hscan : Mode.text.scan (inner ++ "</h2>\n  </div>\n</section>".toList) =
      Mode.text.scan ((inner ++ "</h2>".toList) ++ "\n  </div>\n</section>".toList) := by
    rw [List.append_assoc]
    rfl
  rw [hscan, Mode.scan_append rfl]
  rcases h base with hnone | hkept
  · exact nest_append_of_none hnone _
  · exact (nest_append_of_some hkept _).trans (hrest hstops base)

theorem stuck_of_nest (h : ∀ base, nest ("h2".toList :: base) (Mode.text.scan inner).2 = none) :
    Stuck inner := by
  intro base
  rw [Mode.scan_append rfl]
  exact nest_append_of_none (h base) _

theorem nest_of_opened (h : WellNested ("<p>".toList ++ inner)) :
    nest ["p".toList] (Mode.text.scan inner).2 = some [] :=
  (encloses_paragraph.nest_front [] inner).symm.trans h.nests

/-- Behind a text that ends with the end of a paragraph, that is a tag, or the end of a heading in its
place is no tag either. -/
theorem scan_of_closed (h : (Mode.text.scan (inner ++ "</p>\n".toList)).1.isText = true) :
    ((Mode.text.scan inner).1.isText = true ∧ (Mode.text.scan (inner ++ "</p>\n".toList)).2 =
        (Mode.text.scan inner).2 ++ [⟨true, "p".toList⟩]) ∨
      ((Mode.text.scan (inner ++ "</h2>".toList)).1.isText = true ∧
        (Mode.text.scan (inner ++ "</p>\n".toList)).2 =
          (Mode.text.scan (inner ++ "</h2>".toList)).2) := by
  cases hmode : (Mode.text.scan inner).1.isText with
  | true =>
      have hclose : Mode.text.scan "</p>\n".toList = (.text, [⟨true, "p".toList⟩]) := rfl
      refine .inl ⟨rfl, ?_⟩
      rw [Mode.scan_append rfl]
      exact congrArg (fun scanned => (Mode.text.scan inner).2 ++ scanned.2)
        ((Mode.scan_of_isText hmode _).trans hclose)
  | false =>
      have hheading : Mode.text.scan (inner ++ "</p>".toList) = Mode.text.scan (inner ++ "</h2>".toList) := by
        rw [Mode.scan_append rfl, Mode.scan_append rfl, Mode.scan_closing hmode]
      have hscan : Mode.text.scan (inner ++ "</p>\n".toList) =
          Mode.text.scan ((inner ++ "</p>".toList) ++ ['\n']) := by
        rw [List.append_assoc]
        rfl
      rw [hscan, Mode.scan_append rfl, hheading] at h ⊢
      obtain ⟨hstops, hnone⟩ := Mode.isText_of_scan_newline h
      exact .inr ⟨hstops, by rw [hnone, List.append_nil]⟩

theorem stuck_of_opened (h : WellNested ("<p>".toList ++ inner)) : Stuck inner :=
  stuck_of_nest fun base => nest_eq_none_of_closed (nest_of_opened h) (by decide) base

theorem stuck_of_paragraph (h : WellNested ("<p>".toList ++ (inner ++ "</p>\n".toList)))
    (hinner : ¬ WellNested inner) : Stuck inner := by
  have hnests := nest_of_opened h
  have hstops : (Mode.text.scan (inner ++ "</p>\n".toList)).1.isText = true := by
    have := h.stops
    rwa [Mode.scan_append rfl, encloses_paragraph.stops] at this
  rcases scan_of_closed hstops with ⟨htext, htags⟩ | ⟨hheading, htags⟩
  · rw [htags] at hnests
    rcases nest_outer [] (nest_closing hnests) with ⟨left, hleft, heq⟩ | hnone
    · obtain rfl : left = [] := by simpa using heq
      exact absurd ⟨htext, hleft⟩ hinner
    · exact stuck_of_nest (hnone _ (by decide))
  · rw [htags] at hnests
    exact stuck_of_heading hheading fun base => .inl (nest_eq_none_of_closed hnests (by decide) base)

theorem stuck_of_closed (h : WellNested (inner ++ "</p>\n".toList)) : Stuck inner := by
  have hnests := h.nests
  rcases scan_of_closed h.stops with ⟨htext, htags⟩ | ⟨hheading, htags⟩
  · rw [htags] at hnests
    intro base
    -- the paragraph is still open where the heading is to be closed
    rw [Mode.scan_append rfl, nest_append_of_some (nest_above (nest_closing hnests) _)]
    exact (congrArg (nest _ ·.2) (Mode.scan_of_isText htext _)).trans rfl
  · rw [htags] at hnests
    exact stuck_of_heading hheading fun base => .inr (nest_above hnests _)

theorem WellNested.not_stuck (h : WellNested inner) : ¬ Stuck inner := by
  intro hstuck
  have hnone := hstuck ["div".toList, "section".toList]
  cases hnone.symm.trans ((encloses_heading "").nest_back h)

/-- Prose without a tag of a paragraph at its ends, or one paragraph around well nested markup. -/
def Paired (html : List Char) : Prop :=
  (¬ "<p>".toList <+: html ∧ ¬ "</p>\n".toList <:+ html) ∨
    ∃ inner, html = "<p>".toList ++ inner ++ "</p>\n".toList ∧ WellNested inner

variable {html : List Char}

theorem Unwrapped.stuck (h : Unwrapped html inner) (hhtml : WellNested html)
    (hinner : ¬ WellNested inner) : Stuck inner := by
  cases h with
  | plain hopen hclose => exact absurd hhtml hinner
  | paragraph inner => exact stuck_of_paragraph hhtml hinner
  | opened hclose => exact stuck_of_opened hhtml
  | closed hopen => exact stuck_of_closed hhtml

theorem Unwrapped.wellNested_iff (h : Unwrapped html inner) (hhtml : WellNested html) :
    WellNested inner ↔ Paired html := by
  cases h with
  | plain hopen hclose => exact ⟨fun _ => .inl ⟨hopen, hclose⟩, fun _ => hhtml⟩
  | paragraph inner =>
      constructor
      · intro hinner
        exact .inr ⟨inner, (List.append_assoc _ _ _).symm, hinner⟩
      · rintro (⟨hopen, -⟩ | ⟨inner', heq, hinner'⟩)
        · exact absurd (List.prefix_append _ _) hopen
        · rw [List.append_assoc, List.append_cancel_left_eq, List.append_cancel_right_eq] at heq
          rwa [heq]
  | opened hclose =>
      constructor
      · intro hinner
        exact absurd (stuck_of_opened hhtml) hinner.not_stuck
      · rintro (⟨hopen, -⟩ | ⟨inner', heq, -⟩)
        · exact absurd (List.prefix_append _ _) hopen
        · exact absurd (heq ▸ List.suffix_append _ _) hclose
  | closed hopen =>
      constructor
      · intro hinner
        exact absurd (stuck_of_closed hhtml) hinner.not_stuck
      · rintro (⟨-, hclose⟩ | ⟨inner', heq, -⟩)
        · exact absurd (List.suffix_append _ _) hclose
        · rw [List.append_cancel_right_eq] at heq
          exact absurd (heq ▸ List.prefix_append _ _) hopen

/-! ### Blocks -/

/-- A text is whole if all the prose in it is paired, and torn otherwise. -/
def Decided (s : List Char) (htmls : List String) : Prop :=
  (Whole s ∧ ∀ html ∈ htmls, Paired html.toList) ∨ (Torn s ∧ ∃ html ∈ htmls, ¬ Paired html.toList)

theorem Decided.append {htmls htmls' : List String} (hs : Decided s htmls) (ht : Decided t htmls') :
    Decided (s ++ t) (htmls ++ htmls') := by
  rcases hs with ⟨hs, hpaired⟩ | ⟨hs, html, hmem, hnot⟩
  · rcases ht with ⟨ht, hpaired'⟩ | ⟨ht, html, hmem, hnot⟩
    · exact .inl ⟨hs.append ht, List.forall_mem_append.2 ⟨hpaired, hpaired'⟩⟩
    · exact .inr ⟨hs.append_torn ht, html, List.mem_append_right _ hmem, hnot⟩
  · exact .inr ⟨hs.append t, html, List.mem_append_left _ hmem, hnot⟩

theorem Decided.enclose {htmls : List String} (hs : Decided s htmls) (h : Encloses front names back) :
    Decided (front ++ (s ++ '<' :: back)) htmls := by
  rcases hs with ⟨hs, hpaired⟩ | ⟨hs, hnot⟩
  · exact .inl ⟨h.whole hs.wellNested, hpaired⟩
  · exact .inr ⟨h.torn hs, hnot⟩

theorem decided_prose (id : String) {html : String} (hhtml : WellNested html.toList) :
    Decided (blockText (.prose id html)) [html] := by
  have hunwrapped := unwrapped html.toList
  by_cases hinner : WellNested (unwrapParagraph html.toList)
  · refine .inl ⟨?_, ?_⟩
    · rw [blockText_prose_eq]
      exact (encloses_heading id).whole hinner
    · simpa using (hunwrapped.wellNested_iff hhtml).1 hinner
  · refine .inr ⟨(hunwrapped.stuck hhtml hinner).torn id, html, List.mem_singleton_self _, ?_⟩
    rwa [← hunwrapped.wellNested_iff hhtml]

theorem wellNested_escapeText (text : List Char) : WellNested (escapeText text) := by
  have hscan := Mode.scan_text (lt_not_mem_escapeText text)
  exact ⟨by rw [hscan]; rfl, by rw [hscan]; rfl⟩

mutual

theorem decided_blockText (b : Block) (h : ∀ html ∈ b.proses, WellNested html.toList) :
    Decided (blockText b) b.proses := by
  match b with
  | .prose id html => exact decided_prose id (h html (List.mem_singleton_self _))
  | .field path value =>
      refine .inl ⟨?_, by simp [Block.proses]⟩
      rw [blockText_field, fieldText, List.append_assoc]
      exact encloses_paragraph.whole (wellNested_escapeText _)
  | .loop source iterations =>
      rw [blockText_loop, List.append_assoc]
      exact (decided_iterationsText iterations h).enclose encloses_section

theorem decided_blocksText (bs : List Block) (h : ∀ html ∈ Block.prosesAll bs, WellNested html.toList) :
    Decided (blocksText bs) (Block.prosesAll bs) := by
  match bs with
  | [] => exact .inl ⟨whole_nil, by simp [Block.prosesAll]⟩
  | b :: rest =>
      rw [Block.prosesAll, List.forall_mem_append] at h
      exact (decided_blockText b h.1).append (decided_blocksText rest h.2)

theorem decided_iterationsText (iterations : List (List Block))
    (h : ∀ html ∈ Block.prosesOfIterations iterations, WellNested html.toList) :
    Decided (iterationsText iterations) (Block.prosesOfIterations iterations) := by
  match iterations with
  | [] => exact .inl ⟨whole_nil, by simp [Block.prosesOfIterations]⟩
  | body :: rest =>
      rw [Block.prosesOfIterations, List.forall_mem_append] at h
      rw [iterationsText_cons, List.append_assoc _ (blocksText body)]
      exact ((decided_blocksText body h.1).enclose encloses_box).append (decided_iterationsText rest h.2)

end

/-- Blocks of any nesting whose prose is well nested are rendered well nested exactly if the tags of
paragraphs at the ends of each piece of prose are a pair. -/
theorem render_wellNested_iff (blocks : List Block)
    (h : ∀ html ∈ Block.prosesAll blocks, WellNested html.toList) :
    WellNested (render blocks).toList ↔ ∀ html ∈ Block.prosesAll blocks, Paired html.toList := by
  rw [render, String.toList_ofList]
  rcases decided_blocksText blocks h with ⟨hwhole, hpaired⟩ | ⟨htorn, html, hmem, hnot⟩
  · exact iff_of_true hwhole.wellNested hpaired
  · exact iff_of_false htorn.not_wellNested fun hpaired => hnot (hpaired html hmem)

/-- A single line of prose, and prose that is no paragraph, in the boxes of a loop. -/
theorem render_wellNested_iff_loop :
    (∀ html ∈ ["<p>Hi <em>there</em></p>\n", "<ul><li>a<br></li></ul>\n"], WellNested html.toList) ∧
      WellNested (render [.loop "xs" [[.prose "a" "<p>Hi <em>there</em></p>\n", .field "x" none],
        [.prose "b" "<ul><li>a<br></li></ul>\n"]]]).toList := by
  have hnested : ∀ html ∈ ["<p>Hi <em>there</em></p>\n", "<ul><li>a<br></li></ul>\n"],
      WellNested html.toList := by decide +kernel
  refine ⟨hnested, (render_wellNested_iff _ ?_).2 ?_⟩
  · exact hnested
  · intro html hmem
    rcases List.mem_pair.1 hmem with rfl | rfl
    · exact .inr ⟨"Hi <em>there</em>".toList, rfl, by decide +kernel⟩
    · exact .inl ⟨by decide, by decide⟩

/-- A paragraph without the end of its line keeps its closing tag. -/
theorem render_tears_paragraph : WellNested "<p>x</p>".toList ∧
    ¬ WellNested (render [.prose "a" "<p>x</p>"]).toList := by
  have hhtml : WellNested "<p>x</p>".toList := by decide +kernel
  have hinner : ¬ WellNested (unwrapParagraph "<p>x</p>".toList) := by decide +kernel
  have htorn : Torn (blockText (.prose "a" "<p>x</p>")) := ((unwrapped _).stuck hhtml hinner).torn "a"
  refine ⟨hhtml, ?_⟩
  rw [render, String.toList_ofList, blocksText, blocksText, List.append_nil]
  exact htorn.not_wellNested

end Html

end StaticPage
