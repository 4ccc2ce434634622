import StaticPage.Html.Blocks
import StaticPage.Proofs.Html.Tags

/-!
# Data and markup

The ids of prose and the texts of fields are data. A page is its markup with the data written into the
holes of it, `blocksText_eq_fill`, and the markup does not depend on the data. Escaped data opens no tag, so
that the tags of a page are those of its markup, and a field of it ends at the first `<`: blocks without
prose can be read back from the page, but for the names of their fields and loops.
-/

namespace StaticPage

namespace Block

/-- What stands in place of the ids, the names and the values of blocks. -/
structure Rewriting where
  id : String → String
  name : String → String
  value : Option Json.Value → Option Json.Value

mutual

def rewrite (w : Rewriting) : Block → Block
  | .prose id html => .prose (w.id id) html
  | .field path value => .field (w.name path) (w.value value)
  | .loop source iterations => .loop (w.name source) (rewriteIterations w iterations)

def rewriteAll (w : Rewriting) : List Block → List Block
  | [] => []
  | b :: rest => rewrite w b :: rewriteAll w rest

def rewriteIterations (w : Rewriting) : List (List Block) → List (List Block)
  | [] => []
  | body :: rest => rewriteAll w body :: rewriteIterations w rest

end

def unvalued : Rewriting where
  id := id
  name := id
  value _ := none

/-- Everything is left out but the HTML of prose, and the order and the nesting of the blocks. -/
def shape : Rewriting where
  id _ := ""
  name _ := ""
  value _ := none

/-- Names are left out, and of values everything but what they show. -/
def shown : Rewriting where
  id := id
  name _ := ""
  value value := some (.string (displayed value))

mutual

def proseless : Block → Bool
  | .prose _ _ => false
  | .field _ _ => true
  | .loop _ iterations => proselessIterations iterations

def proselessAll : List Block → Bool
  | [] => true
  | b :: rest => proseless b && proselessAll rest

def proselessIterations : List (List Block) → Bool
  | [] => true
  | body :: rest => proselessAll body && proselessIterations rest

end

end Block

namespace Html

/-- A piece of a page: markup, or a hole for data. -/
inductive Piece where
  | markup (text : List Char)
  | hole

def fill : List Piece → List (List Char) → List Char
  | [], _ => []
  | .markup text :: pieces, texts => text ++ fill pieces texts
  | .hole :: pieces, text :: texts => text ++ fill pieces texts
  | .hole :: pieces, [] => fill pieces []

mutual

def pieces : Block → List Piece
  | .prose _ html =>
    [.markup "<section class=\"section\" id=\"".toList, .hole,
      .markup ("\">\n  <div class=\"container\">\n    <h2 class=\"subtitle has-text-weight-semibold\">".toList ++
        unwrapParagraph html.toList ++ "</h2>\n  </div>\n</section>".toList)]
  | .field _ _ => [.markup "<p>".toList, .hole, .markup "</p>".toList]
  | .loop _ iterations =>
    .markup "<section class=\"section\">".toList ::
      (piecesOfIterations iterations ++ [.markup "</section>".toList])

def piecesAll : List Block → List Piece
  | [] => []
  | b :: rest => pieces b ++ piecesAll rest

def piecesOfIterations : List (List Block) → List Piece
  | [] => []
  | body :: rest =>
    .markup "<div class=\"box\">".toList ::
      (piecesAll body ++ .markup "</div>".toList :: piecesOfIterations rest)

end

mutual

/-- The data of a block, in the order of the page. -/
def data : Block → List String
  | .prose id _ => [id]
  | .field _ value => [Block.displayed value]
  | .loop _ iterations => dataOfIterations iterations

def dataAll : List Block → List String
  | [] => []
  | b :: rest => data b ++ dataAll rest

def dataOfIterations : List (List Block) → List String
  | [] => []
  | body :: rest => dataAll body ++ dataOfIterations rest

end

def escaped (texts : List String) : List (List Char) :=
  texts.map fun text => escapeText text.toList

theorem escaped_append (texts texts' : List String) :
    escaped (texts ++ texts') = escaped texts ++ escaped texts' :=
  List.map_append

/-! ### Markup and holes -/

theorem blockText_prose (id html : String) :
    blockText (.prose id html) =
      "<section class=\"section\" id=\"".toList ++ escapeText id.toList ++
        "\">\n  <div class=\"container\">\n    <h2 class=\"subtitle has-text-weight-semibold\">".toList ++
        unwrapParagraph html.toList ++ "</h2>\n  </div>\n</section>".toList := rfl

theorem blockText_field (path : String) (value : Option Json.Value) :
    blockText (.field path value) = fieldText value := rfl

theorem blockText_loop (source : String) (iterations : List (List Block)) :
    blockText (.loop source iterations) =
      "<section class=\"section\">".toList ++ iterationsText iterations ++ "</section>".toList := rfl

theorem iterationsText_cons (body : List Block) (rest : List (List Block)) :
    iterationsText (body :: rest) =
      "<div class=\"box\">".toList ++ blocksText body ++ "</div>".toList ++ iterationsText rest := rfl

theorem fill_between (front back text : List Char) (ps : List Piece) (texts : List (List Char)) :
    fill ([.markup front, .hole, .markup back] ++ ps) (text :: texts) =
      front ++ text ++ back ++ fill ps texts := by
  simp only [List.cons_append, List.nil_append, fill, List.append_assoc]

mutual

theorem fill_pieces (b : Block) (ps : List Piece) (texts : List (List Char)) :
    fill (pieces b ++ ps) (escaped (data b) ++ texts) = blockText b ++ fill ps texts := by
  match b with
  | .prose id html =>
      apply (fill_between _ _ _ ps texts).trans
      rw [← List.append_assoc, ← List.append_assoc]
      rfl
  | .field path value => exact fill_between _ _ _ ps texts
  | .loop source iterations =>
      change "<section class=\"section\">".toList ++ fill ((piecesOfIterations iterations ++ _) ++ ps) _ = _
      rw [List.append_assoc, data, fill_piecesOfIterations iterations, blockText_loop, List.append_assoc,
        List.append_assoc]
      rfl

theorem fill_piecesAll (bs : List Block) (ps : List Piece) (texts : List (List Char)) :
    fill (piecesAll bs ++ ps) (escaped (dataAll bs) ++ texts) = blocksText bs ++ fill ps texts := by
  match bs with
  | [] => rfl
  | b :: rest =>
      change fill ((pieces b ++ piecesAll rest) ++ ps) (escaped (data b ++ dataAll rest) ++ texts) =
        (blockText b ++ blocksText rest) ++ fill ps texts
      rw [escaped_append, List.append_assoc, List.append_assoc, fill_pieces b, fill_piecesAll rest,
        List.append_assoc]

theorem fill_piecesOfIterations (iterations : List (List Block)) (ps : List Piece)
    (texts : List (List Char)) :
    fill (piecesOfIterations iterations ++ ps) (escaped (dataOfIterations iterations) ++ texts) =
      iterationsText iterations ++ fill ps texts := by
  match iterations with
  | [] => rfl
  | body :: rest =>
      change "<div class=\"box\">".toList ++ fill ((piecesAll body ++ _) ++ ps)
        (escaped (dataAll body ++ dataOfIterations rest) ++ texts) = _
      rw [escaped_append, List.append_assoc, List.append_assoc, fill_piecesAll body, iterationsText_cons,
        List.append_assoc, List.append_assoc, List.append_assoc, ← fill_piecesOfIterations rest]
      rfl

end

theorem blocksText_eq_fill (bs : List Block) :
    blocksText bs = fill (piecesAll bs) (escaped (dataAll bs)) := by
  have h := fill_piecesAll bs [] []
  rw [List.append_nil, List.append_nil, fill, List.append_nil] at h
  exact h.symm

variable (w : Block.Rewriting)

mutual

theorem pieces_rewrite (b : Block) : pieces (b.rewrite w) = pieces b := by
  match b with
  | .prose id html => rfl
  | .field path value => rfl
  | .loop source iterations => rw [Block.rewrite, pieces, pieces, piecesOfIterations_rewrite iterations]

/-- What is markup in a page does not depend on its data. -/
theorem piecesAll_rewrite (bs : List Block) : piecesAll (Block.rewriteAll w bs) = piecesAll bs := by
  match bs with
  | [] => rfl
  | b :: rest => rw [Block.rewriteAll, piecesAll, piecesAll, pieces_rewrite b, piecesAll_rewrite rest]

theorem piecesOfIterations_rewrite (iterations : List (List Block)) :
    piecesOfIterations (Block.rewriteIterations w iterations) = piecesOfIterations iterations := by
  match iterations with
  | [] => rfl
  | body :: rest =>
      rw [Block.rewriteIterations, piecesOfIterations, piecesOfIterations, piecesAll_rewrite body,
        piecesOfIterations_rewrite rest]

end

/-! ### The tags of a page -/

theorem closed_blockText (b : Block) : Closed (blockText b) := by
  have hend (front : List Char) {back : List Char} (h : back.getLast? = some '>') : Closed (front ++ back) := by
    apply closed_of_getLast?
    rw [List.getLast?_append, h]
    rfl
  cases b with
  | prose id html => exact hend _ rfl
  | field path value => exact hend _ rfl
  | loop source iterations => exact hend _ rfl

theorem closed_blocksText (bs : List Block) : Closed (blocksText bs) := by
  induction bs with
  | nil => intro c hc; cases hc
  | cons b rest ih => exact (closed_blockText b).append ih

theorem closed_section : Closed "<section class=\"section\">".toList :=
  closed_of_getLast? rfl

theorem closed_box : Closed "<div class=\"box\">".toList :=
  closed_of_getLast? rfl

theorem closed_end : Closed "</div>".toList :=
  closed_of_getLast? rfl

theorem closed_iterationsText (iterations : List (List Block)) : Closed (iterationsText iterations) := by
  induction iterations with
  | nil => intro c hc; cases hc
  | cons body rest ih => exact ((closed_box.append (closed_blocksText body)).append closed_end).append ih

theorem tags_fieldText (value : Option Json.Value) :
    tags (fieldText value) = ["<p>".toList, "</p>".toList] := by
  have hopen : Closed "<p>".toList := closed_of_getLast? rfl
  rw [fieldText, List.append_assoc, hopen.tags_append, tags, tags,
    tagsFrom_none_append (lt_not_mem_escapeText _)]
  rfl

theorem tags_box {body body' r r' : List Char} (hbody : Closed body) (hbody' : Closed body')
    (h : tags body = tags body') (hr : tags r = tags r') :
    tags ("<div class=\"box\">".toList ++ body ++ "</div>".toList ++ r) =
      tags ("<div class=\"box\">".toList ++ body' ++ "</div>".toList ++ r') := by
  rw [((closed_box.append hbody).append closed_end).tags_append,
    ((closed_box.append hbody').append closed_end).tags_append, (closed_box.append hbody).tags_append,
    (closed_box.append hbody').tags_append, closed_box.tags_append, closed_box.tags_append, h, hr]

mutual

theorem tags_unvalued (b : Block) : tags (blockText (b.rewrite Block.unvalued)) = tags (blockText b) := by
  match b with
  | .prose id html => rfl
  | .field path value =>
      change tags (fieldText none) = tags (fieldText value)
      rw [tags_fieldText, tags_fieldText]
  | .loop source iterations =>
      change tags (blockText (.loop source (Block.rewriteIterations Block.unvalued iterations))) = _
      rw [blockText_loop, blockText_loop, (closed_section.append (closed_iterationsText _)).tags_append,
        (closed_section.append (closed_iterationsText _)).tags_append, closed_section.tags_append,
        closed_section.tags_append, tagsOfIterations_unvalued iterations]

/-- The tags of a page do not depend on the values of its fields. -/
theorem tagsAll_unvalued (bs : List Block) :
    tags (blocksText (Block.rewriteAll Block.unvalued bs)) = tags (blocksText bs) := by
  match bs with
  | [] => rfl
  | b :: rest =>
      change tags (blockText (b.rewrite Block.unvalued) ++ blocksText (Block.rewriteAll Block.unvalued rest)) =
        tags (blockText b ++ blocksText rest)
      rw [(closed_blockText _).tags_append, (closed_blockText _).tags_append, tags_unvalued b,
        tagsAll_unvalued rest]

theorem tagsOfIterations_unvalued (iterations : List (List Block)) :
    tags (iterationsText (Block.rewriteIterations Block.unvalued iterations)) =
      tags (iterationsText iterations) := by
  match iterations with
  | [] => rfl
  | body :: rest =>
      exact tags_box (closed_blocksText _) (closed_blocksText _) (tagsAll_unvalued body)
        (tagsOfIterations_unvalued rest)

end

/-! ### Reading blocks back -/

/-- What can come behind a list of blocks: nothing, or the end of an element. -/
def Ended (r : List Char) : Prop :=
  r = [] ∨ "</".toList <+: r

/-- The second character tells the element that begins from one that ends. -/
theorem Ended.tail_head? {r : List Char} (h : Ended r) : ∀ c ∈ r.tail.head?, c = '/' := by
  intro c hc
  rcases h with rfl | ⟨s, rfl⟩
  · cases hc
  · exact (Option.some.inj hc).symm

theorem ended_div (r : List Char) : Ended ("</div>".toList ++ r) :=
  .inr ⟨_, rfl⟩

theorem ended_section (r : List Char) : Ended ("</section>".toList ++ r) :=
  .inr ⟨_, rfl⟩

theorem Ended.ne_blockText {r : List Char} (hr : Ended r) {b : Block} (hb : b.proseless = true)
    (s : List Char) : r ≠ blockText b ++ s := by
  intro h
  rw [h] at hr
  cases b with
  | prose id html => cases hb
  | field path value => exact absurd (hr.tail_head? 'p' rfl) (by decide)
  | loop source iterations => exact absurd (hr.tail_head? 's' rfl) (by decide)

theorem Ended.ne_iterationsText {r : List Char} (hr : Ended r) (body : List Block)
    (rest : List (List Block)) (s : List Char) : r ≠ iterationsText (body :: rest) ++ s := by
  intro h
  rw [h] at hr
  exact absurd (hr.tail_head? 'd' rfl) (by decide)

theorem fieldText_append_inj {v v' : Option Json.Value} {r r' : List Char}
    (h : fieldText v ++ r = fieldText v' ++ r') :
    Block.displayed v = Block.displayed v' ∧ r = r' := by
  rw [fieldText, fieldText, List.append_assoc, List.append_assoc, List.append_assoc, List.append_assoc] at h
  have hcut := congrArg (Text.cut? '<') (List.append_cancel_left h)
  rw [show "</p>".toList = '<' :: "/p>".toList from rfl, List.cons_append, List.cons_append,
    Text.cut?_append (lt_not_mem_escapeText _), Text.cut?_append (lt_not_mem_escapeText _)] at hcut
  obtain ⟨htext, hrest⟩ := Prod.mk.inj (Option.some.inj hcut)
  exact ⟨String.toList_injective (escapeText_injective htext), List.append_cancel_left hrest⟩

mutual

theorem blockText_append_inj {b b' : Block} {r r' : List Char} (hb : b.proseless = true) (hb' : b'.proseless = true)
    (h : blockText b ++ r = blockText b' ++ r') : b.rewrite Block.shown = b'.rewrite Block.shown ∧ r = r' := by
  match b, b' with
  | .field path value, .field path' value' =>
      obtain ⟨htext, rfl⟩ := fieldText_append_inj h
      refine ⟨?_, rfl⟩
      change Block.field "" (some (.string _)) = Block.field "" (some (.string _))
      rw [htext]
  | .loop source iterations, .loop source' iterations' =>
      rw [blockText_loop, blockText_loop, List.append_assoc, List.append_assoc, List.append_assoc,
        List.append_assoc] at h
      obtain ⟨hshown, hrest⟩ := iterationsText_append_inj hb hb' (ended_section r) (ended_section r')
        (List.append_cancel_left h)
      refine ⟨?_, List.append_cancel_left hrest⟩
      change Block.loop "" _ = Block.loop "" _
      rw [hshown]
  | .field path value, .loop source' iterations' => cases congrArg (·.tail.head?) h
  | .loop source iterations, .field path' value' => cases congrArg (·.tail.head?) h

theorem blocksText_append_inj {bs bs' : List Block} {r r' : List Char}
    (hbs : Block.proselessAll bs = true) (hbs' : Block.proselessAll bs' = true) (hr : Ended r) (hr' : Ended r')
    (h : blocksText bs ++ r = blocksText bs' ++ r') :
    Block.rewriteAll Block.shown bs = Block.rewriteAll Block.shown bs' ∧ r = r' := by
  match bs, bs' with
  | [], [] => exact ⟨rfl, h⟩
  | [], b' :: rest' =>
      rw [Block.proselessAll, Bool.and_eq_true] at hbs'
      change r = blockText b' ++ blocksText rest' ++ r' at h
      rw [List.append_assoc] at h
      exact absurd h (hr.ne_blockText hbs'.1 _)
  | b :: rest, [] =>
      rw [Block.proselessAll, Bool.and_eq_true] at hbs
      change blockText b ++ blocksText rest ++ r = r' at h
      rw [List.append_assoc] at h
      exact absurd h.symm (hr'.ne_blockText hbs.1 _)
  | b :: rest, b' :: rest' =>
      rw [Block.proselessAll, Bool.and_eq_true] at hbs hbs'
      change blockText b ++ blocksText rest ++ r = blockText b' ++ blocksText rest' ++ r' at h
      rw [List.append_assoc, List.append_assoc] at h
      obtain ⟨hb, hrest⟩ := blockText_append_inj hbs.1 hbs'.1 h
      obtain ⟨hshown, hr⟩ := blocksText_append_inj hbs.2 hbs'.2 hr hr' hrest
      refine ⟨?_, hr⟩
      rw [Block.rewriteAll, Block.rewriteAll, hb, hshown]

theorem iterationsText_append_inj {its its' : List (List Block)} {r r' : List Char}
    (hits : Block.proselessIterations its = true) (hits' : Block.proselessIterations its' = true)
    (hr : Ended r) (hr' : Ended r')
    (h : iterationsText its ++ r = iterationsText its' ++ r') :
    Block.rewriteIterations Block.shown its = Block.rewriteIterations Block.shown its' ∧ r = r' := by
  match its, its' with
  | [], [] => exact ⟨rfl, h⟩
  | [], body' :: rest' => exact absurd h (hr.ne_iterationsText body' rest' r')
  | body :: rest, [] => exact absurd h.symm (hr'.ne_iterationsText body rest r)
  | body :: rest, body' :: rest' =>
      rw [Block.proselessIterations, Bool.and_eq_true] at hits hits'
      rw [iterationsText_cons, iterationsText_cons] at h
      simp only [List.append_assoc] at h
      obtain ⟨hbody, hmore⟩ := blocksText_append_inj hits.1 hits'.1 (ended_div _) (ended_div _)
        (List.append_cancel_left h)
      obtain ⟨hshown, hr⟩ := iterationsText_append_inj hits.2 hits'.2 hr hr' (List.append_cancel_left hmore)
      refine ⟨?_, hr⟩
      rw [Block.rewriteIterations, Block.rewriteIterations, hbody, hshown]

end

end Html

namespace Block

mutual

theorem rewrite_rewrite (w w' : Rewriting) (b : Block) :
    (b.rewrite w').rewrite w = b.rewrite ⟨w.id ∘ w'.id, w.name ∘ w'.name, w.value ∘ w'.value⟩ := by
  match b with
  | .prose id html => rfl
  | .field path value => rfl
  | .loop source iterations =>
      rw [rewrite, rewrite, rewriteIterations_rewriteIterations w w' iterations, rewrite]
      rfl

theorem rewriteAll_rewriteAll (w w' : Rewriting) (bs : List Block) :
    rewriteAll w (rewriteAll w' bs) =
      rewriteAll ⟨w.id ∘ w'.id, w.name ∘ w'.name, w.value ∘ w'.value⟩ bs := by
  match bs with
  | [] => rfl
  | b :: rest =>
      rw [rewriteAll, rewriteAll, rewrite_rewrite w w' b, rewriteAll_rewriteAll w w' rest, rewriteAll]

theorem rewriteIterations_rewriteIterations (w w' : Rewriting) (iterations : List (List Block)) :
    rewriteIterations w (rewriteIterations w' iterations) =
      rewriteIterations ⟨w.id ∘ w'.id, w.name ∘ w'.name, w.value ∘ w'.value⟩ iterations := by
  match iterations with
  | [] => rfl
  | body :: rest =>
      rw [rewriteIterations, rewriteIterations, rewriteAll_rewriteAll w w' body,
        rewriteIterations_rewriteIterations w w' rest, rewriteIterations]

end

mutual

theorem fieldTexts_shown (b : Block) : fieldTexts (b.rewrite shown) = fieldTexts b := by
  match b with
  | .prose id html => rfl
  | .field path value => rfl
  | .loop source iterations =>
      rw [rewrite, fieldTexts, fieldTexts, fieldTextsOfIterations_shown iterations]

theorem fieldTextsAll_shown (bs : List Block) : fieldTextsAll (rewriteAll shown bs) = fieldTextsAll bs := by
  match bs with
  | [] => rfl
  | b :: rest =>
      rw [rewriteAll, fieldTextsAll, fieldTextsAll, fieldTexts_shown b, fieldTextsAll_shown rest]

theorem fieldTextsOfIterations_shown (iterations : List (List Block)) :
    fieldTextsOfIterations (rewriteIterations shown iterations) = fieldTextsOfIterations iterations := by
  match iterations with
  | [] => rfl
  | body :: rest =>
      rw [rewriteIterations, fieldTextsOfIterations, fieldTextsOfIterations, fieldTextsAll_shown body,
        fieldTextsOfIterations_shown rest]

end

end Block

namespace Html

mutual

theorem data_of_proseless {b : Block} (h : b.proseless = true) : data b = b.fieldTexts := by
  match b with
  | .field path value => rfl
  | .loop source iterations => exact dataOfIterations_of_proseless h

/-- Without prose the data of a page is what the fields of its blocks show. -/
theorem dataAll_of_proseless {bs : List Block} (h : Block.proselessAll bs = true) :
    dataAll bs = Block.fieldTextsAll bs := by
  match bs with
  | [] => rfl
  | b :: rest =>
      rw [Block.proselessAll, Bool.and_eq_true] at h
      rw [dataAll, Block.fieldTextsAll, data_of_proseless h.1, dataAll_of_proseless h.2]

theorem dataOfIterations_of_proseless {iterations : List (List Block)}
    (h : Block.proselessIterations iterations = true) :
    dataOfIterations iterations = Block.fieldTextsOfIterations iterations := by
  match iterations with
  | [] => rfl
  | body :: rest =>
      rw [Block.proselessIterations, Bool.and_eq_true] at h
      rw [dataOfIterations, Block.fieldTextsOfIterations, dataAll_of_proseless h.1,
        dataOfIterations_of_proseless h.2]

end

theorem blocksText_eq_iff_of_proseless {bs bs' : List Block} (hbs : Block.proselessAll bs = true)
    (hbs' : Block.proselessAll bs' = true) : blocksText bs = blocksText bs' ↔
      Block.rewriteAll Block.shape bs = Block.rewriteAll Block.shape bs' ∧
        Block.fieldTextsAll bs = Block.fieldTextsAll bs' := by
  constructor
  · intro h
    have hshown := (blocksText_append_inj hbs hbs' (.inl rfl) (.inl rfl) (congrArg (· ++ []) h)).1
    have hshape := congrArg (Block.rewriteAll Block.shape) hshown
    rw [Block.rewriteAll_rewriteAll, Block.rewriteAll_rewriteAll] at hshape
    have htexts := congrArg Block.fieldTextsAll hshown
    rw [Block.fieldTextsAll_shown, Block.fieldTextsAll_shown] at htexts
    exact ⟨hshape, htexts⟩
  · intro ⟨hshape, htexts⟩
    have hpieces := congrArg piecesAll hshape
    rw [piecesAll_rewrite, piecesAll_rewrite] at hpieces
    rw [blocksText_eq_fill, blocksText_eq_fill, hpieces, dataAll_of_proseless hbs, dataAll_of_proseless hbs',
      htexts]

/-- Data cannot inject markup. The tags of a page do not depend on the values of its fields. Its data
stands in the holes of markup that does not depend on the data, where none of the characters that begin
or end a tag or an attribute is left and every ampersand begins what a special character is written as. And
from a page without prose the shape of its blocks and the texts of its fields can be read back. -/
theorem data_injects_no_markup (blocks : List Block) :
    (∀ blocks', Block.rewriteAll Block.unvalued blocks' = Block.rewriteAll Block.unvalued blocks →
      tags (render blocks').toList = tags (render blocks).toList) ∧
    (render blocks).toList = fill (piecesAll blocks) (escaped (dataAll blocks)) ∧
    (∀ w, piecesAll (Block.rewriteAll w blocks) = piecesAll blocks) ∧
    (∀ text ∈ escaped (dataAll blocks), (∀ c ∈ text, c ≠ '<' ∧ c ≠ '>' ∧ c ≠ '"') ∧
      ∀ front back, text = front ++ '&' :: back → ∃ e ∈ escapes, e <+: '&' :: back) ∧
    ∀ blocks', Block.proselessAll blocks = true → Block.proselessAll blocks' = true →
      (render blocks = render blocks' ↔
        Block.rewriteAll Block.shape blocks = Block.rewriteAll Block.shape blocks' ∧
          Block.fieldTextsAll blocks = Block.fieldTextsAll blocks') := by
  have hrender (bs : List Block) : (render bs).toList = blocksText bs := String.toList_ofList
  refine ⟨?_, ?_, fun w => piecesAll_rewrite w blocks, ?_, ?_⟩
  · intro blocks' h
    rw [hrender, hrender, ← tagsAll_unvalued blocks', h, tagsAll_unvalued]
  · rw [hrender, blocksText_eq_fill]
  · intro text htext
    obtain ⟨d, -, rfl⟩ := List.mem_map.1 htext
    exact ⟨fun c hc => not_special_of_mem_escapeText hc, fun front back h => exists_escape_of_escapeText h⟩
  · intro blocks' hbs hbs'
    rw [← blocksText_eq_iff_of_proseless hbs hbs', ← hrender, ← hrender, String.toList_inj]

/-- A value that reads like the end of a field and a field after it has the tags of any other value, and the
page of it is not the page of two fields. -/
theorem data_injects_no_markup_fields :
    tags (render [.loop "xs" [[.field "x" (some (.string "a</p><p>b"))]]]).toList =
      tags (render [.loop "xs" [[.field "x" none]]]).toList ∧
    render [.loop "xs" [[.field "x" (some (.string "a</p><p>b"))]]] ≠
      render [.loop "xs" [[.field "x" (some (.string "a")), .field "x" (some (.string "b"))]]] := by
  refine ⟨(data_injects_no_markup _).1 _ rfl, ?_⟩
  intro h
  have hread := ((data_injects_no_markup _).2.2.2.2 _ rfl rfl).1 h
  exact absurd (congrArg List.length hread.2) (by decide)

end Html

end StaticPage
