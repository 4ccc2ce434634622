import StaticPage.Evaluation.Block
import StaticPage.Text.Split

/-!
# Blocks as HTML

Prose becomes a section with a heading, a field a paragraph with its escaped text, and a loop a
section with one box for each iteration. The HTML of prose stands as it is, except that the paragraph
around a single line of it is left out. Text stands with its ampersands, angle brackets and double
quotes escaped, in elements and in attributes alike.
-/

namespace StaticPage.Html

/-! ### Escaped text -/

def escapeChar (c : Char) : List Char :=
  if c = '&' then "&amp;".toList
  else if c = '<' then "&lt;".toList
  else if c = '>' then "&gt;".toList
  else if c = '"' then "&quot;".toList
  else [c]

def escapeText (s : List Char) : List Char :=
  s.flatMap escapeChar

def escape (s : String) : String :=
  String.ofList (escapeText s.toList)

@[simp] theorem escapeText_nil : escapeText [] = [] := rfl

@[simp] theorem escapeText_cons (c : Char) (s : List Char) :
    escapeText (c :: s) = escapeChar c ++ escapeText s := by
  simp [escapeText]

@[simp] theorem escapeText_append (s t : List Char) :
    escapeText (s ++ t) = escapeText s ++ escapeText t := by
  simp [escapeText]

/-! ### Blocks -/

/-- HTML without the paragraph tags at its two ends, each taken away if it is there. -/
def unwrapParagraph (html : List Char) : List Char :=
  let html := (Text.dropSuffix? "</p>\n".toList html).getD html
  (Text.dropPrefix? "<p>".toList html).getD html

def proseText (id html : String) : List Char :=
  "<section class=\"section\" id=\"".toList ++ escapeText id.toList ++
    "\">\n  <div class=\"container\">\n    <h2 class=\"subtitle has-text-weight-semibold\">".toList ++
    unwrapParagraph html.toList ++ "</h2>\n  </div>\n</section>".toList

def fieldText (value : Option Json.Value) : List Char :=
  "<p>".toList ++ escapeText (Block.displayed value).toList ++ "</p>".toList

mutual

def blockText : Block → List Char
  | .prose id html => proseText id html
  | .field _ value => fieldText value
  | .loop _ iterations =>
    "<section class=\"section\">".toList ++ iterationsText iterations ++ "</section>".toList

def blocksText : List Block → List Char
  | [] => []
  | b :: rest => blockText b ++ blocksText rest

def iterationsText : List (List Block) → List Char
  | [] => []
  | body :: rest =>
    "<div class=\"box\">".toList ++ blocksText body ++ "</div>".toList ++ iterationsText rest

end

def render (blocks : List Block) : String :=
  String.ofList (blocksText blocks)

end StaticPage.Html
