import StaticPage.Html.Blocks
import StaticPage.Markdown.Element

/-!
# HTML of marked-up texts

Blocks are written one after the other. A block begins on a line of its own: if the text so far does
not end a line, it begins with a line ending. Raw HTML is written as it is.
-/

namespace StaticPage.Markdown

/-- A character of a link that is written as it is. -/
def isPlainInHref (c : Char) : Bool :=
  c.isAlphanum || "!#$%()*+,-./:;=?@_~".toList.contains c

/-- A byte by its two hexadecimal digits in capitals. -/
def percent (b : UInt8) : List Char :=
  let digit (n : Nat) : Char := "0123456789ABCDEF".toList.getD n '0'
  ['%', digit (b.toNat / 16), digit (b.toNat % 16)]

/-- A destination as it stands in an attribute: other characters than those of links are written
byte by byte. -/
def href (s : String) : String :=
  String.ofList (s.toList.flatMap fun c =>
    if isPlainInHref c then [c]
    else if c = '&' then "&amp;".toList
    else if c = '\'' then "&#x27;".toList
    else c.toString.toUTF8.toList.flatMap percent)

namespace Element

mutual

/-- The text of an element for the description of an image. -/
def bare : Element → String
  | text s | code s | html s => s
  | softBreak | hardBreak | rule => " "
  | inside _ content => bareAll content

def bareAll : List Element → String
  | [] => ""
  | e :: rest => bare e ++ bareAll rest

end

end Element

namespace Tag

def titleAttribute (title : String) : String :=
  if title.isEmpty then "" else "\" title=\"" ++ Html.escape title

/-- The attribute that aligns a cell. -/
def alignment : Alignment → String
  | .none => ""
  | .left => " style=\"text-align: left\""
  | .center => " style=\"text-align: center\""
  | .right => " style=\"text-align: right\""

def cellName (inHead : Bool) : String :=
  if inHead then "th" else "td"

/-- The opening tags of an element. The first word after the fence of a piece of code names its
language. -/
def opening : Tag → String
  | paragraph => "<p>"
  | heading level => "<h" ++ toString level ++ ">"
  | quote => "<blockquote>\n"
  | list none => "<ul>\n"
  | list (some n) => if n = 1 then "<ol>\n" else "<ol start=\"" ++ toString n ++ "\">\n"
  | item => "<li>"
  | code info =>
    let language := String.ofList ((info.getD "").toList.takeWhile (· != ' '))
    if language.isEmpty then "<pre><code>"
    else "<pre><code class=\"language-" ++ Html.escape language ++ "\">"
  | table => "<table>"
  | head => "<thead><tr>"
  | row => "<tr>"
  | cell inHead a => "<" ++ cellName inHead ++ alignment a ++ ">"
  | emphasis => "<em>"
  | strong => "<strong>"
  | strikethrough => "<del>"
  | link target =>
    "<a href=\"" ++ href target.destination ++ titleAttribute target.title ++ "\">"
  | image target => "<img src=\"" ++ href target.destination ++ "\" alt=\""

def closing : Tag → String
  | paragraph => "</p>\n"
  | heading level => "</h" ++ toString level ++ ">\n"
  | quote => "</blockquote>\n"
  | list none => "</ul>\n"
  | list (some _) => "</ol>\n"
  | item => "</li>\n"
  | code _ => "</code></pre>\n"
  | table => "</tbody></table>\n"
  | head => "</tr></thead><tbody>\n"
  | row => "</tr>\n"
  | cell inHead _ => "</" ++ cellName inHead ++ ">"
  | emphasis => "</em>"
  | strong => "</strong>"
  | strikethrough => "</del>"
  | link _ => "</a>"
  | image target => titleAttribute target.title ++ "\" />"

/-- An element that begins on a line of its own. -/
def startsLine : Tag → Bool
  | paragraph | heading _ | quote | list _ | item | code _ => true
  | _ => false

end Tag

/-- A page as far as it is written, and whether its text ends a line. -/
structure Page where
  text : String
  fresh : Bool
  deriving DecidableEq, Repr, Inhabited

namespace Page

def writeText (p : Page) (s : String) : Page :=
  ⟨p.text ++ s, s.toList.getLast? = some '\n'⟩

def write (p : Page) (s : String) : Page :=
  if s.isEmpty then p else p.writeText s

/-- Markup written at the beginning of a line. -/
def writeFresh (p : Page) (s : String) : Page :=
  (if p.fresh then p else p.write "\n").write s

mutual

def element (p : Page) : Element → Page
  | .text s => p.writeText (Html.escape s)
  | .code s => p.write ("<code>" ++ Html.escape s ++ "</code>")
  | .html s => p.write s
  | .softBreak => p.write "\n"
  | .hardBreak => p.write "<br />\n"
  | .rule => p.writeFresh "<hr />\n"
  | .inside (.image target) content =>
    p.write (Tag.opening (.image target) ++ Html.escape (Element.bareAll content) ++
      Tag.closing (.image target))
  | .inside tag content =>
    let p := if tag.startsLine then p.writeFresh tag.opening else p.write tag.opening
    (p.elements content).write tag.closing

def elements (p : Page) : List Element → Page
  | [] => p
  | e :: rest => (p.element e).elements rest

end

end Page

end StaticPage.Markdown
