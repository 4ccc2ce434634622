/-!
# Marked-up texts

A marked-up text is a list of elements: texts, breaks and rules, and tags around other elements. Blocks
and the elements of running text are of one type, because the items of a tight list hold both side by
side.

The plain text of elements keeps the letters and the code, in the order in which they stand. A break is
a space; raw HTML and all marks are dropped, and nothing stands between two blocks.
-/

namespace StaticPage.Markdown

/-- Where a link leads or an image comes from, with its title. -/
structure Target where
  destination : String
  title : String
  deriving DecidableEq, Repr, Inhabited

inductive Alignment where
  | none
  | left
  | center
  | right
  deriving DecidableEq, Repr, Inhabited

/-- What an element is that holds others. A list is numbered if it has a start; the words after the
fence of a piece of code belong to it. -/
inductive Tag where
  | paragraph
  | heading (level : Nat)
  | quote
  | list (start : Option Nat)
  | item
  | code (info : Option String)
  | table
  | head
  | row
  | cell (inHead : Bool) (alignment : Alignment)
  | emphasis
  | strong
  | strikethrough
  | link (target : Target)
  | image (target : Target)
  deriving DecidableEq, Repr, Inhabited

inductive Element where
  | text (s : String)
  | code (s : String)
  | html (s : String)
  | softBreak
  | hardBreak
  | rule
  | inside (tag : Tag) (content : List Element)
  deriving Repr, Inhabited

/-- What is read beyond the plain rules. -/
structure Extensions where
  tables : Bool
  strikethrough : Bool
  deriving DecidableEq, Repr, Inhabited

namespace Element

mutual

def plain : Element → String
  | text s | code s => s
  | html _ | rule => ""
  | softBreak | hardBreak => " "
  | inside _ content => plainAll content

def plainAll : List Element → String
  | [] => ""
  | e :: rest => plain e ++ plainAll rest

end

end Element

end StaticPage.Markdown
