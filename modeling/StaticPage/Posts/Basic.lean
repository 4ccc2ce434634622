import StaticPage.Calendar.Date
import StaticPage.Files.Path
import StaticPage.Json.Value
import StaticPage.Markdown
import StaticPage.Text.Split

/-!
# Posts

A post is a text in Markdown in a file whose name begins with a date. Its title is its first heading of
the first level, or the name of the file; its preview is the first line that is neither blank nor
begins with a number sign. Both are looked for in one pass, which ends when both are found.
-/

namespace StaticPage

/-- What a page says of a post. -/
structure Post where
  title : String
  preview : String
  date : String
  url : String
  deriving DecidableEq, Repr, Inhabited

namespace Post

/-- The number of bytes that a preview may have before it is cut. -/
def previewLimit : Nat := 240

/-- The number of bytes of a date in front of a file name. -/
def dateLength : Nat := 10

/-- The date that a file name begins with, as it is written there. -/
def dateText? (fileName : String) : Option String :=
  ((Text.firstBytes? dateLength fileName.toList).map String.ofList).filter fun text =>
    (Date.parse? text.toList).isSome

/-- The title that a line gives. -/
def heading? (line : List Char) : Option (List Char) :=
  (Text.dropPrefix? "# ".toList line).map Text.trim

/-- The text of a line that a preview can be made of. -/
def prose? (line : List Char) : Option (List Char) :=
  let text := Text.trim line
  if text.isEmpty ∨ text.head? = some '#' then none else some text

/-- The preview that a line gives, before it is cut. -/
def passage? (line : List Char) : Option String :=
  (prose? line).map fun text => Markdown.strip (String.ofList text)

/-- A text of at most as many bytes, or the longest beginning of it that has no more and an
ellipsis. -/
def shorten (limit : Nat) (s : List Char) : List Char :=
  if Text.byteLength s ≤ limit then s else Text.takeBytes limit s ++ ['…']

/-- What the lines of a post have given so far. -/
structure Draft where
  title : Option String
  preview : Option String
  deriving DecidableEq, Repr, Inhabited

namespace Draft

def isWhole (d : Draft) : Bool :=
  d.title.isSome && d.preview.isSome

/-- What lines give, up to the one that gives the last of it. The line that gives the title is not
asked for a preview. -/
def read (d : Draft) : List (List Char) → Draft
  | [] => d
  | line :: rest =>
    match if d.title.isNone then heading? line else none with
    | some text => read { d with title := some (String.ofList text) } rest
    | none =>
      let d := if d.preview.isNone then { d with preview := passage? line } else d
      if d.isWhole then d else read d rest

end Draft

/-- The post in a file, if the name of the file begins with a date. -/
def ofMarkdown? (fileName content : String) : Option Post :=
  (dateText? fileName).map fun date =>
    let draft := Draft.read ⟨none, none⟩ (Text.lines content.toList)
    { title := draft.title.getD ((Path.stem? fileName).getD fileName)
      preview := String.ofList (shorten previewLimit (draft.preview.getD "").toList)
      date, url := "/posts/" ++ date ++ "/" }

def toJson (p : Post) : Json.Value :=
  .object [("title", .string p.title), ("preview", .string p.preview), ("date", .string p.date),
    ("url", .string p.url)]

end Post

end StaticPage
