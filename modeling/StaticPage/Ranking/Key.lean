import StaticPage.Text.Characters
import StaticPage.Text.Split

/-!
# Sort keys

A sort key is a path into an item and a direction. A list of keys is written with commas between
them. A key is descending unless a caret follows it; a caret in front of the list makes every key
ascending.
-/

namespace StaticPage

/-- A path by which items are ranked, and whether it ranks them upwards. -/
structure SortKey where
  path : String
  ascending : Bool
  deriving DecidableEq, Repr, Inhabited

namespace SortKey

/-- A key as it is written in a list. -/
def text (k : SortKey) : List Char :=
  if k.ascending then k.path.toList ++ ['^'] else k.path.toList

def listText (keys : List SortKey) : List Char :=
  [',', ' '].intercalate (keys.map text)

/-- The key that a part of a list spells, if the part has a path. -/
def ofPart? (allAscending : Bool) (part : List Char) : Option SortKey :=
  let part := Text.trim part
  let (path, marked) := match Text.dropSuffix? ['^'] part with
    | some path => (Text.trim path, true)
    | none => (part, false)
  if path.isEmpty then none else some ⟨String.ofList path, allAscending || marked⟩

/-- The keys that a list spells. Parts without a path are left out, and a blank list has no keys. -/
def parseList (spec : List Char) : List SortKey :=
  let spec := Text.trim spec
  let (allAscending, spec) := match spec with
    | '^' :: rest => (true, rest)
    | spec => (false, spec)
  (spec.splitOn ',').filterMap (ofPart? allAscending)

end SortKey

end StaticPage
