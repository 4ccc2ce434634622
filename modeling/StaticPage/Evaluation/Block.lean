import StaticPage.Json.Printer

/-!
# Blocks

Evaluation turns the parts of a body into blocks: prose carries its HTML, a field its value, and a
loop one list of blocks for each of its items.
-/

namespace StaticPage

/-- An evaluated part of a body. -/
inductive Block where
  | prose (id html : String)
  | field (path : String) (value : Option Json.Value)
  | loop (source : String) (iterations : List (List Block))
  deriving BEq, Repr, Inhabited

namespace Block

/-- The text that a value shows, nothing if it is absent. -/
def displayed (value : Option Json.Value) : String :=
  (value.map Json.Value.display).getD ""

def text? : Block → Option String
  | field _ value => some (displayed value)
  | _ => none

mutual

/-- The texts of the fields of a block, in the order of the page. -/
def fieldTexts : Block → List String
  | .field _ value => [displayed value]
  | .prose _ _ => []
  | .loop _ iterations => fieldTextsOfIterations iterations

def fieldTextsAll : List Block → List String
  | [] => []
  | b :: rest => fieldTexts b ++ fieldTextsAll rest

def fieldTextsOfIterations : List (List Block) → List String
  | [] => []
  | body :: rest => fieldTextsAll body ++ fieldTextsOfIterations rest

end

mutual

def toJson : Block → Json.Value
  | .prose id html =>
    .object [("type", .string "section"), ("id", .string id), ("html", .string html)]
  | .field path value =>
    .object [("type", .string "field"), ("path", .string path), ("value", value.getD .null)]
  | .loop source iterations =>
    .object [("type", .string "loop"), ("source", .string source),
      ("iterations", .array (iterationsToJson iterations))]

def allToJson : List Block → List Json.Value
  | [] => []
  | b :: rest => toJson b :: allToJson rest

def iterationsToJson : List (List Block) → List Json.Value
  | [] => []
  | body :: rest => .array (allToJson body) :: iterationsToJson rest

end

end Block

end StaticPage
