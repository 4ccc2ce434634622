import StaticPage.Document.Body

/-!
# Writing documents

The canonical form of a document has one line for each binding and each part of the body, a blank
line between the two, and two spaces of indentation a level.
-/

namespace StaticPage

def Binding.text (b : Binding) : List Char :=
  let name := b.name.toList
  let target := b.target.toList
  match b.origin with
  | .manual => name ++ " = ".toList ++ target
  | .eager url => name ++ " = ".toList ++ target ++ " << ".toList ++ url.toList
  | .lazy template => '!' :: name ++ " = ".toList ++ target ++ " << ".toList ++ template.toList

def LoopHeader.text (h : LoopHeader) : List Char :=
  "[for ".toList ++ [',', ' '].intercalate (h.vars.map String.toList) ++ " in ".toList ++
    h.source.toList ++ (if h.sort.isEmpty then [] else ": ".toList ++ SortKey.listText h.sort) ++ [']']

def Item.text : Item → List Char
  | .prose id text => '\x7b' :: id.toList ++ ": ".toList ++ text.toList ++ ['\x7d']
  | .field path => path.toList
  | .loop header => header.text

/-- A line of the body at a depth, with its line break. -/
def Item.line (depth : Nat) (item : Item) : List Char :=
  List.replicate (2 * depth) ' ' ++ item.text ++ ['\n']

namespace Document

def text (d : Document) : List Char :=
  d.bindings.flatMap (fun b => b.text ++ ['\n']) ++
    (if d.bindings.isEmpty || d.nodes.isEmpty then [] else ['\n']) ++
    (Node.outlineAll 0 d.nodes).flatMap fun (depth, item) => item.line depth

def print (d : Document) : String :=
  String.ofList d.text

end Document

end StaticPage
