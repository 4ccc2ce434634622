import StaticPage.Binary64.Basic
import StaticPage.Dictionary

/-!
# JSON values and paths into them

A value is what JSON text stands for. A number is an integer if its text is one and it fits 64 bits,
signed or unsigned, and a finite double otherwise. The entries of an object keep the order of their
keys' first occurrences.

A path is a text of segments separated by points. A segment is a key of an object or a decimal index
of an array; looking up a path walks its segments one after the other. A value that is null counts as
absent at the end of a path.
-/

namespace StaticPage.Json

/-- A number: an integer between `-2 ^ 63` and `2 ^ 64 - 1`, or a finite double. -/
inductive Number where
  | int (i : Int)
  | real (x : Binary64)
  deriving DecidableEq, Repr, Inhabited

inductive Value where
  | null
  | bool (b : Bool)
  | number (n : Number)
  | string (s : String)
  | array (items : List Value)
  | object (entries : List (String × Value))
  deriving BEq, Repr, Inhabited

namespace Value

def isNull : Value → Bool
  | null => true
  | _ => false

def present? (v : Value) : Option Value :=
  if v.isNull then none else some v

end Value

/-- A number as a signed 64-bit integer, if it is one. -/
def Number.signed? : Number → Option Int
  | .int i => if i < (Nat.pow 2 63 : Nat) then some i else none
  | .real _ => none

def Number.toBinary64 : Number → Binary64
  | .int i => .ofInt i
  | .real x => x

/-! ### Paths -/

namespace Path

/-- The segments of a path. The empty path has one segment, which is empty. -/
def segments (path : String) : List String :=
  (path.toList.splitOn '.').map String.ofList

def join (segments : List String) : String :=
  String.ofList (['.'].intercalate (segments.map String.toList))

/-- Indices fit 64 bits. -/
def indexLimit : Nat := Nat.pow 2 64

/-- The index that a segment spells: decimal digits, after a plus sign or none. -/
def index? (segment : String) : Option Nat :=
  let ds := match segment.toList with
    | '+' :: rest => rest
    | s => s
  if ds.isEmpty then none
  else if ds.all Char.isDigit then
    let n := ds.foldl (fun n c => n * 10 + (c.toNat - 48)) 0
    if n < indexLimit then some n else none
  else none

end Path

namespace Value

def child? (v : Value) (segment : String) : Option Value :=
  match v with
  | object entries => entries.lookup segment
  | array items => (Path.index? segment).bind fun i => items[i]?
  | _ => none

def walk? (v : Value) : List String → Option Value
  | [] => some v
  | s :: rest => (v.child? s).bind (walk? · rest)

/-- The value at a path, absent if it is null. -/
def get? (v : Value) (path : String) : Option Value :=
  (v.walk? (Path.segments path)).bind present?

@[simp] theorem walk?_nil (v : Value) : v.walk? [] = some v := rfl

@[simp] theorem walk?_cons (v : Value) (s : String) (rest : List String) :
    v.walk? (s :: rest) = (v.child? s).bind (walk? · rest) := rfl

/-- A walk along two lists of segments is one walk after the other. -/
theorem walk?_append (v : Value) (p q : List String) :
    v.walk? (p ++ q) = (v.walk? p).bind (walk? · q) := by
  induction p generalizing v with
  | nil => rfl
  | cons s p ih =>
    simp only [List.cons_append, walk?_cons]
    cases v.child? s with
    | none => rfl
    | some w => exact ih w

end Value

end StaticPage.Json
