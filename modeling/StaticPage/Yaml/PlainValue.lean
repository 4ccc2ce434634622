import StaticPage.Binary64.Shortest
import StaticPage.Text.Hidden
import StaticPage.Yaml.Event

/-!
# What a plain scalar stands for

Written plainly, a scalar may stand for nothing, a truth value or a number; all else is text. An
integer may have a sign and a base, and one in base ten that begins with a needless zero is text. A
number with a point or an exponent is a double, unless it is too large for one.
-/

namespace StaticPage.Yaml

/-- What a plain scalar stands for. -/
inductive PlainValue where
  | null
  | bool (b : Bool)
  | int (i : Int)
  | real (x : Binary64)
  | infinity (negative : Bool)
  | notANumber
  | text (s : String)
  deriving DecidableEq, Repr, Inhabited

namespace PlainValue

def isNull (s : String) : Bool :=
  ["null", "Null", "NULL", "~"].contains s

def bool? (s : String) : Option Bool :=
  if ["true", "True", "TRUE"].contains s then some true
  else if ["false", "False", "FALSE"].contains s then some false
  else none

/-! ### Integers -/

/-- The digits of a number of a base, at least one. -/
def natural? (base : Nat) (s : List Char) : Option Nat :=
  if s.isEmpty then none
  else s.foldlM (fun n c => match Text.hexDigit? c with
    | some d => if d < base then some (base * n + d) else none
    | none => none) 0

/-- A number without a sign, with its base if that is not ten. -/
def unsigned? : List Char → Option Nat
  | '0' :: 'x' :: s => natural? 16 s
  | '0' :: 'o' :: s => natural? 8 s
  | '0' :: 'b' :: s => natural? 2 s
  | s => natural? 10 s

/-- The text after a sign, if it begins with one. -/
def afterSign (s : List Char) : List Char :=
  match s with
  | '+' :: r | '-' :: r => r
  | _ => s

/-- Whether a text is digits that begin with a needless zero. -/
def hasNeedlessZero (s : List Char) : Bool :=
  match afterSign s with
  | '0' :: c :: r => (c :: r).all Char.isDigit
  | _ => false

/-- The integer that a plain scalar stands for. It has at most 128 bits. -/
def int? (s : List Char) : Option Int :=
  if hasNeedlessZero s then none
  else
    match s with
    | '-' :: r => (unsigned? r).bind fun n => if n ≤ Nat.pow 2 127 then some (-(n : Int)) else none
    | '+' :: r => small r
    | r => small r
where
  small (r : List Char) : Option Int :=
    (unsigned? r).bind fun n => if n < Nat.pow 2 128 then some (n : Int) else none

/-! ### Doubles -/

def exponent? : List Char → Option Int
  | [] => some 0
  | c :: s =>
    if c == 'e' || c == 'E' then
      match s with
      | '-' :: r => (natural? 10 r).map fun n => -(n : Int)
      | '+' :: r => (natural? 10 r).map Int.ofNat
      | r => (natural? 10 r).map Int.ofNat
    else none

/-- The magnitude of a decimal number without a sign: at least one digit before or after the point.
An exponent beyond what any double has makes it zero or too large. -/
def magnitude? (s : List Char) : Option Nat := do
  let whole := s.takeWhile Char.isDigit
  let s := s.dropWhile Char.isDigit
  let (fraction, s) := match s with
    | '.' :: r => (r.takeWhile Char.isDigit, r.dropWhile Char.isDigit)
    | _ => ([], s)
  let digits ← natural? 10 (whole ++ fraction)
  let e ← exponent? s
  let point := e - fraction.length
  if digits = 0 then return 0
  else if 400 < point then none
  else if point + (whole.length + fraction.length) < -400 then return 0
  else Binary64.round? (digits * Nat.pow 10 point.toNat) (Nat.pow 10 (-point).toNat)

def real? (s : List Char) : Option PlainValue :=
  if [".inf", ".Inf", ".INF", "+.inf", "+.Inf", "+.INF"].any (·.toList == s) then
    some (.infinity false)
  else if ["-.inf", "-.Inf", "-.INF"].any (·.toList == s) then some (.infinity true)
  else if [".nan", ".NaN", ".NAN"].any (·.toList == s) then some .notANumber
  else
    (magnitude? (afterSign s)).map fun m => .real ⟨s.head? == some '-', m⟩

def ofText (s : String) : PlainValue :=
  if s.isEmpty || isNull s then .null
  else
    match bool? s, int? s.toList with
    | some b, _ => .bool b
    | none, some i => .int i
    | none, none =>
      if hasNeedlessZero s.toList then .text s else (real? s.toList).getD (.text s)

/-! ### Wordings -/

/-- The digits of a positive double, positional and with a point. -/
def positional (d : Binary64.Decimal) : List Char :=
  let ds := Nat.toDigits 10 d.digits
  if 0 ≤ d.exponent then ds ++ List.replicate d.exponent.toNat '0' ++ ['.', '0']
  else
    let places := (-d.exponent).toNat
    let padded := List.replicate (places + 1 - ds.length) '0' ++ ds
    padded.take (padded.length - places) ++ '.' :: padded.drop (padded.length - places)

def describeReal (digits : String) : String :=
  "floating point " ++ ticked digits

def describe : PlainValue → String
  | null => "unit value"
  | bool b => "boolean " ++ ticked (toString b)
  | int i =>
    "integer " ++ ticked (toString i) ++
      if i < -(Nat.pow 2 63 : Nat) then " as i128" else if (Nat.pow 2 64 : Nat) ≤ i then " as u128" else ""
  | real x =>
    describeReal ((if x.negative then "-" else "") ++
      if x.magnitude = 0 then "0.0" else String.ofList (positional (Binary64.shortest x.magnitude)))
  | infinity negative => describeReal (if negative then "-inf" else "inf")
  | notANumber => describeReal "NaN"
  | text s => "string " ++ Text.quote s

end PlainValue

namespace Scalar

def isEmpty (s : Scalar) : Bool := s.plain && s.text.isEmpty

/-- The tag of a kind that every document knows. -/
def usualTag (kind : String) : String := "tag:yaml.org,2002:" ++ kind

/-- Why a scalar is no `expected`. A tag says what kind of value the scalar is. -/
def mismatch (s : Scalar) (expected : String) : Mismatch :=
  let found (v : PlainValue) : Mismatch := .wrongKind v.describe expected
  let orNot (v : Option PlainValue) (kind : String) : Mismatch :=
    v.elim (.wrongValue ("string " ++ Text.quote s.text) kind) found
  let read : Mismatch := found (if s.plain then .ofText s.text else .text s.text)
  match s.tag with
  | none => read
  | some tag =>
    if tag = usualTag "bool" then orNot ((PlainValue.bool? s.text).map .bool) "a boolean"
    else if tag = usualTag "int" then orNot ((PlainValue.int? s.text.toList).map .int) "an integer"
    else if tag = usualTag "float" then orNot (PlainValue.real? s.text.toList) "a float"
    else if tag = usualTag "null" then
      orNot (if PlainValue.isNull s.text then some .null else none) "null"
    else if tag.startsWith "!" then read
    else found (.text s.text)

end Scalar

end StaticPage.Yaml
