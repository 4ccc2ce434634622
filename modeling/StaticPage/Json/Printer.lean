import StaticPage.Binary64.Shortest
import StaticPage.Json.Value

/-!
# JSON text

A value has a compact text without blanks and an indented text with one entry a line. Both keep the
order of entries, escape only quotes, backslashes and control characters, and write a double with
the fewest digits that read back, always with a point or an exponent.
-/

namespace StaticPage.Json

def digits (n : Nat) : List Char :=
  Nat.toDigits 10 n

def integerText (i : Int) : List Char :=
  if i < 0 then '-' :: digits i.natAbs else digits i.natAbs

def zeros (n : Nat) : List Char :=
  List.replicate n '0'

/-- The places that a double's positional text may take: the point stands at most this many digits
after the first one. -/
def maxWhole : Int := 16

/-- The zeros that may follow the point of a double below one, counted from the point's place. -/
def minWhole : Int := -4

/-- A decimal as text: positional while the point falls between `minWhole` and `maxWhole`, and
otherwise one digit, the others after a point, and a signed exponent. -/
def decimalText (d : Binary64.Decimal) : List Char :=
  let ds := digits d.digits
  let point := (ds.length : Int) + d.exponent
  if 0 ≤ d.exponent && point ≤ maxWhole then ds ++ zeros d.exponent.toNat ++ ['.', '0']
  else if 0 < point && point ≤ maxWhole then ds.take point.toNat ++ '.' :: ds.drop point.toNat
  else if minWhole ≤ point && point ≤ 0 then '0' :: '.' :: zeros (-point).toNat ++ ds
  else
    let mantissa := match ds with
      | [] => []
      | [c] => [c]
      | c :: rest => c :: '.' :: rest
    let e := point - 1
    mantissa ++ 'e' :: (if e < 0 then '-' else '+') :: digits e.natAbs

def realText (x : Binary64) : List Char :=
  let text := if x.magnitude = 0 then ['0', '.', '0'] else decimalText (Binary64.shortest x.magnitude)
  if x.negative then '-' :: text else text

def Number.text : Number → List Char
  | .int i => integerText i
  | .real x => realText x

/-- A hexadecimal digit, in lower case. -/
def hexDigit (n : Nat) : Char :=
  Nat.digitChar (n % 16)

/-- A character as it stands in a string: quotes, backslashes and control characters are escaped. -/
def escapeChar (c : Char) : List Char :=
  if c = '"' then ['\\', '"']
  else if c = '\\' then ['\\', '\\']
  else if c = '\n' then ['\\', 'n']
  else if c = '\r' then ['\\', 'r']
  else if c = '\t' then ['\\', 't']
  else if c = '\x08' then ['\\', 'b']
  else if c = '\x0c' then ['\\', 'f']
  else if c.toNat < 0x20 then ['\\', 'u', '0', '0', hexDigit (c.toNat / 16), hexDigit c.toNat]
  else [c]

def quoted (s : String) : List Char :=
  '"' :: s.toList.flatMap escapeChar ++ ['"']

mutual

def compactText : Value → List Char
  | .null => "null".toList
  | .bool true => "true".toList
  | .bool false => "false".toList
  | .number n => n.text
  | .string s => quoted s
  | .array items => '[' :: compactItems items ++ [']']
  | .object entries => '{' :: compactEntries entries ++ ['}']

def compactItems : List Value → List Char
  | [] => []
  | [v] => compactText v
  | v :: rest => compactText v ++ ',' :: compactItems rest

def compactEntries : List (String × Value) → List Char
  | [] => []
  | [(k, v)] => quoted k ++ ':' :: compactText v
  | (k, v) :: rest => quoted k ++ ':' :: compactText v ++ ',' :: compactEntries rest

end

/-- A line break followed by two spaces a level. -/
def newline (level : Nat) : List Char :=
  '\n' :: List.replicate (2 * level) ' '

mutual

/-- The indented text of a value that stands at a level. -/
def indentedText (level : Nat) : Value → List Char
  | .array [] => ['[', ']']
  | .array items => '[' :: indentedItems (level + 1) items ++ newline level ++ [']']
  | .object [] => ['{', '}']
  | .object entries => '{' :: indentedEntries (level + 1) entries ++ newline level ++ ['}']
  | .null => compactText .null
  | .bool b => compactText (.bool b)
  | .number n => compactText (.number n)
  | .string s => compactText (.string s)

def indentedItems (level : Nat) : List Value → List Char
  | [] => []
  | [v] => newline level ++ indentedText level v
  | v :: rest => newline level ++ indentedText level v ++ ',' :: indentedItems level rest

/-- The indented texts of entries, each on a line of its own. -/
def indentedEntries (level : Nat) : List (String × Value) → List Char
  | [] => []
  | [(k, v)] => newline level ++ quoted k ++ ':' :: ' ' :: indentedText level v
  | (k, v) :: rest =>
    newline level ++ quoted k ++ ':' :: ' ' :: indentedText level v ++
      ',' :: indentedEntries level rest

end

namespace Value

def compact (v : Value) : String :=
  String.ofList (compactText v)

def indented (v : Value) : String :=
  String.ofList (indentedText 0 v)

/-- How a value shows on a page: a string as it is, null as nothing, all else as compact JSON. -/
def display : Value → String
  | .string s => s
  | .null => ""
  | v => v.compact

end Value

end StaticPage.Json
