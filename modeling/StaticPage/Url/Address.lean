import StaticPage.Text.Characters

/-!
# Numeric hosts

A host may be an IPv4 address, written as up to four numbers of any base of which the last fills the
bytes that are left, or an IPv6 address of eight pieces of 16 bits, in which one run of zeros may be
left out and the last two pieces may be written as an IPv4 address.
-/

namespace StaticPage.Url

/-! ### IPv4 -/

/-- The number that a part of an address stands for, if it is one. -/
def ipv4Number? (s : List Char) : Option Nat :=
  match s with
  | [] => none
  | '0' :: 'x' :: r | '0' :: 'X' :: r => number 16 r
  | '0' :: r => if r.isEmpty then some 0 else number 8 r
  | _ => number 10 s
where
  number (base : Nat) (s : List Char) : Option Nat :=
    s.foldlM (fun n c => (Text.hexDigit? c).bind fun d =>
      if d < base then some (base * n + d) else none) 0

def nameParts (name : List Char) : List (List Char) :=
  let parts := name.splitOn '.'
  if 1 < parts.length && parts.getLast? == some [] then parts.dropLast else parts

/-- Whether the last part of a name is a number, so that the name has to be an address. -/
def endsInNumber (name : List Char) : Bool :=
  match (nameParts name).getLast? with
  | some last => (!last.isEmpty && last.all Char.isDigit) || (ipv4Number? last).isSome
  | none => false

/-- The address that a name stands for. Each number but the last is a byte. -/
def ipv4? (name : List Char) : Option Nat := do
  let numbers ← (nameParts name).mapM ipv4Number?
  let last ← numbers.getLast?
  let bytes := numbers.dropLast
  if 3 < bytes.length then none
  else if Nat.pow 256 (4 - bytes.length) ≤ last || bytes.any (255 < ·) then none
  else some (bytes.foldl (fun n b => 256 * n + b) 0 * Nat.pow 256 (4 - bytes.length) + last)

def ipv4Text (address : Nat) : List Char :=
  let byte (k : Nat) : List Char := Nat.toDigits 10 (address / Nat.pow 256 k % 256)
  byte 3 ++ ['.'] ++ byte 2 ++ ['.'] ++ byte 1 ++ ['.'] ++ byte 0

/-! ### IPv6 -/

/-- A byte without needless zeros. -/
def strictByte? (s : List Char) : Option Nat :=
  if s.isEmpty || 3 < s.length || !s.all Char.isDigit || (1 < s.length && s.head? == some '0') then
    none
  else
    let n := s.foldl (fun n c => 10 * n + (c.toNat - 48)) 0
    if n < 256 then some n else none

/-- The two pieces that an IPv4 address fills. -/
def embedded? (s : List Char) : Option (List Nat) := do
  match ← (s.splitOn '.').mapM strictByte? with
  | [a, b, c, d] => some [256 * a + b, 256 * c + d]
  | _ => none

/-- The pieces of a part of an address that leaves nothing out; only the end of the whole may be an
IPv4 address. -/
def pieces? (atEnd : Bool) (s : List Char) : Option (List Nat) :=
  if s.isEmpty then some []
  else
    let parts := s.splitOn ':'
    let piece (p : List Char) : Option Nat :=
      if p.isEmpty || 4 < p.length then none else Text.hexNumber? p
    match parts.getLast? with
    | some last =>
      if atEnd && last.contains '.' then do
        return (← parts.dropLast.mapM piece) ++ (← embedded? last)
      else parts.mapM piece
    | none => none

/-- The text before the first two colons in a row, and the text after them. -/
def cutColons? : List Char → Option (List Char × List Char)
  | ':' :: ':' :: s => some ([], s)
  | c :: s => (cutColons? s).map fun (l, r) => (c :: l, r)
  | [] => none

def ipv6? (s : List Char) : Option (List Nat) :=
  match cutColons? s with
  | none => do
    let pieces ← pieces? true s
    if pieces.length = 8 then some pieces else none
  | some (front, back) => do
    let front ← pieces? false front
    let back ← pieces? true back
    let known := front.length + back.length
    if known < 8 then some (front ++ List.replicate (8 - known) 0 ++ back) else none

def leadingZeros (pieces : List Nat) : Nat :=
  (pieces.takeWhile (· == 0)).length

/-- The first of the longest runs of two zeros or more: where it begins, and its length. -/
def longestZeros (pieces : List Nat) : Nat × Nat :=
  (List.range pieces.length).foldl (fun best k =>
    let run := leadingZeros (pieces.drop k)
    if best.2 < run && 1 < run then (k, run) else best) (0, 0)

/-- An address with its longest run of zeros left out. -/
def ipv6Text (pieces : List Nat) : List Char :=
  let join (ps : List Nat) : List Char := [':'].intercalate (ps.map (Nat.toDigits 16))
  let (start, length) := longestZeros pieces
  if length = 0 then join pieces
  else join (pieces.take start) ++ [':', ':'] ++ join (pieces.drop (start + length))

end StaticPage.Url
