import StaticPage.Binary64.Basic
import StaticPage.Json.Fault
import StaticPage.Json.Value

/-!
# Reading JSON

The reader takes bytes and gives the value they stand for, or the fault at which it stopped. Each
reading function takes the bytes that are left and gives back those it has not consumed; a place in
the input is known by how many bytes are left after it.
-/

namespace StaticPage.Json

/-- Input that is left to read. -/
abbrev Bytes := List UInt8

/-- Where and why reading stopped: the cause, and how many bytes are left after the place. -/
structure Stop where
  cause : Cause
  left : Nat
  deriving DecidableEq, Repr

namespace Reader

/-- Stops behind the bytes read so far. -/
def stop {α : Type} (cause : Cause) (s : Bytes) : Except Stop α :=
  .error ⟨cause, s.length⟩

/-- Stops behind the next byte, if there is one. -/
def stopAtNext {α : Type} (cause : Cause) (s : Bytes) : Except Stop α :=
  .error ⟨cause, s.length - 1⟩

def byte (c : Char) : UInt8 :=
  c.toNat.toUInt8

def isSpace (b : UInt8) : Bool :=
  b == byte ' ' || b == byte '\n' || b == byte '\t' || b == byte '\r'

def skipSpace (s : Bytes) : Bytes :=
  s.dropWhile isSpace

def isDigit (b : UInt8) : Bool :=
  byte '0' ≤ b && b ≤ byte '9'

def digitValue (b : UInt8) : Nat :=
  b.toNat - 48

/-- The letters of a literal after its first one. -/
def literal (word : Bytes) (v : Value) (s : Bytes) : Except Stop (Value × Bytes) :=
  match word, s with
  | [], s => .ok (v, s)
  | _ :: _, [] => stop .endInValue []
  | w :: word, b :: s => if b == w then literal word v s else stop .identExpected s

/-! ### Numbers -/

/-- The least number that does not fit 64 bits. -/
def wordLimit : Nat := Nat.pow 2 64

/-- Digits before the point. The significand takes digits as long as it fits 64 bits; the digits
after that are dropped and counted. -/
def wholeDigits (significand : Nat) : Bytes → Nat × Nat
  | [] => (significand, 0)
  | d :: ds =>
    let next := significand * 10 + digitValue d
    if next < wordLimit then wholeDigits next ds else (significand, ds.length + 1)

/-- Digits after the point. The significand takes digits as long as it fits 64 bits; the count is
that of the digits taken, and those after them are dropped. -/
def fractionDigits (significand : Nat) (taken : Nat) : Bytes → Nat × Nat
  | [] => (significand, taken)
  | d :: ds =>
    let next := significand * 10 + digitValue d
    if next < wordLimit then fractionDigits next (taken + 1) ds else (significand, taken)

/-- A magnitude times a power of ten. An exponent below `-308` is reached by dividing by `10 ^ 308`
first; two such divisions take every 64-bit significand to zero. -/
def scale? : (fuel : Nat) → (magnitude : Nat) → (exponent : Int) → Option Nat
  | 0, _, _ => some 0
  | fuel + 1, m, e =>
    if m = 0 then some 0
    else if 0 ≤ e then
      if e ≤ 308 then Binary64.mul? m (Binary64.powerOfTen e.toNat) else none
    else if -308 ≤ e then Binary64.div? m (Binary64.powerOfTen (-e).toNat)
    else
      match Binary64.div? m (Binary64.powerOfTen 308) with
      | some m' => scale? fuel m' (e + 308)
      | none => none

/-- The double nearest to the significand, scaled by a power of ten. -/
def scaled (negative : Bool) (significand : Nat) (exponent : Int) (s : Bytes) :
    Except Stop (Value × Bytes) :=
  match scale? 4 (Binary64.ofNat significand).magnitude exponent with
  | some m => .ok (.number (.real ⟨negative, m⟩), s)
  | none => stop .numberOutOfRange s

/-- The greatest exponent that is told from an infinite one. -/
def exponentLimit : Nat := Nat.pow 2 31 - 1

/-- The digits of an exponent, after its first one. An exponent past the limit makes a number zero
or out of range. -/
def exponentDigits (negative : Bool) (significand : Nat) (start : Int) (down : Bool) (e : Nat) :
    Bytes → Except Stop (Value × Bytes)
  | [] => scaled negative significand (if down then start - e else start + e) []
  | b :: s =>
    if isDigit b then
      let next := e * 10 + digitValue b
      if next ≤ exponentLimit then exponentDigits negative significand start down next s
      else if significand ≠ 0 ∧ !down then stop .numberOutOfRange s
      else .ok (.number (.real (.zero negative)), s.dropWhile isDigit)
    else scaled negative significand (if down then start - e else start + e) (b :: s)

def exponent (negative : Bool) (significand : Nat) (start : Int) (s : Bytes) :
    Except Stop (Value × Bytes) :=
  let (down, s) := match s with
    | b :: rest => if b == byte '-' then (true, rest) else if b == byte '+' then (false, rest) else (false, s)
    | [] => (false, [])
  match s with
  | [] => stop .endInValue []
  | b :: s =>
    if isDigit b then exponentDigits negative significand start down (digitValue b) s
    else stop .badNumber s

def isExponentMark (b : UInt8) : Bool :=
  b == byte 'e' || b == byte 'E'

def fraction (negative : Bool) (significand : Nat) (dropped : Nat) (s : Bytes) :
    Except Stop (Value × Bytes) :=
  let ds := s.takeWhile isDigit
  let rest := s.dropWhile isDigit
  if ds.isEmpty then
    if rest.isEmpty then stopAtNext .endInValue rest else stopAtNext .badNumber rest
  else
    let (significand, taken) := fractionDigits significand 0 ds
    let e : Int := dropped - taken
    match rest with
    | b :: rest' =>
      if isExponentMark b then exponent negative significand e rest'
      else scaled negative significand e rest
    | [] => scaled negative significand e []

/-- A number without point and exponent. -/
def whole (negative : Bool) (significand : Nat) (dropped : Nat) (s : Bytes) :
    Except Stop (Value × Bytes) :=
  if dropped ≠ 0 then scaled negative significand dropped s
  else if !negative then .ok (.number (.int significand), s)
  else if significand = 0 ∨ Nat.pow 2 63 < significand then
    .ok (.number (.real ⟨true, (Binary64.ofNat significand).magnitude⟩), s)
  else .ok (.number (.int (-(significand : Int))), s)

def number (negative : Bool) (s : Bytes) : Except Stop (Value × Bytes) :=
  match s with
  | [] => stop .endInValue []
  | b :: rest =>
    if !isDigit b then stop .badNumber rest
    else if b == byte '0' && (rest.head?.map isDigit).getD false then stopAtNext .badNumber rest
    else
      let (significand, dropped) := wholeDigits 0 (s.takeWhile isDigit)
      match s.dropWhile isDigit with
      | [] => whole negative significand dropped []
      | c :: rest =>
        if c == byte '.' then fraction negative significand dropped rest
        else if isExponentMark c then exponent negative significand dropped rest
        else whole negative significand dropped (c :: rest)

/-! ### Strings -/

def hexValue? (b : UInt8) : Option Nat :=
  let n := b.toNat
  if 48 ≤ n ∧ n ≤ 57 then some (n - 48)
  else if 65 ≤ n ∧ n ≤ 70 then some (n - 55)
  else if 97 ≤ n ∧ n ≤ 102 then some (n - 87)
  else none

def hexFour (s : Bytes) : Except Stop (Nat × Bytes) :=
  match s with
  | a :: b :: c :: d :: rest =>
    match hexValue? a, hexValue? b, hexValue? c, hexValue? d with
    | some a, some b, some c, some d => .ok (((a * 16 + b) * 16 + c) * 16 + d, rest)
    | _, _, _, _ => stop .badEscape rest
  | _ => stop .endInString []

/-- The UTF-8 bytes of a code point that is a character. -/
def charBytes (n : Nat) : Bytes :=
  String.utf8EncodeChar (Char.ofNat n)

/-- The second half of a surrogate pair, whose first half has been read. -/
def lowSurrogate (high : Nat) (s : Bytes) : Except Stop (Bytes × Bytes) :=
  match s with
  | [] => stop .endInString []
  | b :: s =>
    if b != byte '\\' then stop .endOfHexEscape s
    else
      match s with
      | [] => stop .endInString []
      | b :: s =>
        if b != byte 'u' then stop .endOfHexEscape s
        else
          match hexFour s with
          | .error e => .error e
          | .ok (low, rest) =>
            if 0xDC00 ≤ low ∧ low ≤ 0xDFFF then
              .ok (charBytes ((high - 0xD800) * 0x400 + (low - 0xDC00) + 0x10000), rest)
            else stop .loneSurrogate rest

/-- The character that four hexadecimal digits stand for, or the pair of which they are the first
half. -/
def hexEscape (s : Bytes) : Except Stop (Bytes × Bytes) :=
  match hexFour s with
  | .error e => .error e
  | .ok (n, rest) =>
    if 0xDC00 ≤ n ∧ n ≤ 0xDFFF then stop .loneSurrogate rest
    else if 0xD800 ≤ n ∧ n ≤ 0xDBFF then lowSurrogate n rest
    else .ok (charBytes n, rest)

/-- The byte that a one-letter escape stands for. -/
def letterEscape? (b : UInt8) : Option UInt8 :=
  if b == byte '"' || b == byte '\\' || b == byte '/' then some b
  else if b == byte 'b' then some 8
  else if b == byte 'f' then some 12
  else if b == byte 'n' then some 10
  else if b == byte 'r' then some 13
  else if b == byte 't' then some 9
  else none

/-- The bytes that an escape stands for, after the backslash. -/
def escape (s : Bytes) : Except Stop (Bytes × Bytes) :=
  match s with
  | [] => stop .endInString []
  | b :: s =>
    if b == byte 'u' then hexEscape s
    else
      match letterEscape? b with
      | some c => .ok ([c], s)
      | none => stop .badEscape s

theorem length_hexFour {s rest : Bytes} {n : Nat} (h : hexFour s = .ok (n, rest)) :
    rest.length < s.length := by
  unfold hexFour at h
  split at h
  · split at h
    · simp only [Except.ok.injEq, Prod.mk.injEq] at h
      simp only [List.length_cons, ← h.2]
      omega
    · simp [stop] at h
  · simp [stop] at h

theorem length_lowSurrogate {s cs rest : Bytes} {n : Nat} (h : lowSurrogate n s = .ok (cs, rest)) :
    rest.length < s.length := by
  unfold lowSurrogate at h
  split at h
  · simp [stop] at h
  · split at h
    · simp [stop] at h
    · split at h
      · simp [stop] at h
      · split at h
        · simp [stop] at h
        · split at h
          · simp at h
          · rename_i hx
            have hlen := length_hexFour hx
            split at h
            · simp only [Except.ok.injEq, Prod.mk.injEq] at h
              simp only [List.length_cons, ← h.2]
              omega
            · simp [stop] at h

theorem length_hexEscape {s cs rest : Bytes} (h : hexEscape s = .ok (cs, rest)) :
    rest.length < s.length := by
  unfold hexEscape at h
  split at h
  · simp at h
  · rename_i hx
    have hlen := length_hexFour hx
    split at h
    · simp [stop] at h
    · split at h
      · have := length_lowSurrogate h
        omega
      · simp only [Except.ok.injEq, Prod.mk.injEq] at h
        simp only [← h.2]
        exact hlen

theorem length_escape {s cs rest : Bytes} (h : escape s = .ok (cs, rest)) :
    rest.length < s.length := by
  unfold escape at h
  split at h
  · simp [stop] at h
  · split at h
    · have := length_hexEscape h
      simp only [List.length_cons]
      omega
    · split at h
      · simp only [Except.ok.injEq, Prod.mk.injEq] at h
        simp [← h.2]
      · simp [stop] at h

/-- The bytes of a string up to its closing quote, with escapes resolved; `content` holds those
read so far, the last one first. -/
def stringBytes (content : Bytes) (s : Bytes) : Except Stop (Bytes × Bytes) :=
  match s with
  | [] => stop .endInString []
  | b :: rest =>
    if b == byte '"' then .ok (content.reverse, rest)
    else if b == byte '\\' then
      match _h : escape rest with
      | .error e => .error e
      | .ok (cs, rest') => stringBytes (cs.reverse ++ content) rest'
    else if b < 0x20 then stop .controlCharacter rest
    else stringBytes (b :: content) rest
termination_by s.length
decreasing_by
  · have := length_escape _h
    simp only [List.length_cons]
    omega
  · simp

/-- How many bytes there are from the first one on that is not UTF-8; the bytes before `i` are. -/
def countFromBadByte (content : ByteArray) : (fuel : Nat) → (i : Nat) → Nat
  | 0, i => content.size - i
  | fuel + 1, i =>
    match content.utf8DecodeChar? i with
    | some c => countFromBadByte content fuel (i + c.utf8Size)
    | none => content.size - i

/-- A string, after its opening quote. That it is not UTF-8 shows only when it is whole, so the place is
counted back from its end, by the bytes that it stands for. -/
def string (s : Bytes) : Except Stop (String × Bytes) :=
  match stringBytes [] s with
  | .error e => .error e
  | .ok (content, rest) =>
    let content : ByteArray := ⟨content.toArray⟩
    match String.fromUTF8? content with
    | some text => .ok (text, rest)
    | none => .error ⟨.badCodePoint, rest.length + countFromBadByte content content.size 0⟩

/-! ### Values -/

/-- The items of a list after its first one, from the comma or the closing bracket on. -/
def moreItems (item : Bytes → Except Stop (Value × Bytes)) :
    (fuel : Nat) → (items : List Value) → Bytes → Except Stop (Value × Bytes)
  | 0, _, s => stopAtNext .endInList s
  | fuel + 1, items, s =>
    match skipSpace s with
    | [] => stopAtNext .endInList []
    | b :: s =>
      if b == byte ']' then .ok (.array items.reverse, s)
      else if b == byte ',' then
        match skipSpace s with
        | [] => stopAtNext .endInValue []
        | c :: s =>
          if c == byte ']' then stopAtNext .trailingComma (c :: s)
          else
            match item (c :: s) with
            | .error e => .error e
            | .ok (v, rest) => moreItems item fuel (v :: items) rest
      else stopAtNext .listCommaOrEndExpected (b :: s)

def list (item : Bytes → Except Stop (Value × Bytes)) (s : Bytes) : Except Stop (Value × Bytes) :=
  match skipSpace s with
  | [] => stopAtNext .endInList []
  | b :: s =>
    if b == byte ']' then .ok (.array [], s)
    else
      match item (b :: s) with
      | .error e => .error e
      | .ok (v, rest) => moreItems item rest.length.succ [v] rest

/-- An entry of an object, after the opening quote of its key. -/
def entry (item : Bytes → Except Stop (Value × Bytes)) (s : Bytes) :
    Except Stop ((String × Value) × Bytes) :=
  match string s with
  | .error e => .error e
  | .ok (key, rest) =>
    match skipSpace rest with
    | [] => stopAtNext .endInObject []
    | b :: s =>
      if b == byte ':' then
        match item s with
        | .error e => .error e
        | .ok (v, rest) => .ok ((key, v), rest)
      else stopAtNext .colonExpected (b :: s)

/-- The entries of an object after its first one, from the comma or the closing brace on. -/
def moreEntries (item : Bytes → Except Stop (Value × Bytes)) :
    (fuel : Nat) → (entries : List (String × Value)) → Bytes → Except Stop (Value × Bytes)
  | 0, _, s => stopAtNext .endInObject s
  | fuel + 1, entries, s =>
    match skipSpace s with
    | [] => stopAtNext .endInObject []
    | b :: s =>
      if b == byte '\x7d' then .ok (.object entries, s)
      else if b == byte ',' then
        match skipSpace s with
        | [] => stopAtNext .endInValue []
        | c :: s =>
          if c == byte '"' then
            match entry item s with
            | .error e => .error e
            | .ok ((key, v), rest) => moreEntries item fuel (Dictionary.set key v entries) rest
          else if c == byte '\x7d' then stopAtNext .trailingComma (c :: s)
          else stopAtNext .keyNotString (c :: s)
      else stopAtNext .objectCommaOrEndExpected (b :: s)

def object (item : Bytes → Except Stop (Value × Bytes)) (s : Bytes) : Except Stop (Value × Bytes) :=
  match skipSpace s with
  | [] => stopAtNext .endInObject []
  | b :: s =>
    if b == byte '\x7d' then .ok (.object [], s)
    else if b == byte '"' then
      match entry item s with
      | .error e => .error e
      | .ok (e, rest) => moreEntries item rest.length.succ [e] rest
    else stopAtNext .keyNotString (b :: s)

/-- A value that nests at most `depth` lists and objects. -/
def value (depth : Nat) (s : Bytes) : Except Stop (Value × Bytes) :=
  match skipSpace s with
  | [] => stopAtNext .endInValue []
  | b :: s =>
    if b == byte 'n' then literal [117, 108, 108] .null s
    else if b == byte 't' then literal [114, 117, 101] (.bool true) s
    else if b == byte 'f' then literal [97, 108, 115, 101] (.bool false) s
    else if b == byte '-' then number true s
    else if isDigit b then number false (b :: s)
    else if b == byte '"' then (string s).map fun (text, rest) => (.string text, rest)
    else if b == byte '[' then
      match depth with
      | 0 => stopAtNext .nestingTooDeep (b :: s)
      | depth + 1 => list (value depth) s
    else if b == byte '\x7b' then
      match depth with
      | 0 => stopAtNext .nestingTooDeep (b :: s)
      | depth + 1 => object (value depth) s
    else stopAtNext .valueExpected (b :: s)

/-- How many lists and objects may stand inside each other. -/
def maxDepth : Nat := 127

/-- The line and column of the place that has `left` bytes after it. -/
def place (input : Bytes) (left : Nat) : Nat × Nat :=
  let before := input.take (input.length - left)
  (before.count (byte '\n') + 1, (before.reverse.takeWhile (· != byte '\n')).length)

/-- The value of a whole text: nothing but blanks may follow it. -/
def document (s : Bytes) : Except Stop Value :=
  match value maxDepth s with
  | .error e => .error e
  | .ok (v, rest) =>
    match skipSpace rest with
    | [] => .ok v
    | b :: s => stopAtNext .trailingCharacters (b :: s)

end Reader

/-- The value that bytes stand for, or the fault in them. -/
def parse (input : ByteArray) : Except Fault Value :=
  let s := input.data.toList
  match Reader.document s with
  | .ok v => .ok v
  | .error e =>
    let (line, column) := Reader.place s e.left
    .error ⟨e.cause, line, column⟩

def parseText (input : String) : Except Fault Value :=
  parse input.toUTF8

end StaticPage.Json
