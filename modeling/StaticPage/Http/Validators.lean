import StaticPage.Dictionary
import StaticPage.Json.Printer
import StaticPage.Json.Reader

/-!
# Validators

For each URL that was fetched, the validator under which its server knows the answer. They are kept
between runs as one JSON object, in the order of the URLs.
-/

namespace StaticPage

structure Validators where
  entries : List (String × String)
  deriving DecidableEq, Repr, Inhabited

namespace Validators

def empty : Validators := ⟨[]⟩

def find? (v : Validators) (url : String) : Option String :=
  v.entries.lookup url

def set (v : Validators) (url etag : String) : Validators :=
  ⟨Dictionary.set url etag v.entries⟩

@[simp] theorem find?_empty (url : String) : empty.find? url = none := rfl

@[simp] theorem find?_set_self (v : Validators) (url etag : String) :
    (v.set url etag).find? url = some etag := by
  simp [find?, set]

theorem find?_set_of_ne (v : Validators) {url other : String} (h : other ≠ url) (etag : String) :
    (v.set url etag).find? other = v.find? other := by
  simp [find?, set, Dictionary.lookup_set_of_ne h]

def text? : Json.Value → Option String
  | .string s => some s
  | _ => none

/-- The validators kept in some bytes: a JSON object whose values are strings. -/
def decode? (bytes : ByteArray) : Option Validators :=
  match Json.parse bytes with
  | .ok (.object entries) =>
    (entries.mapM fun e : String × Json.Value => (text? e.2).map (e.1, ·)).map Validators.mk
  | _ => none

def encode (v : Validators) : ByteArray :=
  let sorted := v.entries.mergeSort fun a b => a.1 ≤ b.1
  (Json.Value.object (sorted.map fun (url, etag) => (url, .string etag))).indented.toUTF8

/-- A byte of a header that is a visible character or a blank. -/
def isVisible (b : UInt8) : Bool :=
  (32 ≤ b && b < 127) || b == 9

/-- The validator that a header gives, if it can be sent back as it came. -/
def ofHeader? (bytes : ByteArray) : Option String :=
  if bytes.toList.all isVisible then some (String.ofList (bytes.toList.map fun b => Char.ofNat b.toNat))
  else none

def isSendable (etag : String) : Bool :=
  etag.toUTF8.toList.all fun b => (32 ≤ b && b != 127) || b == 9

end Validators

end StaticPage
