import StaticPage.Proofs.Json.Readings
import StaticPage.Proofs.Json.ValueText

/-!
# The keys of values that were read, and their depth

An object in JSON text may give a key twice. The value that is read has it once, at every depth, so that
whether text can hold the value again depends on its numbers and on how deep it nests alone: `fits_of_tame`.
It nests no deeper than the reader has followed it, which is all the depth that text may have.
-/

namespace StaticPage.Json

/-- No object in a value has a key twice. -/
inductive Distinct : Value → Prop where
  | null : Distinct .null
  | bool (b : Bool) : Distinct (.bool b)
  | number (n : Number) : Distinct (.number n)
  | string (s : String) : Distinct (.string s)
  | array {items : List Value} (hitems : ∀ v ∈ items, Distinct v) : Distinct (.array items)
  | object {entries : List (String × Value)} (hkeys : (Dictionary.keys entries).Nodup)
      (hentries : ∀ e ∈ entries, Distinct e.2) : Distinct (.object entries)

/-- A value whose numbers are integers of 64 bits, nested at most `depth` times. -/
inductive Tame : (depth : Nat) → Value → Prop where
  | null {depth : Nat} : Tame depth .null
  | bool {depth : Nat} (b : Bool) : Tame depth (.bool b)
  | number {depth : Nat} {i : Int} (hge : -0x8000000000000000 ≤ i) (hlt : i < 0x10000000000000000) :
      Tame depth (.number (.int i))
  | string {depth : Nat} (s : String) : Tame depth (.string s)
  | array {depth : Nat} {items : List Value} (hitems : ∀ v ∈ items, Tame depth v) :
      Tame (depth + 1) (.array items)
  | object {depth : Nat} {entries : List (String × Value)} (hentries : ∀ e ∈ entries, Tame depth e.2) :
      Tame (depth + 1) (.object entries)

/-- A value whose numbers are integers of 64 bits, however deep it nests. -/
def Integral (v : Value) : Prop :=
  ∃ depth, Tame depth v

theorem fits_of_tame {depth : Nat} {v : Value} (htame : Tame depth v) (hdistinct : Distinct v) :
    Fits depth v := by
  induction htame with
  | null => exact .null
  | bool b => exact .bool b
  | number hge hlt => exact .number hge hlt
  | string s => exact .string s
  | array _ ih =>
      cases hdistinct with
      | array hitems => exact .array fun v hv => ih v hv (hitems v hv)
  | object _ ih =>
      cases hdistinct with
      | object hkeys hentries => exact .object hkeys fun e he => ih e he (hentries e he)

theorem mem_of_mem_set {key : String} {value : Value} {entries : List (String × Value)}
    {e : String × Value} (h : e ∈ Dictionary.set key value entries) :
    e.2 = value ∨ e ∈ entries := by
  induction entries with
  | nil =>
      cases List.mem_singleton.1 h
      exact .inl rfl
  | cons a rest ih =>
      rw [Dictionary.set] at h
      split at h
      · rcases List.mem_cons.1 h with rfl | h
        · exact .inl rfl
        · exact .inr (List.mem_cons_of_mem _ h)
      · rcases List.mem_cons.1 h with rfl | h
        · exact .inr List.mem_cons_self
        · exact (ih h).imp_right (List.mem_cons_of_mem _)

theorem Distinct.set {entries : List (String × Value)} (h : Distinct (.object entries)) (key : String)
    {value : Value} (hvalue : Distinct value) : Distinct (.object (Dictionary.set key value entries)) := by
  cases h with
  | object hkeys hentries =>
      refine .object (Dictionary.nodup_keys_set hkeys value) fun e he => ?_
      rcases mem_of_mem_set he with heq | he
      · exact heq ▸ hvalue
      · exact hentries e he

theorem constructive_distinct : Constructive fun _ => Distinct where
  null _ := .null
  bool _ := .bool
  number _ := .number
  string _ := .string
  array := .array
  empty _ := .object List.nodup_nil fun e he => by cases he
  set hentries key _ hvalue := hentries.set key hvalue

theorem distinct_of_parse {bytes : ByteArray} {v : Value} (h : parse bytes = .ok v) : Distinct v :=
  constructive_distinct.parse h

/-! ### Depth -/

/-- A value nested at most `depth` times. -/
inductive Shallow : (depth : Nat) → Value → Prop where
  | null {depth : Nat} : Shallow depth .null
  | bool {depth : Nat} (b : Bool) : Shallow depth (.bool b)
  | number {depth : Nat} (n : Number) : Shallow depth (.number n)
  | string {depth : Nat} (s : String) : Shallow depth (.string s)
  | array {depth : Nat} {items : List Value} (hitems : ∀ v ∈ items, Shallow depth v) :
      Shallow (depth + 1) (.array items)
  | object {depth : Nat} {entries : List (String × Value)} (hentries : ∀ e ∈ entries, Shallow depth e.2) :
      Shallow (depth + 1) (.object entries)

theorem constructive_shallow : Constructive Shallow where
  null _ := .null
  bool _ := .bool
  number _ := .number
  string _ := .string
  array := .array
  empty _ := .object fun e he => by cases he
  set hentries key _ hvalue := by
    cases hentries with
    | object hentries =>
        refine .object fun e he => ?_
        rcases mem_of_mem_set he with heq | he
        · exact heq ▸ hvalue
        · exact hentries e he

theorem tame_of_shallow {depth other : Nat} {v : Value} (htame : Tame other v) (h : Shallow depth v) :
    Tame depth v := by
  induction htame generalizing depth with
  | null => exact .null
  | bool b => exact .bool b
  | number hge hlt => exact .number hge hlt
  | string s => exact .string s
  | array _ ih =>
      cases h with
      | array hitems => exact .array fun v hv => ih v hv (hitems v hv)
  | object _ ih =>
      cases h with
      | object hentries => exact .object fun e he => ih e he (hentries e he)

end StaticPage.Json
