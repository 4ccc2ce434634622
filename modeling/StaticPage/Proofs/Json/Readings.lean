import StaticPage.Json.Reader

/-!
# What can be read

A reader builds values from nothing but plain ones: it makes lists of what it has read and sets the keys
of objects, one after the other, and each list and each object takes one level of the depth that is left.
A property of values at depths that all this carries on, `Constructive`, holds of every value that is read
from any bytes. `Constructive.parse` is the induction over the reader, made once for all properties.
-/

namespace StaticPage.Json

/-- A property of values at depths that is built up as a reader builds values. -/
structure Constructive (P : Nat → Value → Prop) : Prop where
  null (depth : Nat) : P depth .null
  bool (depth : Nat) (b : Bool) : P depth (.bool b)
  number (depth : Nat) (n : Number) : P depth (.number n)
  string (depth : Nat) (s : String) : P depth (.string s)
  array {depth : Nat} {items : List Value} (hitems : ∀ v ∈ items, P depth v) :
    P (depth + 1) (.array items)
  empty (depth : Nat) : P (depth + 1) (.object [])
  set {depth : Nat} {entries : List (String × Value)} (hentries : P (depth + 1) (.object entries))
    (key : String) {value : Value} (hvalue : P depth value) :
    P (depth + 1) (.object (Dictionary.set key value entries))

namespace Reader

def Reads (P : Value → Prop) (item : Bytes → Except Stop (Value × Bytes)) : Prop :=
  ∀ {s : Bytes} {v : Value} {rest : Bytes}, item s = .ok (v, rest) → P v

variable {P : Nat → Value → Prop} {depth : Nat} {item : Bytes → Except Stop (Value × Bytes)}
  {s rest : Bytes} {v : Value}

/-! ### Lists and objects -/

theorem reads_moreItems (hP : Constructive P) (hitem : Reads (P depth) item) {fuel : Nat}
    {items : List Value} (hitems : ∀ v ∈ items, P depth v)
    (h : moreItems item fuel items s = .ok (v, rest)) : P (depth + 1) v := by
  induction fuel generalizing items s with
  | zero => cases h
  | succ fuel ih =>
      rw [moreItems] at h
      split at h
      · cases h
      · split at h
        · cases h
          exact hP.array fun v hv => hitems v (List.mem_reverse.1 hv)
        · split at h
          · split at h
            · cases h
            · split at h
              · cases h
              · split at h
                · cases h
                · rename_i hread
                  refine ih (fun v hv => ?_) h
                  rcases List.mem_cons.1 hv with rfl | hv
                  · exact hitem hread
                  · exact hitems v hv
          · cases h

theorem reads_list (hP : Constructive P) (hitem : Reads (P depth) item) :
    Reads (P (depth + 1)) (list item) := by
  intro s v rest h
  rw [list] at h
  split at h
  · cases h
  · split at h
    · cases h
      exact hP.array fun v hv => by cases hv
    · split at h
      · cases h
      · rename_i hread
        refine reads_moreItems hP hitem (fun v hv => ?_) h
        cases List.mem_singleton.1 hv
        exact hitem hread

theorem reads_entry {P : Value → Prop} (hitem : Reads P item) {e : String × Value}
    (h : entry item s = .ok (e, rest)) : P e.2 := by
  rw [entry] at h
  split at h
  · cases h
  · split at h
    · cases h
    · split at h
      · split at h
        · cases h
        · rename_i hread
          cases h
          exact hitem hread
      · cases h

theorem reads_moreEntries (hP : Constructive P) (hitem : Reads (P depth) item) {fuel : Nat}
    {entries : List (String × Value)} (hentries : P (depth + 1) (.object entries))
    (h : moreEntries item fuel entries s = .ok (v, rest)) : P (depth + 1) v := by
  induction fuel generalizing entries s with
  | zero => cases h
  | succ fuel ih =>
      rw [moreEntries] at h
      split at h
      · cases h
      · split at h
        · cases h
          exact hentries
        · split at h
          · split at h
            · cases h
            · split at h
              · split at h
                · cases h
                · rename_i hread
                  exact ih (hP.set hentries _ (reads_entry hitem hread)) h
              · split at h <;> cases h
          · cases h

theorem reads_object (hP : Constructive P) (hitem : Reads (P depth) item) :
    Reads (P (depth + 1)) (object item) := by
  intro s v rest h
  rw [object] at h
  split at h
  · cases h
  · split at h
    · cases h
      exact hP.empty depth
    · split at h
      · split at h
        · cases h
        · rename_i hread
          -- the first entry is the one of an object without others
          exact reads_moreEntries hP hitem (hP.set (hP.empty depth) _ (reads_entry hitem hread)) h
      · cases h

theorem reads_literal {P : Value → Prop} {word : Bytes} {w : Value} (hw : P w) :
    Reads P (literal word w) := by
  intro s v rest h
  induction word generalizing s with
  | nil =>
      rw [literal] at h
      cases h
      exact hw
  | cons c word ih =>
      cases s with
      | nil => cases h
      | cons b s =>
          rw [literal] at h
          split at h
          · exact ih h
          · cases h

/-! ### Numbers -/

def IsNumber (r : Except Stop (Value × Bytes)) : Prop :=
  ∀ {v : Value} {rest : Bytes}, r = .ok (v, rest) → ∃ n, v = .number n

theorem isNumber_ok (n : Number) (s : Bytes) : IsNumber (.ok (.number n, s)) := by
  intro v rest h
  cases h
  exact ⟨n, rfl⟩

theorem isNumber_error (e : Stop) : IsNumber (.error e) := by
  intro v rest h
  cases h

theorem isNumber_scaled (negative : Bool) (significand : Nat) (exponent : Int) (s : Bytes) :
    IsNumber (scaled negative significand exponent s) := by
  rw [scaled]
  split
  · exact isNumber_ok _ s
  · exact isNumber_error _

theorem isNumber_exponentDigits (negative : Bool) (significand : Nat) (start : Int) (down : Bool)
    (e : Nat) (s : Bytes) : IsNumber (exponentDigits negative significand start down e s) := by
  induction s generalizing e with
  | nil =>
      rw [exponentDigits]
      exact isNumber_scaled _ _ _ _
  | cons b s ih =>
      rw [exponentDigits]
      split
      · dsimp only
        split
        · exact ih _
        · split
          · exact isNumber_error _
          · exact isNumber_ok _ _
      · exact isNumber_scaled _ _ _ _

theorem isNumber_exponent (negative : Bool) (significand : Nat) (start : Int) (s : Bytes) :
    IsNumber (exponent negative significand start s) := by
  rw [exponent.eq_def]
  dsimp only
  split
  · exact isNumber_error _
  · split
    · exact isNumber_exponentDigits _ _ _ _ _ _
    · exact isNumber_error _

theorem isNumber_fraction (negative : Bool) (significand dropped : Nat) (s : Bytes) :
    IsNumber (fraction negative significand dropped s) := by
  rw [fraction]
  dsimp only
  split
  · split <;> exact isNumber_error _
  · split
    · split
      · exact isNumber_exponent _ _ _ _
      · exact isNumber_scaled _ _ _ _
    · exact isNumber_scaled _ _ _ _

theorem isNumber_whole (negative : Bool) (significand dropped : Nat) (s : Bytes) :
    IsNumber (whole negative significand dropped s) := by
  rw [whole]
  split
  · exact isNumber_scaled _ _ _ _
  · split
    · exact isNumber_ok _ _
    · split <;> exact isNumber_ok _ _

theorem isNumber_number (negative : Bool) (s : Bytes) : IsNumber (number negative s) := by
  rw [number.eq_def]
  split
  · exact isNumber_error _
  · split
    · exact isNumber_error _
    · split
      · exact isNumber_error _
      · dsimp only
        split
        · exact isNumber_whole _ _ _ _
        · split
          · exact isNumber_fraction _ _ _ _
          · split
            · exact isNumber_exponent _ _ _ _
            · exact isNumber_whole _ _ _ _

theorem reads_number (hP : Constructive P) (depth : Nat) (negative : Bool) :
    Reads (P depth) (number negative) := by
  intro s v rest h
  obtain ⟨n, rfl⟩ := isNumber_number negative s h
  exact hP.number depth n

/-! ### Values -/

theorem reads_string (hP : Constructive P)
    (h : (string s).map (fun r => (Value.string r.1, r.2)) = .ok (v, rest)) : P depth v := by
  cases hread : string s with
  | error e =>
      rw [hread] at h
      cases h
  | ok r =>
      rw [hread] at h
      cases h
      exact hP.string depth _

theorem reads_value (hP : Constructive P) (depth : Nat) : Reads (P depth) (value depth) := by
  induction depth using Nat.strongRecOn with
  | ind depth ih =>
      intro s v rest h
      rw [value.eq_def] at h
      split at h
      · cases h
      · split at h
        · exact reads_literal (hP.null depth) h
        · split at h
          · exact reads_literal (hP.bool depth true) h
          · split at h
            · exact reads_literal (hP.bool depth false) h
            · split at h
              · exact reads_number hP depth true h
              · split at h
                · exact reads_number hP depth false h
                · split at h
                  · exact reads_string hP h
                  · split at h
                    · split at h
                      · cases h
                      · exact reads_list hP (ih _ (Nat.lt_succ_self _)) h
                    · split at h
                      · split at h
                        · cases h
                        · exact reads_object hP (ih _ (Nat.lt_succ_self _)) h
                      · cases h

theorem reads_document (hP : Constructive P) (h : document s = .ok v) : P maxDepth v := by
  rw [document] at h
  split at h
  · cases h
  · rename_i hread
    split at h
    · cases h
      exact reads_value hP maxDepth hread
    · cases h

end Reader

/-- A value that was read has every property that is built up as values are. -/
theorem Constructive.parse {P : Nat → Value → Prop} (hP : Constructive P) {bytes : ByteArray} {v : Value}
    (h : parse bytes = .ok v) : P Reader.maxDepth v := by
  rw [Json.parse] at h
  dsimp only at h
  split at h
  · rename_i hread
    cases h
    exact Reader.reads_document hP hread
  · cases h

end StaticPage.Json
