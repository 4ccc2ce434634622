import StaticPage.Json.Value

/-!
# Paths behind paths

A path with a point and another path behind it leads where the second one leads from the end of the first:
`get?_append`. Null needs care, since it is absent at the end of a path. It has no children either, so that
a null in the middle ends the walk in both readings.
-/

namespace StaticPage.Json

namespace Path

def extend (path : String) : (rest : Option String) → String
  | none => path
  | some rest => path ++ "." ++ rest

theorem segments_append (p q : String) : segments (p ++ "." ++ q) = segments p ++ segments q := by
  have htext : (p ++ "." ++ q).toList = p.toList ++ '.' :: q.toList := by simp
  rw [segments, htext, List.splitOn_append_cons_self, List.map_append]
  rfl

theorem segments_ne_nil (path : String) : segments path ≠ [] := by
  simp [segments]

theorem segments_of_not_mem {segment : String} (h : '.' ∉ segment.toList) : segments segment = [segment] := by
  rw [segments, List.splitOn_eq_singleton h, List.map_singleton, String.ofList_toList]

/-- The decimal digits of a number spell it as an index. -/
theorem index?_toString {n : Nat} (h : n < indexLimit) : index? (toString n) = some n := by
  have htext : (toString n).toList = Nat.toDigits 10 n := Nat.toList_repr
  have hdigit : ∀ c ∈ Nat.toDigits 10 n, c.isDigit = true := fun c hc =>
    Nat.isDigit_of_mem_toDigits (by decide) (by decide) hc
  have hvalue : (Nat.toDigits 10 n).foldl (fun n c => n * 10 + (c.toNat - 48)) 0 = n := by
    have hread : Nat.ofDigitChars 10 (Nat.toDigits 10 n) 0 = n := Nat.ofDigitChars_ten_toDigits
    rw [Nat.ofDigitChars_eq_foldl] at hread
    have hzero : '0'.toNat = 48 := rfl
    simpa only [Nat.mul_comm, hzero] using hread
  have hall : (Nat.toDigits 10 n).all Char.isDigit = true := List.all_eq_true.2 hdigit
  have hsome : (Nat.toDigits 10 n).isEmpty = false := by simp
  simp only [index?, htext]
  split
  · rename_i rest heq
    exact absurd (hdigit '+' (heq ▸ List.mem_cons_self)) (by decide)
  · simp only [hsome, hall, hvalue, h, Bool.false_eq_true, if_false, if_true]

end Path

namespace Value

theorem child?_null (segment : String) : null.child? segment = none := rfl

theorem get?_null (path : String) : null.get? path = none := by
  obtain ⟨s, rest, hcons⟩ := List.exists_cons_of_ne_nil (Path.segments_ne_nil path)
  rw [get?, hcons, walk?_cons, child?_null]
  rfl

/-- Null has nothing below it, so that nothing is lost where it counts as absent. -/
theorem present?_bind_get? (v : Value) (path : String) : v.present?.bind (·.get? path) = v.get? path := by
  cases v with
  | null => exact (get?_null path).symm
  | _ => rfl

theorem get?_append (v : Value) (p q : String) : v.get? (p ++ "." ++ q) = (v.get? p).bind (·.get? q) := by
  rw [get?, get?, Path.segments_append, walk?_append]
  cases v.walk? (Path.segments p) with
  | none => rfl
  | some u => exact (present?_bind_get? u q).symm

theorem get?_of_not_mem (v : Value) {segment : String} (h : '.' ∉ segment.toList) :
    v.get? segment = (v.child? segment).bind present? := by
  rw [get?, Path.segments_of_not_mem h, walk?_cons]
  cases v.child? segment <;> rfl

end Value

end StaticPage.Json
