import StaticPage.Text.Split

/-!
# Texts cut at a number of bytes

Characters are of one to four bytes, so a number of bytes may fall inside one of them. `takeBytes` then stops in
front of it, and has taken every beginning of the text that fits: `prefix_takeBytes`. `firstBytes?` asks for a
beginning that fits exactly, and there is at most one.
-/

namespace StaticPage.Text

variable {s front : List Char} {n : Nat}

theorem byteLength_append (s t : List Char) : byteLength (s ++ t) = byteLength s + byteLength t := by
  induction s with
  | nil => simp [byteLength]
  | cons c s ih =>
      rw [List.cons_append, byteLength, byteLength, ih]
      omega

theorem byteLength_toList (s : String) : byteLength s.toList = s.utf8ByteSize := by
  suffices h : ∀ l : List Char, byteLength l = (String.ofList l).utf8ByteSize by
    rw [h, String.ofList_toList]
  intro l
  induction l with
  | nil => rfl
  | cons c l ih =>
      rw [String.ofList_cons, String.utf8ByteSize_append, String.utf8ByteSize_singleton, byteLength, ih]

theorem eq_nil_of_byteLength (h : byteLength s = 0) : s = [] := by
  cases s with
  | nil => rfl
  | cons c s =>
      have := c.utf8Size_pos
      rw [byteLength] at h
      omega

theorem byteLength_le (s : List Char) : byteLength s ≤ 4 * s.length := by
  induction s with
  | nil => exact Nat.le_refl 0
  | cons c s ih =>
      have := c.utf8Size_le_four
      rw [byteLength, List.length_cons]
      omega

theorem byteLength_of_ascii (h : ∀ c ∈ s, c.toNat ≤ 127) : byteLength s = s.length := by
  induction s with
  | nil => rfl
  | cons c s ih =>
      have hc : c.utf8Size = 1 := by
        rw [Char.utf8Size_eq_one_iff, UInt32.le_iff_toNat_le]
        exact h c List.mem_cons_self
      rw [byteLength, List.length_cons, ih fun a ha => h a (List.mem_cons_of_mem _ ha), hc]
      omega

/-- Every beginning of a text that has no more than `n` bytes is in the longest one. -/
theorem prefix_takeBytes (h : front <+: s) (hle : byteLength front ≤ n) : front <+: takeBytes n s := by
  induction s generalizing front n with
  | nil => exact h
  | cons c s ih =>
      cases front with
      | nil => exact List.nil_prefix
      | cons a front =>
          obtain ⟨rfl, hrest⟩ := List.cons_prefix_cons.1 h
          rw [byteLength] at hle
          rw [takeBytes, if_pos (by omega), List.cons_prefix_cons]
          exact ⟨rfl, ih hrest (by omega)⟩

theorem firstBytes?_eq_some_iff : firstBytes? n s = some front ↔ front <+: s ∧ byteLength front = n := by
  rw [firstBytes?]
  constructor
  · intro h
    have hfront := takeBytes_prefix n s
    split at h
    · rename_i hlength
      cases h
      exact ⟨hfront, hlength⟩
    · cases h
  · rintro ⟨hfront, hlength⟩
    obtain ⟨rest, hrest⟩ := prefix_takeBytes hfront (Nat.le_of_eq hlength)
    have hle := byteLength_takeBytes_le n s
    rw [← hrest, byteLength_append] at hle
    have hnil : rest = [] := eq_nil_of_byteLength (by omega)
    rw [hnil, List.append_nil] at hrest
    rw [← hrest, if_pos hlength]

end StaticPage.Text
