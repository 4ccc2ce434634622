import StaticPage.Http.Validators
import StaticPage.Proofs.Json.ValueText

/-!
# Validators in a header and in a file

A validator of visible characters is read from a header as it was written there, and can be sent back.
Validators that are kept in their file and taken up again are the same for every URL: writing them sorts
them, which no lookup sees as long as no URL stands twice among them.
-/

namespace StaticPage

namespace Validators

/-! ### In a header -/

/-- A text that a header can carry both ways. -/
def IsVisible (etag : String) : Prop :=
  ∀ b ∈ Json.utf8 etag.toList, isVisible b = true

theorem toList_loop (bytes : ByteArray) (i : Nat) (read : List UInt8) :
    ByteArray.toList.loop bytes i read = read.reverse ++ bytes.data.toList.drop i := by
  fun_induction ByteArray.toList.loop bytes i read with
  | case1 i read hlt ih =>
      have hi : i < bytes.data.toList.length := by simpa using hlt
      have hget : bytes.get! i = bytes.data.toList[i] := by
        rw [Array.getElem_toList]
        exact getElem!_pos bytes.data i hlt
      rw [ih, List.drop_eq_getElem_cons hi, hget, List.reverse_cons, List.append_assoc]
      rfl
  | case2 i read hge =>
      have hend : bytes.data.toList.length ≤ i := by simpa using hge
      rw [List.drop_eq_nil_of_le hend, List.append_nil]

theorem toList_bytes (bytes : ByteArray) : bytes.toList = bytes.data.toList := by
  rw [ByteArray.toList, toList_loop]
  rfl

theorem toList_toUTF8 (etag : String) : etag.toUTF8.toList = Json.utf8 etag.toList := by
  rw [toList_bytes, Json.toList_toUTF8]

theorem toNat_lt_of_isVisible {b : UInt8} (h : isVisible b = true) : b.toNat < 128 := by
  simp only [isVisible, Bool.or_eq_true, Bool.and_eq_true, decide_eq_true_eq, beq_iff_eq] at h
  rcases h with ⟨-, hlt⟩ | rfl
  · exact Nat.lt_trans (UInt8.lt_iff_toNat_lt.1 hlt) (by decide)
  · decide

theorem ofHeader?_toUTF8 {etag : String} (h : IsVisible etag) : ofHeader? etag.toUTF8 = some etag := by
  have hchars : (Json.utf8 etag.toList).map (fun b => Char.ofNat b.toNat) = etag.toList := by
    unfold IsVisible at h
    generalize etag.toList = s at h
    induction s with
    | nil => rfl
    | cons c s ih =>
        have hlt : c.toNat < 128 := by
          by_contra hge
          obtain ⟨b, hb⟩ := List.exists_mem_of_ne_nil _ (String.utf8EncodeChar_ne_nil (c := c))
          have hle := UInt8.le_iff_toNat_le.1 (Json.le_of_mem_utf8EncodeChar (Nat.not_lt.1 hge) hb)
          have hvisible := toNat_lt_of_isVisible (h b (List.mem_append_left _ hb))
          exact absurd hvisible (Nat.not_lt.2 hle)
        rw [Json.utf8_cons_of_lt hlt] at h ⊢
        rw [List.map_cons, ih fun b hb => h b (List.mem_cons_of_mem _ hb), Json.Reader.toNat_byte hlt,
          Char.ofNat_toNat]
  rw [ofHeader?, toList_toUTF8, if_pos (List.all_eq_true.2 h), hchars, String.ofList_toList]

theorem toNat_ofNat_of_lt {n : Nat} (h : n < 128) : (Char.ofNat n).toNat = n := by
  rw [Char.ofNat, dif_pos (.inl (Nat.lt_trans h (by decide)))]
  rfl

theorem toUTF8_of_ofHeader? {bytes : ByteArray} {etag : String} (h : ofHeader? bytes = some etag) :
    etag.toUTF8 = bytes := by
  unfold ofHeader? at h
  split at h
  · rename_i hvisible
    cases h
    have hbytes (s : List UInt8) (hs : s.all isVisible = true) :
        Json.utf8 (s.map fun b => Char.ofNat b.toNat) = s := by
      induction s with
      | nil => rfl
      | cons b s ih =>
          rw [List.all_cons, Bool.and_eq_true] at hs
          have hlt := toNat_lt_of_isVisible hs.1
          have hchar : (Char.ofNat b.toNat).toNat = b.toNat := toNat_ofNat_of_lt hlt
          rw [List.map_cons, Json.utf8_cons_of_lt (by rwa [hchar]), ih hs.2, Json.Reader.byte, hchar]
          simp
    apply ByteArray.ext
    apply Array.toList_inj.1
    rw [Json.toList_toUTF8, String.toList_ofList, hbytes _ hvisible, toList_bytes]
  · cases h

theorem isSendable_of_isVisible {etag : String} (h : IsVisible etag) : isSendable etag = true := by
  rw [isSendable, toList_toUTF8, List.all_eq_true]
  intro b hb
  have hvisible := h b hb
  have hlt := toNat_lt_of_isVisible hvisible
  simp only [isVisible, Bool.or_eq_true, Bool.and_eq_true, decide_eq_true_eq, beq_iff_eq] at hvisible
  simp only [Bool.or_eq_true, Bool.and_eq_true, decide_eq_true_eq, bne_iff_ne, beq_iff_eq]
  rcases hvisible with ⟨hge, hend⟩ | htab
  · refine .inl ⟨hge, ?_⟩
    rintro rfl
    exact absurd hend (by decide)
  · exact .inr htab

/-! ### In the file -/

/-- The validators in the order of their URLs, in which they are kept. -/
def sorted (v : Validators) : Validators :=
  ⟨v.entries.mergeSort fun a b => a.1 ≤ b.1⟩

def Distinct (v : Validators) : Prop :=
  (Dictionary.keys v.entries).Nodup

theorem distinct_empty : empty.Distinct :=
  List.nodup_nil

theorem Distinct.set {v : Validators} (h : v.Distinct) (url etag : String) :
    (v.set url etag).Distinct :=
  Dictionary.nodup_keys_set h etag

theorem Distinct.sorted {v : Validators} (h : v.Distinct) : v.sorted.Distinct :=
  ((List.mergeSort_perm _ _).map _).nodup_iff.2 h

theorem find?_sorted {v : Validators} (h : v.Distinct) (url : String) :
    v.sorted.find? url = v.find? url := by
  apply Option.ext
  intro etag
  unfold find?
  rw [Dictionary.lookup_eq_some_iff h, Dictionary.lookup_eq_some_iff h.sorted]
  exact List.mem_mergeSort

def entryValue (e : String × String) : String × Json.Value :=
  (e.1, .string e.2)

theorem mapM_entryValue (entries : List (String × String)) :
    ((entries.map entryValue).mapM fun e => (text? e.2).map (e.1, ·)) = some entries := by
  induction entries with
  | nil => rfl
  | cons e rest ih =>
      rw [List.map_cons, List.mapM_cons, ih]
      rfl

/-- Validators are taken up as they were kept. -/
theorem decode?_encode {v : Validators} (h : v.Distinct) : decode? v.encode = some v.sorted := by
  have hkeys : (Dictionary.keys (v.sorted.entries.map entryValue)).Nodup := by
    have hmap : Dictionary.keys (v.sorted.entries.map entryValue)
        = Dictionary.keys v.sorted.entries := by
      simp [Dictionary.keys, entryValue]
    rw [hmap]
    exact h.sorted
  have hstrings : ∀ e ∈ v.sorted.entries.map entryValue, Json.Fits 126 e.2 := by
    intro e he
    obtain ⟨a, -, rfl⟩ := List.mem_map.1 he
    exact .string a.2
  have hparse : Json.parse v.encode = .ok (.object (v.sorted.entries.map entryValue)) :=
    Json.parse_indented (.object hkeys hstrings)
  rw [decode?, hparse]
  simp only
  rw [mapM_entryValue]
  rfl

end Validators

end StaticPage
