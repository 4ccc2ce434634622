import Mathlib.Data.List.DropRight
import StaticPage.Proofs.Json.StringText
import StaticPage.Proofs.Text.Cutting

/-!
# Values read back from their text

The indented text of a value is read back to it, `parse_indented`, if the value is one that text can
hold, `Fits`: its numbers are integers of 64 bits, no object has a key twice, and its lists and objects
do not nest more deeply than the reader follows them. Doubles are left out.

The reader never looks past a value but for the end of a number. What may follow one is `Ends`, and
in printed text it is a comma or a line break.
-/

namespace StaticPage.Json

/-- A value of 64-bit integers and of objects without repeated keys, nested at most `depth` times. -/
inductive Fits : (depth : Nat) → Value → Prop where
  | null {depth : Nat} : Fits depth .null
  | bool {depth : Nat} (b : Bool) : Fits depth (.bool b)
  | number {depth : Nat} {i : Int} (hge : -0x8000000000000000 ≤ i) (hlt : i < 0x10000000000000000) :
      Fits depth (.number (.int i))
  | string {depth : Nat} (s : String) : Fits depth (.string s)
  | array {depth : Nat} {items : List Value} (hitems : ∀ v ∈ items, Fits depth v) :
      Fits (depth + 1) (.array items)
  | object {depth : Nat} {entries : List (String × Value)}
      (hkeys : (Dictionary.keys entries).Nodup) (hentries : ∀ e ∈ entries, Fits depth e.2) :
      Fits (depth + 1) (.object entries)

namespace Reader

/-! ### Blanks -/

theorem skipSpace_skipSpace (s : Bytes) : skipSpace (skipSpace s) = skipSpace s := by
  unfold skipSpace
  exact List.dropWhile_idempotent _ _

theorem skipSpace_newline (level : Nat) (s : Bytes) :
    skipSpace (utf8 (newline level) ++ s) = skipSpace s := by
  have hspaces (n : Nat) : skipSpace (utf8 (List.replicate n ' ') ++ s) = skipSpace s := by
    induction n with
    | zero => rfl
    | succ n ih =>
        rw [List.replicate_succ, utf8_cons_of_lt (by decide)]
        exact ih
  exact hspaces (2 * level)

theorem skipSpace_of_not {b : UInt8} (h : isSpace b = false) (s : Bytes) :
    skipSpace (b :: s) = b :: s :=
  List.dropWhile_cons_of_neg (by simp [h])

theorem value_skipSpace (depth : Nat) (s : Bytes) : value depth (skipSpace s) = value depth s := by
  cases depth <;> rw [value, value, skipSpace_skipSpace]

/-- Where a value is read, something stands, and no list ends. -/
theorem exists_of_value_eq_ok {depth : Nat} {s : Bytes} {r : Value × Bytes}
    (h : value depth s = .ok r) : ∃ b rest, skipSpace s = b :: rest ∧ b ≠ byte ']' := by
  cases hs : skipSpace s with
  | nil =>
      rw [value.eq_def, hs] at h
      cases h
  | cons b rest =>
      refine ⟨b, rest, rfl, ?_⟩
      rintro rfl
      rw [value.eq_def, hs] at h
      cases h

/-! ### Numbers -/

/-- The input ends a number that was read before it. -/
def Ends (s : Bytes) : Prop :=
  ∀ b ∈ s.head?, isDigit b = false ∧ b ≠ byte '.' ∧ isExponentMark b = false

theorem isDigit_byte {c : Char} (h : c.isDigit) : isDigit (byte c) = true := by
  obtain ⟨hle, hge⟩ := Char.isDigit_iff_toNat.1 h
  have hval : (byte c).toNat = c.toNat := toNat_byte (Nat.lt_of_le_of_lt hge (by decide))
  simp only [isDigit, Bool.and_eq_true, decide_eq_true_eq, UInt8.le_iff_toNat_le, hval]
  exact ⟨hle, hge⟩

theorem utf8_digits {ds : List Char} (h : ∀ c ∈ ds, c.isDigit) : utf8 ds = ds.map byte := by
  induction ds with
  | nil => rfl
  | cons c ds ih =>
      have hlt : c.toNat < 128 :=
        Nat.lt_of_le_of_lt (Char.isDigit_iff_toNat.1 (h c List.mem_cons_self)).2 (by decide)
      rw [utf8_cons_of_lt hlt, ih fun c hc => h c (List.mem_cons_of_mem _ hc), List.map_cons]

theorem le_ofDigitChars (ds : List Char) (n : Nat) : n ≤ Nat.ofDigitChars 10 ds n := by
  rw [Nat.ofDigitChars_eq_ofDigitChars_zero]
  exact Nat.le_trans (Nat.le_mul_of_pos_left n (Nat.pow_pos (by decide))) (Nat.le_add_right _ _)

theorem wholeDigits_map_byte {ds : List Char} (hdigits : ∀ c ∈ ds, c.isDigit) {n : Nat}
    (h : Nat.ofDigitChars 10 ds n < wordLimit) :
    wholeDigits n (ds.map byte) = (Nat.ofDigitChars 10 ds n, 0) := by
  induction ds generalizing n with
  | nil => simp [wholeDigits]
  | cons c ds ih =>
      obtain ⟨hle, hge⟩ := Char.isDigit_iff_toNat.1 (hdigits c List.mem_cons_self)
      have hvalue : n * 10 + digitValue (byte c) = 10 * n + (c.toNat - '0'.toNat) := by
        rw [digitValue, toNat_byte (Nat.lt_of_le_of_lt hge (by decide)), Nat.mul_comm]
        rfl
      rw [Nat.ofDigitChars_cons] at h ⊢
      rw [List.map_cons, wholeDigits, hvalue, if_pos (Nat.lt_of_le_of_lt (le_ofDigitChars _ _) h)]
      exact ih (fun c hc => hdigits c (List.mem_cons_of_mem _ hc)) h

theorem isDigit_of_mem_digits {n : Nat} {c : Char} (h : c ∈ digits n) : c.isDigit :=
  Nat.isDigit_of_mem_toDigits (by decide) (by decide) h

theorem head?_digits {n : Nat} (h : 0 < n) : (digits n).head? ≠ some '0' := by
  induction n using Nat.strongRecOn with
  | ind n ih =>
      unfold digits
      by_cases hlt : n < 10
      · rw [Nat.toDigits_of_lt_base hlt]
        have hdigit : ∀ d < 10, 0 < d → [Nat.digitChar d].head? ≠ some '0' := by decide
        exact hdigit n hlt h
      · rw [Nat.toDigits_of_base_le (by decide) (Nat.not_lt.1 hlt),
          List.head?_append_of_ne_nil _ Nat.toDigits_ne_nil]
        exact ih (n / 10) (by omega) (by omega)

theorem number_digits (negative : Bool) {n : Nat} (h : n < wordLimit) {s : Bytes} (hs : Ends s) :
    number negative (utf8 (digits n) ++ s) = whole negative n 0 s := by
  have hdigits : ∀ b ∈ (digits n).map byte, isDigit b = true := by
    intro b hb
    obtain ⟨c, hc, rfl⟩ := List.mem_map.1 hb
    exact isDigit_byte (isDigit_of_mem_digits hc)
  have hhead : ∀ b ∈ s.head?, isDigit b = false := fun b hb => (hs b hb).1
  have hwhole : wholeDigits 0 ((digits n).map byte) = (n, 0) := by
    have hn : Nat.ofDigitChars 10 (digits n) 0 = n := Nat.ofDigitChars_ten_toDigits
    rw [wholeDigits_map_byte (fun c => isDigit_of_mem_digits) (by rw [hn]; exact h), hn]
  have htake : ((digits n).map byte ++ s).takeWhile isDigit = (digits n).map byte :=
    Text.takeWhile_append hdigits hhead
  have hdrop : ((digits n).map byte ++ s).dropWhile isDigit = s :=
    Text.dropWhile_append hdigits hhead
  rw [utf8_digits fun c => isDigit_of_mem_digits]
  obtain ⟨c, ds, hds⟩ : ∃ c ds, digits n = c :: ds :=
    List.exists_cons_of_ne_nil Nat.toDigits_ne_nil
  have hlead : (byte c == byte '0' && ((ds.map byte ++ s).head?.map isDigit).getD false) = false := by
    rcases Nat.eq_zero_or_pos n with rfl | hpos
    · obtain ⟨-, rfl⟩ := List.cons.inj hds
      cases s with
      | nil => simp
      | cons b s => simpa using fun _ => hhead b rfl
    · have hne : byte c ≠ byte '0' := by
        intro heq
        have hc := Char.isDigit_iff_toNat.1 (isDigit_of_mem_digits (hds ▸ List.mem_cons_self))
        have hzero : c = '0' :=
          byte_inj (Nat.lt_of_le_of_lt hc.2 (by decide)) (by decide) heq
        exact head?_digits hpos (by rw [hds, hzero]; rfl)
      simp [hne]
  have hfirst : isDigit (byte c) = true :=
    isDigit_byte (isDigit_of_mem_digits (hds ▸ List.mem_cons_self))
  rw [hds, List.map_cons, List.cons_append] at htake hdrop
  rw [hds, List.map_cons, List.cons_append, number]
  simp only [hfirst, Bool.not_true, Bool.false_eq_true, if_false, hlead, htake, hdrop]
  rw [← List.map_cons, ← hds, hwhole]
  cases s with
  | nil => rfl
  | cons b s =>
      obtain ⟨-, hpoint, hmark⟩ := hs b rfl
      simp [hpoint, hmark]

theorem value_of_isDigit (depth : Nat) {b : UInt8} (h : isDigit b = true) (s : Bytes) :
    value depth (b :: s) = number false (b :: s) := by
  have hne (l : Char) (hl : isDigit (byte l) = false) : (b == byte l) = false := by
    rw [beq_eq_false_iff_ne]
    rintro rfl
    rw [h] at hl
    cases hl
  have hspace : isSpace b = false := by
    simp only [isSpace, hne ' ' rfl, hne '\n' rfl, hne '\t' rfl, hne '\r' rfl, Bool.or_false]
  rw [value.eq_def]
  simp only [skipSpace_of_not hspace, hne 'n' rfl, hne 't' rfl, hne 'f' rfl, hne '-' rfl, h,
    Bool.false_eq_true, if_false, if_true]

theorem value_integerText (depth : Nat) {i : Int} (hge : -0x8000000000000000 ≤ i)
    (hlt : i < 0x10000000000000000) {s : Bytes} (hs : Ends s) :
    value depth (utf8 (integerText i) ++ s) = .ok (.number (.int i), s) := by
  have hfits : i.natAbs < wordLimit := by
    change i.natAbs < 0x10000000000000000
    omega
  have hlimit : Nat.pow 2 63 = 0x8000000000000000 := rfl
  unfold integerText
  split
  · rename_i hneg
    have hvalue : value depth (byte '-' :: (utf8 (digits i.natAbs) ++ s))
        = number true (utf8 (digits i.natAbs) ++ s) := by
      rw [value.eq_def]
      rfl
    rw [utf8_cons_of_lt (by decide), List.cons_append, hvalue, number_digits true hfits hs, whole,
      if_neg (by simp), if_neg (by simp), if_neg (by rw [hlimit]; omega)]
    rw [Int.ofNat_natAbs_of_nonpos (by omega), Int.neg_neg]
  · rename_i hpos
    obtain ⟨c, ds, hds⟩ : ∃ c ds, digits i.natAbs = c :: ds :=
      List.exists_cons_of_ne_nil Nat.toDigits_ne_nil
    have hdigits : ∀ c ∈ digits i.natAbs, c.isDigit := fun c => isDigit_of_mem_digits
    have hfirst : isDigit (byte c) = true := isDigit_byte (hdigits c (hds ▸ List.mem_cons_self))
    have hvalue : value depth (utf8 (digits i.natAbs) ++ s)
        = number false (utf8 (digits i.natAbs) ++ s) := by
      rw [utf8_digits hdigits, hds]
      exact value_of_isDigit depth hfirst _
    rw [hvalue, number_digits false hfits hs, whole, if_neg (by simp), if_pos (by simp),
      Int.natAbs_of_nonneg (by omega)]

/-! ### Lists and objects -/

theorem ends_newline (level : Nat) (s : Bytes) : Ends (utf8 (newline level) ++ s) := by
  intro b hb
  cases hb
  decide

theorem ends_comma (s : Bytes) : Ends (byte ',' :: s) := by
  intro b hb
  cases hb
  decide

/-- A value that is read back from its indented text, with `depth` levels left. -/
def ReadsBack (depth : Nat) (v : Value) : Prop :=
  ∀ level s, Ends s → value depth (utf8 (indentedText level v) ++ s) = .ok (v, s)

/-- The texts behind the first one of a list or object, and its end. -/
def restText (level : Nat) (texts : List (List Char)) (close : Char) : List Char :=
  (texts.flatMap fun t => ',' :: (newline (level + 1) ++ t)) ++ newline level ++ [close]

theorem ends_restText (level : Nat) (texts : List (List Char)) (close : Char) (s : Bytes) :
    Ends (utf8 (restText level texts close) ++ s) := by
  cases texts with
  | nil =>
      rw [restText, List.flatMap_nil, List.nil_append, utf8_append, List.append_assoc]
      exact ends_newline level _
  | cons t texts => exact ends_comma _

theorem length_restText (level : Nat) (texts : List (List Char)) (close : Char) (s : Bytes) :
    texts.length < (utf8 (restText level texts close) ++ s).length := by
  have hlength : texts.length < (restText level texts close).length := by
    induction texts with
    | nil => simp [restText]
    | cons t texts ih =>
        simp only [restText, List.flatMap_cons, List.length_append, List.length_cons] at ih ⊢
        omega
  rw [List.length_append]
  exact Nat.lt_of_lt_of_le hlength (Nat.le_add_right_of_le (length_le_utf8 _))

theorem skipSpace_restText_nil (level : Nat) {close : Char} (h : close.toNat < 128)
    (hspace : isSpace (byte close) = false) (s : Bytes) :
    skipSpace (utf8 (restText level [] close) ++ s) = byte close :: s := by
  rw [restText, List.flatMap_nil, List.nil_append, utf8_append, List.append_assoc, skipSpace_newline,
    utf8_cons_of_lt h]
  exact skipSpace_of_not hspace s

theorem utf8_restText_cons (level : Nat) (t : List Char) (texts : List (List Char)) (close : Char)
    (s : Bytes) :
    utf8 (restText level (t :: texts) close) ++ s = byte ',' :: (utf8 (newline (level + 1)) ++
      (utf8 t ++ (utf8 (restText level texts close) ++ s))) := by
  simp [restText, utf8_cons_of_lt]

/-- The items of a list behind its first one, and its end. -/
def listRest (level : Nat) (vs : List Value) : List Char :=
  restText level (vs.map (indentedText (level + 1))) ']'

theorem indentedItems_cons (level : Nat) (v : Value) (vs : List Value) :
    indentedItems level (v :: vs) = newline level ++ indentedText level v ++
      (vs.map (indentedText level)).flatMap fun t => ',' :: (newline level ++ t) := by
  induction vs generalizing v with
  | nil => simp [indentedItems]
  | cons w vs ih =>
      rw [indentedItems, ih w]
      · simp
      · simp

theorem moreItems_listRest {depth : Nat} {vs : List Value} (h : ∀ v ∈ vs, ReadsBack depth v)
    (level : Nat) (read : List Value) (s : Bytes) {fuel : Nat} (hfuel : vs.length < fuel) :
    moreItems (value depth) fuel read (utf8 (listRest level vs) ++ s)
      = .ok (.array (read.reverse ++ vs), s) := by
  induction vs generalizing fuel read with
  | nil =>
      obtain ⟨fuel, rfl⟩ : ∃ n, fuel = n + 1 := ⟨fuel - 1, by simp at hfuel; omega⟩
      rw [listRest, List.map_nil, moreItems, skipSpace_restText_nil level (by decide) (by decide)]
      simp
  | cons v vs ih =>
      obtain ⟨fuel, rfl⟩ : ∃ n, fuel = n + 1 := ⟨fuel - 1, by simp at hfuel; omega⟩
      have hv := h v List.mem_cons_self (level + 1) (utf8 (listRest level vs) ++ s)
        (ends_restText level _ ']' s)
      obtain ⟨b, rest, hb, hne⟩ := exists_of_value_eq_ok hv
      rw [listRest, List.map_cons, utf8_restText_cons, ← listRest, moreItems,
        skipSpace_of_not (by decide)]
      simp only [skipSpace_newline, hb]
      rw [if_neg (by decide), if_pos (by decide), if_neg (by simpa using hne), ← hb, value_skipSpace,
        hv]
      simp only
      rw [List.append_cons, ← List.reverse_cons]
      exact ih (fun w hw => h w (List.mem_cons_of_mem _ hw)) _ (Nat.lt_of_succ_lt_succ hfuel)

theorem value_array {depth : Nat} {items : List Value} (h : ∀ v ∈ items, ReadsBack depth v) :
    ReadsBack (depth + 1) (.array items) := by
  intro level s _
  have hopen (t : Bytes) : value (depth + 1) (byte '[' :: t) = list (value depth) t := by
    rw [value.eq_def]
    rfl
  cases items with
  | nil => exact hopen _
  | cons v vs =>
      have htext : utf8 (indentedText level (.array (v :: vs))) ++ s
          = byte '[' :: (utf8 (newline (level + 1)) ++
              (utf8 (indentedText (level + 1) v) ++ (utf8 (listRest level vs) ++ s))) := by
        rw [indentedText, indentedItems_cons]
        · simp [listRest, restText, utf8_cons_of_lt]
        · simp
      have hv := h v List.mem_cons_self (level + 1) (utf8 (listRest level vs) ++ s)
        (ends_restText level _ ']' s)
      obtain ⟨b, rest, hb, hne⟩ := exists_of_value_eq_ok hv
      rw [htext, hopen, list, skipSpace_newline, hb]
      simp only
      rw [if_neg (by simpa using hne), ← hb, value_skipSpace, hv]
      exact moreItems_listRest (fun w hw => h w (List.mem_cons_of_mem _ hw)) level [v] s
        (Nat.lt_succ_of_lt (by simpa [listRest] using length_restText level (vs.map _) ']' s))

def entryText (level : Nat) (e : String × Value) : List Char :=
  quoted e.1 ++ ':' :: ' ' :: indentedText level e.2

/-- The entries of an object behind its first one, and its end. -/
def objectRest (level : Nat) (es : List (String × Value)) : List Char :=
  restText level (es.map (entryText (level + 1))) '\x7d'

theorem indentedEntries_cons (level : Nat) (e : String × Value) (es : List (String × Value)) :
    indentedEntries level (e :: es) = newline level ++ entryText level e ++
      (es.map (entryText level)).flatMap fun t => ',' :: (newline level ++ t) := by
  induction es generalizing e with
  | nil => simp [indentedEntries, entryText]
  | cons f es ih =>
      rw [indentedEntries, ih f]
      · simp [entryText]
      · simp

theorem entry_entryText {depth : Nat} {e : String × Value} (h : ReadsBack depth e.2) (level : Nat)
    {s : Bytes} (hs : Ends s) :
    ∃ t, utf8 (entryText level e) ++ s = byte '"' :: t ∧ entry (value depth) t = .ok (e, s) := by
  refine ⟨utf8 (e.1.toList.flatMap escapeChar) ++ byte '"' ::
    byte ':' :: byte ' ' :: (utf8 (indentedText level e.2) ++ s), ?_, ?_⟩
  · simp [entryText, quoted, utf8_cons_of_lt]
  · have hvalue : value depth (byte ' ' :: (utf8 (indentedText level e.2) ++ s)) = .ok (e.2, s) := by
      have hskip (t : Bytes) : skipSpace (byte ' ' :: t) = skipSpace t := rfl
      rw [← value_skipSpace, hskip, value_skipSpace]
      exact h level s hs
    rw [entry, string_escaped]
    simp only
    rw [skipSpace_of_not (by decide)]
    simp only
    rw [if_pos (by decide), hvalue]

theorem moreEntries_objectRest {depth : Nat} {es : List (String × Value)}
    (h : ∀ e ∈ es, ReadsBack depth e.2) (level : Nat) {read : List (String × Value)}
    (hkeys : (Dictionary.keys (read ++ es)).Nodup) (s : Bytes) {fuel : Nat} (hfuel : es.length < fuel) :
    moreEntries (value depth) fuel read (utf8 (objectRest level es) ++ s)
      = .ok (.object (read ++ es), s) := by
  induction es generalizing fuel read with
  | nil =>
      obtain ⟨fuel, rfl⟩ : ∃ n, fuel = n + 1 := ⟨fuel - 1, by simp at hfuel; omega⟩
      rw [objectRest, List.map_nil, moreEntries, skipSpace_restText_nil level (by decide) (by decide)]
      simp
  | cons e es ih =>
      obtain ⟨fuel, rfl⟩ : ∃ n, fuel = n + 1 := ⟨fuel - 1, by simp at hfuel; omega⟩
      obtain ⟨t, htext, hentry⟩ := entry_entryText (h e List.mem_cons_self) (level + 1)
        (s := utf8 (objectRest level es) ++ s) (ends_restText level _ '\x7d' s)
      have hnew : e.1 ∉ Dictionary.keys read := by
        intro hmem
        rw [Dictionary.keys_append] at hkeys
        exact (List.nodup_append.1 hkeys).2.2 e.1 hmem e.1 List.mem_cons_self rfl
      rw [List.append_cons] at hkeys ⊢
      rw [objectRest, List.map_cons, utf8_restText_cons, ← objectRest, htext, moreEntries,
        skipSpace_of_not (by decide)]
      simp only [skipSpace_newline]
      rw [if_neg (by decide), if_pos (by decide), skipSpace_of_not (by decide)]
      simp only
      rw [if_pos (by decide), hentry]
      simp only
      rw [Dictionary.set_of_not_mem hnew]
      exact ih (fun f hf => h f (List.mem_cons_of_mem _ hf)) hkeys (Nat.lt_of_succ_lt_succ hfuel)

theorem value_object {depth : Nat} {entries : List (String × Value)}
    (hkeys : (Dictionary.keys entries).Nodup) (h : ∀ e ∈ entries, ReadsBack depth e.2) :
    ReadsBack (depth + 1) (.object entries) := by
  intro level s _
  have hopen (t : Bytes) : value (depth + 1) (byte '\x7b' :: t) = object (value depth) t := by
    rw [value.eq_def]
    rfl
  cases entries with
  | nil => exact hopen _
  | cons e es =>
      obtain ⟨t, htext, hentry⟩ := entry_entryText (h e List.mem_cons_self) (level + 1)
        (s := utf8 (objectRest level es) ++ s) (ends_restText level _ '\x7d' s)
      have hobject : utf8 (indentedText level (.object (e :: es))) ++ s
          = byte '\x7b' :: (utf8 (newline (level + 1)) ++ byte '"' :: t) := by
        rw [← htext, indentedText, indentedEntries_cons]
        · simp [objectRest, restText, utf8_cons_of_lt]
        · simp
      rw [hobject, hopen, object, skipSpace_newline, skipSpace_of_not (by decide)]
      simp only
      rw [if_neg (by decide), if_pos (by decide), hentry]
      have hfuel := length_restText level (es.map (entryText (level + 1))) '\x7d' s
      have hfirst : (Dictionary.keys ([e] ++ es)).Nodup := hkeys
      exact moreEntries_objectRest (fun f hf => h f (List.mem_cons_of_mem _ hf)) level hfirst s
        (Nat.lt_succ_of_lt (by simpa [objectRest] using hfuel))

theorem value_indentedText {depth : Nat} {v : Value} (h : Fits depth v) : ReadsBack depth v := by
  induction h with
  | null => 
      intro level s _
      rw [value.eq_def]
      rfl
  | bool b =>
      intro level s _
      rw [value.eq_def]
      cases b <;> rfl
  | number hge hlt => exact fun level s hs => value_integerText _ hge hlt hs
  | string t =>
      intro level s _
      have htext : utf8 (indentedText level (.string t)) ++ s
          = byte '"' :: (utf8 (t.toList.flatMap escapeChar) ++ byte '"' :: s) := by
        simp [indentedText, compactText, quoted, utf8_cons_of_lt]
      rw [htext, value.eq_def]
      change (string _).map _ = _
      rw [string_escaped]
      rfl
  | array _ ih => exact value_array ih
  | object hkeys _ ih => exact value_object hkeys ih

end Reader

/-- A value that fits is what its indented text stands for. -/
theorem parse_indented {v : Value} (h : Fits Reader.maxDepth v) :
    parse v.indented.toUTF8 = .ok v := by
  have hvalue := Reader.value_indentedText h 0 [] (by simp [Reader.Ends])
  rw [List.append_nil] at hvalue
  have hdocument : Reader.document (utf8 (indentedText 0 v)) = .ok v := by
    rw [Reader.document, hvalue]
    rfl
  rw [parse, toList_toUTF8, Value.indented, String.toList_ofList, hdocument]

end StaticPage.Json
