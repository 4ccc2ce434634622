import Mathlib.Data.String.Basic
import StaticPage.Proofs.Calendar.DayNumbers
import StaticPage.Proofs.Text.ByteCuts
import StaticPage.Proofs.Text.Cutting

/-!
# Dates as they are written

The reader of dates takes more than `YYYY-MM-DD`: blanks in front of a field, a year with a sign, and fields with
fewer digits. `Spells` has all that it takes, and `Iso` the ten characters that the name of a post is meant to
begin with. A text of ten bytes without a blank and without a sign in front has no room for anything else. The
fields of two such texts are of the same widths, so that the order of the texts is that of the days.
-/

namespace StaticPage.Date

open Text (isBlank byteLength)

variable {s t l ds es r r' rest : List Char} {c : Char} {most n m : Nat} {y : Int} {d e : Date}

/-! ### Digits -/

theorem isDigit_range (h : c.isDigit = true) : 48 ≤ c.toNat ∧ c.toNat ≤ 57 := by
  simpa [Char.isDigit, UInt32.le_iff_toNat_le] using h

theorem isBlank_of_isDigit (h : c.isDigit = true) : isBlank c = false := by
  have hrange := isDigit_range h
  simp only [isBlank, Bool.or_eq_false_iff, Bool.and_eq_false_iff, decide_eq_false_iff_not, beq_eq_false_iff_ne]
  omega

/-- A text of digits that stands for a number. -/
structure Numeral (s : List Char) (n : Nat) : Prop where
  nonempty : s ≠ []
  digits : ∀ c ∈ s, c.isDigit = true
  value : Nat.ofDigitChars 10 s 0 = n

theorem Numeral.isBlank (h : Numeral ds n) : ∀ c ∈ ds, isBlank c = false :=
  fun c hc => isBlank_of_isDigit (h.digits c hc)

theorem Numeral.exists_cons (h : Numeral ds n) : ∃ c rest, ds = c :: rest ∧ c.isDigit = true := by
  obtain ⟨c, rest, rfl⟩ := List.exists_cons_of_ne_nil h.nonempty
  exact ⟨c, rest, rfl, h.digits c List.mem_cons_self⟩

theorem Numeral.head?_append (h : Numeral ds n) (rest : List Char) :
    ∀ c ∈ (ds ++ rest).head?, Text.isBlank c = false := by
  obtain ⟨c, tail, rfl, hc⟩ := h.exists_cons
  intro a ha
  cases ha
  exact isBlank_of_isDigit hc

theorem Numeral.byteLength (h : Numeral ds n) : byteLength ds = ds.length :=
  Text.byteLength_of_ascii fun c hc => by
    have := isDigit_range (h.digits c hc)
    omega

theorem numeral_of_number? (h : number? most s = some (n, rest)) :
    ∃ ds, s = ds ++ rest ∧ Numeral ds n ∧ ds.length ≤ most := by
  have hfront := List.takeWhile_prefix Char.isDigit (l := s.take most)
  have hdigits : ∀ c ∈ (s.take most).takeWhile Char.isDigit, c.isDigit = true :=
    fun c hc => List.mem_takeWhile_imp hc
  rw [number?] at h
  generalize (s.take most).takeWhile Char.isDigit = ds at h hfront hdigits
  split at h
  · cases h
  · rename_i hne
    cases h
    have hlength : ds.length ≤ most := hfront.length_le.trans (List.length_take_le most s)
    refine ⟨ds, ?_, ⟨mt List.isEmpty_iff.2 hne, hdigits, ?_⟩, hlength⟩
    · exact (List.prefix_iff_eq_append.1 (hfront.trans (List.take_prefix most s))).symm
    · simp only [Nat.ofDigitChars_eq_foldl, Nat.mul_comm]
      rfl

theorem number?_append (h : Numeral ds n) (hlength : ds.length ≤ most)
    (hrest : ∀ c ∈ rest.head?, c.isDigit = false) : number? most (ds ++ rest) = some (n, rest) := by
  have hdigits : ((ds ++ rest).take most).takeWhile Char.isDigit = ds := by
    rw [List.take_append, List.take_of_length_le hlength]
    apply Text.takeWhile_append h.digits
    intro c hc
    apply hrest
    rw [List.head?_take] at hc
    split at hc
    · cases hc
    · exact hc
  have hempty : ds.isEmpty = false := by simpa using h.nonempty
  simp only [number?, hdigits, hempty, List.drop_left, ← h.value, Nat.ofDigitChars_eq_foldl, Nat.mul_comm]
  rfl

/-! ### What the reader takes -/

/-- A year, perhaps behind blanks: up to four digits, or a sign and any number of them. -/
inductive YearText : List Char → Int → Prop where
  | plain {l ds : List Char} {n : Nat} (hl : ∀ c ∈ l, isBlank c = true) (h : Numeral ds n)
      (hlength : ds.length ≤ 4) : YearText (l ++ ds) n
  | minus {l ds : List Char} {n : Nat} (hl : ∀ c ∈ l, isBlank c = true) (h : Numeral ds n) :
      YearText (l ++ '-' :: ds) (-n)
  | plus {l ds : List Char} {n : Nat} (hl : ∀ c ∈ l, isBlank c = true) (h : Numeral ds n) :
      YearText (l ++ '+' :: ds) n

/-- A month or a day, perhaps behind blanks: one or two digits. -/
inductive SmallText : List Char → Nat → Prop where
  | mk {l ds : List Char} {n : Nat} (hl : ∀ c ∈ l, isBlank c = true) (h : Numeral ds n)
      (hlength : ds.length ≤ 2) : SmallText (l ++ ds) n

/-- A text that the reader takes for a date. -/
inductive Spells : List Char → Date → Prop where
  | mk {year month day : List Char} {d : Date} (hyear : YearText year d.year) (hmonth : SmallText month d.month)
      (hday : SmallText day d.day) (hrange : inRange d.year = true) (hvalid : d.Valid) :
      Spells (year ++ '-' :: (month ++ '-' :: day)) d

theorem yearText_of_yearField? (h : yearField? s = some (y, rest)) :
    ∃ year, s = year ++ rest ∧ YearText year y := by
  obtain ⟨l, hs, hl⟩ := Text.exists_trimStart s
  rw [yearField?] at h
  split at h
  · rename_i u hu
    obtain ⟨⟨n, rest⟩, hn, heq⟩ := Option.map_eq_some_iff.1 h
    cases heq
    obtain ⟨ds, rfl, hds, -⟩ := numeral_of_number? hn
    exact ⟨l ++ '-' :: ds, by rw [hs, hu]; simp, .minus hl hds⟩
  · rename_i u hu
    obtain ⟨⟨n, rest⟩, hn, heq⟩ := Option.map_eq_some_iff.1 h
    cases heq
    obtain ⟨ds, rfl, hds, -⟩ := numeral_of_number? hn
    exact ⟨l ++ '+' :: ds, by rw [hs, hu]; simp, .plus hl hds⟩
  · obtain ⟨⟨n, rest⟩, hn, heq⟩ := Option.map_eq_some_iff.1 h
    cases heq
    obtain ⟨ds, htrim, hds, hlength⟩ := numeral_of_number? hn
    exact ⟨l ++ ds, by rw [List.append_assoc, ← htrim, ← hs], .plain hl hds hlength⟩

theorem yearField?_append {year : List Char} (h : YearText year y)
    (hrest : ∀ c ∈ rest.head?, c.isDigit = false) : yearField? (year ++ rest) = some (y, rest) := by
  cases h with
  | plain hl h hlength =>
      rw [List.append_assoc, yearField?, Text.trimStart_append hl, Text.trimStart_of_head (h.head?_append rest)]
      obtain ⟨c, tail, hcons, hc⟩ := h.exists_cons
      split
      · rename_i heq
        rw [hcons] at heq
        cases heq
        cases hc
      · rename_i heq
        rw [hcons] at heq
        cases heq
        cases hc
      · rw [number?_append h hlength hrest, Option.map_some]
  | @minus l ds n hl h =>
      have hnumber : number? (ds ++ rest).length (ds ++ rest) = some (n, rest) :=
        number?_append h (by simp) hrest
      rw [List.append_assoc, List.cons_append, yearField?, Text.trimStart_append hl,
        Text.trimStart_of_head (by simp [isBlank])]
      simp only [hnumber, Option.map_some]
  | @plus l ds n hl h =>
      have hnumber : number? (ds ++ rest).length (ds ++ rest) = some (n, rest) :=
        number?_append h (by simp) hrest
      rw [List.append_assoc, List.cons_append, yearField?, Text.trimStart_append hl,
        Text.trimStart_of_head (by simp [isBlank])]
      simp only [hnumber, Option.map_some]

theorem smallText_of_smallField? (h : smallField? s = some (n, rest)) :
    ∃ text, s = text ++ rest ∧ SmallText text n := by
  obtain ⟨l, hs, hl⟩ := Text.exists_trimStart s
  obtain ⟨ds, htrim, hds, hlength⟩ := numeral_of_number? h
  exact ⟨l ++ ds, by rw [List.append_assoc, ← htrim, ← hs], .mk hl hds hlength⟩

theorem smallField?_append {text : List Char} (h : SmallText text n)
    (hrest : ∀ c ∈ rest.head?, c.isDigit = false) : smallField? (text ++ rest) = some (n, rest) := by
  obtain ⟨hl, h, hlength⟩ := h
  rw [List.append_assoc, smallField?, Text.trimStart_append hl, Text.trimStart_of_head (h.head?_append rest),
    number?_append h hlength hrest]

theorem hyphen?_eq_some_iff : hyphen? s = some rest ↔ s = '-' :: rest := by
  unfold hyphen?
  split
  · simp
  · rename_i h
    simpa using h rest

theorem ofParts?_eq_some_iff : ofParts? y m n = some d ↔ d = ⟨y, m, n⟩ ∧ inRange y = true ∧ Valid ⟨y, m, n⟩ := by
  simp only [ofParts?, Valid, Bool.and_eq_true, decide_eq_true_eq]
  split
  · rename_i h
    simp [h, eq_comm]
  · rename_i h
    simp only [reduceCtorEq, false_iff]
    exact fun hd => h ⟨⟨hd.2.1, hd.2.2.1⟩, hd.2.2.2⟩

/-- The reader takes the texts that spell a date, and no other ones. -/
theorem parse?_eq_some_iff : parse? s = some d ↔ Spells s d := by
  constructor
  · intro h
    simp only [parse?, Option.bind_eq_bind, Option.bind_eq_some_iff, Prod.exists, hyphen?_eq_some_iff] at h
    obtain ⟨y, _, hyear, _, rfl, m, _, hmonth, _, rfl, n, last, hday, hend⟩ := h
    obtain ⟨year, rfl, hyearText⟩ := yearText_of_yearField? hyear
    obtain ⟨month, rfl, hmonthText⟩ := smallText_of_smallField? hmonth
    obtain ⟨day, rfl, hdayText⟩ := smallText_of_smallField? hday
    split at hend
    · rename_i hempty
      obtain ⟨rfl, hrange, hvalid⟩ := ofParts?_eq_some_iff.1 hend
      rw [List.isEmpty_iff.1 hempty, List.append_nil]
      exact .mk hyearText hmonthText hdayText hrange hvalid
    · cases hend
  · rintro @⟨year, month, text, d, hyear, hmonth, hday, hrange, hvalid⟩
    have hhyphen : ∀ (rest : List Char), ∀ c ∈ ('-' :: rest).head?, c.isDigit = false := by
      intro rest c hc
      cases hc
      rfl
    have hlast : smallField? (text ++ []) = some (d.day, []) := smallField?_append hday (by simp)
    rw [List.append_nil] at hlast
    simp only [parse?, yearField?_append hyear (hhyphen _), smallField?_append hmonth (hhyphen _), hlast,
      hyphen?, Option.bind_eq_bind, Option.bind_some, List.isEmpty_nil, if_true]
    exact ofParts?_eq_some_iff.2 ⟨rfl, hrange, hvalid⟩

/-! ### Ten characters -/

/-- A date of the calendar, written as `YYYY-MM-DD`. -/
inductive Iso : List Char → Date → Prop where
  | mk {year month day : List Char} {y m n : Nat} (hyear : Numeral year y) (hmonth : Numeral month m)
      (hday : Numeral day n) (hyear' : year.length = 4) (hmonth' : month.length = 2) (hday' : day.length = 2)
      (hvalid : Valid ⟨y, m, n⟩) : Iso (year ++ '-' :: (month ++ '-' :: day)) ⟨y, m, n⟩

/-- Without a blank, and without a sign in front. -/
def Unadorned (s : List Char) : Prop :=
  (∀ c ∈ s, isBlank c = false) ∧ ∀ c ∈ s.head?, c ≠ '+' ∧ c ≠ '-'

instance : Decidable (Unadorned s) :=
  decidable_of_iff (s.all (fun c => !isBlank c) ∧ s.head? ≠ some '+' ∧ s.head? ≠ some '-') (by
    cases s <;> simp [Unadorned])

theorem Numeral.lt_of_length (h : Numeral ds n) (hlength : ds.length = 4) : n < 10000 := by
  obtain ⟨a, b, c, d, rfl⟩ : ∃ a b c d, ds = [a, b, c, d] := List.length_eq_four.1 hlength
  have ha := isDigit_range (h.digits a (by simp))
  have hb := isDigit_range (h.digits b (by simp))
  have hc := isDigit_range (h.digits c (by simp))
  have hd := isDigit_range (h.digits d (by simp))
  have hzero : '0'.toNat = 48 := rfl
  rw [← h.value]
  simp only [Nat.ofDigitChars_cons, Nat.ofDigitChars_nil, hzero]
  omega

theorem Iso.spells (h : Iso s d) : Spells s d := by
  obtain ⟨hyear, hmonth, hday, hyear', hmonth', hday', hvalid⟩ := h
  have hnone : ∀ c ∈ ([] : List Char), isBlank c = true := by simp
  refine .mk (.plain hnone hyear (by omega)) (.mk hnone hmonth (by omega)) (.mk hnone hday (by omega)) ?_ hvalid
  have := hyear.lt_of_length hyear'
  simp only [inRange, Bool.and_eq_true, decide_eq_true_eq]
  omega

theorem Iso.valid (h : Iso s d) : d.Valid := by
  obtain ⟨-, -, -, -, -, -, hvalid⟩ := h
  exact hvalid

theorem Iso.unadorned (h : Iso s d) : Unadorned s := by
  obtain ⟨hyear, hmonth, hday, -, -, -, -⟩ := h
  constructor
  · intro c hc
    simp only [List.mem_append, List.mem_cons] at hc
    rcases hc with hc | rfl | hc | rfl | hc
    · exact hyear.isBlank c hc
    · rfl
    · exact hmonth.isBlank c hc
    · rfl
    · exact hday.isBlank c hc
  · obtain ⟨c, tail, rfl, hc⟩ := hyear.exists_cons
    intro a ha
    cases ha
    constructor <;> rintro rfl <;> cases hc

theorem Unadorned.eq_nil (hs : Unadorned s) (hl : ∀ c ∈ l, isBlank c = true) (hmem : ∀ c ∈ l, c ∈ s) :
    l = [] := by
  apply List.eq_nil_iff_forall_not_mem.2
  intro c hc
  have := hs.1 c (hmem c hc)
  rw [hl c hc] at this
  cases this

/-- A date spelled in ten bytes, without a blank and without a sign in front, has all its digits. -/
theorem Spells.iso (h : Spells s d) (hs : Unadorned s) (hbytes : byteLength s = 10) : Iso s d := by
  obtain ⟨hyear, hmonth, hday, -, hvalid⟩ := h
  obtain ⟨y, m, n⟩ := d
  obtain ⟨hml, hmonth, hmonth'⟩ := hmonth
  obtain ⟨hdl, hday, hday'⟩ := hday
  cases hyear with
  | plain hl hyear hyear' =>
      -- Ten bytes are as many as the longest fields have, so that every field has all of its digits.
      obtain rfl := hs.eq_nil hl fun c hc => by simp [hc]
      obtain rfl := hs.eq_nil hml fun c hc => by simp [hc]
      obtain rfl := hs.eq_nil hdl fun c hc => by simp [hc]
      have hhyphen : '-'.utf8Size = 1 := rfl
      simp only [List.nil_append] at hbytes ⊢
      simp only [Text.byteLength_append, Text.byteLength, hyear.byteLength, hmonth.byteLength, hday.byteLength,
        hhyphen] at hbytes
      exact .mk hyear hmonth hday (by omega) (by omega) (by omega) hvalid
  | minus hl hyear =>
      obtain rfl := hs.eq_nil hl fun c hc => by simp [hc]
      exact absurd rfl (hs.2 '-' rfl).2
  | plus hl hyear =>
      obtain rfl := hs.eq_nil hl fun c hc => by simp [hc]
      exact absurd rfl (hs.2 '+' rfl).1

/-! ### The order of texts -/

theorem ofDigitChars_lt {a b : Nat} (hlength : ds.length = es.length) (hd : ∀ c ∈ ds, c.isDigit = true)
    (he : ∀ c ∈ es, c.isDigit = true) (h : a < b) : Nat.ofDigitChars 10 ds a < Nat.ofDigitChars 10 es b := by
  induction ds generalizing es a b with
  | nil =>
      rw [List.length_eq_zero_iff.1 hlength.symm]
      exact h
  | cons x ds ih =>
      obtain ⟨z, es, rfl⟩ := List.exists_cons_of_length_pos (l := es) (by simp [← hlength])
      rw [Nat.ofDigitChars_cons, Nat.ofDigitChars_cons]
      apply ih (by simpa using hlength) (fun c hc => hd c (List.mem_cons_of_mem _ hc))
        (fun c hc => he c (List.mem_cons_of_mem _ hc))
      have hx := isDigit_range (hd x List.mem_cons_self)
      have hz := isDigit_range (he z List.mem_cons_self)
      have hzero : '0'.toNat = 48 := rfl
      omega

/-- Texts with as many digits in front are in the order of the numbers there, and behind equal numbers in that of
the rests. -/
theorem digits_append_lt_iff {a : Nat} (hlength : ds.length = es.length) (hd : ∀ c ∈ ds, c.isDigit = true)
    (he : ∀ c ∈ es, c.isDigit = true) : ds ++ r < es ++ r' ↔
      Nat.ofDigitChars 10 ds a < Nat.ofDigitChars 10 es a ∨
        Nat.ofDigitChars 10 ds a = Nat.ofDigitChars 10 es a ∧ r < r' := by
  induction ds generalizing es a with
  | nil =>
      rw [List.length_eq_zero_iff.1 hlength.symm]
      simp
  | cons x ds ih =>
      obtain ⟨z, es, rfl⟩ := List.exists_cons_of_length_pos (l := es) (by simp [← hlength])
      have hlength' : ds.length = es.length := by simpa using hlength
      have hds : ∀ c ∈ ds, c.isDigit = true := fun c hc => hd c (List.mem_cons_of_mem _ hc)
      have hes : ∀ c ∈ es, c.isDigit = true := fun c hc => he c (List.mem_cons_of_mem _ hc)
      have hx := isDigit_range (hd x List.mem_cons_self)
      have hz := isDigit_range (he z List.mem_cons_self)
      have hzero : '0'.toNat = 48 := rfl
      rw [List.cons_append, List.cons_append, List.cons_lt_cons_iff, Nat.ofDigitChars_cons, Nat.ofDigitChars_cons,
        hzero]
      -- What comes behind two different digits cannot turn the order of the numbers around.
      rcases lt_trichotomy x z with hlt | rfl | hgt
      · have hnat : x.toNat < z.toNat := hlt
        have := ofDigitChars_lt (a := 10 * a + (x.toNat - 48)) (b := 10 * a + (z.toNat - 48)) hlength' hds hes
          (by omega)
        simp [hlt, this]
      · rw [← ih hlength' hds hes]
        simp
      · have hnat : z.toNat < x.toNat := hgt
        have := ofDigitChars_lt (a := 10 * a + (z.toNat - 48)) (b := 10 * a + (x.toNat - 48)) hlength'.symm hes hds
          (by omega)
        have hnot : ¬ x < z := lt_asymm hgt
        have hne : x ≠ z := ne_of_gt hgt
        simp only [hnot, hne, false_and, or_false, false_iff]
        omega

theorem Numeral.append_lt_iff (hd : Numeral ds n) (he : Numeral es m) (hlength : ds.length = es.length) :
    ds ++ r < es ++ r' ↔ n < m ∨ n = m ∧ r < r' := by
  rw [digits_append_lt_iff (a := 0) hlength hd.digits he.digits, hd.value, he.value]

theorem Iso.lt_iff (hs : Iso s d) (ht : Iso t e) : s < t ↔ d.Before e := by
  obtain @⟨_, _, day, y, m, n, hyear, hmonth, hday, hyear₄, hmonth₂, hday₂, -⟩ := hs
  obtain @⟨_, _, day', y', m', n', hyear', hmonth', hday', hyear₄', hmonth₂', hday₂', -⟩ := ht
  have hhyphen : ∀ r r' : List Char, '-' :: r < '-' :: r' ↔ r < r' := by
    intro r r'
    simp
  have hlast : day < day' ↔ n < n' := by
    have hfields : day ++ [] < day' ++ [] ↔ n < n' ∨ n = n' ∧ [] < [] := hday.append_lt_iff hday' (by omega)
    simpa using hfields
  rw [hyear.append_lt_iff hyear' (by omega), hhyphen, hmonth.append_lt_iff hmonth' (by omega), hhyphen, hlast]
  simp only [Before]
  omega

theorem Iso.eq_iff (hs : Iso s d) (ht : Iso t e) : s = t ↔ d = e := by
  constructor
  · rintro rfl
    rcases before_trichotomy d e with h | h | h
    · exact absurd ((hs.lt_iff ht).2 h) (lt_irrefl s)
    · exact h
    · exact absurd ((ht.lt_iff hs).2 h) (lt_irrefl s)
  · rintro rfl
    have hirrefl : ¬ d.Before d := by
      simp only [Before]
      omega
    rcases lt_trichotomy s t with h | h | h
    · exact absurd ((hs.lt_iff ht).1 h) hirrefl
    · exact h
    · exact absurd ((ht.lt_iff hs).1 h) hirrefl

/-- Dates compare as texts in the order of their days. -/
theorem Iso.compare_eq {s t : String} (hs : Iso s.toList d) (ht : Iso t.toList e) :
    compare s t = compare d.dayNumber e.dayNumber := by
  have hlt : s < t ↔ d.dayNumber < e.dayNumber := by
    rw [String.lt_iff, hs.lt_iff ht, dayNumber_lt_iff hs.valid ht.valid]
  have heq : s = t ↔ d.dayNumber = e.dayNumber := by
    rw [← String.toList_inj, hs.eq_iff ht, dayNumber_inj hs.valid ht.valid]
  show compareOfLessAndEq s t = compareOfLessAndEq d.dayNumber e.dayNumber
  simp only [compareOfLessAndEq, hlt, heq]

end StaticPage.Date
