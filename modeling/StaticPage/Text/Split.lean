/-!
# Cutting texts

A text is cut at a character, at a word, into lines, or at a number of bytes. Cutting at a character is
`List.splitOn`; the operations here cut once, cut at words, and take the lines of a text. The length of
a text in bytes is that of its UTF-8 form, and cutting at a number of bytes divides no character.
-/

namespace StaticPage.Text

/-- The text before the first `c`, and the text after it. -/
def cut? (c : Char) : List Char → Option (List Char × List Char)
  | [] => none
  | a :: s => if a == c then some ([], s) else (cut? c s).map fun (l, r) => (a :: l, r)

theorem eq_of_cut? {c : Char} {s l r : List Char} (h : cut? c s = some (l, r)) :
    s = l ++ c :: r := by
  induction s generalizing l with
  | nil => simp [cut?] at h
  | cons a s ih =>
    simp only [cut?] at h
    split at h
    · rename_i hc
      simp only [Option.some.injEq, Prod.mk.injEq] at h
      obtain ⟨rfl, rfl⟩ := h
      simp [eq_of_beq hc]
    · simp only [Option.map_eq_some_iff, Prod.mk.injEq, Prod.exists] at h
      obtain ⟨l', r', hcut, rfl, rfl⟩ := h
      simp [← ih hcut]

/-- A text without `word` in front, if it begins so. -/
def dropPrefix? : (word s : List Char) → Option (List Char)
  | [], s => some s
  | _ :: _, [] => none
  | w :: word, c :: s => if w == c then dropPrefix? word s else none

theorem eq_append_of_dropPrefix? {word s rest : List Char} (h : dropPrefix? word s = some rest) :
    s = word ++ rest := by
  induction word generalizing s with
  | nil => simpa [dropPrefix?] using h
  | cons w word ih =>
    cases s with
    | nil => simp [dropPrefix?] at h
    | cons c s =>
      simp only [dropPrefix?] at h
      split at h
      · rename_i hc
        simp [eq_of_beq hc, ih h]
      · simp at h

/-- The text before the first occurrence of `word`, and the text after it. -/
def cutWord? (word : List Char) : List Char → Option (List Char × List Char)
  | [] => if word.isEmpty then some ([], []) else none
  | a :: s =>
    match dropPrefix? word (a :: s) with
    | some rest => some ([], rest)
    | none => (cutWord? word s).map fun (l, r) => (a :: l, r)

/-- The first occurrence of `word` replaced by `new`; a text without the word stays as it is. -/
def replaceFirst (word new s : List Char) : List Char :=
  match cutWord? word s with
  | some (l, r) => l ++ new ++ r
  | none => s

theorem length_cutWord? {word s l r : List Char} (h : cutWord? word s = some (l, r)) :
    s.length = l.length + word.length + r.length := by
  induction s generalizing l r with
  | nil =>
    simp only [cutWord?] at h
    split at h
    · rename_i hw
      simp at h hw
      simp [h, hw]
    · simp at h
  | cons a s ih =>
    simp only [cutWord?] at h
    split at h
    · rename_i rest hrest
      have := congrArg List.length (eq_append_of_dropPrefix? hrest)
      simp at h
      obtain ⟨rfl, rfl⟩ := h
      simpa using this
    · simp only [Option.map_eq_some_iff, Prod.mk.injEq, Prod.exists] at h
      obtain ⟨l', r', hcut, rfl, rfl⟩ := h
      have := ih hcut
      simp only [List.length_cons]
      omega

/-- The pieces of a text between the occurrences of `word`, which are found from left to right and
do not overlap. -/
def splitWord (word s : List Char) : List (List Char) :=
  match _h : cutWord? word s with
  | some (l, r) => if _hw : word = [] then [l, r] else l :: splitWord word r
  | none => [s]
termination_by s.length
decreasing_by
  have := length_cutWord? _h
  have : 0 < word.length := List.length_pos_iff.2 _hw
  omega

/-- A line without the carriage return it ends with. -/
def dropReturn (s : List Char) : List Char :=
  if s.getLast? = some '\r' then s.dropLast else s

/-- The lines of a text. A line ends at a newline, or at a carriage return and a newline; the text
after the last newline is a line only if it is not empty, and keeps its carriage return. -/
def lines (s : List Char) : List (List Char) :=
  let pieces := s.splitOn '\n'
  let last := pieces.getLast?.getD []
  pieces.dropLast.map dropReturn ++ if last.isEmpty then [] else [last]

def dropSuffix? (word s : List Char) : Option (List Char) :=
  (dropPrefix? word.reverse s.reverse).map List.reverse

/-! ### Bytes -/

def byteLength : List Char → Nat
  | [] => 0
  | c :: s => c.utf8Size + byteLength s

/-- The longest beginning of a text that has at most `n` bytes. -/
def takeBytes (n : Nat) : List Char → List Char
  | [] => []
  | c :: s => if c.utf8Size ≤ n then c :: takeBytes (n - c.utf8Size) s else []

theorem byteLength_takeBytes_le (n : Nat) (s : List Char) : byteLength (takeBytes n s) ≤ n := by
  induction s generalizing n with
  | nil => simp [takeBytes, byteLength]
  | cons c s ih =>
    simp only [takeBytes]
    split
    · have := ih (n - c.utf8Size)
      simp only [byteLength]
      omega
    · simp [byteLength]

theorem takeBytes_prefix (n : Nat) (s : List Char) : takeBytes n s <+: s := by
  induction s generalizing n with
  | nil => simp [takeBytes]
  | cons c s ih =>
    simp only [takeBytes]
    split
    · exact List.cons_prefix_cons.2 ⟨rfl, ih _⟩
    · exact List.nil_prefix

/-- The beginning of a text that has exactly `n` bytes, if a character ends there. -/
def firstBytes? (n : Nat) (s : List Char) : Option (List Char) :=
  let front := takeBytes n s
  if byteLength front = n then some front else none

end StaticPage.Text
