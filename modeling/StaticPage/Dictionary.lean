/-!
# Dictionaries

A dictionary is a list of pairs in which a key keeps the place of its first entry: setting a key that
is present changes its value where it stands, and a new key goes to the end. Looking a key up is
`List.lookup`.
-/

namespace StaticPage.Dictionary

variable {κ ν : Type} [BEq κ]

def set (key : κ) (value : ν) : List (κ × ν) → List (κ × ν)
  | [] => [(key, value)]
  | (k, v) :: rest => if k == key then (k, value) :: rest else (k, v) :: set key value rest

def erase (key : κ) (entries : List (κ × ν)) : List (κ × ν) :=
  entries.filter fun (k, _) => !(k == key)

/-- The dictionary of a list of entries, the last value of a key winning. -/
def ofList (entries : List (κ × ν)) : List (κ × ν) :=
  entries.foldl (fun d (k, v) => set k v d) []

/-- The keys in the order of their first entries. -/
def keys (entries : List (κ × ν)) : List κ :=
  entries.map Prod.fst

omit [BEq κ] in
@[simp] theorem keys_nil : keys ([] : List (κ × ν)) = [] := rfl

omit [BEq κ] in
@[simp] theorem keys_cons (k : κ) (v : ν) (rest : List (κ × ν)) :
    keys ((k, v) :: rest) = k :: keys rest := rfl

omit [BEq κ] in
@[simp] theorem keys_append (entries others : List (κ × ν)) :
    keys (entries ++ others) = keys entries ++ keys others :=
  List.map_append

variable [LawfulBEq κ]

@[simp] theorem lookup_set_self (key : κ) (value : ν) (entries : List (κ × ν)) :
    (set key value entries).lookup key = some value := by
  induction entries with
  | nil => simp [set]
  | cons e rest ih =>
    obtain ⟨k, v⟩ := e
    by_cases h : k = key
    · subst h; simp [set]
    · have h' : (key == k) = false := by simpa using fun e => h e.symm
      simp [set, h, List.lookup_cons, h', ih]

theorem lookup_set_of_ne {key other : κ} (h : other ≠ key) (value : ν) (entries : List (κ × ν)) :
    (set key value entries).lookup other = entries.lookup other := by
  have hkey : (other == key) = false := by simpa using h
  induction entries with
  | nil => simp [set, List.lookup_cons, hkey]
  | cons e rest ih =>
    obtain ⟨k, v⟩ := e
    by_cases hk : k = key
    · subst hk; simp [set, List.lookup_cons, hkey]
    · by_cases ho : other = k
      · subst ho; simp [set, hk]
      · have h' : (other == k) = false := by simpa using ho
        simp [set, hk, List.lookup_cons, h', ih]

theorem keys_set (key : κ) (value : ν) (entries : List (κ × ν)) :
    keys (set key value entries) =
      if (keys entries).contains key then keys entries else keys entries ++ [key] := by
  induction entries with
  | nil => simp [set]
  | cons e rest ih =>
    obtain ⟨k, v⟩ := e
    by_cases hk : k = key
    · subst hk; simp [set]
    · have hne : (key == k) = false := by simpa using fun e => hk e.symm
      simp only [set, beq_iff_eq, hk, if_false, keys_cons, List.contains_cons, hne, Bool.false_or, ih]
      split <;> rfl

theorem lookup_eq_none_iff {key : κ} {entries : List (κ × ν)} :
    entries.lookup key = none ↔ key ∉ keys entries := by
  rw [List.lookup_eq_none_iff]
  simp only [keys, List.mem_map, not_exists, not_and, bne_iff_ne]
  exact ⟨fun h e he heq => h e he heq.symm, fun h e he heq => h e he heq.symm⟩

/-- A key that is new goes to the end. -/
theorem set_of_not_mem {key : κ} {entries : List (κ × ν)} (h : key ∉ keys entries) (value : ν) :
    set key value entries = entries ++ [(key, value)] := by
  induction entries with
  | nil => rfl
  | cons e rest ih =>
    obtain ⟨k, v⟩ := e
    rw [keys_cons, List.mem_cons, not_or] at h
    have hk : (k == key) = false := by simpa using fun e => h.1 e.symm
    simp only [set, hk, Bool.false_eq_true, if_false, ih h.2, List.cons_append]

theorem nodup_keys_set {key : κ} {entries : List (κ × ν)} (h : (keys entries).Nodup) (value : ν) :
    (keys (set key value entries)).Nodup := by
  rw [keys_set]
  split
  · exact h
  · rename_i hnew
    rw [List.contains_iff_mem] at hnew
    refine List.nodup_append.2 ⟨h, by simp, ?_⟩
    rintro k hk other hother rfl
    exact hnew (List.mem_singleton.1 hother ▸ hk)

/-- If no key is there twice, a lookup finds every entry. -/
theorem lookup_eq_some_iff {key : κ} {value : ν} {entries : List (κ × ν)}
    (h : (keys entries).Nodup) : entries.lookup key = some value ↔ (key, value) ∈ entries := by
  induction entries with
  | nil => simp
  | cons e rest ih =>
    obtain ⟨k, v⟩ := e
    rw [keys_cons, List.nodup_cons] at h
    have hrest : (k, value) ∉ rest := fun hmem => h.1 (List.mem_map.2 ⟨_, hmem, rfl⟩)
    by_cases hk : key = k
    · subst hk
      simp [hrest, eq_comm]
    · have hne : (key == k) = false := by simpa using hk
      simp [List.lookup_cons, hne, hk, ih h.2]

end StaticPage.Dictionary
