set_option autoImplicit false

/-! # Finite maps from names

A list of named entries stands for a finite map: a name is bound to the value of the first entry that
carries it, and later entries of that name are shadowed. `sorted` brings such a list into the form that
has each name once, in ascending order, so two lists stand for the same map exactly if their sorted forms
agree. The order of names is by code points, which is also the order of their UTF-8 bytes. -/

namespace SchemaConstraints

/-- Named entries, read as a map by their first occurrence. -/
abbrev Fields (α : Type) := List (String × α)

namespace Fields

variable {α β : Type}

/-- The value that a name is bound to. -/
def find? (name : String) : Fields α → Option α
  | [] => none
  | (key, value) :: rest => if key = name then some value else find? name rest

/-- Whether a name is bound. -/
def has (name : String) (fields : Fields α) : Bool := (find? name fields).isSome

/-- The map without a name. -/
def erase (name : String) (fields : Fields α) : Fields α := fields.filter fun entry => entry.1 != name

/-- Bind a name in a list that is sorted by name, replacing the entry that is there. -/
def insert (name : String) (value : α) : Fields α → Fields α
  | [] => [(name, value)]
  | (key, other) :: rest =>
    if key < name then (key, other) :: insert name value rest
    else if key = name then (name, value) :: rest
    else (name, value) :: (key, other) :: rest

/-- The same map with each name once, in ascending order. -/
def sorted (fields : Fields α) : Fields α :=
  fields.foldr (fun entry map => insert entry.1 entry.2 map) []

/-- The map that binds each name to the value of the last entry that carries it, sorted. -/
def ofEntries (entries : List (String × α)) : Fields α :=
  entries.foldl (fun map entry => insert entry.1 entry.2 map) []

/-- Apply a function to every value. -/
def mapValues (f : α → β) (fields : Fields α) : Fields β := fields.map fun entry => (entry.1, f entry.2)

/-! ## Look-ups -/

@[simp] theorem find?_nil (name : String) : find? name ([] : Fields α) = none := rfl

@[simp] theorem has_eq_true_iff {name : String} {fields : Fields α} :
    has name fields = true ↔ ∃ value, find? name fields = some value := by
  simp [has, Option.isSome_iff_exists]

theorem mem_of_find? {name : String} {value : α} {fields : Fields α} (h : find? name fields = some value) :
    (name, value) ∈ fields := by
  induction fields with
  | nil => simp at h
  | cons entry rest ih =>
    obtain ⟨key, other⟩ := entry
    simp only [find?] at h
    split at h
    · next hk =>
      obtain rfl := Option.some.inj h
      simp [hk]
    · exact List.mem_cons_of_mem _ (ih h)

theorem find?_mapValues (f : α → β) (name : String) (fields : Fields α) :
    find? name (mapValues f fields) = (find? name fields).map f := by
  induction fields with
  | nil => rfl
  | cons entry rest ih =>
    obtain ⟨key, value⟩ := entry
    simp only [mapValues, List.map_cons, find?] at ih ⊢
    split
    · rfl
    · exact ih

theorem find?_erase_self (name : String) (fields : Fields α) : find? name (erase name fields) = none := by
  induction fields with
  | nil => rfl
  | cons entry rest ih =>
    obtain ⟨key, value⟩ := entry
    by_cases h : key = name
    · simpa [erase, h] using ih
    · simpa [erase, find?, h] using ih

theorem find?_erase_of_ne {name other : String} (h : other ≠ name) (fields : Fields α) :
    find? other (erase name fields) = find? other fields := by
  induction fields with
  | nil => rfl
  | cons entry rest ih =>
    obtain ⟨key, value⟩ := entry
    by_cases hk : key = name
    · subst hk
      simpa [erase, find?, Ne.symm h] using ih
    · by_cases ho : key = other
      · subst ho
        simp [erase, find?, hk]
      · simpa [erase, find?, hk, ho] using ih

/-- Erasing a bound name makes the list shorter, which is what bounds the unfolding of bindings. -/
theorem length_erase_lt {name : String} {value : α} {fields : Fields α}
    (h : find? name fields = some value) : (erase name fields).length < fields.length := by
  induction fields with
  | nil => simp at h
  | cons entry rest ih =>
    obtain ⟨key, other⟩ := entry
    by_cases hk : key = name
    · have : (erase name rest).length ≤ rest.length := List.length_filter_le _ _
      simpa [erase, hk] using Nat.lt_succ_of_le this
    · have : find? name rest = some value := by simpa [find?, hk] using h
      simpa [erase, hk] using ih this

theorem find?_insert_self (name : String) (value : α) (fields : Fields α) :
    find? name (insert name value fields) = some value := by
  induction fields with
  | nil => simp [insert, find?]
  | cons entry rest ih =>
    obtain ⟨key, other⟩ := entry
    simp only [insert]
    split
    · next h =>
      have hne : key ≠ name := by
        rintro rfl
        exact (String.lt_irrefl key) h
      simp [find?, hne, ih]
    · split <;> simp [find?]

theorem find?_insert_of_ne {name other : String} (h : other ≠ name) (value : α) (fields : Fields α) :
    find? other (insert name value fields) = find? other fields := by
  induction fields with
  | nil => simp [insert, find?, Ne.symm h]
  | cons entry rest ih =>
    obtain ⟨key, v⟩ := entry
    simp only [insert]
    split
    · simp [find?, ih]
    · split
      · next hk => subst hk; simp [find?, Ne.symm h]
      · simp [find?, Ne.symm h]

/-- Sorting keeps the map. -/
theorem find?_sorted (name : String) (fields : Fields α) : find? name (sorted fields) = find? name fields := by
  induction fields with
  | nil => rfl
  | cons entry rest ih =>
    obtain ⟨key, value⟩ := entry
    change find? name (insert key value (sorted rest)) = _
    by_cases h : key = name
    · subst h; simp [find?_insert_self, find?]
    · rw [find?_insert_of_ne (Ne.symm h), ih]; simp [find?, h]

end Fields

end SchemaConstraints
