import Mathlib.Data.List.Nodup
import SchemaConstraints.Fields

set_option autoImplicit false

/-! # Sorted maps

Inserting keeps the names of a list in strictly ascending order, so a list that was built by inserting has
each name once, and its entries are exactly what its names are bound to. Of all lists that stand for one
map there is one of this kind: sorting brings two lists into the same form exactly if they bind all names
alike (`sorted_eq_sorted_iff`). -/

namespace SchemaConstraints

namespace Fields

variable {α : Type}

/-- Names in strictly ascending order. -/
def Ascending (fields : Fields α) : Prop := fields.Pairwise fun a b => a.1 < b.1

theorem mem_insert {name : String} {value : α} {fields : Fields α} {entry : String × α}
    (h : entry ∈ insert name value fields) : entry = (name, value) ∨ entry ∈ fields := by
  induction fields with
  | nil => simpa [insert] using h
  | cons first rest ih =>
    obtain ⟨key, other⟩ := first
    simp only [insert] at h
    split at h
    · rcases List.mem_cons.1 h with rfl | h
      · exact .inr List.mem_cons_self
      · exact (ih h).imp_right (List.mem_cons_of_mem _)
    · split at h
      · exact (List.mem_cons.1 h).imp_right (List.mem_cons_of_mem _)
      · exact List.mem_cons.1 h

theorem ascending_insert (name : String) (value : α) {fields : Fields α} (h : fields.Ascending) :
    (insert name value fields).Ascending := by
  induction fields with
  | nil => simp [insert, Ascending]
  | cons first rest ih =>
    obtain ⟨key, other⟩ := first
    obtain ⟨hfirst, hrest⟩ := List.pairwise_cons.1 h
    simp only [insert]
    split
    · next hlt =>
      refine List.pairwise_cons.2 ⟨fun entry hentry => ?_, ih hrest⟩
      rcases mem_insert hentry with rfl | hentry
      · exact hlt
      · exact hfirst entry hentry
    · split
      · next heq =>
        subst heq
        exact List.pairwise_cons.2 ⟨hfirst, hrest⟩
      · next hlt hne =>
        -- neither smaller nor equal, so every name there is greater
        have hgt : name < key := by
          rcases Std.lt_trichotomy name key with h | h | h
          · exact h
          · exact absurd h.symm hne
          · exact absurd h hlt
        refine List.pairwise_cons.2 ⟨fun entry hentry => ?_, h⟩
        rcases List.mem_cons.1 hentry with rfl | hentry
        · exact hgt
        · exact String.lt_trans hgt (hfirst entry hentry)

theorem Ascending.nodup {fields : Fields α} (h : fields.Ascending) : (fields.map (·.1)).Nodup := by
  rw [List.Nodup, List.pairwise_map]
  exact List.Pairwise.imp (fun hlt heq => absurd (heq ▸ hlt) (String.lt_irrefl _)) h

/-! ## Names that come once -/

theorem find?_eq_none_iff {name : String} {fields : Fields α} :
    find? name fields = none ↔ name ∉ fields.map (·.1) := by
  induction fields with
  | nil => simp
  | cons entry fields ih =>
    obtain ⟨key, value⟩ := entry
    rw [find?, List.map_cons, List.mem_cons, not_or, ← ih]
    by_cases heq : key = name
    · simp [heq]
    · simp [heq, Ne.symm heq]

/-- Where each name comes once, every entry is found by its name. -/
theorem find?_of_mem {name : String} {value : α} {fields : Fields α} (hnodup : (fields.map (·.1)).Nodup)
    (h : (name, value) ∈ fields) : find? name fields = some value := by
  induction fields with
  | nil => simp at h
  | cons entry fields ih =>
    obtain ⟨key, other⟩ := entry
    obtain ⟨hkey, hrest⟩ := List.nodup_cons.1 hnodup
    rw [find?]
    rcases List.mem_cons.1 h with heq | h
    · obtain ⟨rfl, rfl⟩ := Prod.mk.inj heq
      rw [if_pos rfl]
    · have hne : key ≠ name := fun heq => hkey (List.mem_map.2 ⟨_, h, heq.symm⟩)
      rw [if_neg hne, ih hrest h]

theorem mem_iff_find? {fields : Fields α} (hnodup : (fields.map (·.1)).Nodup) {name : String} {value : α} :
    (name, value) ∈ fields ↔ find? name fields = some value :=
  ⟨find?_of_mem hnodup, mem_of_find?⟩

/-! ## Entries in any order -/

theorem mem_ofEntries {entries : List (String × α)} {entry : String × α} (h : entry ∈ ofEntries entries) :
    entry ∈ entries := by
  -- the fold only ever inserts entries of the list
  refine List.foldlRecOn entries _ (motive := fun map : Fields α => entry ∈ map → entry ∈ entries)
    (fun h => by simp at h) (fun map ih next hnext h => ?_) h
  rcases mem_insert h with rfl | h
  · exact hnext
  · exact ih h

theorem ascending_ofEntries (entries : List (String × α)) : (ofEntries entries).Ascending :=
  List.foldlRecOn entries _ (motive := fun map : Fields α => map.Ascending) (by simp [Ascending])
    fun _ h entry _ => ascending_insert entry.1 entry.2 h

theorem nodup_ofEntries (entries : List (String × α)) : ((ofEntries entries).map (·.1)).Nodup :=
  (ascending_ofEntries entries).nodup

/-- Where each name comes once, it does not matter that later entries replace earlier ones. -/
theorem find?_ofEntries {entries : List (String × α)} (hnodup : (entries.map (·.1)).Nodup) (name : String) :
    find? name (ofEntries entries) = find? name entries := by
  have hfold : ∀ map : Fields α,
      find? name (entries.foldl (fun map entry => insert entry.1 entry.2 map) map) =
        (find? name entries).or (find? name map) := by
    induction entries with
    | nil => exact fun _ => rfl
    | cons entry entries ih =>
      obtain ⟨key, value⟩ := entry
      obtain ⟨hkey, hrest⟩ := List.nodup_cons.1 hnodup
      intro map
      rw [List.foldl_cons, ih hrest, find?]
      by_cases heq : key = name
      · subst heq
        rw [find?_eq_none_iff.2 hkey, if_pos rfl, find?_insert_self]
        rfl
      · rw [if_neg heq, find?_insert_of_ne (Ne.symm heq)]
  rw [ofEntries, hfold, find?_nil, Option.or_none]

/-! ## One list for each map -/

theorem ascending_sorted (fields : Fields α) : (sorted fields).Ascending := by
  induction fields with
  | nil => exact .nil
  | cons entry rest ih => exact ascending_insert entry.1 entry.2 ih

/-- Lists in ascending order are the same if they bind all names alike. -/
theorem Ascending.eq_of_find? {a b : Fields α} (ha : a.Ascending) (hb : b.Ascending)
    (h : ∀ name, find? name a = find? name b) : a = b := by
  have hmem : ∀ entry, entry ∈ a ↔ entry ∈ b := by
    rintro ⟨name, value⟩
    rw [mem_iff_find? ha.nodup, mem_iff_find? hb.nodup, h]
  have hperm : a.Perm b :=
    (List.perm_ext_iff_of_nodup (List.Nodup.of_map _ ha.nodup) (List.Nodup.of_map _ hb.nodup)).2 hmem
  refine hperm.eq_of_pairwise (fun x y _ _ hxy hyx => ?_) ha hb
  exact absurd (String.lt_trans hxy hyx) (String.lt_irrefl _)

/-- Entries in ascending order stay as they are. -/
theorem Ascending.ofEntries_eq {entries : Fields α} (h : entries.Ascending) : ofEntries entries = entries :=
  (ascending_ofEntries entries).eq_of_find? h (find?_ofEntries h.nodup)

/-- **Sorting tells maps apart and nothing else.** -/
theorem sorted_eq_sorted_iff {a b : Fields α} :
    sorted a = sorted b ↔ ∀ name, find? name a = find? name b := by
  constructor
  · intro h name
    rw [← find?_sorted name a, h, find?_sorted]
  · intro h
    refine (ascending_sorted a).eq_of_find? (ascending_sorted b) fun name => ?_
    rw [find?_sorted, find?_sorted, h]

end Fields

end SchemaConstraints
