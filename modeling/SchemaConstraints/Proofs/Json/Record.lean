import Mathlib.Data.List.Nodup
import SchemaConstraints.Json.Decode

set_option autoImplicit false

/-! # What reading a record gives

The fields of a record are read one by one, each on top of what is known already. For one part of a record
only the field that fills it counts (`Field.Fills`): a member of another name leaves the part alone, and
the member of its name determines it. As an object has a name once, a record that was read from an object
holds in each part what its member spells, and what was known before where there is no such member
(`part_of_read`). -/

namespace SchemaConstraints

/-! ## Successful steps -/

namespace Except

variable {ε α β : Type}

theorem bind_eq_ok_iff {first : Except ε α} {next : α → Except ε β} {b : β} :
    first >>= next = .ok b ↔ ∃ a, first = .ok a ∧ next a = .ok b := by
  cases first <;> simp [bind, Except.bind]

theorem map_eq_ok_iff {first : Except ε α} {f : α → β} {b : β} :
    first.map f = .ok b ↔ ∃ a, first = .ok a ∧ f a = b := by
  cases first <;> simp [Except.map]

theorem map_map {γ : Type} (first : Except ε α) (f : α → β) (g : β → γ) :
    (first.map f).map g = first.map fun a => g (f a) := by
  cases first <;> rfl

end Except

namespace Decode

variable {σ α : Type}

/-! ## Values -/

/-- Only arrays are lists, and a list has one item for each element. -/
theorem length_of_list {item : Json → Decoded α} {json : Json} {values : List α}
    (h : list item json = .ok values) : ∃ items, json = .array items ∧ items.length = values.length := by
  cases json with
  | array items =>
    refine ⟨items, rfl, ?_⟩
    rw [list] at h
    induction items generalizing values with
    | nil =>
      obtain rfl := Except.ok.inj h
      rfl
    | cons first items ih =>
      rw [List.mapM_cons, Except.bind_eq_ok_iff] at h
      obtain ⟨value, -, h⟩ := h
      obtain ⟨others, hothers, h⟩ := Except.bind_eq_ok_iff.1 h
      obtain rfl := Except.ok.inj h
      simp [ih hothers]
  | _ => simp [list] at h

/-- Each item of a list is what some element spells. -/
theorem exists_of_mem_list {item : Json → Decoded α} {items : List Json} {values : List α}
    (h : list item (.array items) = .ok values) : ∀ value ∈ values, ∃ json ∈ items, item json = .ok value := by
  rw [list] at h
  induction items generalizing values with
  | nil =>
    obtain rfl := Except.ok.inj h
    simp
  | cons first items ih =>
    rw [List.mapM_cons, Except.bind_eq_ok_iff] at h
    obtain ⟨value, hvalue, h⟩ := h
    obtain ⟨others, hothers, h⟩ := Except.bind_eq_ok_iff.1 h
    obtain rfl := Except.ok.inj h
    refine List.forall_mem_cons.2 ⟨⟨first, List.mem_cons_self, hvalue⟩, fun other hother => ?_⟩
    obtain ⟨json, hjson, hread⟩ := ih hothers other hother
    exact ⟨json, List.mem_cons_of_mem _ hjson, hread⟩

theorem orNull_of_ne_null {value : Json → Decoded α} {json : Json} (h : json ≠ .null) :
    orNull value json = (value json).map some := by
  cases json with
  | null => exact absurd rfl h
  | _ => rfl

/-- A setting that is there was not written as null. -/
theorem orNull_eq_ok_some_iff {value : Json → Decoded α} {json : Json} {a : α} :
    orNull value json = .ok (some a) ↔ json ≠ .null ∧ value json = .ok a := by
  cases json <;> simp [orNull, Except.map_eq_ok_iff]

/-- Only null leaves a setting open. -/
theorem orNull_eq_ok_none_iff {value : Json → Decoded α} {json : Json} :
    orNull value json = .ok none ↔ json = .null := by
  cases json <;> simp [orNull, Except.map_eq_ok_iff]

/-! ## Parts of a record -/

/-- The field is the one that fills a part of the record, with what `value` makes of its JSON value, or it
    has another name and leaves the part alone. -/
inductive Field.Fills (name : String) (value : Json → Decoded α) (part : σ → α) : Field σ → Prop
  | own {store : σ → α → σ} (h : ∀ known a, part (store known a) = a) : Fills name value part (.of name value store)
  | other {β : Type} {key : String} {read : Json → Decoded β} {store : σ → β → σ} (hne : key ≠ name)
      (h : ∀ known b, part (store known b) = part known) : Fills name value part (.of key read store)

/-- Among the fields of a record, that of a name alone fills a part, with what `value` makes of its JSON
    value. -/
def Record.Fills (record : Record σ) (name : String) (value : Json → Decoded α) (part : σ → α) : Prop :=
  ∀ field ∈ record.fields, field.Fills name value part

namespace Record

variable {record : Record σ} {name : String} {value : Json → Decoded α} {part : σ → α}

section

variable (hfills : record.Fills name value part)
include hfills

/-- One member either determines the part or leaves it alone. -/
theorem part_of_readMember {known next : σ} {key : String} {json : Json}
    (h : record.readMember known (key, json) = .ok next) :
    (key = name → value json = .ok (part next)) ∧ (key ≠ name → part next = part known) := by
  rw [readMember] at h
  split at h
  · next field hfind =>
    have hkey : field.name = key := by simpa using List.find?_some hfind
    cases hfills field (List.mem_of_find?_eq_some hfind) with
    | own hstore =>
      obtain ⟨a, ha, rfl⟩ := Except.map_eq_ok_iff.1 h
      exact ⟨fun _ => by rw [hstore, ha], fun hne => absurd hkey.symm hne⟩
    | other hne hstore =>
      obtain ⟨b, -, rfl⟩ := Except.map_eq_ok_iff.1 h
      exact ⟨fun heq => absurd (hkey.trans heq) hne, fun _ => hstore known b⟩
  · simp at h

/-- Members of other names leave the part alone. -/
theorem part_of_foldlM_of_notMem {known result : σ} {members : List (String × Json)}
    (hname : name ∉ members.map (·.1)) (h : members.foldlM record.readMember known = .ok result) :
    part result = part known := by
  induction members generalizing known with
  | nil =>
    obtain rfl := Except.ok.inj h
    rfl
  | cons member members ih =>
    obtain ⟨key, json⟩ := member
    rw [List.map_cons, List.mem_cons, not_or] at hname
    obtain ⟨next, hnext, h⟩ := Except.bind_eq_ok_iff.1 (List.foldlM_cons.symm.trans h)
    rw [ih hname.2 h]
    exact (part_of_readMember hfills hnext).2 (Ne.symm hname.1)

theorem part_of_foldlM {known result : σ} {members : List (String × Json)}
    (hnodup : (members.map (·.1)).Nodup) (h : members.foldlM record.readMember known = .ok result) :
    match Fields.find? name members with
    | some json => value json = .ok (part result)
    | none => part result = part known := by
  induction members generalizing known with
  | nil =>
    obtain rfl := Except.ok.inj h
    rfl
  | cons member members ih =>
    obtain ⟨key, json⟩ := member
    obtain ⟨hkey, hrest⟩ := List.nodup_cons.1 hnodup
    obtain ⟨next, hnext, h⟩ := Except.bind_eq_ok_iff.1 (List.foldlM_cons.symm.trans h)
    have hstep := part_of_readMember hfills hnext
    rw [Fields.find?]
    by_cases heq : key = name
    · -- the part is determined here, and the name does not come again
      subst heq
      rw [if_pos rfl]
      simpa only [part_of_foldlM_of_notMem hfills hkey h] using hstep.1 rfl
    · rw [if_neg heq, ← hstep.2 heq]
      exact ih hrest h

/-- **A part of a record is what the member of its name spells**, and what was known before if the object has
    no such member. -/
theorem part_of_read {initial result : σ} {members : List (String × Json)}
    (hnodup : (members.map (·.1)).Nodup) (h : record.read initial (.object members) = .ok result) :
    match Fields.find? name members with
    | some json => value json = .ok (part result)
    | none => part result = part initial := by
  rw [read, Except.bind_eq_ok_iff] at h
  obtain ⟨known, hknown, h⟩ := h
  obtain ⟨-, -, h⟩ := Except.bind_eq_ok_iff.1 h
  obtain rfl := Except.ok.inj h
  exact part_of_foldlM hfills hnodup hknown

end

/-- A member is read if it has the name of a field and spells something for it. -/
theorem exists_readMember (hfills : record.Fills name value part) (hknown : name ∈ record.fields.map (·.name))
    {json : Json} {a : α} (h : value json = .ok a) (known : σ) :
    ∃ next, record.readMember known (name, json) = .ok next := by
  rw [readMember]
  split
  · next field hfind =>
    have hname : field.name = name := by simpa using List.find?_some hfind
    cases hfills field (List.mem_of_find?_eq_some hfind) with
    | own => exact ⟨_, Except.map_eq_ok_iff.2 ⟨a, h, rfl⟩⟩
    | other hne => exact absurd hname hne
  · next hnone =>
    obtain ⟨field, hfield, hname⟩ := List.mem_map.1 hknown
    exact absurd hname (by simpa using List.find?_eq_none.1 hnone field hfield)

/-- A record is read from an object all of whose members are read, if none is missing that it must have. -/
theorem exists_read {initial : σ} {members : List (String × Json)}
    (hmembers : ∀ member ∈ members, ∀ known, ∃ next, record.readMember known member = .ok next)
    (hrequired : ∀ name ∈ record.required, Fields.has name members = true) :
    ∃ result, record.read initial (.object members) = .ok result := by
  have hfold : ∀ known, ∃ result, members.foldlM record.readMember known = .ok result := by
    clear hrequired
    induction members with
    | nil => exact fun known => ⟨known, rfl⟩
    | cons member members ih =>
      intro known
      obtain ⟨hmember, hmembers⟩ := List.forall_mem_cons.1 hmembers
      obtain ⟨next, hnext⟩ := hmember known
      obtain ⟨result, hresult⟩ := ih hmembers next
      exact ⟨result, List.foldlM_cons.trans (Except.bind_eq_ok_iff.2 ⟨next, hnext, hresult⟩)⟩
  obtain ⟨result, hresult⟩ := hfold initial
  have hnone : record.required.find? (fun name => !Fields.has name members) = none :=
    List.find?_eq_none.2 fun name hname => by simpa using hrequired name hname
  refine ⟨result, Except.bind_eq_ok_iff.2 ⟨result, hresult, Except.bind_eq_ok_iff.2 ⟨(), ?_, rfl⟩⟩⟩
  rw [checkRequired, hnone]

/-- A setting that is there is what a member that is not null spells; otherwise the member is missing or null. -/
theorem setting_of_read {setting : σ → Option α} {initial result : σ} {members : List (String × Json)}
    (hfills : record.Fills name (orNull value) setting) (hinitial : setting initial = none)
    (hnodup : (members.map (·.1)).Nodup) (h : record.read initial (.object members) = .ok result) :
    match setting result with
    | some a => ∃ json, Fields.find? name members = some json ∧ json ≠ .null ∧ value json = .ok a
    | none => Fields.find? name members = none ∨ Fields.find? name members = some .null := by
  have hpart := part_of_read hfills hnodup h
  cases hsetting : setting result with
  | some a =>
    split at hpart
    · next json hfind =>
      rw [hsetting, orNull_eq_ok_some_iff] at hpart
      exact ⟨json, hfind, hpart⟩
    · simp [hsetting, hinitial] at hpart
  | none =>
    split at hpart
    · next json hfind =>
      rw [hsetting, orNull_eq_ok_none_iff] at hpart
      exact .inr (hpart ▸ hfind)
    · next hfind => exact .inl hfind

/-- A record that was read from an object has all fields that it must have. -/
theorem find?_of_required {initial result : σ} {members : List (String × Json)} (hname : name ∈ record.required)
    (h : record.read initial (.object members) = .ok result) : ∃ json, Fields.find? name members = some json := by
  rw [read, Except.bind_eq_ok_iff] at h
  obtain ⟨known, -, h⟩ := h
  obtain ⟨_, hrequired, -⟩ := Except.bind_eq_ok_iff.1 h
  unfold checkRequired at hrequired
  split at hrequired
  · simp at hrequired
  · next hall =>
    have := List.find?_eq_none.1 hall name hname
    simpa using this

/-! ## Changing one member -/

/-- Without required fields, members are read one after the other and that is all. -/
theorem read_append (hrequired : record.required = []) (initial : σ) (before after : List (String × Json)) :
    record.read initial (.object (before ++ after)) =
      before.foldlM record.readMember initial >>= fun known => after.foldlM record.readMember known := by
  simp only [read, checkRequired, hrequired, List.foldlM_append, List.find?_nil]
  exact bind_pure _

/-- The field of the name fills a setting, and null for it does nothing as long as the setting is open. -/
def IgnoresNull (record : Record σ) (initial : σ) (name : String) : Prop :=
  ∃ (α : Type) (value : Json → Decoded (Option α)) (setting : σ → Option α),
    record.Fills name value setting ∧ setting initial = none ∧
      ∀ known, setting known = none → record.readMember known (name, .null) = .ok known

/-- So it is where null is read as the open setting, and where storing what is there already does nothing. -/
theorem IgnoresNull.of_field {initial : σ} {value : Json → Decoded α} {setting : σ → Option α}
    {store : σ → Option α → σ} (hnames : (record.fields.map (·.name)).Nodup) (position : Nat)
    (hfield : record.fields[position]? = some (.of name (orNull value) store))
    (hfills : record.Fills name (orNull value) setting) (hinitial : setting initial = none)
    (hstore : ∀ known, store known (setting known) = known) : record.IgnoresNull initial name := by
  refine ⟨α, _, setting, hfills, hinitial, fun known hopen => ?_⟩
  rw [readMember]
  split
  · next field hfind =>
    have hname : field.name = name := by simpa using List.find?_some hfind
    obtain rfl : field = .of name (orNull value) store :=
      List.inj_on_of_nodup_map hnames (List.mem_of_find?_eq_some hfind) (List.mem_of_getElem? hfield) hname
    have hsame := hstore known
    rw [hopen] at hsame
    exact congrArg Except.ok hsame
  · next hnone =>
    have hother := List.find?_eq_none.1 hnone _ (List.mem_of_getElem? hfield)
    simp [Field.of] at hother

/-- Null for a setting may be added where there is no such member. -/
theorem read_add_null {initial : σ} (h : record.IgnoresNull initial name) (hrequired : record.required = [])
    {before after : List (String × Json)} (habsent : name ∉ before.map (·.1)) :
    record.read initial (.object (before ++ (name, .null) :: after)) =
      record.read initial (.object (before ++ after)) := by
  obtain ⟨α, value, setting, hfills, hinitial, hnull⟩ := h
  rw [read_append hrequired, read_append hrequired]
  cases hbefore : before.foldlM record.readMember initial with
  | error e => rfl
  | ok known =>
    have hopen : setting known = none := (part_of_foldlM_of_notMem hfills habsent hbefore).trans hinitial
    exact congrArg (· >>= fun next => after.foldlM record.readMember next) (hnull known hopen)

end Record

end Decode

end SchemaConstraints
