import SchemaConstraints.Proofs.Json.Record
import SchemaConstraints.Proofs.Json.WellFormed

set_option autoImplicit false

/-! # Writing records and reading them back

A record is written as an object that has a member for every setting that is set. When each of the members is
read as the part of the record that it was written for, the object is read as a record that agrees with the
one that was written on all those parts (`Record.read_of_written`). -/

namespace SchemaConstraints

namespace Json

/-- The members for the settings that are set. -/
def setMembers (settings : List (String × Option Json)) : Fields Json :=
  Fields.ofEntries (settings.filterMap fun setting => setting.2.map fun json => (setting.1, json))

/-- The object with a member for every setting that is set. -/
def ofSettings (settings : List (String × Option Json)) : Json := .object (setMembers settings)

/-- A count as a JSON value. -/
def ofNat (n : Nat) : Json := .integer n

variable {settings : List (String × Option Json)}

theorem nodup_setMembers : ((setMembers settings).map (·.1)).Nodup := Fields.nodup_ofEntries _

theorem mem_of_mem_setMembers {name : String} {json : Json} (h : (name, json) ∈ setMembers settings) :
    (name, some json) ∈ settings := by
  obtain ⟨⟨key, written⟩, hsetting, hmember⟩ := List.mem_filterMap.1 (Fields.mem_ofEntries h)
  obtain ⟨value, hvalue, heq⟩ := Option.map_eq_some_iff.1 hmember
  obtain ⟨rfl, rfl⟩ := Prod.mk.inj heq
  obtain rfl : written = some value := hvalue
  exact hsetting

theorem find?_setMembers (hnodup : (settings.map (·.1)).Nodup) {name : String} {written : Option Json}
    (h : (name, written) ∈ settings) : Fields.find? name (setMembers settings) = written := by
  have hnames : List.Sublist
      ((settings.filterMap fun setting => setting.2.map fun json => (setting.1, json)).map (·.1))
      (settings.map (·.1)) := by
    clear hnodup h
    induction settings with
    | nil => exact .slnil
    | cons setting settings ih =>
      obtain ⟨key, written⟩ := setting
      cases written with
      | none => exact ih.cons key
      | some json => exact ih.cons_cons key
  rw [setMembers, Fields.find?_ofEntries (hnodup.sublist hnames)]
  cases written with
  | some json => exact Fields.find?_of_mem (hnodup.sublist hnames) (List.mem_filterMap.2 ⟨_, h, rfl⟩)
  | none =>
    rw [Option.eq_none_iff_forall_ne_some]
    intro json hfind
    obtain ⟨⟨key, written⟩, hsetting, heq⟩ := List.mem_filterMap.1 (Fields.mem_of_find? hfind)
    obtain ⟨value, rfl, heq⟩ := Option.map_eq_some_iff.1 heq
    obtain ⟨rfl, rfl⟩ := Prod.mk.inj heq
    -- the name has one setting only
    have hother := Fields.find?_of_mem hnodup hsetting
    rw [Fields.find?_of_mem hnodup h] at hother
    simp at hother

end Json

namespace Decode

variable {σ : Type}

/-- What is written for a part of a record is read as that part; if nothing is written, the part is as it was
    at first. -/
def Spells {α : Type} (value : Json → Decoded α) (initial a : α) : Option Json → Prop
  | some json => value json = .ok a
  | none => a = initial

theorem spells_orNull {α : Type} {value : Json → Decoded α} {write : α → Json} {setting : Option α}
    (h : ∀ a, setting = some a → write a ≠ .null ∧ value (write a) = .ok a) :
    Spells (orNull value) none setting (setting.map write) := by
  cases setting with
  | none => rfl
  | some a => exact orNull_eq_ok_some_iff.2 (h a rfl)

/-- The settings spell the parts of a record one by one. A record agrees with the one that is written if it has
    the same parts. -/
inductive Record.Written (record : Record σ) (initial target : σ) : List (String × Option Json) → (σ → Prop) → Prop
  | nil : Written record initial target [] fun _ => True
  | cons {α : Type} {name : String} {value : Json → Decoded α} {part : σ → α} {written : Option Json}
      {settings : List (String × Option Json)} {agrees : σ → Prop} (hfills : record.Fills name value part)
      (hknown : name ∈ record.fields.map (·.name)) (hspells : Spells value (part initial) (part target) written)
      (h : Written record initial target settings agrees) :
      Written record initial target ((name, written) :: settings)
        fun result => part result = part target ∧ agrees result

namespace Record

variable {record : Record σ} {initial target : σ} {settings : List (String × Option Json)} {agrees : σ → Prop}

theorem Written.exists_readMember (h : record.Written initial target settings agrees) {name : String} {json : Json}
    (hsetting : (name, some json) ∈ settings) (known : σ) :
    ∃ next, record.readMember known (name, json) = .ok next := by
  induction h with
  | nil => simp at hsetting
  | cons hfills hknown hspells _ ih =>
    rcases List.mem_cons.1 hsetting with heq | hsetting
    · obtain ⟨rfl, rfl⟩ := Prod.mk.inj heq
      exact Record.exists_readMember hfills hknown hspells known
    · exact ih hsetting

/-- A record that is read agrees with the one that was written if every setting stands under its name. -/
theorem Written.agrees_of_read (h : record.Written initial target settings agrees) {members : List (String × Json)}
    (hnodup : (members.map (·.1)).Nodup)
    (hfind : ∀ setting ∈ settings, Fields.find? setting.1 members = setting.2) {result : σ}
    (hread : record.read initial (.object members) = .ok result) : agrees result := by
  induction h with
  | nil => trivial
  | @cons _ name value part written _ _ hfills _ hspells _ ih =>
    obtain ⟨hname, hrest⟩ := List.forall_mem_cons.1 hfind
    refine ⟨?_, ih hrest⟩
    have hpart := part_of_read hfills hnodup hread
    rw [hname] at hpart
    cases written with
    | some json => exact (Except.ok.inj (hspells.symm.trans hpart)).symm
    | none => exact hpart.trans hspells.symm

/-- **A record that is written is read back.** -/
theorem read_of_written (h : record.Written initial target settings agrees) (hnodup : (settings.map (·.1)).Nodup)
    (hrequired : ∀ name ∈ record.required, ∃ json, (name, some json) ∈ settings) :
    ∃ result, record.read initial (.ofSettings settings) = .ok result ∧ agrees result := by
  obtain ⟨result, hresult⟩ : ∃ result, record.read initial (.ofSettings settings) = .ok result := by
    refine exists_read (fun member hmember => ?_) fun name hname => ?_
    · exact h.exists_readMember (Json.mem_of_mem_setMembers hmember)
    · obtain ⟨json, hsetting⟩ := hrequired name hname
      exact Fields.has_eq_true_iff.2 ⟨json, Json.find?_setMembers hnodup hsetting⟩
  refine ⟨result, hresult, h.agrees_of_read Json.nodup_setMembers (fun setting hsetting => ?_) hresult⟩
  exact Json.find?_setMembers hnodup hsetting

end Record

end Decode

end SchemaConstraints
