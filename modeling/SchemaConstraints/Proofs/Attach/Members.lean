import SchemaConstraints.Proofs.Attach.Suits
import SchemaConstraints.Proofs.Evaluate.FieldStates
import SchemaConstraints.Proofs.Evaluate.Leaves
import SchemaConstraints.Proofs.Evaluate.Selection

set_option autoImplicit false

/-! # What the presence constraint reads

The fields that presence rules list are looked up twice. When the options are attached, each of them has to be a
member of the element (`PresenceOptions.referencedFields`). When a value is checked, its objects are asked for
them, rule by rule. Both are the same fields: objects that show the same of the fields in the first list have one
verdict, whatever else they hold and whatever their variables are bound to. Once options are attached, fields that
are no members of the element are therefore never read (`presence_reads_only_members`). -/

namespace SchemaConstraints

/-! ## Leaves that show the same -/

namespace Value

/-- Two leaves show the same of the named fields: they are objects of one shape in which each of these fields has
    the same state, or neither of them is an object. -/
inductive ShowsSame (names : List String) (bindings bindings' : Bindings) : Value → Value → Prop
  | object {shape : ObjectShape} {fields fields' : Fields Value}
    (h : ∀ name ∈ names, FieldState.of bindings fields name = FieldState.of bindings' fields' name) :
    ShowsSame names bindings bindings' (.object shape fields) (.object shape fields')
  | other {value value' : Value} (h : ∀ shape fields, value ≠ .object shape fields)
    (h' : ∀ shape fields, value' ≠ .object shape fields) : ShowsSame names bindings bindings' value value'

variable {names names' : List String} {bindings bindings' : Bindings} {value value' : Value}

theorem ShowsSame.of_subset (hsubset : names ⊆ names') (h : ShowsSame names' bindings bindings' value value') :
    ShowsSame names bindings bindings' value value' := by
  cases h with
  | object h => exact .object fun name hname => h name (hsubset hname)
  | other h h' => exact .other h h'

end Value

/-- A search through two lists that correspond gives the same if it gives the same on what corresponds. -/
theorem findSome?_eq_of_forall₂ {α β : Type} {related : α → α → Prop} {items items' : List α}
    {check check' : α → Option β} (h : List.Forall₂ related items items')
    (hrelated : ∀ item item', related item item' → check item = check' item') :
    items.findSome? check = items'.findSome? check' := by
  induction h with
  | nil => rfl
  | cons hitem _ ih => rw [List.findSome?_cons, List.findSome?_cons, hrelated _ _ hitem, ih]

namespace PresenceOptions

variable {options : PresenceOptions} {bindings bindings' : Bindings}

theorem checkLeaf_of_not_object {value : Value} (h : ∀ shape fields, value ≠ .object shape fields) :
    options.checkLeaf bindings value = none := by
  unfold checkLeaf
  split
  · next shape fields => exact absurd rfl (h shape fields)
  · rfl

theorem checkObject_eq_of_states {shape : ObjectShape} {fields fields' : Fields Value}
    (h : ∀ name ∈ options.referencedFields,
      FieldState.of bindings fields name = FieldState.of bindings' fields' name) :
    options.checkObject bindings shape fields = options.checkObject bindings' shape fields' := by
  refine checkObject_congr fun name hname => ?_
  have hstate := h name hname
  constructor
  · rw [Bool.eq_iff_iff, FieldState.isSet_iff, FieldState.isSet_iff, hstate]
  · rw [← Bool.not_inj_iff, Bool.eq_iff_iff, Bool.not_eq_true', Bool.not_eq_true', FieldState.has_eq_false_iff,
      FieldState.has_eq_false_iff, hstate]

theorem checkLeaf_eq_of_showsSame {leaf leaf' : Value}
    (h : leaf.ShowsSame options.referencedFields bindings bindings' leaf') :
    options.checkLeaf bindings leaf = options.checkLeaf bindings' leaf' := by
  cases h with
  | object h => exact checkObject_eq_of_states h
  | other h h' => rw [checkLeaf_of_not_object h, checkLeaf_of_not_object h']

/-- Values whose leaves show the same of all listed fields have one verdict. -/
theorem verdict_eq_of_showsSame {value value' : Value}
    (h : List.Forall₂ (Value.ShowsSame options.referencedFields bindings bindings') (value.leaves bindings)
      (value'.leaves bindings')) : options.verdict bindings value = options.verdict bindings' value' := by
  rw [verdict, verdict, Value.checkLeaves_eq_findSome?, Value.checkLeaves_eq_findSome?]
  exact findSome?_eq_of_forall₂ h fun _ _ => checkLeaf_eq_of_showsSame

/-- What is left out of an object does not matter as long as no rule lists it. -/
theorem checkObject_select {keep : String → Bool} (h : ∀ name ∈ options.referencedFields, keep name = true)
    (bindings : Bindings) (shape : ObjectShape) (fields : Fields Value) :
    options.checkObject bindings shape (fields.select keep) = options.checkObject bindings shape fields := by
  refine checkObject_eq_of_states fun name hname => ?_
  unfold FieldState.of
  rw [Fields.find?_select, if_pos (h name hname)]

theorem Suits.referencedFields_subset {element : SchemaElement} (h : options.Suits element) :
    options.referencedFields ⊆ element.members := by
  intro name hname
  obtain ⟨names, hnames, hmem⟩ := mem_referencedFields_iff.1 hname
  exact h.names names hnames hmem

end PresenceOptions

/-! ## Attached options -/

namespace Registry

/-- **The presence constraint reads no field but those that its rules list,** and once it is attached, no field but
    members of its element. -/
theorem presence_reads_only_members (options : PresenceOptions) :
    (∀ name, name ∈ options.referencedFields ↔ ∃ names ∈ options.nameLists, name ∈ names) ∧
    (∀ bindings bindings' shape fields fields',
      (∀ name ∈ options.referencedFields,
        FieldState.of bindings fields name = FieldState.of bindings' fields' name) →
      options.checkObject bindings shape fields = options.checkObject bindings' shape fields') ∧
    ∀ (registry : Registry) element directive arguments,
      registry.attach element directive arguments = .ok (.object options) →
      (∀ bindings shape fields,
        options.checkObject bindings shape (fields.select element.hasMember) =
          options.checkObject bindings shape fields) ∧
      ∀ bindings bindings' value value',
        List.Forall₂ (Value.ShowsSame element.members bindings bindings') (value.leaves bindings)
          (value'.leaves bindings') →
        options.verdict bindings value = options.verdict bindings' value' := by
  refine ⟨fun name => PresenceOptions.mem_referencedFields_iff, ?_, ?_⟩
  · intro bindings bindings' shape fields fields' h
    exact PresenceOptions.checkObject_eq_of_states h
  · intro registry element directive arguments hattach
    have hsuits : options.Suits element := suits_of_attach hattach
    have hmembers := hsuits.referencedFields_subset
    constructor
    · refine PresenceOptions.checkObject_select fun name hname => ?_
      exact List.contains_iff_mem.2 (hmembers hname)
    · intro bindings bindings' value value' h
      exact PresenceOptions.verdict_eq_of_showsSame (h.imp fun _ _ => .of_subset hmembers)

/-- A field that is no member may be dropped, another one added, and a member may stand behind a variable. -/
theorem presence_reads_only_email_and_phone :
    let contact := SchemaElement.inputType "ContactInput" ["email", "phone"]
    let arguments := Json.object [("exactlyOne", Json.strings ["email", "phone"])]
    let options : PresenceOptions := { exactlyOne := some ["email", "phone"] }
    let value := Value.list [.object .input [("fax", .int 1), ("email", .string "a"), ("phone", .null)], .null]
    let bindings' : Bindings :=
      [("contacts", .list [.object .input [("email", .variable "address"), ("telex", .null), ("phone", .variable "none")],
        .int 7]), ("address", .int 5)]
    default.attach contact "objectConstraint" arguments = .ok (.object options) ∧
      (∀ name ∈ options.referencedFields, contact.hasMember name = true) ∧
      List.Forall₂ (Value.ShowsSame contact.members [] bindings') (value.leaves [])
        ((Value.variable "contacts").leaves bindings') ∧
      options.verdict [] value = options.verdict bindings' (.variable "contacts") := by
  intro contact arguments options value bindings'
  have hattach : default.attach contact "objectConstraint" arguments = .ok (.object options) := by
    refine attach_eq_ok_iff.2
      ⟨.object, .object options, rfl, readArguments_eq_ok_iff.2 ⟨_, rfl, ?_, rfl⟩, rfl, rfl, rfl⟩
    simp +decide [Family.arguments, ArgumentDefinition.ofObject, ArgumentDefinition.firstInvalid]
  have hleaves : value.leaves [] =
      [.object .input [("fax", .int 1), ("email", .string "a"), ("phone", .null)], .null] := by
    simp [value, Value.leaves_eq_view, Value.view, Value.leavesOfItems]
  have hleaves' : (Value.variable "contacts").leaves bindings' =
      [.object .input [("email", .variable "address"), ("telex", .null), ("phone", .variable "none")], .int 7] := by
    simp [bindings', Value.leaves_eq_view, Value.view, Value.leavesOfItems, Fields.find?]
  have hsame : List.Forall₂ (Value.ShowsSame contact.members [] bindings') (value.leaves [])
      ((Value.variable "contacts").leaves bindings') := by
    rw [hleaves, hleaves']
    refine .cons (.object ?_) (.cons (.other ?_ ?_) .nil)
    · decide
    · simp
    · simp
  obtain ⟨-, -, hattached⟩ := presence_reads_only_members options
  refine ⟨hattach, by decide, hsame, ?_⟩
  exact (hattached default contact "objectConstraint" arguments hattach).2 [] bindings' value _ hsame

end Registry

end SchemaConstraints
