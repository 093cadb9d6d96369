import SchemaConstraints.Directive.Fit
import SchemaConstraints.Directive.SelfCheck
import SchemaConstraints.Options.Decode

set_option autoImplicit false

/-! # The registry of directives

A registry says under which name each family's directive is known and which scalars of the schema are
strings. Names are distinct. Attaching a directive to an element checks its arguments, reads them as
options, and fits the options to the element. -/

namespace SchemaConstraints

/-- The names of the directives. -/
structure DirectiveNames where
  scalar : String := "constraint"
  list : String := "listConstraint"
  object : String := "objectConstraint"
  upload : String := "uploadConstraint"
  deriving DecidableEq, Repr

namespace DirectiveNames

/-- The name of a family's directive. -/
def get (names : DirectiveNames) : Family → String
  | .scalar => names.scalar
  | .list => names.list
  | .object => names.object
  | .upload => names.upload

/-- The names with that of one family replaced. -/
def set (names : DirectiveNames) (family : Family) (name : String) : DirectiveNames :=
  match family with
  | .scalar => { names with scalar := name }
  | .list => { names with list := name }
  | .object => { names with object := name }
  | .upload => { names with upload := name }

/-- The record of directive names. -/
def record : Decode.Record DirectiveNames where
  name := "DirectiveNames"
  fields := Family.all.map fun family => .of family.name Decode.string fun names name => names.set family name
  partialArray := true

/-- All names, in family order. -/
def toList (names : DirectiveNames) : List String := Family.all.map names.get

end DirectiveNames

/-- The settings of a registry. -/
structure RegistryConfig where
  names : DirectiveNames := {}
  /-- The scalars of the schema that are strings. -/
  stringScalars : List String := []
  deriving DecidableEq, Repr

namespace RegistryConfig

/-- The record of settings. -/
def record : Decode.Record RegistryConfig where
  name := "RegistryConfig"
  fields :=
    [.of "directiveNames" (DirectiveNames.record.read {}) fun config names => { config with names := names },
     .of "stringScalars" (Decode.list Decode.string) fun config scalars =>
       { config with stringScalars := scalars }]
  partialArray := true

/-- The settings that a JSON value spells. -/
def decode (json : Json) : Decoded RegistryConfig := record.read {} json

/-- The settings with another name for a family's directive. -/
def rename (config : RegistryConfig) (family : Family) (name : String) : RegistryConfig :=
  { config with names := config.names.set family name }

/-- The settings with one more scalar that is a string. -/
def addStringScalar (config : RegistryConfig) (name : String) : RegistryConfig :=
  { config with stringScalars := config.stringScalars ++ [name] }

end RegistryConfig

/-- The first name of a list that has occurred before. -/
def firstRepeated (seen : List String) : List String → Option String
  | [] => none
  | name :: names => if seen.contains name then some name else firstRepeated (name :: seen) names

theorem nodup_of_firstRepeated_eq_none {seen names : List String} (h : firstRepeated seen names = none) :
    names.Nodup ∧ ∀ name ∈ names, name ∉ seen := by
  induction names generalizing seen with
  | nil => simp
  | cons name names ih =>
    simp only [firstRepeated] at h
    split at h
    · simp at h
    · next hs =>
      have ⟨hn, hm⟩ := ih h
      refine ⟨List.nodup_cons.2 ⟨fun hmem => hm name hmem (by simp), hn⟩, fun other ho => ?_⟩
      rcases List.mem_cons.1 ho with rfl | ho
      · simpa using hs
      · exact fun hseen => hm other ho (List.mem_cons_of_mem _ hseen)

/-- The directives of all families. -/
structure Registry where
  names : DirectiveNames
  /-- The scalars of the schema that are strings. -/
  stringScalars : List String
  names_nodup : names.toList.Nodup

namespace Registry

/-- The registry with given settings, or an error if a name is given twice. -/
def build (config : RegistryConfig) : Except DirectiveError Registry :=
  match h : firstRepeated [] config.names.toList with
  | some name => .error (.duplicateName name)
  | none => .ok ⟨config.names, config.stringScalars, (nodup_of_firstRepeated_eq_none h).1⟩

/-- The registry without any settings. -/
def default : Registry := ⟨{}, [], by decide⟩

/-- The family whose directive has a name. -/
def familyOf? (registry : Registry) (directive : String) : Option Family :=
  Family.all.find? fun family => registry.names.get family = directive

/-- Read the arguments of a family's directive as options, after checking them against their own
    constraints. -/
def readArguments (family : Family) (directive : String) (arguments : Json) :
    Except DirectiveError Constraint :=
  match arguments with
  | .object members =>
    match ArgumentDefinition.firstInvalid [] members family.arguments with
    | some (path, check) => .error (.invalidArgument directive path check)
    | none =>
      match Constraint.decode family arguments with
      | .error e => .error (.malformedArguments directive (.undecodable e))
      | .ok constraint => .ok constraint
  | _ => .error (.malformedArguments directive .notObject)

/-- Attach a directive with its arguments to an element. -/
def attach (registry : Registry) (element : SchemaElement) (directive : String) (arguments : Json) :
    Except DirectiveError Constraint := do
  let some family := registry.familyOf? directive | .error (.unknownDirective directive)
  let constraint ← readArguments family directive arguments
  if !constraint.appliesTo registry.stringScalars element then
    .error (.incompatibleType directive element.coordinate element.type)
  constraint.checkFit registry.stringScalars directive element
  return constraint.coerce registry.stringScalars element

end Registry

end SchemaConstraints
