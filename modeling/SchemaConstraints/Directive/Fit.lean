import SchemaConstraints.Directive.Coercion
import SchemaConstraints.Directive.Error
import SchemaConstraints.Constraint

set_option autoImplicit false

/-! # Fitting options to an element

Options that have been read must fit the element that they decorate: its kind and type must be ones that
the directive applies to (`appliesTo`), and every option must make sense there (`checkFit`). Options that
fit are brought into the form that runtime values are compared with (`coerce`). -/

namespace SchemaConstraints

namespace ScalarOptions

/-- The scalar directive applies to elements other than types, with a leaf of its own kinds. -/
def appliesTo (stringScalars : List String) (element : SchemaElement) : Bool :=
  !element.kind.isType && (ScalarLeaf.ofType? stringScalars element.type).isSome

/-- The first option that is set and not for leaves of this kind. -/
def misplaced? (options : ScalarOptions) (leaf : ScalarLeaf) : Option String :=
  if leaf.isNumeric then
    if options.minLength.isSome then some "minLength"
    else if options.maxLength.isSome then some "maxLength"
    else if options.regex.isSome then some "regex"
    else none
  else if options.min.isSome then some "min"
  else if options.max.isSome then some "max"
  else none

/-- The position of the first allowed value that cannot be a value of the leaf. -/
def foreignEntry? (options : ScalarOptions) (leaf : ScalarLeaf) : Option Nat :=
  options.oneOf.bind (·.findIdx? fun entry => (leaf.coerce? entry).isNone)

/-- The name of an allowed value, by its position. -/
def entryName (index : Nat) : String := "oneOf[" ++ toString index ++ "]"

/-- Bounds need a numeric leaf, lengths and patterns a textual one, and every allowed value must be a value
    of the leaf. -/
def checkFit (options : ScalarOptions) (stringScalars : List String) (directive : String)
    (element : SchemaElement) : Except DirectiveError Unit :=
  match ScalarLeaf.ofType? stringScalars element.type with
  | none => .ok ()
  | some leaf =>
    match (options.misplaced? leaf).or ((options.foreignEntry? leaf).map entryName) with
    | some argument =>
      .error (.incompatibleArgument directive argument element.coordinate element.type)
    | none => .ok ()

/-- The options with the allowed values as values of the element's leaf. -/
def coerce (options : ScalarOptions) (stringScalars : List String) (element : SchemaElement) :
    ScalarOptions :=
  match ScalarLeaf.ofType? stringScalars element.type with
  | none => options
  | some leaf => { options with oneOf := options.oneOf.map (·.map leaf.coerce) }

end ScalarOptions

namespace ListOptions

/-- The list directive applies to elements other than types, if they are lists. -/
def appliesTo (element : SchemaElement) : Bool := !element.kind.isType && element.type.isList

/-- There must be no more levels than the type has, and only leaves can be told apart. -/
def checkFit (options : ListOptions) (element : SchemaElement) : Except DirectiveError Unit :=
  if element.type.listDepth < options.depth then
    .error (.listTooDeep element.coordinate options.depth element.type.listDepth)
  else if options.requiresUnique && !element.type.leaf.kind.isLeaf then
    .error (.uniqueOnNonLeaf element.coordinate element.type)
  else .ok ()

end ListOptions

namespace PresenceOptions

/-- The presence directive applies to types, and to fields that have arguments. -/
def appliesTo (element : SchemaElement) : Bool :=
  element.kind.isType || (element.kind == .field && !element.members.isEmpty)

/-- Every name that a rule lists must be a member of the element. -/
def checkFit (options : PresenceOptions) (directive : String) (element : SchemaElement) :
    Except DirectiveError Unit :=
  match options.referencedFields.find? fun name => !element.hasMember name with
  | some member => .error (.unknownMember directive element.coordinate member)
  | none => .ok ()

end PresenceOptions

namespace UploadOptions

/-- The upload directive applies to elements whose leaf is a file. -/
def appliesTo (element : SchemaElement) : Bool := element.type.leaf.kind == .upload

end UploadOptions

namespace Constraint

/-- Whether the directive of a constraint's family applies to an element. -/
def appliesTo (constraint : Constraint) (stringScalars : List String) (element : SchemaElement) : Bool :=
  match constraint with
  | .scalar _ => ScalarOptions.appliesTo stringScalars element
  | .list _ => ListOptions.appliesTo element
  | .object _ => PresenceOptions.appliesTo element
  | .upload _ => UploadOptions.appliesTo element

/-- Whether the options of a constraint make sense on an element. -/
def checkFit (constraint : Constraint) (stringScalars : List String) (directive : String)
    (element : SchemaElement) : Except DirectiveError Unit :=
  match constraint with
  | .scalar options => options.checkFit stringScalars directive element
  | .list options => options.checkFit element
  | .object options => options.checkFit directive element
  | .upload _ => .ok ()

/-- The constraint in the form that runtime values are compared with. -/
def coerce (constraint : Constraint) (stringScalars : List String) (element : SchemaElement) : Constraint :=
  match constraint with
  | .scalar options => .scalar (options.coerce stringScalars element)
  | constraint => constraint

end Constraint

end SchemaConstraints
