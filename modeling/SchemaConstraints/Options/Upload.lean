set_option autoImplicit false

/-! # Options of the upload constraint -/

namespace SchemaConstraints

/-- What the upload constraint demands of a file. -/
structure UploadOptions where
  /-- Greatest size in bytes. -/
  maxSize : Option Nat := none
  /-- The allowed media types. -/
  mimeTypes : Option (List String) := none
  deriving DecidableEq, Repr

end SchemaConstraints
