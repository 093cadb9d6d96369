import SchemaConstraints.Evaluate.Leaves
import SchemaConstraints.Options.Upload

set_option autoImplicit false

/-! # Checking values against the upload constraint -/

namespace SchemaConstraints

namespace UploadOptions

/-- The verdict on a file: first its size, then its type. -/
def checkFile (options : UploadOptions) (file : UploadedFile) : Verdict :=
  (Check.require .maxSize (options.maxSize.all fun max => decide (file.size ≤ max))).or
    (Check.require .mimeType (options.mimeTypes.all (·.contains file.mimeType)))

/-- The verdict on a value that is not a list; only files can fail. -/
def checkLeaf (options : UploadOptions) : Value → Verdict
  | .upload file => options.checkFile file
  | _ => none

/-- The verdict on a value: that on its first leaf that fails. -/
def verdict (options : UploadOptions) (bindings : Bindings) (value : Value) : Verdict :=
  value.checkLeaves options.checkLeaf bindings

end UploadOptions

end SchemaConstraints
