import DeclaredParams.Source.Error
import DeclaredParams.Text.Basic

/-!
# Sources from a file

A file is asked for its size first, and one over the limit is not read. `readFileBytes` is the
part that accesses the file, `readFile` decodes what it read.
-/

set_option autoImplicit false
set_option relaxedAutoImplicit false

namespace DeclaredParams

/-- What the operating system answers about the file at a path. -/
structure FileAnswer where
  /-- The size that is reported, or the failure to find the file. -/
  size : Except IoCause Nat
  /-- The bytes, or the failure to read them. -/
  content : Except IoCause Bytes

namespace FileAnswer

/-- A file that cannot be found. -/
def failed (cause : IoCause) : FileAnswer := ⟨.error cause, .error cause⟩

/-- An ordinary file, whose size is the number of its bytes. -/
def ordinary (content : Bytes) : FileAnswer := ⟨.ok content.length, .ok content⟩

end FileAnswer

/-- The bytes of the file at a path, read under a limit. -/
def readFileBytes (limit : UInt64) (path : String) (file : FileAnswer) : Except ReadError Bytes :=
  match file.size with
  | .error cause => .error (.file path cause)
  | .ok size =>
    if limit.toNat < size then .error (.fileTooLarge path size limit)
    else
      match file.content with
      | .error cause => .error (.file path cause)
      | .ok content => .ok content

/-- The source text in the file at a path, read under a limit. -/
def readFile (limit : UInt64) (path : String) (file : FileAnswer) : Except ReadError Text :=
  match readFileBytes limit path file with
  | .error failure => .error failure
  | .ok content =>
    match Text.ofUtf8? content with
    | some text => .ok text
    | none => .error (.fileNotUtf8 path)

end DeclaredParams
