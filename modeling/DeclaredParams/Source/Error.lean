/-!
# Errors of reading a source

Reading can fail in the operating system, and it is refused when the input is too large or is not
UTF-8. `OsError` enumerates the failures of the system that reading meets, `IoCause` adds those
that have no number, and `ReadError` says which input failed and why. `message` gives each its
wording.
-/

set_option autoImplicit false
set_option relaxedAutoImplicit false

namespace DeclaredParams

/-- A failure reported by the operating system. -/
inductive OsError where
  /-- The operation is reserved for others. -/
  | notPermitted
  /-- There is no such file. -/
  | notFound
  /-- A signal came before any data. -/
  | interrupted
  /-- The device failed. -/
  | inputOutput
  /-- The file is not open. -/
  | badDescriptor
  /-- The file is closed to the user. -/
  | permissionDenied
  /-- Something on the way to the file is no directory. -/
  | notADirectory
  /-- The file is a directory. -/
  | isADirectory
  /-- The device is full. -/
  | noSpace
  /-- A name on the path, or the path, is too long. -/
  | nameTooLong
  /-- The links on the path go round. -/
  | linkLoop
  deriving DecidableEq, Repr

namespace OsError

/-- All failures, in the order of their numbers. -/
def all : List OsError :=
  [.notPermitted, .notFound, .interrupted, .inputOutput, .badDescriptor, .permissionDenied,
   .notADirectory, .isADirectory, .noSpace, .nameTooLong, .linkLoop]

/-- The number of a failure. -/
def code : OsError → Nat
  | .notPermitted => 1
  | .notFound => 2
  | .interrupted => 4
  | .inputOutput => 5
  | .badDescriptor => 9
  | .permissionDenied => 13
  | .notADirectory => 20
  | .isADirectory => 21
  | .noSpace => 28
  | .nameTooLong => 36
  | .linkLoop => 40

/-- The failure with a given number. -/
def ofCode? (code : Nat) : Option OsError :=
  all.find? fun failure ↦ failure.code == code

/-- The description of a failure. -/
def description : OsError → String
  | .notPermitted => "Operation not permitted"
  | .notFound => "No such file or directory"
  | .interrupted => "Interrupted system call"
  | .inputOutput => "Input/output error"
  | .badDescriptor => "Bad file descriptor"
  | .permissionDenied => "Permission denied"
  | .notADirectory => "Not a directory"
  | .isADirectory => "Is a directory"
  | .noSpace => "No space left on device"
  | .nameTooLong => "File name too long"
  | .linkLoop => "Too many levels of symbolic links"

/-- The wording of a failure: its description and its number. -/
def message (failure : OsError) : String :=
  failure.description ++ " (os error " ++ toString failure.code ++ ")"

end OsError

/-- Why an access to a file or a stream failed. -/
inductive IoCause where
  /-- The operating system reported a failure. -/
  | os (failure : OsError)
  /-- The file name cannot be handed to the operating system. -/
  | nulInName
  /-- The source of the data described the failure itself. -/
  | described (text : String)
  deriving DecidableEq, Repr

/-- The wording of a cause. -/
def IoCause.message : IoCause → String
  | .os failure => failure.message
  | .nulInName => "file name contained an unexpected NUL byte"
  | .described text => text

/-- Why no source text could be read. -/
inductive ReadError where
  /-- The file could not be accessed. -/
  | file (path : String) (cause : IoCause)
  /-- The file has more bytes than the limit allows. -/
  | fileTooLarge (path : String) (size : Nat) (limit : UInt64)
  /-- The bytes of the file are not UTF-8. -/
  | fileNotUtf8 (path : String)
  /-- Standard input failed. -/
  | stream (cause : IoCause)
  /-- Standard input has more bytes than the limit allows. -/
  | streamTooLarge (limit : UInt64)
  /-- The bytes of standard input are not UTF-8. -/
  | streamNotUtf8
  deriving DecidableEq, Repr

namespace ReadError

/-- The failed access behind the error, if there is one. -/
def cause? : ReadError → Option IoCause
  | .file _ cause | .stream cause => some cause
  | _ => none

/-- The wording of a read error. -/
def message : ReadError → String
  | .file path cause => "cannot access '" ++ path ++ "': " ++ cause.message
  | .fileTooLarge path size limit =>
    "'" ++ path ++ "' is " ++ toString size ++ " bytes, over the " ++ toString limit.toNat ++
      " byte limit"
  | .fileNotUtf8 path => "'" ++ path ++ "' is not valid UTF-8"
  | .stream cause => "cannot read standard input: " ++ cause.message
  | .streamTooLarge limit =>
    "standard input is over the " ++ toString limit.toNat ++ " byte limit"
  | .streamNotUtf8 => "standard input is not valid UTF-8"

end ReadError

end DeclaredParams
