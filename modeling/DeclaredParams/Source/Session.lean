import DeclaredParams.Signature.Inspect
import DeclaredParams.Source.File
import DeclaredParams.Source.Stream

/-!
# Sessions of reading

The limit on the size of an input is set once and holds for every reading until it is set again. A
`Session` is that limit, `Request` is what can be asked of it, where a file comes with what the
operating system answers about it at that time, and `Session.run` answers a sequence of requests in
order.
-/

set_option autoImplicit false
set_option relaxedAutoImplicit false

namespace DeclaredParams

/-- The limit in bytes that holds until another is set. -/
def defaultLimit : UInt64 := 1000000

/-- The state between two requests. -/
structure Session where
  /-- The limit in bytes. -/
  limit : UInt64
  deriving DecidableEq, Repr

/-- The state before the first request. -/
def Session.start : Session := ⟨defaultLimit⟩

/-- What can be asked of a session. -/
inductive Request where
  /-- From now on the limit is another one. -/
  | setLimit (limit : UInt64)
  /-- The limit as it is. -/
  | getLimit
  /-- The source text in the file at a path. -/
  | file (path : String) (file : FileAnswer)
  /-- The signature of the callable in the file at a path. -/
  | signature (path : String) (file : FileAnswer) (shapes : ShapeSet)
  /-- The source text on a stream. -/
  | stream (stream : ByteStream)

/-- The answer to a request. -/
inductive Response where
  /-- The limit that holds. -/
  | limit (limit : UInt64)
  /-- A source text, or why there is none. -/
  | source (text : Except ReadError Text)
  /-- A signature, or why there is none. -/
  | signature (signature : Except ReadError Signature)
  /-- A source text, or why there is none, and the number of bytes taken from the stream. -/
  | streamed (text : Except ReadError Text) (consumed : Nat)

namespace Session

/-- The state after a request and the answer to it. -/
def step (session : Session) : Request → Session × Response
  | .setLimit limit => (⟨limit⟩, .limit limit)
  | .getLimit => (session, .limit session.limit)
  | .file path file => (session, .source (readFile session.limit path file))
  | .signature path file shapes =>
    (session, .signature ((readFile session.limit path file).map (inspect shapes)))
  | .stream stream =>
    let intake := stream.intake session.limit
    (session, .streamed (intake.text session.limit) intake.bytes.length)

/-- The answers to a sequence of requests. -/
def run (session : Session) : List Request → List Response
  | [] => []
  | request :: requests =>
    let (next, response) := session.step request
    response :: next.run requests

end Session

end DeclaredParams
