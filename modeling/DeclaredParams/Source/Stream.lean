import DeclaredParams.Source.Error
import DeclaredParams.Text.Basic

/-!
# Sources from a stream

A `ByteStream` delivers its bytes in pieces of any size but none empty, with interruptions and
failures between them, and then either ends or repeats one byte for ever. `readStream` takes one
byte more than the limit at most, so that an input over the limit is noticed and no more of it is
read than that. What it makes of the bytes does not depend on how they were cut, and an interruption
is no failure.
-/

set_option autoImplicit false
set_option relaxedAutoImplicit false

namespace DeclaredParams

/-- What a stream hands out on one request. -/
inductive Delivery where
  /-- A piece of the data. Without a byte it would be the end of the data. -/
  | bytes (chunk : Bytes) (hchunk : chunk ≠ [])
  /-- Nothing, because of a signal; the request can be repeated. -/
  | interrupted
  /-- A failure. -/
  | failed (cause : IoCause)
  deriving DecidableEq, Repr

/-- What a stream hands out after its deliveries. -/
inductive StreamEnd where
  /-- The end of the data. -/
  | closed
  /-- One byte for ever. -/
  | endless (byte : UInt8)
  deriving DecidableEq, Repr

/-- A stream of bytes, as it answers successive requests. -/
structure ByteStream where
  /-- The answers to the first requests. -/
  deliveries : List Delivery
  /-- The answer to all later requests. -/
  ending : StreamEnd
  deriving DecidableEq, Repr

/-- The delivery of some bytes, if there is any. -/
def Delivery.ofBytes? : Bytes → Option Delivery
  | [] => none
  | first :: rest => some (.bytes (first :: rest) (List.cons_ne_nil first rest))

/-- A stream that delivers its bytes in pieces and ends. Pieces without bytes are left out. -/
def ByteStream.ofChunks (chunks : List Bytes) : ByteStream :=
  ⟨chunks.filterMap Delivery.ofBytes?, .closed⟩

/-- A stream that delivers all its bytes at once and ends. -/
def ByteStream.ofBytes (bytes : Bytes) : ByteStream := .ofChunks [bytes]

/-- The failure that ends the reading, for a delivery that is one. The failure that stands for an
interruption is none. -/
def Delivery.failure? : Delivery → Option IoCause
  | .failed (.os .interrupted) => none
  | .failed cause => some cause
  | _ => none

/-- The bytes of one delivery. -/
def Delivery.content : Delivery → Bytes
  | .bytes chunk _ => chunk
  | _ => []

/-- At most a number of bytes from what follows the deliveries. -/
def StreamEnd.take (allowance : Nat) : StreamEnd → Bytes
  | .closed => []
  | .endless byte => List.replicate allowance byte

/-- What was taken from a stream. -/
structure Intake where
  /-- The bytes, in order. -/
  bytes : Bytes
  /-- The failure that ended the reading, if one did. -/
  failure : Option IoCause
  deriving DecidableEq, Repr

/-- At most a number of bytes from the deliveries and what follows them, up to the first failure.
Once the bytes are taken no further request is made. -/
def takeBytes (ending : StreamEnd) : Nat → List Delivery → Intake
  | allowance, [] => ⟨ending.take allowance, none⟩
  | allowance, delivery :: deliveries =>
    if allowance = 0 then ⟨[], none⟩
    else
      match delivery.failure? with
      | some cause => ⟨[], some cause⟩
      | none =>
        let taken := delivery.content.take allowance
        let later := takeBytes ending (allowance - taken.length) deliveries
        ⟨taken ++ later.bytes, later.failure⟩

/-- The greatest number of bytes that are taken under a limit: one more than the limit, as far as
64 bits can count. -/
def allowance (limit : UInt64) : Nat :=
  min (limit.toNat + 1) (UInt64.size - 1)

/-- What is taken from a stream under a limit. -/
def ByteStream.intake (stream : ByteStream) (limit : UInt64) : Intake :=
  takeBytes stream.ending (allowance limit) stream.deliveries

/-- The source text that was taken under a limit. -/
def Intake.text (intake : Intake) (limit : UInt64) : Except ReadError Text :=
  match intake.failure with
  | some cause => .error (.stream cause)
  | none =>
    if limit.toNat < intake.bytes.length then .error (.streamTooLarge limit)
    else
      match Text.ofUtf8? intake.bytes with
      | some text => .ok text
      | none => .error .streamNotUtf8

/-- The source text on a stream, read under a limit. -/
def readStream (limit : UInt64) (stream : ByteStream) : Except ReadError Text :=
  (stream.intake limit).text limit

end DeclaredParams
