import DeclaredParams.Proofs.Text.Utf8
import DeclaredParams.Source.Stream
import Mathlib.Data.ENat.Lattice

/-!
# What a stream delivers

The `flow` of a stream is what is left of it when it no longer matters how its bytes were cut and
where it was interrupted: the bytes before its first failure, and then that failure or the end of
the stream. `intake_eq` says that what is taken from a stream depends on its flow alone: its first
bytes, and its failure if that comes before the bytes allowed are taken. `Flow.ReadsAs` lists the
possible outcomes of reading a flow under a limit, and `readStream_eq_iff` that the outcome is the
one whose condition holds.
-/

set_option autoImplicit false
set_option relaxedAutoImplicit false

namespace DeclaredParams

/-! ### Flows -/

/-- Bytes in order, and what comes behind them. -/
structure Flow where
  /-- The bytes. -/
  bytes : Bytes
  /-- The failure that ends the bytes, or what a stream hands out for ever after them. -/
  ending : Except IoCause StreamEnd
  deriving DecidableEq

/-- The bytes of a stream before its first failure, and what comes then. -/
def ByteStream.flow (stream : ByteStream) : Flow where
  bytes :=
    (stream.deliveries.takeWhile fun delivery ↦ delivery.failure?.isNone).flatMap Delivery.content
  ending :=
    match stream.deliveries.findSome? Delivery.failure? with
    | some cause => .error cause
    | none => .ok stream.ending

namespace Flow

variable (flow : Flow)

/-- The number of bytes before a failure or the end of the data. -/
def volume : ℕ∞ :=
  match flow.ending with
  | .ok (.endless _) => ⊤
  | _ => flow.bytes.length

/-- At most a number of bytes from the start of the flow. -/
def initial (count : Nat) : Bytes :=
  flow.bytes.take count ++
    match flow.ending with
    | .ok ending => ending.take (count - flow.bytes.length)
    | .error _ => []

/-- The failure that ends the bytes, if one does. -/
def failure? : Option IoCause :=
  match flow.ending with
  | .ok _ => none
  | .error cause => some cause

/-- The flow with more bytes in front. -/
def prepend (content : Bytes) : Flow :=
  ⟨content ++ flow.bytes, flow.ending⟩

end Flow

/-! ### A stream and its flow -/

/-- A stream without deliveries is its ending. -/
theorem flow_nil (ending : StreamEnd) : (ByteStream.mk [] ending).flow = ⟨[], .ok ending⟩ := rfl

/-- A failure ends the flow. -/
theorem flow_cons_of_failure {delivery : Delivery} {cause : IoCause}
    (hfailure : delivery.failure? = some cause) (deliveries : List Delivery) (ending : StreamEnd) :
    (ByteStream.mk (delivery :: deliveries) ending).flow = ⟨[], .error cause⟩ := by
  simp [ByteStream.flow, hfailure]

/-- Any other delivery adds its bytes, which are none for an interruption. -/
theorem flow_cons_of_no_failure {delivery : Delivery} (hfailure : delivery.failure? = none)
    (deliveries : List Delivery) (ending : StreamEnd) :
    (ByteStream.mk (delivery :: deliveries) ending).flow =
      (ByteStream.mk deliveries ending).flow.prepend delivery.content := by
  simp [ByteStream.flow, Flow.prepend, hfailure]

theorem StreamEnd.take_zero (ending : StreamEnd) : ending.take 0 = [] := by
  cases ending <;> rfl

namespace Flow

variable (flow : Flow)

theorem initial_zero : flow.initial 0 = [] := by
  rw [initial]
  cases flow.ending with
  | error cause => simp
  | ok ending => simp [StreamEnd.take_zero]

/-- The bytes put in front come first. -/
theorem initial_prepend (content : Bytes) (count : Nat) :
    (flow.prepend content).initial count =
      content.take count ++ flow.initial (count - (content.take count).length) := by
  have hleft : count - (content.take count).length = count - content.length := by
    rw [List.length_take]
    omega
  have hrest : count - (content ++ flow.bytes).length =
      count - content.length - flow.bytes.length := by
    rw [List.length_append]
    omega
  rw [initial, initial, prepend, hleft, hrest, List.take_append, List.append_assoc]

/-- As many bytes come as are asked for and there are. -/
theorem length_initial (count : Nat) :
    ((flow.initial count).length : ℕ∞) = min flow.volume count := by
  have hbytes : ((flow.bytes.take count).length : ℕ∞) = min (flow.bytes.length : ℕ∞) count := by
    rw [List.length_take, min_comm]
    exact Nat.mono_cast.map_min
  rw [initial, volume]
  match flow.ending with
  | .error cause => simpa using hbytes
  | .ok .closed => simpa [StreamEnd.take] using hbytes
  | .ok (.endless byte) =>
    simp only [StreamEnd.take, List.length_append, List.length_replicate, List.length_take,
      top_inf_eq]
    congr 1
    omega

end Flow

/-- Taking bytes from the deliveries and what follows them is taking bytes from their flow. A
failure is met when there is still a byte to be taken. -/
theorem takeBytes_eq (ending : StreamEnd) (count : Nat) (deliveries : List Delivery) :
    takeBytes ending count deliveries =
      ⟨(ByteStream.mk deliveries ending).flow.initial count,
        if (ByteStream.mk deliveries ending).flow.bytes.length < count then
          (ByteStream.mk deliveries ending).flow.failure?
        else none⟩ := by
  induction deliveries generalizing count with
  | nil =>
    rw [takeBytes, flow_nil]
    simp [Flow.initial, Flow.failure?]
  | cons delivery deliveries ih =>
    rw [takeBytes]
    by_cases hcount : count = 0
    · rw [if_pos hcount, hcount, Flow.initial_zero, if_neg (Nat.not_lt_zero _)]
    · rw [if_neg hcount]
      cases hfailure : delivery.failure? with
      | some cause =>
        rw [flow_cons_of_failure hfailure]
        simp [Flow.initial, Flow.failure?, Nat.pos_of_ne_zero hcount]
      | none =>
        have hlater : (ByteStream.mk deliveries ending).flow.bytes.length <
              count - (delivery.content.take count).length ↔
            ((ByteStream.mk deliveries ending).flow.prepend delivery.content).bytes.length <
              count := by
          rw [List.length_take, Flow.prepend, List.length_append]
          omega
        simp only [flow_cons_of_no_failure hfailure, Flow.initial_prepend, ih, hlater]
        rfl

/-- What is taken from a stream under a limit depends on its flow alone. -/
theorem intake_eq (stream : ByteStream) (limit : UInt64) :
    stream.intake limit =
      ⟨stream.flow.initial (allowance limit),
        if stream.flow.bytes.length < allowance limit then stream.flow.failure? else none⟩ :=
  takeBytes_eq stream.ending (allowance limit) stream.deliveries

/-! ### Reading under a limit -/

namespace Flow

variable (flow : Flow) {limit : UInt64}

/-- The conditions under which reading a flow under a limit has an outcome: too many bytes come
before anything else, a failure before what the bytes write. -/
def ReadsAs (limit : UInt64) : Except ReadError Text → Prop
  | .error (.streamTooLarge bound) => bound = limit ∧ (limit.toNat : ℕ∞) < flow.volume
  | .error (.stream cause) => flow.volume ≤ limit.toNat ∧ flow.ending = .error cause
  | .error .streamNotUtf8 =>
    flow.volume ≤ limit.toNat ∧ flow.ending = .ok .closed ∧ ∀ text, Text.toUtf8 text ≠ flow.bytes
  | .ok text =>
    flow.volume ≤ limit.toNat ∧ flow.ending = .ok .closed ∧ Text.toUtf8 text = flow.bytes
  | .error _ => False

variable {flow}

/-- A flow that does not go on for ever has a number of bytes. -/
theorem volume_eq_length (hending : ∀ byte, flow.ending ≠ .ok (.endless byte)) :
    flow.volume = flow.bytes.length := by
  rw [volume]
  split
  next byte hendless => exact absurd hendless (hending byte)
  next => rfl

/-- A flow within the limit does not go on for ever. -/
theorem ending_ne_endless (hvolume : flow.volume ≤ limit.toNat) (byte : UInt8) :
    flow.ending ≠ .ok (.endless byte) := by
  intro hending
  rw [volume, hending, top_le_iff] at hvolume
  exact ENat.natCast_ne_top _ hvolume

/-- All that is asked for is there, and nothing else comes before the end. -/
theorem initial_eq_bytes (hending : ∀ byte, flow.ending ≠ .ok (.endless byte)) {count : Nat}
    (hlength : flow.bytes.length ≤ count) : flow.initial count = flow.bytes := by
  rw [initial, List.take_of_length_le hlength]
  match hflow : flow.ending with
  | .error cause => exact List.append_nil _
  | .ok .closed => exact List.append_nil _
  | .ok (.endless byte) => exact absurd hflow (hending byte)

end Flow

section Limit

-- Under the greatest limit no byte more than the limit is taken, so the flow has to stay below it.
variable {stream : ByteStream} {limit : UInt64}
  (hcount : limit.toNat = UInt64.size - 1 → stream.flow.volume < (UInt64.size - 1 : Nat))

include hcount

/-- All bytes of a flow within the limit are taken, and its failure is met. -/
theorem intake_of_volume_le (hvolume : stream.flow.volume ≤ limit.toNat) :
    stream.intake limit = ⟨stream.flow.bytes, stream.flow.failure?⟩ := by
  have hending := Flow.ending_ne_endless hvolume
  rw [Flow.volume_eq_length hending, Nat.cast_lt] at hcount
  rw [Flow.volume_eq_length hending, Nat.cast_le] at hvolume
  have hlimit := limit.toNat_lt_size
  have hmet : stream.flow.bytes.length < allowance limit := by
    rw [allowance]
    omega
  rw [intake_eq, if_pos hmet, Flow.initial_eq_bytes hending hmet.le]

/-- One byte more than the limit is taken of a flow over the limit, and no failure is met. -/
theorem intake_of_lt_volume (hvolume : (limit.toNat : ℕ∞) < stream.flow.volume) :
    stream.intake limit = ⟨stream.flow.initial (limit.toNat + 1), none⟩ := by
  have hlimit := limit.toNat_lt_size
  have hmost : limit.toNat ≠ UInt64.size - 1 := by
    intro hgreatest
    have hbelow := hcount hgreatest
    rw [← hgreatest] at hbelow
    exact absurd hvolume hbelow.asymm
  have hallowance : allowance limit = limit.toNat + 1 := by
    rw [allowance]
    omega
  rw [intake_eq, hallowance]
  congr 1
  -- A failure behind the bytes would come after more of them than are taken.
  rw [ite_eq_right_iff]
  intro hshort
  cases hending : stream.flow.ending with
  | ok ending => rw [Flow.failure?, hending]
  | error cause =>
    rw [Flow.volume_eq_length (by simp [hending]), Nat.cast_lt] at hvolume
    omega

/-- A flow over the limit is refused, whatever comes behind the bytes that are taken. -/
theorem readStream_of_lt_volume (hvolume : (limit.toNat : ℕ∞) < stream.flow.volume) :
    readStream limit stream = .error (.streamTooLarge limit) := by
  have hlength : limit.toNat < (stream.flow.initial (limit.toNat + 1)).length := by
    rw [← Nat.cast_lt (α := ℕ∞), Flow.length_initial, lt_min_iff]
    exact ⟨hvolume, Nat.cast_lt.mpr (Nat.lt_succ_self _)⟩
  rw [readStream, intake_of_lt_volume hcount hvolume, Intake.text]
  simp only [if_pos hlength]

/-- Within the limit the failure of a flow is reported. -/
theorem readStream_of_failed {cause : IoCause}
    (hvolume : stream.flow.volume ≤ limit.toNat) (hending : stream.flow.ending = .error cause) :
    readStream limit stream = .error (.stream cause) := by
  rw [readStream, intake_of_volume_le hcount hvolume, Intake.text, Flow.failure?, hending]

/-- Within the limit the bytes of a flow that ends are decoded. -/
theorem readStream_of_closed
    (hvolume : stream.flow.volume ≤ limit.toNat) (hending : stream.flow.ending = .ok .closed) :
    readStream limit stream =
      match Text.ofUtf8? stream.flow.bytes with
      | some text => .ok text
      | none => .error .streamNotUtf8 := by
  have hlength : ¬ limit.toNat < stream.flow.bytes.length := by
    rw [Flow.volume_eq_length (by simp [hending]), Nat.cast_le] at hvolume
    exact Nat.not_lt.mpr hvolume
  rw [readStream, intake_of_volume_le hcount hvolume, Intake.text, Flow.failure?, hending]
  cases Text.ofUtf8? stream.flow.bytes <;> simp only [if_neg hlength]

/-- Reading a stream has exactly the outcome that its flow allows. -/
theorem readStream_eq_iff (outcome : Except ReadError Text) :
    readStream limit stream = outcome ↔ stream.flow.ReadsAs limit outcome := by
  constructor
  · rintro rfl
    rcases lt_or_ge (limit.toNat : ℕ∞) stream.flow.volume with hvolume | hvolume
    · rw [readStream_of_lt_volume hcount hvolume]
      exact ⟨rfl, hvolume⟩
    · match hending : stream.flow.ending with
      | .error cause =>
        rw [readStream_of_failed hcount hvolume hending]
        exact ⟨hvolume, hending⟩
      | .ok (.endless byte) => exact absurd hending (Flow.ending_ne_endless hvolume byte)
      | .ok .closed =>
        rw [readStream_of_closed hcount hvolume hending]
        cases hdecoded : Text.ofUtf8? stream.flow.bytes with
        | none => exact ⟨hvolume, hending, Text.ofUtf8?_eq_none_iff.mp hdecoded⟩
        | some text => exact ⟨hvolume, hending, Text.ofUtf8?_eq_some_iff.mp hdecoded⟩
  · intro houtcome
    match outcome, houtcome with
    | .error (.streamTooLarge bound), ⟨hbound, hvolume⟩ =>
      rw [hbound, readStream_of_lt_volume hcount hvolume]
    | .error (.stream cause), ⟨hvolume, hending⟩ =>
      exact readStream_of_failed hcount hvolume hending
    | .error .streamNotUtf8, ⟨hvolume, hending, hbytes⟩ =>
      rw [readStream_of_closed hcount hvolume hending, Text.ofUtf8?_eq_none_iff.mpr hbytes]
    | .ok text, ⟨hvolume, hending, hbytes⟩ =>
      rw [readStream_of_closed hcount hvolume hending, Text.ofUtf8?_eq_some_iff.mpr hbytes]

/-- The number of bytes taken: all, up to one more than the limit. -/
theorem length_intake :
    ((stream.intake limit).bytes.length : ℕ∞) = min stream.flow.volume (limit.toNat + 1) := by
  rcases lt_or_ge (limit.toNat : ℕ∞) stream.flow.volume with hvolume | hvolume
  · rw [intake_of_lt_volume hcount hvolume, Flow.length_initial, Nat.cast_add, Nat.cast_one]
  · have hending := Flow.ending_ne_endless hvolume
    rw [intake_of_volume_le hcount hvolume, ← Flow.volume_eq_length hending,
      min_eq_left (hvolume.trans le_self_add)]

end Limit

end DeclaredParams
