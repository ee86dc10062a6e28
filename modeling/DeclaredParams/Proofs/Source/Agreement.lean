import DeclaredParams.Proofs.Source.Flow
import DeclaredParams.Source.File

/-!
# Files and streams agree

A file is measured before it is read, a stream is read one byte beyond the limit and judged then.
Under every limit both come to the same (`readAlike_of_flow`): the same text, or a refusal for the
same reason. `ReadAlike` lists the pairs of outcomes that can occur.
-/

set_option autoImplicit false
set_option relaxedAutoImplicit false

namespace DeclaredParams

/-- The outcomes of reading a file of some size and of reading a stream say the same. -/
inductive ReadAlike (limit : UInt64) (path : String) (size : Nat) :
    Except ReadError Text → Except ReadError Text → Prop
  /-- Both give one text. -/
  | text (text : Text) : ReadAlike limit path size (.ok text) (.ok text)
  /-- Both are too large. -/
  | tooLarge (hsize : limit.toNat < size) :
    ReadAlike limit path size (.error (.fileTooLarge path size limit))
      (.error (.streamTooLarge limit))
  /-- Neither is UTF-8. -/
  | notUtf8 : ReadAlike limit path size (.error (.fileNotUtf8 path)) (.error .streamNotUtf8)

/-- However the pieces are cut, the flow is all their bytes in order. -/
theorem flow_ofChunks (chunks : List Bytes) :
    (ByteStream.ofChunks chunks).flow = ⟨chunks.flatten, .ok .closed⟩ := by
  induction chunks with
  | nil => rfl
  | cons chunk chunks ih =>
    cases chunk with
    | nil => exact ih
    | cons first rest =>
      have hlater : (ByteStream.mk (chunks.filterMap Delivery.ofBytes?) .closed).flow =
          ⟨chunks.flatten, .ok .closed⟩ := ih
      have hpiece : Delivery.ofBytes? (first :: rest) =
          some (.bytes (first :: rest) (List.cons_ne_nil first rest)) := rfl
      rw [ByteStream.ofChunks, List.filterMap_cons_some hpiece, flow_cons_of_no_failure rfl, hlater,
        List.flatten_cons]
      rfl

/-- What is made of an ordinary file under a limit. -/
theorem readFile_ordinary (limit : UInt64) (path : String) (content : Bytes) :
    readFile limit path (.ordinary content) =
      if limit.toNat < content.length then .error (.fileTooLarge path content.length limit)
      else
        match Text.ofUtf8? content with
        | some text => .ok text
        | none => .error (.fileNotUtf8 path) := by
  by_cases hlarge : limit.toNat < content.length
  · simp only [readFile, readFileBytes, FileAnswer.ordinary, if_pos hlarge]
  · cases hdecoded : Text.ofUtf8? content <;>
      simp only [readFile, readFileBytes, FileAnswer.ordinary, if_neg hlarge, hdecoded]

/-- What is made of a stream whose bytes 64 bits can count. -/
theorem readStream_of_flow {stream : ByteStream} {content : Bytes}
    (hflow : stream.flow = ⟨content, .ok .closed⟩) (hsize : content.length < UInt64.size)
    (limit : UInt64) :
    readStream limit stream =
      if limit.toNat < content.length then .error (.streamTooLarge limit)
      else
        match Text.ofUtf8? content with
        | some text => .ok text
        | none => .error .streamNotUtf8 := by
  have hlimit := limit.toNat_lt_size
  have hintake : stream.intake limit = ⟨content.take (allowance limit), none⟩ := by
    rw [intake_eq, hflow]
    simp [Flow.initial, Flow.failure?, StreamEnd.take]
  rw [readStream, hintake, Intake.text]
  simp only [List.length_take]
  by_cases hlarge : limit.toNat < content.length
  · have htaken : limit.toNat < min (allowance limit) content.length := by
      rw [allowance]
      omega
    rw [if_pos hlarge, if_pos htaken]
  · have htaken : ¬ limit.toNat < min (allowance limit) content.length := by omega
    have hall : content.take (allowance limit) = content := by
      apply List.take_of_length_le
      rw [allowance]
      omega
    cases hdecoded : Text.ofUtf8? content <;>
      simp only [if_neg hlarge, if_neg htaken, hall, hdecoded]

/-- An ordinary file and a stream with the same bytes are read alike under every limit. The size of
a file is a number of 64 bits. -/
theorem readAlike_of_flow {stream : ByteStream} {content : Bytes}
    (hflow : stream.flow = ⟨content, .ok .closed⟩) (hsize : content.length < UInt64.size)
    (limit : UInt64) (path : String) :
    ReadAlike limit path content.length (readFile limit path (.ordinary content))
      (readStream limit stream) := by
  rw [readFile_ordinary, readStream_of_flow hflow hsize]
  by_cases hlarge : limit.toNat < content.length
  · rw [if_pos hlarge, if_pos hlarge]
    exact .tooLarge hlarge
  · rw [if_neg hlarge, if_neg hlarge]
    cases Text.ofUtf8? content with
    | none => exact .notUtf8
    | some text => exact .text text

end DeclaredParams
