import DeclaredParams.Proofs.Source.Flow
import DeclaredParams.Source.Session

/-!
# Reading in the course of a session

The requests of a session are answered one after the other (`run_append`), and only setting the
limit changes it: `step_limit` says so of one request and `after_limit` of a sequence of requests,
where the limit that holds is the one last set. `run_stream_request` puts this together with what is
known of one stream. Wherever a stream is read in a session, the answer is determined by the flow of
the stream and the limit last set, and the session goes on as if nothing had been read.
-/

set_option autoImplicit false
set_option relaxedAutoImplicit false

namespace DeclaredParams

/-! ### The limit that holds -/

/-- The limit that a request sets, if it sets one. -/
def Request.newLimit? : Request → Option UInt64
  | .setLimit limit => some limit
  | _ => none

/-- The limit last set by some requests, or the one that held before them. -/
def lastLimit (start : UInt64) (requests : List Request) : UInt64 :=
  (requests.filterMap Request.newLimit?).getLast?.getD start

theorem lastLimit_cons (start : UInt64) (request : Request) (requests : List Request) :
    lastLimit start (request :: requests) =
      lastLimit (request.newLimit?.getD start) requests := by
  rw [lastLimit, List.filterMap_cons]
  cases request.newLimit? with
  | none => rfl
  | some limit => rw [List.getLast?_cons]; rfl

/-- A request that sets no limit does not count. -/
theorem lastLimit_concat {request : Request} (hrequest : request.newLimit? = none)
    (start : UInt64) (requests : List Request) :
    lastLimit start (requests ++ [request]) = lastLimit start requests := by
  have hnone : [request].filterMap Request.newLimit? = [] := by
    rw [List.filterMap_cons, hrequest, List.filterMap_nil]
  rw [lastLimit, List.filterMap_append, hnone, List.append_nil, lastLimit]

namespace Session

/-- The state after a sequence of requests. -/
def after (session : Session) (requests : List Request) : Session :=
  requests.foldl (fun current request ↦ (current.step request).1) session

/-- One request leaves the limit as it is, unless it sets another one. -/
theorem step_limit (session : Session) (request : Request) :
    (session.step request).1.limit = request.newLimit?.getD session.limit := by
  cases request <;> rfl

/-- After a sequence of requests the limit is the one last set. -/
theorem after_limit (session : Session) (requests : List Request) :
    (session.after requests).limit = lastLimit session.limit requests := by
  induction requests generalizing session with
  | nil => rfl
  | cons request requests ih =>
    rw [lastLimit_cons, ← step_limit, ← ih]
    rfl

/-- The first request is answered, and the others are asked of the state after it. -/
theorem run_cons (session : Session) (request : Request) (requests : List Request) :
    session.run (request :: requests) =
      (session.step request).2 :: (session.step request).1.run requests := rfl

/-- The requests of a session are answered one after the other. -/
theorem run_append (session : Session) (before later : List Request) :
    session.run (before ++ later) = session.run before ++ (session.after before).run later := by
  induction before generalizing session with
  | nil => rfl
  | cons request before ih =>
    rw [List.cons_append, run_cons, run_cons, ih, List.cons_append]
    rfl

/-- The answer to a stream is what reading it under the limit gives, and the session goes on in the
same state. -/
theorem run_append_stream (session : Session) (before later : List Request) (stream : ByteStream) :
    session.run (before ++ .stream stream :: later) =
      session.run before ++
        .streamed (readStream (lastLimit session.limit before) stream)
          (stream.intake (lastLimit session.limit before)).bytes.length ::
            (session.after before).run later := by
  rw [run_append, run_cons, ← after_limit]
  rfl

/-- Reading a stream in the course of a session. Under the limit last set as many bytes are taken as
there are, up to one more than the limit; the outcome is the one that the flow of the stream allows;
the limit stays; and another stream with the same flow, however it is cut and interrupted, would
have made no difference. -/
theorem run_stream_request (session : Session) (before later : List Request) (stream : ByteStream)
    (hcount : (lastLimit session.limit before).toNat = UInt64.size - 1 →
      stream.flow.volume < (UInt64.size - 1 : Nat)) :
    ∃ text consumed,
      session.run (before ++ .stream stream :: later) =
        session.run before ++ .streamed text consumed :: (session.after before).run later ∧
      (session.after (before ++ [.stream stream])).limit = lastLimit session.limit before ∧
      (consumed : ℕ∞) = min stream.flow.volume ((lastLimit session.limit before).toNat + 1) ∧
      (∀ outcome, text = outcome ↔ stream.flow.ReadsAs (lastLimit session.limit before) outcome) ∧
      ∀ other : ByteStream, other.flow = stream.flow →
        session.run (before ++ .stream other :: later) =
          session.run (before ++ .stream stream :: later) := by
  refine ⟨_, _, run_append_stream session before later stream, ?_, length_intake hcount,
    readStream_eq_iff hcount, ?_⟩
  · rw [after_limit, lastLimit_concat rfl]
  · intro other hflow
    have hintake : other.intake (lastLimit session.limit before) =
        stream.intake (lastLimit session.limit before) := by
      rw [intake_eq, intake_eq, hflow]
    rw [run_append_stream, run_append_stream, readStream, readStream, hintake]

/-- A failure right behind as many bytes as the limit allows is met. -/
theorem run_stream_request_of_failed :
    start.run [.setLimit 3, .stream ⟨[.bytes [97] (by decide), .interrupted,
        .bytes [98, 99] (by decide), .failed (.described "boom")], .closed⟩] =
      [.limit 3, .streamed (.error (.stream (.described "boom"))) 3] := by
  let stream : ByteStream := ⟨[.bytes [97] (by decide), .interrupted, .bytes [98, 99] (by decide),
    .failed (.described "boom")], .closed⟩
  have hflow : stream.flow = ⟨[97, 98, 99], .error (.described "boom")⟩ := rfl
  obtain ⟨text, consumed, hrun, -, hconsumed, htext, -⟩ :=
    run_stream_request start [.setLimit 3] [] stream
      (fun hgreatest ↦ absurd hgreatest (by decide))
  have houtcome : text = .error (.stream (.described "boom")) := by
    rw [htext, hflow]
    exact ⟨le_refl _, rfl⟩
  have hcount : consumed = 3 := by
    rw [hflow] at hconsumed
    have hthree : min (3 : ℕ∞) (3 + 1) = 3 := by decide
    exact_mod_cast hconsumed.trans hthree
  rw [houtcome, hcount] at hrun
  exact hrun

end Session

end DeclaredParams
