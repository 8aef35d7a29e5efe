import ContestExchange.Proofs.SessionNotes
import Mathlib.Data.List.Induction

namespace ContestExchange

/-!
# The log holds the latest notes

A log that has outgrown its limit is cut down to its latest thousand entries and grows again from
there.  So it is always an end of everything noted, and how long an end depends on the number of
notes alone: from the first cut on it runs through a thousand and one lengths again and again.

An operation that fails has noted something too, and its session goes on from where reading failed.
What a session is then is stated here, so that a run need not end with its first failure.  What an
operation notes is what it leaves in an empty log: few entries, far from any cut, and by `Adds` the
ones that it adds to any other log.
-/

namespace Log

/-! ## The length of a log -/

/-- How many of all its notes a log holds. -/
def kept (count : Nat) : Nat := if count ≤ 2000 then count else 1000 + (count - 2001) % 1001

theorem kept_le (count : Nat) : kept count ≤ count ∧ kept count ≤ 2000 := by
  unfold kept
  split <;> omega

theorem latest_le_kept (count : Nat) : min count 1000 ≤ kept count := by
  unfold kept
  split <;> omega

/-- One note more makes a full log a short one, and any other a longer one. -/
theorem kept_succ (count : Nat) :
    kept (count + 1) = if kept count < limit then kept count + 1 else remainder := by
  unfold kept limit remainder
  split <;> split <;> split <;> omega

theorem record_drop (entries : List LogEntry) (entry : LogEntry) :
    record (entries.drop (entries.length - kept entries.length)) entry =
      (entries ++ [entry]).drop (entries.length + 1 - kept (entries.length + 1)) := by
  have most := (kept_le entries.length).1
  have count : (entries.drop (entries.length - kept entries.length)).length =
      kept entries.length := by
    rw [List.length_drop]
    omega
  have longer : entries.drop (entries.length - kept entries.length) ++ [entry] =
      (entries ++ [entry]).drop (entries.length - kept entries.length) :=
    (List.drop_append_of_le_length (Nat.sub_le _ _)).symm
  unfold record
  dsimp only
  rw [List.length_append, List.length_singleton, count, longer, kept_succ]
  by_cases room : kept entries.length < limit
  · rw [if_neg (Nat.not_lt.mpr room), if_pos room, Nat.add_sub_add_right]
  · have cut : limit < kept entries.length + 1 := Nat.lt_succ_of_le (Nat.not_lt.mp room)
    have cutTo : entries.length - kept entries.length + (kept entries.length + 1 - remainder) =
        entries.length + 1 - remainder := by
      unfold limit at cut
      unfold remainder
      omega
    rw [if_pos cut, if_neg room, List.drop_drop, cutTo]

/-- Recording entries in an empty log keeps the latest of them. -/
theorem recordAll_nil (entries : List LogEntry) :
    recordAll [] entries = entries.drop (entries.length - kept entries.length) := by
  induction entries using List.reverseRecOn with
  | nil => rfl
  | append_singleton entries entry inductionHypothesis =>
      rw [recordAll_append, inductionHypothesis, List.length_append]
      exact record_drop entries entry

end Log

namespace CaptureSession

/-! ## Operations that fail -/

/-- What is left of a session when its line cannot be read, be it as typed or, on completion, as
padded. -/
def leftByReading (session : CaptureSession) (needed : Bool) : CaptureSession :=
  match session.validateIf needed with
  | .error _ => session
  | .ok (read, _) => read.aligned

/-- What is left of a session when a key cannot read the exchange that is collected. -/
def leftByCollect (session : CaptureSession) (key : Key) : CaptureSession :=
  match session.respond key with
  | .settled settled _ => settled
  | .backed backed _ => { backed with state := .back, lastKey := .tab, cursor := none }
  | .passed passed _ resolved =>
      let typed := passed.type resolved.promote
      typed.leftByReading (typed.buffer.text != session.buffer.text || typed.reading.isNone)

/-- What is left of a started session when a key cannot read the exchange. -/
def leftByTake (session : CaptureSession) (key : Key) : CaptureSession :=
  let pressed := { session with lastKey := key }
  if session.state = .editing then
    match session.cursor with
    | some cursor => pressed.withEditor ((Editor.mk session.buffer cursor false).handle key).2
    | none => { pressed with state := .collecting }.leftByCollect key
  else pressed.leftByCollect key

/-- What is left of a session when an operation cannot read the exchange. -/
def leftBy (session : CaptureSession) : Operation → CaptureSession
  | .start prefill recalled => session.begun prefill recalled
  | .press key =>
      match session.ensureStarted with
      | .error _ => session.begun [] []
      | .ok started => started.leftByTake key
  | .abort => session

/-- The session after an operation, whether it succeeds or fails. -/
def attempt (session : CaptureSession) (operation : Operation) : CaptureSession :=
  match session.operate operation with
  | .ok (next, _) => next
  | .error _ => session.leftBy operation

/-- The session after operations, one after the other. -/
def attemptAll (session : CaptureSession) (operations : List Operation) : CaptureSession :=
  operations.foldl attempt session

/-- A run in which everything succeeds attempts the same operations. -/
theorem attemptAll_of_run {session last : CaptureSession} {operations : List Operation}
    (done : session.run operations = .ok last) : session.attemptAll operations = last := by
  induction operations generalizing session with
  | nil =>
      cases done
      rfl
  | cons operation rest inductionHypothesis =>
      rcases operate_of_run_cons done with ⟨next, transition, operated, continued⟩
      have attempted : session.attempt operation = next := by rw [attempt, operated]
      rw [attemptAll, List.foldl_cons, attempted]
      exact inductionHypothesis continued

section Attempt

variable {session : CaptureSession}

theorem adds_leftByReading (needed : CaptureSession → Bool)
    (same : ∀ log, needed (session.withLog log) = needed session) :
    Adds id 2 (fun session => session.leftByReading (needed session)) session := by
  have keeps (fault : Fault) : Adds id 2 (fun session => session) session :=
    adds_nothing fun _ => rfl
  have pads (shown : List Action) (read : CaptureSession) : Adds id 1 aligned read := adds_aligned
  refine (adds_validateIf same).of_outcome keeps pads fun session => ?_
  rw [leftByReading]
  cases session.validateIf (needed session) with
  | error fault => rfl
  | ok outcome => rfl

theorem adds_leftByCollect (key : Key) : Adds id 3 (leftByCollect · key) session := by
  have settles (actions : List Action) (next : CaptureSession) :
      Adds id 2 (fun session => session) next := adds_nothing fun _ => rfl
  have ends (actions : List Action) (next : CaptureSession) : Adds id 2 (fun session =>
      { session with state := .back, lastKey := .tab, cursor := none }) next :=
    adds_nothing fun _ => rfl
  have reads (text : Text) (resolved : Key) (next : CaptureSession) : Adds id 2 (fun session =>
      (session.type resolved).leftByReading
        ((session.type resolved).buffer.text != text ||
          (session.type resolved).reading.isNone)) next :=
    (adds_type resolved).after (adds_leftByReading
      (fun typed => typed.buffer.text != text || typed.reading.isNone) fun _ => rfl)
  exact adds_of_respond settles ends (fun text actions resolved next =>
    reads text resolved.promote next) fun _ => rfl

theorem adds_leftByTake (key : Key) : Adds id 3 (leftByTake · key) session := by
  have collects : Adds id 3 (fun session => { session with lastKey := key }.leftByCollect key)
      session :=
    .of_next { session with lastKey := key } [] (Nat.le_refl 0) (adds_leftByCollect key) rfl
      fun _ => rfl
  refine .ite (fun _ => rfl) ?_ collects
  cases placed : session.cursor with
  | some cursor =>
      refine adds_nothing fun log => ?_
      have placedToo : (session.withLog log).cursor = some cursor := placed
      rw [placed, placedToo]
      rfl
  | none =>
      refine .of_next { session with lastKey := key, state := .collecting } [] (Nat.le_refl 0)
        (adds_leftByCollect key) ?_ fun log => ?_
      · simp only [placed]
      · simp only [withLog, placed, Log.recordAll, List.foldl_nil]

theorem adds_leftBy (operation : Operation) : Adds id 6 (leftBy · operation) session := by
  cases operation with
  | abort => exact adds_nothing fun _ => rfl
  | start prefill recalled => exact (adds_begun prefill recalled).mono (by decide)
  | press key =>
      have begins (fault : Fault) : Adds id 6 (begun · [] []) session :=
        (adds_begun [] []).mono (by decide)
      refine adds_of_ensureStarted begins (fun _ => adds_leftByTake key) ?_ ?_
      · intro session fault failed
        rw [leftBy, failed]
      · intro session started opened
        rw [leftBy, opened]

theorem adds_operate (operation : Operation) : Adds inOutcome 8 (operate · operation) session := by
  cases operation with
  | start prefill recalled => exact (adds_start prefill recalled).mono (by decide)
  | press key => exact adds_step key
  | abort =>
      refine ⟨[⟨.aborted, .aborted⟩], by decide, fun _ => rfl⟩

theorem adds_attempt (operation : Operation) : Adds id 8 (attempt · operation) session := by
  have operates : Adds inOutcome 8 (operate · operation) session := adds_operate operation
  have leaves (fault : Fault) : Adds id 8 (leftBy · operation) session :=
    (adds_leftBy operation).mono (by decide)
  have keeps (transition : Transition) (next : CaptureSession) :
      Adds id 0 (fun session => session) next := adds_nothing fun _ => rfl
  refine operates.of_outcome leaves keeps fun session => ?_
  rw [attempt]
  cases session.operate operation with
  | error fault => rfl
  | ok outcome => rfl

end Attempt

/-! ## The notes of a run -/

/-- What an operation notes: what it leaves in an empty log. -/
def noted (session : CaptureSession) (operation : Operation) : List LogEntry :=
  ((session.withLog []).attempt operation).log

/-- What operations note, one after the other. -/
def notes (session : CaptureSession) : List Operation → List LogEntry
  | [] => []
  | operation :: rest => session.noted operation ++ (session.attempt operation).notes rest

theorem log_attempt (session : CaptureSession) (operation : Operation) :
    (session.noted operation).length ≤ 8 ∧
      (session.attempt operation).log = session.log.recordAll (session.noted operation) := by
  have attempts : Adds id 8 (attempt · operation) session := adds_attempt operation
  rcases attempts with ⟨entries, few, added⟩
  have short : entries.length ≤ 2000 := Nat.le_trans few (by decide)
  have whole : session.noted operation = entries := by
    have fresh := congrArg CaptureSession.log (added [])
    refine fresh.trans ((Log.recordAll_nil entries).trans ?_)
    rw [Log.kept, if_pos short, Nat.sub_self, List.drop_zero]
  rw [whole]
  exact ⟨few, congrArg CaptureSession.log (added session.log)⟩

theorem log_attemptAll (session : CaptureSession) (operations : List Operation) :
    (session.attemptAll operations).log = session.log.recordAll (session.notes operations) := by
  induction operations generalizing session with
  | nil => rfl
  | cons operation rest inductionHypothesis =>
      have later := inductionHypothesis (session.attempt operation)
      rw [(log_attempt session operation).2, ← Log.recordAll_append] at later
      exact later

/-- Whatever is started, pressed and aborted in a session that has noted nothing, and whether or not
it succeeds, the log holds the latest notes of all in order: all of them up to two thousand, and from
then on between a thousand and two thousand, as many as `Log.kept` says. -/
theorem log_latest {fresh : CaptureSession} (empty : fresh.log = []) (operations : List Operation) :
    (fresh.attemptAll operations).log =
        (fresh.notes operations).drop
          ((fresh.notes operations).length - Log.kept (fresh.notes operations).length) ∧
      (fresh.attemptAll operations).log.length = Log.kept (fresh.notes operations).length ∧
      (fresh.attemptAll operations).log.length ≤ 2000 ∧
      min (fresh.notes operations).length 1000 ≤ (fresh.attemptAll operations).log.length := by
  have latest : (fresh.attemptAll operations).log =
      (fresh.notes operations).drop
        ((fresh.notes operations).length - Log.kept (fresh.notes operations).length) := by
    rw [log_attemptAll, empty, Log.recordAll_nil]
  have bounds := Log.kept_le (fresh.notes operations).length
  have count : (fresh.attemptAll operations).log.length =
      Log.kept (fresh.notes operations).length := by
    rw [latest, List.length_drop]
    omega
  rw [count]
  exact ⟨latest, rfl, bounds.2, Log.latest_le_kept _⟩

/-- A contest of serials that are padded. -/
def paddedSerials : Rule := { Rule.basic "WPX" .serial 12 with padding := .wpx }

/-- A key that cannot read the exchange has padded it before and noted that.  Together with the start
and with one abort after the other the notes outgrow the log, which is then cut for the first time. -/
theorem log_latest_of_many_aborts :
    ∃ fresh, create paddedSerials (Extractor.ofRule paddedSerials ⟨[]⟩ .builtIn) {} {} =
        .ok fresh ∧
      fresh.run [.start ['²'] [], .press .lineFeed] = .error .unreadableNumber ∧
      (fresh.notes (.start ['²'] [] :: .press .lineFeed :: List.replicate 1999 .abort)).length =
        2001 ∧
      (fresh.attemptAll
        (.start ['²'] [] :: .press .lineFeed :: List.replicate 1999 .abort)).log.length = 1000 := by
  refine ⟨_, rfl, rfl, ?_, ?_⟩
  · decide +kernel
  · refine (log_latest rfl _).2.1.trans ?_
    decide +kernel

end CaptureSession
end ContestExchange
