import ContestExchange.Proofs.Completion
import ContestExchange.Proofs.SessionRun

namespace ContestExchange

/-!
# What an operation notes

Nothing that a session does depends on its log, and to the log it only adds.  So an operation notes
the same whatever was noted before, and everything else that it leaves is the same as well.  `Adds`
says this of one function of sessions, with a bound on how much it notes.  It is shown for the
functions that note something, and from there for those that call them, up to a key.

The functions come to different things: to a session, to a session beside what is shown, or to what a
key asks for at first sight.  `Adds` is therefore told how the session in an outcome is changed.
-/

namespace Log

/-- Adds entries, one after the other. -/
def recordAll (log : Log) (entries : List LogEntry) : Log := entries.foldl record log

theorem recordAll_append (log : Log) (first second : List LogEntry) :
    log.recordAll (first ++ second) = (log.recordAll first).recordAll second :=
  List.foldl_append

end Log

namespace CaptureSession

/-! ## Functions that add to the log -/

/-- The session with another log. -/
def withLog (session : CaptureSession) (log : Log) : CaptureSession := { session with log := log }

/-- A change of the session in an outcome. -/
def inOutcome {Shown : Type} (change : CaptureSession → CaptureSession)
    (outcome : Except Fault (CaptureSession × Shown)) : Except Fault (CaptureSession × Shown) :=
  outcome.map fun done => (change done.1, done.2)

/-- A change of the session in a response. -/
def inResponse (change : CaptureSession → CaptureSession) : Response → Response
  | .settled session actions => .settled (change session) actions
  | .backed session actions => .backed (change session) actions
  | .passed session actions key => .passed (change session) actions key

/-- Whether what a function makes of a session depends on its log only in that some entries, no more
than `most` and always the same, are recorded. -/
def Adds {Outcome : Type} (inside : (CaptureSession → CaptureSession) → Outcome → Outcome)
    (most : Nat) (function : CaptureSession → Outcome) (session : CaptureSession) : Prop :=
  ∃ entries : List LogEntry, entries.length ≤ most ∧
    ∀ log, function (session.withLog log) =
      inside (fun after => after.withLog (log.recordAll entries)) (function session)

section Adds

variable {Outcome Shown : Type}
  {inside : (CaptureSession → CaptureSession) → Outcome → Outcome} {most : Nat}
  {session : CaptureSession}

theorem Adds.mono {function : CaptureSession → Outcome} {more : Nat}
    (adds : Adds inside most function session) (room : most ≤ more) :
    Adds inside more function session := by
  rcases adds with ⟨entries, few, same⟩
  exact ⟨entries, Nat.le_trans few room, same⟩

theorem Adds.congr {function other : CaptureSession → Outcome} (adds : Adds inside most other session)
    (here : function session = other session)
    (same : ∀ log, function (session.withLog log) = other (session.withLog log)) :
    Adds inside most function session := by
  rcases adds with ⟨entries, few, added⟩
  refine ⟨entries, few, fun log => ?_⟩
  rw [same, here, added]

/-- A function that leaves the log alone. -/
theorem adds_nothing {function : CaptureSession → Outcome}
    (same : ∀ log, function (session.withLog log) =
      inside (fun after => after.withLog log) (function session)) :
    Adds inside most function session :=
  ⟨[], Nat.zero_le most, same⟩

theorem Adds.ite {condition : CaptureSession → Prop} [DecidablePred condition]
    {here there : CaptureSession → Outcome}
    (same : ∀ log, condition (session.withLog log) = condition session)
    (holds : Adds inside most here session) (fails : Adds inside most there session) :
    Adds inside most (fun session => if condition session then here session else there session)
      session := by
  by_cases met : condition session
  · rcases holds with ⟨entries, few, added⟩
    refine ⟨entries, few, fun log => ?_⟩
    have metToo : condition (session.withLog log) := (same log).symm ▸ met
    dsimp only
    rw [if_pos met, if_pos metToo, added]
  · rcases fails with ⟨entries, few, added⟩
    refine ⟨entries, few, fun log => ?_⟩
    have notMet : ¬ condition (session.withLog log) := (same log).symm ▸ met
    dsimp only
    rw [if_neg met, if_neg notMet, added]

/-- A function that comes to what another one makes of a session that it has got to. -/
theorem Adds.of_next {function later : CaptureSession → Outcome} {more : Nat}
    (next : CaptureSession) (entries : List LogEntry) (few : entries.length ≤ most)
    (goesOn : Adds inside more later next) (here : function session = later next)
    (same : ∀ log, function (session.withLog log) = later (next.withLog (log.recordAll entries))) :
    Adds inside (most + more) function session := by
  rcases goesOn with ⟨others, fewer, added⟩
  refine ⟨entries ++ others, ?_, fun log => ?_⟩
  · rw [List.length_append]
    exact Nat.add_le_add few fewer
  · rw [same, added, here, Log.recordAll_append]

/-- A function of what another one leaves. -/
theorem Adds.after {first : CaptureSession → CaptureSession} {second : CaptureSession → Outcome}
    {more : Nat} (earlier : Adds id most first session)
    (later : Adds inside more second (first session)) :
    Adds inside (most + more) (fun session => second (first session)) session := by
  rcases earlier with ⟨entries, few, added⟩
  exact .of_next (first session) entries few later rfl fun log => congrArg second (added log)

/-- A function that goes on from what another one leaves, and from the session itself where that
fails. -/
theorem Adds.of_outcome {first : CaptureSession → Except Fault (CaptureSession × Shown)}
    {function : CaptureSession → Outcome} {failed : Fault → CaptureSession → Outcome}
    {later : Shown → CaptureSession → Outcome} {more : Nat}
    (earlier : Adds inOutcome most first session)
    (fails : ∀ fault, Adds inside (most + more) (failed fault) session)
    (goesOn : ∀ shown next, Adds inside more (later shown) next)
    (cases_eq : ∀ session, function session =
      match first session with
      | .error fault => failed fault session
      | .ok (next, shown) => later shown next) :
    Adds inside (most + more) function session := by
  rcases earlier with ⟨entries, few, added⟩
  cases made : first session with
  | error fault =>
      refine (fails fault).congr ?_ fun log => ?_
      · rw [cases_eq, made]
      · rw [cases_eq, added, made]
        rfl
  | ok outcome =>
      refine .of_next outcome.1 entries few (goesOn outcome.2 outcome.1) ?_ fun log => ?_
      · rw [cases_eq, made]
      · rw [cases_eq, added, made]
        rfl

theorem adds_note (noted : CaptureSession → Note)
    (same : ∀ log, noted (session.withLog log) = noted session) :
    Adds id 1 (fun session => session.note (noted session)) session := by
  refine ⟨[⟨session.state, noted session⟩], Nat.le_refl 1, fun log => ?_⟩
  dsimp only
  rw [same]
  rfl

end Adds

/-! ## Reading the line -/

section Reading

variable {session : CaptureSession}

theorem adds_validate : Adds inOutcome 1 validate session := by
  cases extracted : session.extractor.extract true session.buffer.text with
  | error fault =>
      refine adds_nothing fun log => ?_
      have extractedToo : (session.withLog log).extractor.extract true
          (session.withLog log).buffer.text = .error fault := extracted
      rw [validate, validate, extracted, extractedToo]
      rfl
  | ok reading =>
      have read (log : Log) : (session.withLog log).extractor.extract true
          (session.withLog log).buffer.text = .ok reading := extracted
      have corrects (log : Log) :
          { session.withLog log with reading := some reading }.correction? reading =
            { session with reading := some reading }.correction? reading := rfl
      cases corrected : { session with reading := some reading }.correction? reading with
      | none =>
          refine adds_nothing fun log => ?_
          simp only [validate, extracted, read, correctCall, corrects, corrected]
          rfl
      | some call =>
          refine ⟨[⟨session.state, .callCorrected session.contact.call call⟩], Nat.le_refl 1,
            fun log => ?_⟩
          simp only [validate, extracted, read, correctCall, corrects, corrected]
          rfl

theorem adds_validateIf {needed : CaptureSession → Bool}
    (same : ∀ log, needed (session.withLog log) = needed session) :
    Adds inOutcome 1 (fun session => session.validateIf (needed session)) session := by
  refine .ite (fun log => ?_) adds_validate (adds_nothing fun _ => rfl)
  rw [same]
  rfl

end Reading

/-! ## Ending -/

section Ending

variable {session : CaptureSession}

theorem adds_stay (actions : List Action) :
    Adds inOutcome 0 (fun session => .ok (session.stay actions)) session :=
  adds_nothing fun _ => rfl

theorem adds_finish (state : CaptureState) (key : Key) (actions : List Action) :
    Adds inOutcome 1 (finish · state key actions) session := by
  refine ⟨[⟨state, .finished session.buffer.text state⟩], Nat.le_refl 1, fun log => ?_⟩
  have readToo : (session.withLog log).reading = session.reading := rfl
  unfold finish readOnce
  dsimp only
  rw [readToo]
  cases session.reading with
  | some reading => rfl
  | none =>
      have extractedToo : (session.withLog log).extractor.extract false
          (session.withLog log).buffer.text =
            session.extractor.extract false session.buffer.text := rfl
      dsimp only
      rw [extractedToo]
      cases session.extractor.extract false session.buffer.text with
      | error fault => rfl
      | ok reading => rfl

/-- Something is lacking: that is noted, and the session stays. -/
theorem adds_note_stay (noted : CaptureSession → Note)
    (same : ∀ log, noted (session.withLog log) = noted session) (actions : List Action) :
    Adds inOutcome 1 (fun session => .ok ((session.note (noted session)).stay actions)) session :=
  (adds_note noted same).after (adds_stay actions)

theorem adds_conclude (reading : Extraction) (key : Key) (actions : List Action) :
    Adds inOutcome 2 (conclude · reading key actions) session := by
  have accepts (shown : List Action) : Adds inOutcome 2 (finish · .complete key shown) session :=
    (adds_finish .complete key shown).mono (Nat.le_succ 1)
  have rejects : Adds inOutcome 2 (fun session =>
      (session.note (.sectionMissing session.buffer.text)).finish .rejected key
        (actions ++ [.notify Prompt.ofSection.message])) session :=
    (adds_note (fun session => .sectionMissing session.buffer.text) fun _ => rfl).after
      (adds_finish _ _ _)
  have asks (prompt : Prompt) : Adds inOutcome 2 (fun session => .ok (session.ask prompt actions))
      session :=
    (adds_note_stay (fun session => .prompted prompt session.buffer.text) (fun _ => rfl) _).mono
      (Nat.le_succ 1)
  have stays : Adds inOutcome 2 (fun session => .ok ((session.note .stateProvinceMissing).stay
      (actions ++ [.notify Prompt.ofStateProvince.message]))) session :=
    (adds_note_stay (fun _ => .stateProvinceMissing) (fun _ => rfl) _).mono (Nat.le_succ 1)
  unfold conclude
  refine .ite (fun _ => rfl) (asks .ofSection) ?_
  refine .ite (fun _ => rfl) (.ite (fun _ => rfl) (accepts actions) rejects) ?_
  refine .ite (fun _ => rfl) (asks .ofLocator) ?_
  exact .ite (fun _ => rfl) (.ite (fun _ => rfl) stays (accepts _)) (accepts actions)

theorem adds_alignSerial : Adds id 1 alignSerial session := by
  unfold alignSerial
  refine .ite (fun _ => rfl) (adds_nothing fun _ => rfl) ?_
  refine .ite (fun _ => rfl) ?_ (adds_nothing fun _ => rfl)
  exact ⟨[⟨session.state, .serialAligned (Serial.pad session.rule.padding
    (some session.buffer.width) session.buffer.text)⟩], Nat.le_refl 1, fun _ => rfl⟩

theorem adds_aligned : Adds id 1 aligned session :=
  .ite (fun _ => rfl) adds_alignSerial (adds_nothing fun _ => rfl)

theorem adds_complete (key : Key) (actions : List Action) :
    Adds inOutcome 3 (complete · key actions) session := by
  cases extracted : session.extractor.extract false session.completedText with
  | error fault =>
      refine adds_nothing fun log => ?_
      have extractedToo : (session.withLog log).extractor.extract false
          (session.withLog log).completedText = .error fault := extracted
      rw [complete_eq, complete_eq, extracted, extractedToo]
      rfl
  | ok reading =>
      have reads : Adds id 0 (fun session => { session with reading := some reading })
          session.aligned := adds_nothing fun _ => rfl
      have judges : Adds id 1 (judged · reading) session := adds_aligned.after reads
      rcases judges.after (adds_conclude reading key actions) with ⟨entries, few, added⟩
      refine ⟨entries, few, fun log => ?_⟩
      have extractedToo : (session.withLog log).extractor.extract false
          (session.withLog log).completedText = .ok reading := extracted
      dsimp only
      rw [complete_eq, complete_eq, extracted, extractedToo]
      exact added log

end Ending

/-! ## Taking a key -/

section Keys

variable {session : CaptureSession}

theorem adds_edited (position : Option Int) :
    Adds inResponse 1 (edited · position) session := by
  unfold edited
  refine .ite (fun _ => rfl) (adds_nothing fun _ => rfl) ?_
  exact ⟨[⟨.editing, .editing⟩], Nat.le_refl 1, fun _ => rfl⟩

/-- At first sight only editing is noted. -/
theorem adds_respond (key : Key) : Adds inResponse 1 (respond · key) session := by
  have quiet {response : CaptureSession → Response}
      (same : ∀ log, response (session.withLog log) =
        inResponse (fun after => after.withLog log) (response session)) :
      Adds inResponse 1 response session := adds_nothing same
  unfold respond escaped plused entered
  refine .ite (fun _ => rfl) (quiet fun _ => rfl) ?_
  refine .ite (fun _ => rfl) (quiet fun _ => rfl) ?_
  refine .ite (fun _ => rfl) (quiet fun _ => rfl) ?_
  refine .ite (fun _ => rfl) ?_ ?_
  · exact .ite (fun _ => rfl) (quiet fun _ => rfl) (quiet fun _ => rfl)
  refine .ite (fun _ => rfl) (quiet fun _ => rfl) ?_
  refine .ite (fun _ => rfl) ?_ ?_
  · refine .ite (fun _ => rfl) ?_ (quiet fun _ => rfl)
    exact .ite (fun _ => rfl) (quiet fun _ => rfl) (quiet fun _ => rfl)
  refine .ite (fun _ => rfl) (quiet fun _ => rfl) ?_
  refine .ite (fun _ => rfl) (quiet fun _ => rfl) ?_
  refine .ite (fun _ => rfl) (quiet fun _ => rfl) ?_
  refine .ite (fun _ => rfl) (quiet fun _ => rfl) ?_
  refine .ite (fun _ => rfl) (adds_edited _) ?_
  refine .ite (fun _ => rfl) (adds_edited _) ?_
  refine .ite (fun _ => rfl) (quiet fun _ => rfl) ?_
  refine .ite (fun _ => rfl) (quiet fun _ => rfl) ?_
  refine .ite (fun _ => rfl) (quiet fun _ => rfl) ?_
  refine .ite (fun _ => rfl) ?_ (quiet fun _ => rfl)
  exact .ite (fun _ => rfl) (quiet fun _ => rfl) (quiet fun _ => rfl)

theorem adds_type (key : Key) : Adds id 0 (type · key) session := by
  unfold type
  exact .ite (fun _ => rfl) (adds_nothing fun _ => rfl) (adds_nothing fun _ => rfl)

/-- A function that reads the line if there is need and goes on with what it has read. -/
theorem adds_of_validateIf {Shown : Type} {most : Nat}
    {function : CaptureSession → Except Fault (CaptureSession × Shown)}
    {later : List Action → CaptureSession → Except Fault (CaptureSession × Shown)}
    (needed : CaptureSession → Bool)
    (same : ∀ log, needed (session.withLog log) = needed session)
    (goesOn : ∀ shown read, Adds inOutcome most (later shown) read)
    (cases_eq : ∀ session, function session =
      match session.validateIf (needed session) with
      | .error fault => .error fault
      | .ok (read, shown) => later shown read) :
    Adds inOutcome (1 + most) function session := by
  have fails (fault : Fault) : Adds inOutcome (1 + most)
      (fun _ => (.error fault : Except Fault (CaptureSession × Shown))) session :=
    adds_nothing fun _ => rfl
  refine (adds_validateIf same).of_outcome fails goesOn fun session => ?_
  rw [cases_eq]
  cases session.validateIf (needed session) with
  | error fault => rfl
  | ok outcome => rfl

/-- A function of what a key asks for at first sight, and of the text before the key. -/
theorem adds_of_respond {Outcome : Type}
    {inside : (CaptureSession → CaptureSession) → Outcome → Outcome} {most : Nat}
    {function : CaptureSession → Outcome} {settles backs : List Action → CaptureSession → Outcome}
    {passes : Text → List Action → Key → CaptureSession → Outcome} {key : Key}
    (settled : ∀ actions next, Adds inside most (settles actions) next)
    (backed : ∀ actions next, Adds inside most (backs actions) next)
    (passed : ∀ text actions resolved next, Adds inside most (passes text actions resolved) next)
    (cases_eq : ∀ session, function session =
      match session.respond key with
      | .settled next actions => settles actions next
      | .backed next actions => backs actions next
      | .passed next actions resolved => passes session.buffer.text actions resolved next) :
    Adds inside (1 + most) function session := by
  have responds : Adds inResponse 1 (respond · key) session := adds_respond key
  rcases responds with ⟨entries, few, added⟩
  dsimp only at added
  cases response : session.respond key with
  | settled next actions =>
      refine .of_next next entries few (settled actions next) ?_ fun log => ?_
      · rw [cases_eq, response]
      · rw [cases_eq, added, response]
        rfl
  | backed next actions =>
      refine .of_next next entries few (backed actions next) ?_ fun log => ?_
      · rw [cases_eq, response]
      · rw [cases_eq, added, response]
        rfl
  | passed next actions resolved =>
      refine .of_next next entries few (passed session.buffer.text actions resolved next) ?_
        fun log => ?_
      · rw [cases_eq, response]
      · rw [cases_eq, added, response]
        rfl

theorem adds_collect (key : Key) : Adds inOutcome 5 (collect · key) session := by
  have stays (actions : List Action) (next : CaptureSession) :
      Adds inOutcome 4 (fun session => .ok (session.stay actions)) next :=
    (adds_stay actions).mono (Nat.zero_le 4)
  have ends (actions : List Action) (next : CaptureSession) :
      Adds inOutcome 4 (finish · .back .tab actions) next :=
    (adds_finish .back .tab actions).mono (by decide)
  have completes (resolved : Key) (actions shown : List Action) (read : CaptureSession) :
      Adds inOutcome 3 (fun session =>
        if resolved.isCompleting then session.complete resolved (actions ++ shown)
        else .ok (session.stay (actions ++ shown))) read :=
    .ite (fun _ => rfl) (adds_complete _ _) ((adds_stay _).mono (Nat.zero_le 3))
  have reads (text : Text) (actions : List Action) (resolved : Key) (next : CaptureSession) :
      Adds inOutcome 4 (fun session =>
        match session.validateIf (session.buffer.text != text || session.reading.isNone) with
        | .error fault => .error fault
        | .ok (session, shown) =>
            if resolved.isCompleting then session.complete resolved (actions ++ shown)
            else .ok (session.stay (actions ++ shown))) next :=
    adds_of_validateIf (fun session => session.buffer.text != text || session.reading.isNone)
      (fun _ => rfl) (completes resolved actions) fun _ => rfl
  exact adds_of_respond stays ends
    (fun text actions resolved next =>
      (adds_type resolved.promote).after (reads text actions resolved.promote _))
    fun session => rfl

theorem adds_edit (cursor : Nat) (key : Key) : Adds inOutcome 1 (edit · cursor key) session := by
  have goesOn (shown : List Action) (read : CaptureSession) :
      Adds inOutcome 0 (fun read =>
        if ((Editor.mk session.buffer cursor false).handle key).1 then .ok (read.stay shown)
        else .ok ({ read with cursor := none, state := .collecting }.stay shown)) read :=
    .ite (fun _ => rfl) (adds_stay _) (adds_nothing fun _ => rfl)
  have reads : Adds inOutcome 1 (fun edited =>
      match edited.validateIf (edited.buffer.text != session.buffer.text) with
      | .error fault => .error fault
      | .ok (read, shown) =>
          if ((Editor.mk session.buffer cursor false).handle key).1 then .ok (read.stay shown)
          else .ok ({ read with cursor := none, state := .collecting }.stay shown))
      (session.withEditor ((Editor.mk session.buffer cursor false).handle key).2) :=
    adds_of_validateIf (fun edited => edited.buffer.text != session.buffer.text) (fun _ => rfl)
      goesOn fun _ => rfl
  exact .of_next _ [] (Nat.le_refl 0) reads rfl fun _ => rfl

theorem adds_take (key : Key) : Adds inOutcome 5 (take · key) session := by
  unfold take
  refine .ite (fun _ => rfl) (adds_nothing fun _ => rfl) ?_
  by_cases editing : session.state = .editing
  · cases placed : session.cursor with
    | some cursor =>
        refine .mono (.of_next { session with lastKey := key } [] (Nat.le_refl 0)
          (adds_edit cursor key) ?_ fun log => ?_) (by decide)
        · simp only [editing, placed]
        · simp only [withLog, editing, placed, Log.recordAll, List.foldl_nil]
    | none =>
        refine .mono (.of_next { session with lastKey := key, state := .collecting } []
          (Nat.le_refl 0) (adds_collect key) ?_ fun log => ?_) (by decide)
        · simp only [editing, placed]
        · simp only [withLog, editing, placed, Log.recordAll, List.foldl_nil]
  · refine .mono (.of_next { session with lastKey := key } [] (Nat.le_refl 0)
      (adds_collect key) ?_ fun log => ?_) (by decide)
    · dsimp only
      split
      · rename_i opened _
        exact absurd opened editing
      · rename_i opened _
        exact absurd opened editing
      · rfl
    · dsimp only [withLog]
      split
      · rename_i opened _
        exact absurd opened editing
      · rename_i opened _
        exact absurd opened editing
      · rfl

end Keys

/-! ## Operations -/

section Operations

variable {session : CaptureSession}

theorem adds_fill (text : Text) : Adds id 1 (fill · text) session := by
  unfold fill
  refine .ite (fun _ => rfl) (adds_nothing fun _ => rfl) ?_
  exact ⟨[⟨session.state, .prefillIgnored text session.buffer.width⟩], Nat.le_refl 1, fun _ => rfl⟩

theorem adds_begun (prefill recalled : Text) : Adds id 2 (begun · prefill recalled) session := by
  have opens (filled : CaptureSession) : Adds id 1 (fun session =>
      { session with state := .collecting, reading := none, cursor := none }.note
        (.started session.contact.call)) filled :=
    ⟨[⟨.collecting, .started filled.contact.call⟩], Nat.le_refl 1, fun _ => rfl⟩
  have fills : Adds id 1 (fill · (session.startText prefill recalled)) session := adds_fill _
  rcases fills with ⟨entries, few, added⟩
  exact .of_next (session.fill (session.startText prefill recalled)) entries few (opens _) rfl
    fun log => congrArg (fun session : CaptureSession =>
      { session with state := .collecting, reading := none, cursor := none }.note
        (.started session.contact.call)) (added log)

/-- A start opens the session, reads the line it starts with, and shows it. -/
theorem start_eq (session : CaptureSession) (prefill recalled : Text) :
    session.start prefill recalled =
      ((session.begun prefill recalled).validateIf true).map fun read =>
        (read.1, { state := read.1.state, actions := read.2 ++ [read.1.refresh] }) := by
  unfold start
  dsimp only
  split
  · rename_i fault failed
    have failing : (session.begun prefill recalled).validateIf true = .error fault := failed
    rw [failing]
    rfl
  · rename_i read shown validated
    have opened : (session.begun prefill recalled).validateIf true = .ok (read, shown) := validated
    rw [opened]
    rfl

theorem adds_start (prefill recalled : Text) :
    Adds inOutcome 3 (start · prefill recalled) session := by
  have begins : Adds id 2 (begun · prefill recalled) session := adds_begun prefill recalled
  have shows (shown : List Action) (read : CaptureSession) : Adds inOutcome 0 (fun session =>
      .ok (session, ({ state := session.state, actions := shown ++ [session.refresh] } :
        Transition))) read := adds_nothing fun _ => rfl
  have opens : Adds inOutcome 1 (fun begun => (begun.validateIf true).map fun read =>
      (read.1, ({ state := read.1.state, actions := read.2 ++ [read.1.refresh] } : Transition)))
      (session.begun prefill recalled) := by
    refine adds_of_validateIf (fun _ => true) (fun _ => rfl) shows fun begun => ?_
    cases begun.validateIf true with
    | error fault => rfl
    | ok outcome => rfl
  exact (begins.after opens).congr (start_eq session prefill recalled) fun log =>
    start_eq (session.withLog log) prefill recalled

/-- A function that starts a session if nothing has, and goes on with the started one. -/
theorem adds_of_ensureStarted {Outcome : Type}
    {inside : (CaptureSession → CaptureSession) → Outcome → Outcome} {most : Nat}
    {function : CaptureSession → Outcome} {failed : Fault → CaptureSession → Outcome}
    {later : CaptureSession → Outcome}
    (fails : ∀ fault, Adds inside (3 + most) (failed fault) session)
    (goesOn : ∀ started, Adds inside most later started)
    (onFault : ∀ session fault, session.ensureStarted = .error fault →
      function session = failed fault session)
    (onStarted : ∀ session started, session.ensureStarted = .ok started →
      function session = later started) :
    Adds inside (3 + most) function session := by
  by_cases idle : session.state = .idle
  · have starts : Adds inOutcome 3 (start · [] []) session := adds_start [] []
    rcases starts with ⟨entries, few, added⟩
    dsimp only at added
    have opens (other : CaptureSession) (idle : other.state = .idle) :
        other.ensureStarted = (other.start [] []).map (·.1) := if_pos idle
    cases started : session.start [] [] with
    | error fault =>
        have failsNow : session.ensureStarted = .error fault := by
          rw [opens session idle, started]
          rfl
        have failsToo (log : Log) : (session.withLog log).ensureStarted = .error fault := by
          rw [opens (session.withLog log) idle, added, started]
          rfl
        exact (fails fault).congr (onFault session fault failsNow) fun log =>
          onFault _ fault (failsToo log)
    | ok outcome =>
        have goesNow : session.ensureStarted = .ok outcome.1 := by
          rw [opens session idle, started]
          rfl
        have goesToo (log : Log) : (session.withLog log).ensureStarted =
            .ok (outcome.1.withLog (log.recordAll entries)) := by
          rw [opens (session.withLog log) idle, added, started]
          rfl
        exact .of_next outcome.1 entries few (goesOn outcome.1)
          (onStarted session outcome.1 goesNow) fun log => onStarted _ _ (goesToo log)
  · have goesToo (log : Log) : (session.withLog log).ensureStarted = .ok (session.withLog log) :=
      if_neg idle
    exact ((goesOn session).mono (Nat.le_add_left most 3)).congr
      (onStarted session session (if_neg idle)) fun log => onStarted _ _ (goesToo log)

theorem adds_step (key : Key) : Adds inOutcome 8 (step · key) session := by
  have fails (fault : Fault) : Adds inOutcome 8
      (fun _ => (.error fault : Except Fault (CaptureSession × Transition))) session :=
    adds_nothing fun _ => rfl
  refine adds_of_ensureStarted fails (fun _ => adds_take key) ?_ ?_
  · intro session fault failed
    rw [step, failed]
  · intro session started opened
    rw [step, opened]

end Operations

end CaptureSession
end ContestExchange
