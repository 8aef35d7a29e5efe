import ContestExchange.Proofs.Announcement
import ContestExchange.Proofs.CompletionGate
import ContestExchange.Proofs.SessionNotes

namespace ContestExchange

/-!
# A restart isolates sessions

One session object serves one contact after the other, so whatever the last capture has left in it
must not show in the next one.  Starting resets the line, the reading, the editor and the state.  Two
fields it leaves alone: the key that counts as the last one, and the log.

The log is only ever added to, so keys have the same effect in sessions that differ in their logs
alone.  The last key is shown, by the keys of an ended session and in the result, but the first key
after the start replaces it before anything shows it.  So two sessions of one setting with equal
contacts behave alike from a start on, as soon as a key has been taken.  `Agree` relates two sessions
that may differ in the two fields.
-/

namespace CaptureSession

/-! ## Sessions that agree -/

/-- Sessions that agree in everything but the log, and in their last keys as far as is asked. -/
def Agree (Keys : Key → Key → Prop) (first second : CaptureSession) : Prop :=
  ∃ key log, Keys first.lastKey key ∧ second = { first with lastKey := key, log := log }

/-- Sessions that may have noted different things. -/
abbrev SameButLog : CaptureSession → CaptureSession → Prop := Agree Eq

/-- Sessions that may have noted different things and taken different keys. -/
abbrev SameButHistory : CaptureSession → CaptureSession → Prop := Agree fun _ _ => True

/-- Whether a change of a session depends on neither field, keeps the last key, and at most adds to
the log. -/
def Frames (change : CaptureSession → CaptureSession) : Prop :=
  ∀ session key log, ∃ later, change { session with lastKey := key, log := log } =
    { change session with lastKey := key, log := later }

/-- Outcomes that are alike: the same failure, or the same shown beside related sessions. -/
inductive Alike {Shown : Type} (Related : CaptureSession → CaptureSession → Prop) :
    Except Fault (CaptureSession × Shown) → Except Fault (CaptureSession × Shown) → Prop where
  | failed (fault : Fault) : Alike Related (.error fault) (.error fault)
  | done {first second : CaptureSession} (related : Related first second) (shown : Shown) :
      Alike Related (.ok (first, shown)) (.ok (second, shown))

theorem Alike.ite {Shown : Type} {Related : CaptureSession → CaptureSession → Prop}
    {condition : Prop} [Decidable condition]
    {here there otherHere otherThere : Except Fault (CaptureSession × Shown)}
    (holds : Alike Related here otherHere) (fails : Alike Related there otherThere) :
    Alike Related (if condition then here else there)
      (if condition then otherHere else otherThere) := by
  split
  · exact holds
  · exact fails

section Agree

variable {Keys : Key → Key → Prop} {first second : CaptureSession}

theorem Agree.rule (agree : Agree Keys first second) : second.rule = first.rule := by
  rcases agree with ⟨key, log, _, same⟩
  rw [same]

theorem Agree.state (agree : Agree Keys first second) : second.state = first.state := by
  rcases agree with ⟨key, log, _, same⟩
  rw [same]

/-- A key that is pressed takes the place of the last keys. -/
theorem Agree.pressed (agree : Agree Keys first second) (key : Key) :
    SameButLog { first with lastKey := key } { second with lastKey := key } := by
  rcases agree with ⟨_, log, _, same⟩
  subst same
  exact ⟨key, log, rfl, rfl⟩

theorem Agree.change (agree : Agree Keys first second) (change : CaptureSession → CaptureSession)
    (frames : Frames change) : Agree Keys (change first) (change second) := by
  rcases agree with ⟨key, log, keys, same⟩
  subst same
  rcases frames first key log with ⟨later, changed⟩
  rcases frames first first.lastKey first.log with ⟨_, unchanged⟩
  have kept : (change first).lastKey = first.lastKey := by
    rw [unchanged]
  refine ⟨key, later, ?_, changed⟩
  rw [kept]
  exact keys

/-! ## Reading the line -/

theorem Agree.correctCall (agree : Agree Keys first second) (reading : Extraction) :
    Agree Keys (first.correctCall reading).1 (second.correctCall reading).1 ∧
      (second.correctCall reading).2 = (first.correctCall reading).2 := by
  rcases agree with ⟨key, log, keys, same⟩
  subst same
  have sameCall : { first with lastKey := key, log := log }.correction? reading =
      first.correction? reading := rfl
  unfold CaptureSession.correctCall
  rw [sameCall]
  cases first.correction? reading with
  | none => exact ⟨⟨key, _, keys, rfl⟩, rfl⟩
  | some call => exact ⟨⟨key, _, keys, rfl⟩, rfl⟩

theorem Agree.validate (agree : Agree Keys first second) :
    Alike (Agree Keys) first.validate second.validate := by
  have sameReading : second.extractor.extract true second.buffer.text =
      first.extractor.extract true first.buffer.text := by
    rcases agree with ⟨key, log, _, same⟩
    rw [same]
  unfold CaptureSession.validate
  rw [sameReading]
  cases first.extractor.extract true first.buffer.text with
  | error fault => exact .failed fault
  | ok reading =>
      have read := agree.change (fun session => { session with reading := some reading })
        fun _ _ _ => ⟨_, rfl⟩
      rcases read.correctCall reading with ⟨corrected, sameActions⟩
      dsimp only at corrected sameActions ⊢
      rw [sameActions]
      exact .done corrected _

theorem Agree.validateIf (agree : Agree Keys first second) (needed : Bool) :
    Alike (Agree Keys) (first.validateIf needed) (second.validateIf needed) := by
  unfold CaptureSession.validateIf
  rw [agree.rule]
  exact .ite agree.validate (.done agree [])

end Agree

/-! ## Functions that add to the log -/

/-- What a function makes of sessions that differ in their logs is alike if it only adds to the
log. -/
theorem Agree.alike_of_adds {Shown : Type} {most : Nat} {first second : CaptureSession}
    {function : CaptureSession → Except Fault (CaptureSession × Shown)}
    (same : SameButLog first second) (adds : Adds inOutcome most function first) :
    Alike SameButLog (function first) (function second) := by
  rcases same with ⟨_, log, rfl, same⟩
  rcases adds with ⟨entries, _, added⟩
  have another : second = first.withLog log := same
  rw [another, added]
  cases function first with
  | error fault => exact .failed fault
  | ok outcome => exact .done ⟨_, _, rfl, rfl⟩ outcome.2

theorem Agree.collect {first second : CaptureSession} (same : SameButLog first second) (key : Key) :
    Alike SameButLog (first.collect key) (second.collect key) :=
  same.alike_of_adds (adds_collect key)

/-! ## Taking keys -/

section Keys

variable {Keys : Key → Key → Prop} {first second : CaptureSession}

/-- A key before the end has the same effect, whatever the keys before it were. -/
theorem Agree.take_of_isOpen (agree : Agree Keys first second)
    (isOpen : ¬ first.state.isFinal = true) (key : Key) :
    Alike SameButLog (first.take key) (second.take key) := by
  have pressed := agree.pressed key
  have collecting := pressed.change (fun session => { session with state := .collecting })
    fun _ _ _ => ⟨_, rfl⟩
  rcases agree with ⟨lastKey, log, _, same⟩
  subst same
  have isOpenToo : ¬ { first with lastKey := lastKey, log := log }.state.isFinal = true := isOpen
  rw [CaptureSession.take, CaptureSession.take, if_neg isOpen, if_neg isOpenToo]
  dsimp only
  split
  · exact pressed.alike_of_adds (adds_edit _ key)
  · exact collecting.collect key
  · exact pressed.collect key

end Keys

/-! ## Starting -/

section Start

variable {first second : CaptureSession}

/-- The line that a start fills in depends on the width of the line before, and on nothing else of
it. -/
theorem buffer_fill {first second : CaptureSession}
    (width : second.buffer.width = first.buffer.width) (text : Text) :
    (second.fill text).buffer = (first.fill text).buffer := by
  unfold fill Buffer.replace Buffer.clear
  rcases first with ⟨_, _, _, ⟨firstWidth, firstText, firstFits⟩, _, _, _, _, _, _⟩
  rcases second with ⟨_, _, _, ⟨secondWidth, secondText, secondFits⟩, _, _, _, _, _, _⟩
  dsimp only at width ⊢
  subst width
  by_cases fits : text.length ≤ secondWidth
  · rw [dif_pos fits, dif_pos fits]
    rfl
  · rw [dif_neg fits, dif_neg fits]
    rfl

theorem sameButHistory_begun (same : SameSetting first second)
    (contact : second.contact = first.contact) (prefill recalled : Text) :
    SameButHistory (first.begun prefill recalled) (second.begun prefill recalled) := by
  have sameText : second.startText prefill recalled = first.startText prefill recalled := by
    simp only [startText, knownStart, same.rule, contact]
  have sameLine := buffer_fill same.width (first.startText prefill recalled)
  refine ⟨second.lastKey, (second.begun prefill recalled).log, trivial, ?_⟩
  rw [begun, begun, sameText, fill_eq, sameLine, fill_eq first]
  simp only [note, same.rule, same.extractor, same.settings, contact]

/-- Sessions of one setting with equal contacts start alike, whatever came before. -/
theorem alike_start (same : SameSetting first second) (contact : second.contact = first.contact)
    (prefill recalled : Text) :
    Alike (fun here there => SameButHistory here there ∧ here.state = .collecting)
      (first.start prefill recalled) (second.start prefill recalled) := by
  have reads := (sameButHistory_begun same contact prefill recalled).validateIf true
  rw [start_eq, start_eq]
  generalize reading : (first.begun prefill recalled).validateIf true = read at reads
  generalize (second.begun prefill recalled).validateIf true = otherRead at reads
  cases reads with
  | failed fault => exact .failed fault
  | @done here there related shown =>
      have collecting : here.state = .collecting := (read_of_validateIf reading).state
      have sameRefresh : there.refresh = here.refresh := by
        rcases related with ⟨_, _, _, same⟩
        rw [same]
        rfl
      simp only [Except.map, sameRefresh, related.state]
      exact .done ⟨related, collecting⟩ _

/-- A key has the same effect in sessions that differ in their logs, started or not. -/
theorem Agree.step (same : SameButLog first second) (key : Key) :
    Alike SameButLog (first.step key) (second.step key) :=
  same.alike_of_adds (adds_step key)

end Start

/-! ## Transcripts -/

/-- What can be seen of a run: the transition of each operation, and what the capture comes to. -/
def transcript (session : CaptureSession) :
    List Operation → Except Fault (List Transition × CaptureResult)
  | [] => .ok ([], session.result)
  | operation :: rest =>
      match session.operate operation with
      | .error fault => .error fault
      | .ok (next, transition) =>
          (next.transcript rest).map fun seen => (transition :: seen.1, seen.2)

section Transcript

variable {first second : CaptureSession}

theorem transcript_of_alike {Related : CaptureSession → CaptureSession → Prop}
    {operation : Operation} {rest : List Operation}
    (alike : Alike Related (first.operate operation) (second.operate operation))
    (later : ∀ here there, Related here there → here.transcript rest = there.transcript rest) :
    first.transcript (operation :: rest) = second.transcript (operation :: rest) := by
  rw [transcript, transcript]
  generalize first.operate operation = operated at alike
  generalize second.operate operation = otherOperated at alike
  cases alike with
  | failed fault => rfl
  | done related transition =>
      dsimp only
      rw [later _ _ related]

/-- Sessions that differ in their logs show the same from every key on. -/
theorem transcript_of_sameButLog (same : SameButLog first second) (keys : List Key) :
    first.transcript (keys.map .press) = second.transcript (keys.map .press) := by
  induction keys generalizing first second with
  | nil =>
      rcases same with ⟨_, log, rfl, same⟩
      subst same
      rfl
  | cons key rest inductionHypothesis =>
      apply transcript_of_alike (same.step key)
      intro here there related
      exact inductionHypothesis related

end Transcript

/-! ## Sessions of one kind -/

theorem Concluded.sameSetting {session : CaptureSession} {key : Key} {actions : List Action}
    {outcome : CaptureSession × Transition}
    (concluded : Concluded session key actions outcome) : SameSetting session outcome.1 := by
  cases concluded with
  | ended log prompts state final outcome done =>
      have same := (ended_of_finish done).setting
      exact ⟨same.rule, same.extractor, same.settings, same.width⟩
  | asked log prompt => exact ⟨rfl, rfl, rfl, rfl⟩

theorem sameSetting_of_collect {session : CaptureSession} {key : Key}
    {outcome : CaptureSession × Transition} (done : session.collect key = .ok outcome) :
    SameSetting session outcome.1 := by
  have relined (line : Buffer) (width : line.width = session.buffer.width) :
      SameSetting session { session with buffer := line } := ⟨rfl, rfl, rfl, width⟩
  cases collected_of_collect done with
  | kept actions => exact .refl session
  | opened position present => exact ⟨rfl, rfl, rfl, rfl⟩
  | left line empty width unchanged outcome ended => exact (relined line width).trans ended.setting
  | changed line change incomplete next after actions =>
      exact (relined line change.width).trans after.setting
  | completed completing next after actions outcome concluded =>
      rcases concluded_of_complete concluded with ⟨reading, judged⟩
      exact (after.setting.trans (next.sameSetting_judged reading)).trans judged.sameSetting

theorem sameSetting_of_edit {session : CaptureSession} {cursor : Nat} {key : Key}
    {outcome : CaptureSession × Transition} (done : session.edit cursor key = .ok outcome) :
    SameSetting session outcome.1 := by
  have handled : SameSetting session
      (session.withEditor ((Editor.mk session.buffer cursor false).handle key).2) :=
    sameSetting_withEditor (Editor.width_handle (Editor.mk session.buffer cursor false) key)
  cases edited_of_edit done with
  | continued next after actions => exact handled.trans after.setting
  | closed next after actions =>
      have same := handled.trans after.setting
      exact ⟨same.rule, same.extractor, same.settings, same.width⟩

theorem sameSetting_of_take {session : CaptureSession} {key : Key}
    {outcome : CaptureSession × Transition} (done : session.take key = .ok outcome) :
    SameSetting session outcome.1 := by
  by_cases final : session.state.isFinal = true
  · rw [take_of_isFinal final] at done
    cases done
    exact .refl session
  · rw [take, if_neg final] at done
    dsimp only at done
    split at done
    · have same := sameSetting_of_edit done
      exact ⟨same.rule, same.extractor, same.settings, same.width⟩
    · have same := sameSetting_of_collect done
      exact ⟨same.rule, same.extractor, same.settings, same.width⟩
    · have same := sameSetting_of_collect done
      exact ⟨same.rule, same.extractor, same.settings, same.width⟩

/-- No run leads out of the setting, whether or not the exchange is read by its rule. -/
theorem sameSetting_of_run {fresh session : CaptureSession} {operations : List Operation}
    (done : fresh.run operations = .ok session) : SameSetting fresh session := by
  refine run_preserves (SameSetting fresh) ?starts ?takes ?aborts (.refl fresh) done
  case starts =>
    intro session next prefill recalled transition same starting
    have begun := session.sameSetting_begun prefill recalled
    exact same.trans (begun.trans (read_of_start starting).setting)
  case takes =>
    intro session next key transition same _ taken
    exact same.trans (sameSetting_of_take taken)
  case aborts =>
    intro session same
    exact same.trans ⟨rfl, rfl, rfl, rfl⟩

/-- Sessions of the same rule, extractor and settings are in one setting, whatever their contacts
were and whatever has happened in them. -/
theorem sameSetting_of_reachable {rule : Rule} {extractor : Extractor}
    {settings : CaptureSettings} {contact otherContact : Contact} {first second : CaptureSession}
    (reached : Reachable rule extractor settings contact first)
    (reachedToo : Reachable rule extractor settings otherContact second) :
    SameSetting first second := by
  rcases reached with ⟨fresh, operations, created, done⟩
  rcases reachedToo with ⟨otherFresh, otherOperations, otherCreated, otherDone⟩
  have alike : SameSetting fresh otherFresh := by
    have width := (line_of_create otherCreated).2.trans (line_of_create created).2.symm
    rcases eq_of_create created with ⟨line, same⟩
    rcases eq_of_create otherCreated with ⟨otherLine, otherSame⟩
    refine ⟨?_, ?_, ?_, Int.ofNat_inj.mp width⟩ <;> rw [same, otherSame]
  have here := sameSetting_of_run done
  have back : SameSetting first fresh :=
    ⟨here.rule.symm, here.extractor.symm, here.settings.symm, here.width.symm⟩
  exact (back.trans alike).trans (sameSetting_of_run otherDone)

/-- Two sessions of one setting with equal contacts show the same after the same start, from the
first key on: whatever had happened in them, every transition and the result are equal, and if one
run fails, so does the other.  One setting is that of all sessions of a rule, an extractor and
settings, as `sameSetting_of_reachable` shows. -/
theorem restart_isolates {first second : CaptureSession} (same : SameSetting first second)
    (contact : second.contact = first.contact) (prefill recalled : Text) (key : Key)
    (keys : List Key) :
    first.transcript (.start prefill recalled :: (key :: keys).map .press) =
      second.transcript (.start prefill recalled :: (key :: keys).map .press) := by
  apply transcript_of_alike (alike_start same contact prefill recalled)
  rintro here there ⟨related, collecting⟩
  have isOpen : here.IsOpen := Or.inl collecting
  have startedToo : there.state ≠ .idle := by
    rw [related.state]
    exact isOpen.started
  have pressed : Alike SameButLog (here.operate (.press key)) (there.operate (.press key)) := by
    show Alike SameButLog (here.step key) (there.step key)
    rw [step_of_started isOpen.started, step_of_started startedToo]
    exact related.take_of_isOpen isOpen.not_isFinal key
  apply transcript_of_alike pressed
  intro one two sameNow
  exact transcript_of_sameButLog sameNow keys

/-- A session that was never used, and one that was broken off while its line was edited: the next
capture is the same in both.  Until its first key the result of the second still shows the last key of
the capture that was broken off. -/
theorem restart_isolates_after_abort :
    ∃ first second : CaptureSession,
      Reachable (Rule.basic "CQWW" .zone 12)
        (Extractor.ofRule (Rule.basic "CQWW" .zone 12) ⟨[]⟩ .builtIn) {} {} first ∧
      Reachable (Rule.basic "CQWW" .zone 12)
        (Extractor.ofRule (Rule.basic "CQWW" .zone 12) ⟨[]⟩ .builtIn) {} {} second ∧
      SameSetting first second ∧ second.contact = first.contact ∧
      first.state = .idle ∧ second.state = .aborted ∧ second.cursor = some 0 ∧
      first.transcript [.start [] []] ≠ second.transcript [.start [] []] ∧
      ∃ seen, first.transcript
          (.start [] [] :: (Key.ofChar '1' :: [Key.ofChar '4', .lineFeed]).map .press) = .ok seen ∧
        second.transcript
          (.start [] [] :: (Key.ofChar '1' :: [Key.ofChar '4', .lineFeed]).map .press) = .ok seen ∧
        seen.2.status = .complete ∧ seen.2.exchange = Text.ofString "14" := by
  have unused : Reachable (Rule.basic "CQWW" .zone 12)
      (Extractor.ofRule (Rule.basic "CQWW" .zone 12) ⟨[]⟩ .builtIn) {} {} _ :=
    ⟨_, [], rfl, rfl⟩
  have brokenOff : Reachable (Rule.basic "CQWW" .zone 12)
      (Extractor.ofRule (Rule.basic "CQWW" .zone 12) ⟨[]⟩ .builtIn) {} {} _ :=
    ⟨_, [.start ['7'] [], .press (Key.ofChar '9'), .press .home, .abort], rfl, rfl⟩
  have same := sameSetting_of_reachable unused brokenOff
  have isolated := restart_isolates same rfl [] [] (Key.ofChar '1') [Key.ofChar '4', .lineFeed]
  refine ⟨_, _, unused, brokenOff, same, rfl, rfl, rfl, rfl, ?_, _, rfl, isolated.symm.trans rfl,
    rfl, rfl⟩
  intro alike
  have keys := congrArg (fun seen => seen.map fun shown => shown.2.key) alike
  exact absurd (Except.ok.inj keys) (by decide)

end CaptureSession
end ContestExchange
