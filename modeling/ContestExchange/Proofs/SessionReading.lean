import ContestExchange.Proofs.SessionState

namespace ContestExchange
namespace CaptureSession

/-!
# The stored reading and the line

A session stores what it has read, and the line changes in many ways after that: a character is
typed or taken off, the editor rewrites the middle, a serial is padded.  Under a live rule each
change is followed by a reading, so the stored reading stays that of the line.  There is one
exception.  Control-A empties the line and leaves the field at once, and what was read before is kept
beside the emptied line.

The exception is the only one, and it shows only where the line given up reads otherwise than an
empty one.  `reading_current_iff` states this as the exact condition on the keys of a run.
-/

/-- Whether the stored reading is that of the line, the fields to show apart. -/
def Current (session : CaptureSession) : Prop :=
  ∃ reading, session.reading = some reading ∧
    session.extractor.extract false session.buffer.text = .ok reading.silent

theorem Current.isSome {session : CaptureSession} (current : session.Current) :
    session.reading.isSome = true := by
  rcases current with ⟨reading, stored, _⟩
  rw [stored]
  rfl

/-! ## What a key leaves of the reading -/

/-- Under a live rule a line is read unless its reading is current. -/
theorem Read.current {before after : CaptureSession} {needed : Bool}
    (read : Read before after needed) (live : before.rule.isLive = true)
    (unneeded : needed = false → before.Current) : after.Current := by
  cases needed with
  | false =>
      rw [read.unread (Bool.and_false _)]
      exact unneeded rfl
  | true =>
      rcases read.read (Bool.and_eq_true_iff.mpr ⟨live, rfl⟩) with ⟨reading, extracted, stored, _⟩
      refine ⟨reading, stored, ?_⟩
      rw [read.setting.extractor, read.buffer]
      exact Extractor.extract_false_of_extract extracted

theorem Current.of_same_text {session : CaptureSession} (current : session.Current) {line : Buffer}
    (same : line.text = session.buffer.text) :
    Current { session with buffer := line } := by
  rcases current with ⟨reading, stored, extracted⟩
  refine ⟨reading, stored, ?_⟩
  show session.extractor.extract false line.text = _
  rw [same]
  exact extracted

/-- A session that is completed stores the reading of the padded line, whatever comes of it. -/
theorem Completed.current {session : CaptureSession} {key : Key} {actions : List Action}
    {reading : Extraction} {outcome : CaptureSession × Transition}
    (completed : Completed session key actions reading outcome)
    (read : session.extractor.extract false session.completedText = .ok reading) :
    outcome.1.Current := by
  have judged : (session.judged reading).Current := by
    refine ⟨reading, rfl, ?_⟩
    rw [(session.sameSetting_judged reading).extractor, text_judged,
      Extractor.silent_of_extract_false read]
    exact read
  cases completed with
  | accepted admits shown => exact judged
  | rejected requires refuses note shown => exact judged
  | asked requires refuses prompt note => exact judged

/-- What Control-A leaves of a session that it gives up: an empty line beside the old reading. -/
structure GivenUp (before after : CaptureSession) : Prop where
  collecting : before.state = .collecting
  state : after.state = .back
  setting : SameSetting before after
  empty : after.buffer.text = []
  reading : after.reading = before.reading

/-- A key keeps the reading current, unless it gives the line up. -/
theorem Taken.current {session : CaptureSession} {key : Key} {outcome : CaptureSession × Transition}
    (taken : Taken session key outcome) (byRule : session.ReadsByRule)
    (live : session.rule.isLive = true) (current : session.Current) :
    outcome.1.Current ∨ key = .ctrlA ∧ GivenUp session outcome.1 := by
  have setting := taken.sameSetting byRule
  cases taken with
  | final final => exact Or.inl current
  | collected collecting noCursor outcome done =>
      cases done with
      | kept actions => exact Or.inl current
      | opened position present => exact Or.inl current
      | left line empty width unchanged outcome ended =>
          have sameReading := ended.reading current.isSome
          rcases unchanged with same | pressed
          · refine Or.inl ?_
            rcases current with ⟨reading, stored, extracted⟩
            refine ⟨reading, sameReading.trans stored, ?_⟩
            rw [ended.setting.extractor, ended.buffer]
            show session.extractor.extract false line.text = _
            rw [same]
            exact extracted
          · refine Or.inr ⟨pressed, collecting, ended.state, setting, ?_, sameReading⟩
            rw [ended.buffer]
            exact empty
      | changed line change incomplete next after actions =>
          refine Or.inl (after.current live fun unneeded => ?_)
          rw [Bool.or_eq_false_iff, bne_eq_false_iff_eq] at unneeded
          exact current.of_same_text unneeded.1
      | completed completing next after actions outcome concluded =>
          rcases completed_of_read byRule after completing concluded with
            ⟨same, reading, extracted, completed⟩
          exact Or.inl (completed.current extracted)
  | edited editing cursor placed inside outcome done =>
      cases done with
      | continued next after actions =>
          refine Or.inl (after.current live fun unneeded => ?_)
          exact current.of_same_text (bne_eq_false_iff_eq.mp unneeded)
      | closed next after actions =>
          have after : next.Current := by
            refine after.current live fun unneeded => ?_
            exact current.of_same_text (bne_eq_false_iff_eq.mp unneeded)
          exact Or.inl after

/-! ## Sessions that have not been left -/

/-- A key leaves the reading current unless the session is left. -/
theorem Taken.current_of_isKept {session : CaptureSession} {key : Key}
    {outcome : CaptureSession × Transition} (taken : Taken session key outcome)
    (started : session.state ≠ .idle) (byRule : session.ReadsByRule)
    (live : session.rule.isLive = true) (current : session.IsKept → session.Current)
    (isKept : outcome.1.IsKept) : outcome.1.Current := by
  by_cases final : session.state.isFinal = true
  · cases taken with
    | final => exact current isKept
    | collected collecting => rw [collecting] at final; cases final
    | edited editing => rw [editing] at final; cases final
  · have currentHere := current (isOpen_of_started started final).isKept
    rcases taken.current byRule live currentHere with kept | ⟨_, givenUp⟩
    · exact kept
    · exact absurd givenUp.state isKept.2.1

theorem current_of_start {session next : CaptureSession} {prefill recalled : Text}
    {transition : Transition} (live : session.rule.isLive = true)
    (done : session.start prefill recalled = .ok (next, transition)) : next.Current := by
  have read := read_of_start done
  refine read.current ?_ Bool.noConfusion
  rw [(session.sameSetting_begun prefill recalled).rule]
  exact live

/-- Under a live rule the reading of a session that has not been left is current, whatever led to
it. -/
theorem current_of_run {fresh session : CaptureSession} (holds : Invariant fresh fresh)
    (idle : fresh.state = .idle) (live : fresh.rule.isLive = true) {operations : List Operation}
    (done : fresh.run operations = .ok session) (isKept : session.IsKept) : session.Current := by
  have reached : Invariant fresh session ∧ (session.IsKept → session.Current) := by
    refine run_preserves
      (fun session => Invariant fresh session ∧ (session.IsKept → session.Current))
      ?starts ?takes ?aborts ⟨holds, ?fresh⟩ done
    case starts =>
      intro session next prefill recalled transition ⟨reached, _⟩ starting
      have liveHere : session.rule.isLive = true := by rw [reached.setting.rule]; exact live
      exact ⟨reached.start starting, fun _ => current_of_start liveHere starting⟩
    case takes =>
      intro session next key transition ⟨reached, current⟩ started taken
      refine ⟨reached.take started taken, fun isKept => ?_⟩
      have liveHere : session.rule.isLive = true := by rw [reached.setting.rule]; exact live
      have took := taken_of_take reached.sound started taken
      exact took.current_of_isKept started reached.byRule liveHere current isKept
    case aborts =>
      intro session ⟨reached, _⟩
      exact ⟨reached.abort, fun isKept => absurd rfl isKept.2.2⟩
    case fresh =>
      intro isKept
      exact absurd idle isKept.1
  exact reached.2 isKept

/-! ## Control-A -/

/-- A line that is given up leaves its reading current exactly if it reads like an empty one. -/
theorem GivenUp.current_iff {before after : CaptureSession} (givenUp : GivenUp before after)
    (current : before.Current) :
    after.Current ↔
      before.extractor.extract false before.buffer.text = before.extractor.extract false [] := by
  rcases current with ⟨reading, stored, extracted⟩
  have kept := givenUp.reading.trans stored
  constructor
  · rintro ⟨same, storedAfter, extractedAfter⟩
    cases kept.symm.trans storedAfter
    rw [givenUp.setting.extractor, givenUp.empty] at extractedAfter
    exact extracted.trans extractedAfter.symm
  · intro alike
    refine ⟨reading, kept, ?_⟩
    rw [givenUp.setting.extractor, givenUp.empty, ← alike]
    exact extracted

/-- Control-A gives a line up while it is collected. -/
theorem givenUp_of_ctrlA {session next : CaptureSession} {transition : Transition}
    (collecting : session.state = .collecting) (read : session.reading.isSome = true)
    (done : session.step .ctrlA = .ok (next, transition)) : GivenUp session next := by
  have started : session.state ≠ .idle := by rw [collecting]; exact CaptureState.noConfusion
  have cleared : { session with lastKey := .ctrlA }.collect .ctrlA =
      { session with lastKey := .ctrlA, buffer := session.buffer.clear }.finish .back .tab
        [.addSpot] := rfl
  rw [step_of_started started, take_of_collecting collecting, cleared] at done
  have ended := ended_of_finish done
  have relined : SameSetting session
      { session with lastKey := .ctrlA, buffer := session.buffer.clear } := ⟨rfl, rfl, rfl, rfl⟩
  refine ⟨collecting, ended.state, relined.trans ended.setting, ?_, ended.reading read⟩
  rw [ended.buffer]
  rfl

/-- Whether a key gives up a line that reads other than an empty one. -/
def GivesUp (session : CaptureSession) (key : Key) : Prop :=
  key = .ctrlA ∧ session.state = .collecting ∧
    session.extractor.extract false session.buffer.text ≠ session.extractor.extract false []

/-- The reading is current after a key exactly if the key gives up no such line. -/
theorem current_iff_of_step {fresh session next : CaptureSession} {key : Key}
    {transition : Transition} (holds : Invariant fresh session) (isOpen : session.IsOpen)
    (live : session.rule.isLive = true) (current : session.Current)
    (done : session.step key = .ok (next, transition)) :
    next.reading.isSome = true ∧ (next.Current ↔ ¬ session.GivesUp key) := by
  by_cases given : key = .ctrlA ∧ session.state = .collecting
  · rcases given with ⟨pressed, collecting⟩
    subst pressed
    have givenUp := givenUp_of_ctrlA collecting current.isSome done
    refine ⟨by rw [givenUp.reading]; exact current.isSome, ?_⟩
    rw [givenUp.current_iff current, GivesUp]
    simp only [collecting, true_and, ne_eq, Classical.not_not]
  · rw [step_of_started isOpen.started] at done
    have taken := taken_of_take holds.sound isOpen.started done
    rcases taken.current holds.byRule live current with kept | ⟨pressed, givenUp⟩
    · refine ⟨kept.isSome, fun _ givesUp => ?_, fun _ => kept⟩
      exact given ⟨givesUp.1, givesUp.2.1⟩
    · exact absurd ⟨pressed, givenUp.collecting⟩ given

/-! ## Runs of keys -/

/-- Whether no key of a run gives up a line that reads other than an empty one. -/
def NoneGivesUp (session : CaptureSession) (keys : List Key) : Prop :=
  ∀ before key after middle, keys = before ++ key :: after →
    session.run (before.map .press) = .ok middle → ¬ middle.GivesUp key

theorem noneGivesUp_cons {session next : CaptureSession} {key : Key} {transition : Transition}
    (stepped : session.step key = .ok (next, transition)) (rest : List Key) :
    session.NoneGivesUp (key :: rest) ↔ ¬ session.GivesUp key ∧ next.NoneGivesUp rest := by
  have pressed : session.operate (.press key) = .ok (next, transition) := stepped
  constructor
  · intro none
    refine ⟨none [] key rest session rfl rfl, fun before later after middle split reached => ?_⟩
    refine none (key :: before) later after middle (by rw [split]; rfl) ?_
    rw [List.map_cons, run_cons pressed]
    exact reached
  · rintro ⟨first, others⟩ before later after middle split reached
    cases before with
    | nil =>
        cases split
        cases reached
        exact first
    | cons earlier before =>
        cases split
        rw [List.map_cons, run_cons pressed] at reached
        exact others before later after middle rfl reached

theorem noneGivesUp_of_isFinal {session : CaptureSession} (final : session.state.isFinal = true)
    (keys : List Key) : session.NoneGivesUp keys := by
  intro before key after middle _ reached givesUp
  rw [run_of_isFinal final] at reached
  cases reached
  rw [givesUp.2.1] at final
  cases final

/-- The reading is current after a run of keys exactly if none of them gives up a line that reads
other than an empty one. -/
theorem current_iff_of_run {fresh session last : CaptureSession} {keys : List Key}
    (holds : Invariant fresh session) (isOpen : session.IsOpen) (live : session.rule.isLive = true)
    (current : session.Current) (done : session.run (keys.map .press) = .ok last) :
    last.reading.isSome = true ∧ (last.Current ↔ session.NoneGivesUp keys) := by
  induction keys generalizing session with
  | nil =>
      cases done
      refine ⟨current.isSome, fun _ before key after middle split _ => ?_, fun _ => current⟩
      cases before <;> cases split
  | cons key rest inductionHypothesis =>
      rcases operate_of_run_cons done with ⟨next, transition, stepped, continued⟩
      have pressed : session.step key = .ok (next, transition) := stepped
      rcases current_iff_of_step holds isOpen live current pressed with ⟨read, here⟩
      rw [step_of_started isOpen.started] at pressed
      have taken := taken_of_take holds.sound isOpen.started pressed
      rw [noneGivesUp_cons stepped]
      -- The induction carries a current reading; a key that ends the capture settles both sides.
      by_cases final : next.state.isFinal = true
      · rw [run_of_isFinal final] at continued
        cases continued
        refine ⟨read, here.trans ?_⟩
        rw [and_iff_left (noneGivesUp_of_isFinal final rest)]
      · have isOpenNext := (taken.isOpen_or_isFinal holds.byRule).resolve_right final
        have holdsNext := holds.take isOpen.started pressed
        have liveNext : next.rule.isLive = true := by
          rw [(taken.sameSetting holds.byRule).rule]
          exact live
        have currentNext := taken.current_of_isKept isOpen.started holds.byRule live
          (fun _ => current) isOpenNext.isKept
        rw [and_iff_right (here.mp currentNext)]
        exact inductionHypothesis holdsNext isOpenNext liveNext currentNext continued

theorem current_iff_result {session : CaptureSession} (read : session.reading.isSome = true) :
    session.Current ↔
      session.extractor.extract false session.result.exchange =
        .ok session.result.reading.silent := by
  rcases Option.isSome_iff_exists.mp read with ⟨reading, stored⟩
  have reported : session.result.reading = reading := by rw [result, latestReading, stored]; rfl
  rw [reported]
  constructor
  · rintro ⟨same, storedToo, extracted⟩
    cases stored.symm.trans storedToo
    exact extracted
  · exact fun extracted => ⟨reading, stored, extracted⟩

/-- Under a live rule, what a session reports to have read is what its exchange reads, unless
Control-A has given up a line that reads other than an empty one.  In that case, and in no other, it
reports what the line given up read. -/
theorem reading_current_iff {rule : Rule} (live : rule.isLive = true) {table : MultiplierTable}
    {templates : TemplateSet} {settings : CaptureSettings} {contact : Contact}
    {fresh : CaptureSession}
    (created : create rule (Extractor.ofRule rule table templates) settings contact = .ok fresh)
    (prefill recalled : Text) (keys : List Key) {session : CaptureSession}
    (done : fresh.run (.start prefill recalled :: keys.map .press) = .ok session) :
    (Extractor.ofRule rule table templates).extract false session.result.exchange =
        .ok session.result.reading.silent ↔
      ∀ before after middle, keys = before ++ .ctrlA :: after →
        fresh.run (.start prefill recalled :: before.map .press) = .ok middle →
        middle.state = .collecting →
        (Extractor.ofRule rule table templates).extract false middle.buffer.text =
          (Extractor.ofRule rule table templates).extract false [] := by
  have fromFresh := invariant_of_create created
  rcases eq_of_create created with ⟨line, same⟩
  have reader {reached : CaptureSession} {operations : List Operation}
      (run : fresh.run operations = .ok reached) :
      reached.extractor = Extractor.ofRule rule table templates := by
    rw [(invariant_of_run fromFresh run).setting.extractor, same]
  have liveFresh : fresh.rule.isLive = true := by rw [same]; exact live
  rcases operate_of_run_cons done with ⟨started, transition, starting, continued⟩
  have holds := fromFresh.start starting
  have liveStarted : started.rule.isLive = true := by rw [holds.setting.rule]; exact liveFresh
  have current := current_of_start liveFresh starting
  have isOpen : started.IsOpen := Or.inl (read_of_start starting).state
  rcases current_iff_of_run holds isOpen liveStarted current continued with ⟨read, exactly⟩
  rw [← reader done, ← current_iff_result read, exactly]
  constructor
  · intro none before after middle split reached collecting
    rw [run_cons starting] at reached
    refine Classical.not_not.mp fun differs => none before .ctrlA after middle split reached ?_
    refine ⟨rfl, collecting, ?_⟩
    rw [← run_cons starting] at reached
    rw [reader reached, ← reader done]
    exact differs
  · intro alike before key after middle split reached givesUp
    rcases givesUp with ⟨pressed, collecting, differs⟩
    rw [← run_cons starting] at reached
    apply differs
    rw [reader reached, ← reader done]
    exact alike before after middle (pressed ▸ split) reached collecting

/-- Zone 14 is typed and given up: the exchange is empty, and zone 14 is reported with it. -/
theorem reading_not_current_after_ctrlA :
    (Rule.basic "CQWW" .zone 12).isLive = true ∧
      ∃ fresh session, create (Rule.basic "CQWW" .zone 12)
          (Extractor.ofRule (Rule.basic "CQWW" .zone 12) ⟨[]⟩ ⟨[], [], [], []⟩) {} {} = .ok fresh ∧
        fresh.run (.start [] [] :: [Key.ofChar '1', Key.ofChar '4', .ctrlA].map .press) =
          .ok session ∧
        session.result.exchange = [] ∧ session.result.reading.multiplier = Text.ofString "14" ∧
        ¬ (Extractor.ofRule (Rule.basic "CQWW" .zone 12) ⟨[]⟩ ⟨[], [], [], []⟩).extract false
            session.result.exchange = .ok session.result.reading.silent := by
  have live : (Rule.basic "CQWW" .zone 12).isLive = true := rfl
  refine ⟨live, ?_⟩
  have wide : 1 ≤ (Rule.basic "CQWW" .zone 12).width := by decide
  rcases create_of_wide wide (.ofRule (Rule.basic "CQWW" .zone 12) ⟨[]⟩ ⟨[], [], [], []⟩) {} {} with
    ⟨fresh, created, _⟩
  have exactly {session : CaptureSession} (done : fresh.run _ = .ok session) :=
    reading_current_iff live created [] [] [Key.ofChar '1', Key.ofChar '4', .ctrlA] done
  cases created
  refine ⟨_, _, rfl, rfl, rfl, rfl, fun current => ?_⟩
  have alike := (exactly rfl).mp current [Key.ofChar '1', Key.ofChar '4'] [] _ rfl rfl rfl
  have sameMultiplier := congrArg Extraction.multiplier (Except.ok.inj alike)
  exact absurd sameMultiplier (by decide)

end CaptureSession
end ContestExchange
