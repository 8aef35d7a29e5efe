import ContestExchange.Proofs.Reading
import ContestExchange.Proofs.SessionStep

namespace ContestExchange

/-!
# When a completed exchange is accepted

Whether an exchange is accepted depends on the strategy of the contest, the key that completes it,
and what is known about the contact.  `Rule.Admits` says so strategy by strategy, without the order
in which the session asks.  The statements below give the session after a completion in the three
possible cases: accepted where the rule admits the exchange, rejected where a section is required
and lacking, and otherwise left open with one question to the operator.

The text that counts is the one after padding.  Reading it is the only step that may fail; once it
has succeeded, a completion always comes to one of the three cases.
-/

/-- Whether a contest accepts an exchange that a key completes.  The tabulator stands in for a
section or a state, but never for a grid square. -/
def Rule.Admits (rule : Rule) (settings : CaptureSettings) (contact : Contact) (key : Key)
    (text : Text) (reading : Extraction) : Prop :=
  match rule.strategy with
  | .sweepstakes => key = .tab ∨ 2 ≤ reading.place.length
  | .serialSection | .sectionAlone =>
      key = .tab ∨ reading.place ≠ [] ∨
        rule.serialOrSection = true ∧ contact.countryHasSections = false
  | .grid => rule.locatorCheck = false ∨ Grid.isSquare reading.place = true
  | .zone =>
      settings.mode = .digi → contact.country ∈ rule.stateProvinceCountries →
        key = .tab ∨ 5 ≤ text.length
  | .none | .serial | .sectionOnce | .dxSection => True

namespace CaptureSession

/-- Whether the exchange of a session is read as its rule says. -/
def ReadsByRule (session : CaptureSession) : Prop :=
  session.extractor.strategy = session.rule.strategy ∧
    session.extractor.locatorCheck = session.rule.locatorCheck

/-- A session in the setting of one that is read by its rule is read by its rule as well. -/
theorem ReadsByRule.of_sameSetting {before after : CaptureSession} (byRule : before.ReadsByRule)
    (same : SameSetting before after) : after.ReadsByRule := by
  rw [ReadsByRule, same.rule, same.extractor]
  exact byRule

/-- Whether the rule of a session accepts its line with a key and a reading. -/
def Admits (session : CaptureSession) (key : Key) (reading : Extraction) : Prop :=
  session.rule.Admits session.settings session.contact key session.buffer.text reading

/-! ## What counts as complete -/

section Guards

variable {session : CaptureSession} {key : Key} {reading : Extraction}

theorem isComplete_of_sweepstakes (byRule : session.ReadsByRule)
    (kind : session.rule.strategy = .sweepstakes) (reading : Extraction) :
    session.extractor.isComplete reading = decide (2 ≤ reading.place.length) := by
  rw [Extractor.isComplete, byRule.1, kind]

theorem isComplete_of_grid (byRule : session.ReadsByRule) (kind : session.rule.strategy = .grid)
    (reading : Extraction) :
    session.extractor.isComplete reading =
      (!session.rule.locatorCheck || Grid.isSquare reading.place) := by
  rw [Extractor.isComplete, byRule.1, kind, byRule.2]

theorem isComplete_of_requiresSection (byRule : session.ReadsByRule)
    (requires : session.rule.requiresSection = true) (reading : Extraction) :
    session.extractor.isComplete reading = !reading.place.isEmpty := by
  rw [Extractor.isComplete, byRule.1]
  unfold RuleOf.requiresSection at requires
  cases kind : session.rule.strategy <;> rw [kind] at requires <;> first | rfl | cases requires

/-- Both strategies that require a section admit the same exchanges. -/
theorem admits_iff_of_requiresSection (requires : session.rule.requiresSection = true) :
    session.Admits key reading ↔
      key = .tab ∨ reading.place ≠ [] ∨
        session.rule.serialOrSection = true ∧ session.contact.countryHasSections = false := by
  unfold RuleOf.requiresSection at requires
  rw [Admits, Rule.Admits]
  cases kind : session.rule.strategy <;> rw [kind] at requires <;> first | rfl | cases requires

theorem lacksStateProvince_iff (session : CaptureSession) :
    session.lacksStateProvince = true ↔
      session.rule.strategy = .zone ∧ session.settings.mode = .digi ∧
        session.contact.country ∈ session.rule.stateProvinceCountries ∧
        session.buffer.length < 5 := by
  simp [lacksStateProvince, and_assoc]

/-- In a zone contest only the state of a digital exchange can be lacking. -/
theorem admits_iff_of_zone (kind : session.rule.strategy = .zone) :
    session.Admits key reading ↔ ¬ session.lacksStateProvince = true ∨ key = .tab := by
  rw [lacksStateProvince_iff, Admits, Rule.Admits, kind]
  constructor
  · intro admits
    by_cases tabbed : key = .tab
    · exact Or.inr tabbed
    · refine Or.inl fun lacking => ?_
      rcases lacking with ⟨_, digital, listed, short⟩
      rcases admits digital listed with same | long
      · exact tabbed same
      · exact Nat.not_le_of_lt short long
  · intro holds digital listed
    rcases holds with enough | tabbed
    · refine Or.inr (Nat.le_of_not_lt fun short => ?_)
      exact enough ⟨rfl, digital, listed, short⟩
    · exact Or.inl tabbed

/-- Where a section is required, nothing else is asked for. -/
theorem guards_of_requiresSection (requires : session.rule.requiresSection = true) :
    (session.rule.strategy == .sweepstakes) = false ∧ (session.rule.strategy == .grid) = false ∧
      session.lacksStateProvince = false := by
  unfold RuleOf.requiresSection at requires
  cases kind : session.rule.strategy <;> rw [kind] at requires <;> cases requires <;>
    simp [lacksStateProvince, kind]

/-- Among the keys that complete, only the tabulator does not ask for a final answer. -/
theorem isFinalizing_iff_ne_tab (completing : key.isCompleting = true) :
    key.isFinalizing = true ↔ key ≠ .tab := by
  constructor
  · intro finalizing tabbed
    subst tabbed
    cases finalizing
  · intro other
    rw [Key.isCompleting, beq_eq_false_iff_ne.mpr other, Bool.or_false] at completing
    exact completing

end Guards

/-! ## The three cases -/

/-- An exchange that the rule admits is accepted. -/
theorem conclude_of_admits {session : CaptureSession} {key : Key} {reading : Extraction}
    (byRule : session.ReadsByRule) (read : session.reading.isSome = true)
    (admits : session.Admits key reading) (actions : List Action) :
    ∃ accepted, session.conclude reading key actions =
      .ok (session.ended .complete key, ⟨.complete, key, accepted⟩) := by
  have finished := finish_of_reading read .complete key
  unfold conclude
  -- The two strategies that require a section pass the same guards; each other one has its own.
  by_cases requires : session.rule.requiresSection = true
  · rcases guards_of_requiresSection requires with ⟨noSweepstakes, noGrid, stated⟩
    rw [admits_iff_of_requiresSection requires] at admits
    rcases admits with tabbed | present | ⟨serialWillDo, noSections⟩
    · simp [noSweepstakes, noGrid, stated, beq_iff_eq.mpr tabbed, finished]
    · simp [noSweepstakes, noGrid, stated, isComplete_of_requiresSection byRule requires, present,
        finished]
    · simp [noSweepstakes, noGrid, stated, requires, serialWillDo, noSections, finished]
  cases kind : session.rule.strategy with
  | sweepstakes =>
      rw [Admits, Rule.Admits, kind] at admits
      have enough : (key == .tab || session.extractor.isComplete reading) = true := by
        simpa [isComplete_of_sweepstakes byRule kind] using admits
      simp [kind, enough, requires, lacksStateProvince, finished]
  | grid =>
      rw [Admits, Rule.Admits, kind] at admits
      have valid : session.extractor.isComplete reading = true := by
        simpa [isComplete_of_grid byRule kind] using admits
      simp [kind, valid, requires, lacksStateProvince, finished]
  | zone =>
      rw [admits_iff_of_zone kind] at admits
      rcases admits with enough | tabbed
      · simp [kind, requires, enough, finished]
      · have asks : Key.isFinalizing .tab = false := rfl
        by_cases lacking : session.lacksStateProvince = true
        · simp [kind, requires, lacking, tabbed ▸ asks, finished]
        · simp [kind, requires, lacking, finished]
  | serialSection | sectionAlone =>
      exact absurd (by rw [RuleOf.requiresSection, kind]; rfl) requires
  | none | serial | sectionOnce | dxSection =>
      simp [kind, requires, lacksStateProvince, finished]

/-- An exchange that lacks its section is rejected. -/
theorem conclude_of_lacking_section {session : CaptureSession} {key : Key} {reading : Extraction}
    (byRule : session.ReadsByRule) (read : session.reading.isSome = true)
    (requires : session.rule.requiresSection = true) (refuses : ¬ session.Admits key reading)
    (actions : List Action) :
    ∃ rejecting, session.conclude reading key actions =
      .ok ((session.note (.sectionMissing session.buffer.text)).ended .rejected key,
        ⟨.rejected, key, rejecting⟩) := by
  have readStill : (session.note (.sectionMissing session.buffer.text)).reading.isSome = true := read
  have finished := finish_of_reading readStill .rejected key
  rcases guards_of_requiresSection requires with ⟨noSweepstakes, _, _⟩
  rw [admits_iff_of_requiresSection requires] at refuses
  simp only [not_or, ne_eq, Classical.not_not, not_and, Bool.not_eq_false] at refuses
  rcases refuses with ⟨noTab, missing, exempt⟩
  have wanted : (session.rule.serialOrSection && !session.contact.countryHasSections) = false := by
    cases serialWillDo : session.rule.serialOrSection with
    | false => rfl
    | true => rw [exempt serialWillDo]; rfl
  unfold conclude
  simp [noSweepstakes, requires, isComplete_of_requiresSection byRule requires, noTab, missing,
    wanted, finished]

/-- Any other exchange that the rule does not admit leaves the session open with one question. -/
theorem conclude_of_not_admits {session : CaptureSession} {key : Key} {reading : Extraction}
    (byRule : session.ReadsByRule) (completing : key.isCompleting = true)
    (requires : ¬ session.rule.requiresSection = true) (refuses : ¬ session.Admits key reading)
    (actions : List Action) :
    ∃ (prompt : Prompt) (note : Note), session.conclude reading key actions =
      .ok ((session.note note).stay (actions ++ [.notify prompt.message])) := by
  unfold conclude
  cases kind : session.rule.strategy with
  | sweepstakes =>
      rw [Admits, Rule.Admits, kind] at refuses
      have lacking : (key == .tab || session.extractor.isComplete reading) = false := by
        simpa [isComplete_of_sweepstakes byRule kind] using refuses
      exact ⟨.ofSection, .prompted .ofSection session.buffer.text, by simp [kind, lacking, ask]⟩
  | grid =>
      rw [Admits, Rule.Admits, kind] at refuses
      have invalid : session.extractor.isComplete reading = false := by
        simpa [isComplete_of_grid byRule kind] using refuses
      exact ⟨.ofLocator, .prompted .ofLocator session.buffer.text, by
        simp [kind, invalid, requires, ask]⟩
  | zone =>
      rw [admits_iff_of_zone kind, not_or, Classical.not_not] at refuses
      rcases refuses with ⟨lacking, noTab⟩
      have asks := (isFinalizing_iff_ne_tab completing).mpr noTab
      exact ⟨.ofStateProvince, .stateProvinceMissing, by simp [kind, requires, lacking, asks]⟩
  | serialSection | sectionAlone =>
      exact absurd (by rw [RuleOf.requiresSection, kind]; rfl) requires
  | none | serial | sectionOnce | dxSection =>
      exact absurd (by rw [Admits, Rule.Admits, kind]; trivial) refuses

/-! ## The line that is completed -/

/-- The text of the line as it is completed: padded where this contact's serial is. -/
def completedText (session : CaptureSession) : Text :=
  if session.padsSerial then
    Serial.pad session.rule.padding (some session.buffer.width) session.buffer.text
  else session.buffer.text

/-- The session as it is read on completion. -/
def aligned (session : CaptureSession) : CaptureSession :=
  if session.padsSerial then session.alignSerial else session

theorem alignSerial_eq (session : CaptureSession) :
    session.alignSerial =
      { session with buffer := session.alignSerial.buffer, log := session.alignSerial.log } := by
  unfold alignSerial
  dsimp only
  split
  · rfl
  · split <;> rfl

theorem width_alignSerial (session : CaptureSession) :
    session.alignSerial.buffer.width = session.buffer.width := by
  unfold alignSerial
  dsimp only
  split
  · rfl
  · split
    · exact Buffer.width_replace session.buffer _
    · rfl

/-- The padded text always gets into the line, since it fits wherever it differs. -/
theorem text_alignSerial (session : CaptureSession) :
    session.alignSerial.buffer.text =
      Serial.pad session.rule.padding (some session.buffer.width) session.buffer.text := by
  have fits := Serial.length_pad_le session.rule.padding session.buffer.fits
  unfold alignSerial
  dsimp only
  split
  · rename_i same
    exact (beq_iff_eq.mp same).symm
  · rw [Buffer.replace_of_fits fits]
    rfl

theorem aligned_eq (session : CaptureSession) :
    session.aligned =
      { session with buffer := session.aligned.buffer, log := session.aligned.log } := by
  unfold aligned
  split
  · exact session.alignSerial_eq
  · rfl

theorem width_aligned (session : CaptureSession) :
    session.aligned.buffer.width = session.buffer.width := by
  unfold aligned
  split
  · exact session.width_alignSerial
  · rfl

theorem text_aligned (session : CaptureSession) :
    session.aligned.buffer.text = session.completedText := by
  unfold aligned completedText
  split
  · exact session.text_alignSerial
  · rfl

/-- The session in which a completed exchange is judged. -/
def judged (session : CaptureSession) (reading : Extraction) : CaptureSession :=
  { session.aligned with reading := some reading }

/-- Judging reads and judges the padded line in the session as it was. -/
theorem sameSetting_judged (session : CaptureSession) (reading : Extraction) :
    SameSetting session (session.judged reading) := by
  refine ⟨?_, ?_, ?_, session.width_aligned⟩ <;> rw [judged, aligned_eq]

@[simp] theorem state_judged (session : CaptureSession) (reading : Extraction) :
    (session.judged reading).state = session.state := by
  rw [judged, aligned_eq]

@[simp] theorem cursor_judged (session : CaptureSession) (reading : Extraction) :
    (session.judged reading).cursor = session.cursor := by
  rw [judged, aligned_eq]

@[simp] theorem contact_judged (session : CaptureSession) (reading : Extraction) :
    (session.judged reading).contact = session.contact := by
  rw [judged, aligned_eq]

@[simp] theorem text_judged (session : CaptureSession) (reading : Extraction) :
    (session.judged reading).buffer.text = session.completedText :=
  session.text_aligned

/-- A completion reads the padded line and judges what it has read. -/
theorem complete_eq (session : CaptureSession) (key : Key) (actions : List Action) :
    session.complete key actions =
      match session.extractor.extract false session.completedText with
      | .error fault => .error fault
      | .ok reading => (session.judged reading).conclude reading key actions := by
  have reader : session.aligned.extractor = session.extractor := by rw [aligned_eq]
  rw [← text_aligned, ← reader]
  rfl

/-- What a completion comes to: the session and the transition after it. -/
inductive Completed (session : CaptureSession) (key : Key) (actions : List Action)
    (reading : Extraction) : CaptureSession × Transition → Prop where
  | accepted (admits : (session.judged reading).Admits key reading) (shown : List Action) :
      Completed session key actions reading
        ((session.judged reading).ended .complete key, ⟨.complete, key, shown⟩)
  | rejected (requires : session.rule.requiresSection = true)
      (refuses : ¬ (session.judged reading).Admits key reading) (note : Note)
      (shown : List Action) :
      Completed session key actions reading
        (((session.judged reading).note note).ended .rejected key, ⟨.rejected, key, shown⟩)
  | asked (requires : ¬ session.rule.requiresSection = true)
      (refuses : ¬ (session.judged reading).Admits key reading) (prompt : Prompt) (note : Note) :
      Completed session key actions reading
        (((session.judged reading).note note).stay (actions ++ [.notify prompt.message]))

/-- A completion whose reading succeeds comes to one of these three outcomes. -/
theorem exists_completed {session : CaptureSession} {key : Key} {reading : Extraction}
    (byRule : session.ReadsByRule) (completing : key.isCompleting = true)
    (read : session.extractor.extract false session.completedText = .ok reading)
    (actions : List Action) :
    ∃ outcome, session.complete key actions = .ok outcome ∧
      Completed session key actions reading outcome := by
  have same := session.sameSetting_judged reading
  have judgedByRule := byRule.of_sameSetting same
  rw [complete_eq, read]
  by_cases admits : (session.judged reading).Admits key reading
  · rcases conclude_of_admits judgedByRule rfl admits actions with ⟨shown, concluded⟩
    exact ⟨_, concluded, .accepted admits shown⟩
  by_cases requires : session.rule.requiresSection = true
  · rcases conclude_of_lacking_section judgedByRule rfl (same.rule ▸ requires) admits actions with
      ⟨shown, concluded⟩
    exact ⟨_, concluded, .rejected requires admits _ shown⟩
  · rcases conclude_of_not_admits judgedByRule completing (same.rule ▸ requires) admits actions with
      ⟨prompt, note, concluded⟩
    exact ⟨_, concluded, .asked requires admits prompt note⟩

theorem completed_of_complete {session : CaptureSession} {key : Key} {actions : List Action}
    {outcome : CaptureSession × Transition} (byRule : session.ReadsByRule)
    (completing : key.isCompleting = true) (done : session.complete key actions = .ok outcome) :
    ∃ reading, session.extractor.extract false session.completedText = .ok reading ∧
      Completed session key actions reading outcome := by
  cases read : session.extractor.extract false session.completedText with
  | error fault =>
      rw [complete_eq, read] at done
      cases done
  | ok reading =>
      rcases exists_completed byRule completing read actions with ⟨same, again, completed⟩
      cases Except.ok.inj (done.symm.trans again)
      exact ⟨reading, rfl, completed⟩

/-- A completion that follows a key and a reading of the line comes to one of the three cases. -/
theorem completed_of_read {session next : CaptureSession} {key resolved : Key} {needed : Bool}
    {actions : List Action} {outcome : CaptureSession × Transition} (byRule : session.ReadsByRule)
    (after : Read { session with lastKey := key } next needed)
    (completing : resolved.isCompleting = true)
    (done : next.complete resolved actions = .ok outcome) :
    SameSetting session next ∧ ∃ reading,
      next.extractor.extract false next.completedText = .ok reading ∧
        Completed next resolved actions reading outcome := by
  have same := (session.sameSetting_pressed key).trans after.setting
  exact ⟨same, completed_of_complete (byRule.of_sameSetting same) completing done⟩

end CaptureSession
end ContestExchange
