import ContestExchange.Proofs.CaptureFault

namespace ContestExchange

/-!
# The way out of the exchange field

An operator who has had enough presses Escape, and one who takes the exchange as it is presses the
tabulator.  Either key may come while the exchange is collected or while it is edited in place, with
a line or without one, and in a contest of any kind.  Neither may be swallowed again and again.

Each key does one thing at a time.  Escape closes the editor, then empties the line, then leaves; so
three of them are enough.  The tabulator closes the editor and then has the exchange accepted, except
where a contest insists on a grid square.  Escape needs nothing for this, since all it ever has read
is an empty line.  The tabulator needs a line that can be read, and a line of ASCII characters that is
not overlong can be.
-/

/-! ## ASCII -/

namespace Text

/-- Whether a text consists of ASCII characters. -/
def IsAscii (text : Text) : Prop := ∀ character ∈ text, character ≤ '\x7f'

theorem IsAscii.capital {character : Char} (ascii : character ≤ '\x7f') :
    IsAscii (capital character) := by
  have codes : ∀ code < '\x7f'.toNat + 1,
      (Text.capital (Char.ofNat code)).all (· ≤ '\x7f') = true := by decide
  have capitals := of_codes (fun character => (Text.capital character).all (· ≤ '\x7f') = true)
    ascii codes
  intro other member
  exact of_decide_eq_true (List.all_eq_true.mp capitals other member)

theorem IsAscii.upper {text : Text} (ascii : IsAscii text) : IsAscii (upper text) := by
  intro character member
  rcases List.mem_flatMap.mp member with ⟨small, listed, spelled⟩
  exact IsAscii.capital (ascii small listed) character spelled

theorem IsAscii.nil : IsAscii [] := fun _ member => nomatch member

theorem IsAscii.ite {condition : Prop} [Decidable condition] {text other : Text}
    (here : IsAscii text) (there : IsAscii other) :
    IsAscii (if condition then text else other) := by
  split
  · exact here
  · exact there

theorem ascii_of_isTypable {character : Char} (typable : isTypable character = true) :
    character ≤ '\x7f' := by
  simp only [isTypable, Bool.and_eq_true, decide_eq_true_eq] at typable
  exact Char.le_trans typable.2 (by decide)

/-- The digits of ASCII all have a value. -/
theorem isDecimal_of_ascii {character : Char} (ascii : character ≤ '\x7f')
    (digit : isDigit character = true) : isDecimal character = true :=
  of_codes (fun character => isDigit character = true → isDecimal character = true) ascii
    (by decide) digit

end Text

/-- Whether what a contact may bring into an exchange is ASCII. -/
structure Contact.IsAscii (contact : Contact) : Prop where
  cqZone : Text.IsAscii contact.cqZone
  ituZone : Text.IsAscii contact.ituZone
  continent : Text.IsAscii contact.continent

namespace CaptureSession

/-- Whether the texts that an operation brings are ASCII. -/
def Operation.IsAscii : Operation → Prop
  | .start prefill recalled => Text.IsAscii prefill ∧ Text.IsAscii recalled
  | .press _ | .abort => True

/-- Whether a session has ASCII characters in its line, and gets no others from its contact. -/
structure IsAscii (session : CaptureSession) : Prop where
  line : Text.IsAscii session.buffer.text
  contact : session.contact.IsAscii

/-! ## The texts of a run -/

theorem isAscii_startText {session : CaptureSession} (contact : session.contact.IsAscii)
    {prefill recalled : Text} (prefilled : Text.IsAscii prefill)
    (remembered : Text.IsAscii recalled) : Text.IsAscii (session.startText prefill recalled) := by
  have known : Text.IsAscii session.knownStart := by
    refine Text.IsAscii.nil.ite (contact.continent.ite ?_)
    split
    · exact .nil
    · exact contact.cqZone
    · exact contact.ituZone
  exact known.ite (remembered.upper.ite prefilled.upper)

/-- Reading a line changes nothing of the contact but its call. -/
theorem Read.isAscii {before after : CaptureSession} {needed : Bool}
    (read : Read before after needed) (contact : before.contact.IsAscii) :
    after.contact.IsAscii := by
  cases live : before.rule.isLive && needed with
  | false =>
      rw [read.unread live]
      exact contact
  | true =>
      rcases read.read live with ⟨reading, _, _, corrected⟩
      rw [corrected]
      exact ⟨contact.cqZone, contact.ituZone, contact.continent⟩

theorem Completed.isAscii {session : CaptureSession} {key : Key} {actions : List Action}
    {reading : Extraction} {outcome : CaptureSession × Transition}
    (completed : Completed session key actions reading outcome)
    (contact : session.contact.IsAscii) : outcome.1.contact.IsAscii := by
  have judged : (session.judged reading).contact.IsAscii := by
    rw [contact_judged]
    exact contact
  cases completed with
  | accepted admits shown => exact judged
  | rejected requires refuses note shown => exact judged
  | asked requires refuses prompt note => exact judged

theorem IsAscii.start {session next : CaptureSession} (ascii : session.IsAscii)
    {prefill recalled : Text} {transition : Transition} (prefilled : Text.IsAscii prefill)
    (remembered : Text.IsAscii recalled)
    (done : session.start prefill recalled = .ok (next, transition)) : next.IsAscii := by
  have read := read_of_start done
  refine ⟨?_, read.isAscii ?_⟩
  · rw [read.buffer]
    exact forall_mem_begun (isAscii_startText ascii.contact prefilled remembered)
  · rw [contact_begun]
    exact ascii.contact

/-- No key brings in what is not ASCII. -/
theorem Taken.isAscii {session : CaptureSession} {key : Key}
    {outcome : CaptureSession × Transition} (taken : Taken session key outcome)
    (byRule : session.ReadsByRule) (ascii : session.IsAscii) : outcome.1.IsAscii := by
  have line := (taken.keystroke byRule).forall_mem (fun _ => Text.ascii_of_isTypable) ascii.line
  refine ⟨line, ?_⟩
  cases taken with
  | final final => exact ascii.contact
  | collected collecting noCursor outcome done =>
      cases done with
      | kept actions => exact ascii.contact
      | opened position present => exact ascii.contact
      | left line empty width unchanged outcome ended =>
          rw [ended.contact]
          exact ascii.contact
      | changed line change incomplete next after actions => exact after.isAscii ascii.contact
      | completed completing next after actions outcome concluded =>
          rcases completed_of_read byRule after completing concluded with
            ⟨same, reading, _, completed⟩
          exact completed.isAscii (after.isAscii ascii.contact)
  | edited editing cursor placed inside outcome done =>
      cases done with
      | continued next after actions => exact after.isAscii ascii.contact
      | closed next after actions => exact after.isAscii ascii.contact

/-- A run that is given ASCII texts only leaves ASCII characters only. -/
theorem isAscii_of_run {fresh session last : CaptureSession} (invariant : Invariant fresh session)
    (ascii : session.IsAscii) {operations : List Operation}
    (plain : ∀ operation ∈ operations, operation.IsAscii)
    (done : session.run operations = .ok last) : last.IsAscii := by
  induction operations generalizing session with
  | nil =>
      cases done
      exact ascii
  | cons operation rest inductionHypothesis =>
      rcases operate_of_run_cons done with ⟨next, transition, operated, continued⟩
      have later : ∀ other ∈ rest, other.IsAscii := fun other member =>
        plain other (List.mem_cons_of_mem operation member)
      have takes {started : CaptureSession} {key : Key} (begun : Invariant fresh started)
          (ascii : started.IsAscii) (isStarted : started.state ≠ .idle)
          (taken : started.take key = .ok (next, transition)) : last.IsAscii := by
        have took := taken_of_take begun.sound isStarted taken
        exact inductionHypothesis (begun.take isStarted taken)
          (took.isAscii begun.byRule ascii) later continued
      cases operation with
      | start prefill recalled =>
          rcases plain _ List.mem_cons_self with ⟨prefilled, remembered⟩
          exact inductionHypothesis (invariant.start operated)
            (ascii.start prefilled remembered operated) later continued
      | abort =>
          cases operated
          exact inductionHypothesis invariant.abort ⟨ascii.line, ascii.contact⟩ later continued
      | press key =>
          -- The first key starts a session with no text at all.
          by_cases idle : session.state = .idle
          · rcases start_of_step idle operated with ⟨⟨started, opening⟩, starting, taken⟩
            have isOpen : started.IsOpen := Or.inl (read_of_start starting).state
            exact takes (invariant.start starting) (ascii.start .nil .nil starting) isOpen.started
              taken
          · exact takes invariant ascii idle ((step_of_started idle key).symm.trans operated)

/-! ## Pressing one key again and again -/

/-- Whether a session comes to a goal by one key that is pressed so many times at most. -/
def ReachesWithin (session : CaptureSession) (limit : Nat) (key : Key)
    (Goal : CaptureSession → Prop) : Prop :=
  ∃ count ≤ limit, ∃ last,
    session.run (List.replicate count (.press key)) = .ok last ∧ Goal last

section ReachesWithin

variable {session next : CaptureSession} {key : Key} {transition : Transition} {limit : Nat}
  {Goal : CaptureSession → Prop}

theorem ReachesWithin.step (stepped : session.step key = .ok (next, transition))
    (later : next.ReachesWithin limit key Goal) : session.ReachesWithin (limit + 1) key Goal := by
  have pressed : session.operate (.press key) = .ok (next, transition) := stepped
  rcases later with ⟨count, few, last, done, reached⟩
  exact ⟨count + 1, Nat.succ_le_succ few, last, (run_cons pressed _).trans done, reached⟩

theorem ReachesWithin.last (stepped : session.step key = .ok (next, transition))
    (reached : Goal next) : session.ReachesWithin 1 key Goal := by
  have here : next.ReachesWithin 0 key Goal := ⟨0, Nat.le_refl 0, next, rfl, reached⟩
  exact .step stepped here

theorem ReachesWithin.mono (reaches : session.ReachesWithin limit key Goal) {more : Nat}
    (enough : limit ≤ more) : session.ReachesWithin more key Goal := by
  rcases reaches with ⟨count, few, last, done, reached⟩
  exact ⟨count, Nat.le_trans few enough, last, done, reached⟩

end ReachesWithin

/-! ## Out of the editor -/

/-- Whether a key closes an editor and leaves it as it is. -/
def ClosesEditor (key : Key) : Prop :=
  ∀ editor : Editor, editor.handle key = (false, editor)

theorem closesEditor_escape : ClosesEditor .escape := fun _ => rfl

theorem closesEditor_tab : ClosesEditor .tab := fun _ => rfl

/-- The session after a key that closed its editor. -/
def closed (session : CaptureSession) (key : Key) : CaptureSession :=
  { session with lastKey := key, cursor := none, state := .collecting }

/-- A key that closes the editor leaves the line unread, as it has not changed. -/
theorem step_of_closing {session : CaptureSession} (sound : Sound session)
    (editing : session.state = .editing) {key : Key} (closes : ClosesEditor key) :
    ∃ transition, session.step key = .ok (session.closed key, transition) := by
  have isOpen : session.IsOpen := Or.inr editing
  rcases sound.editor editing with ⟨cursor, placed, inside⟩
  rw [step_of_started isOpen.started, take_of_editing editing placed, edit]
  dsimp only
  rw [closes]
  dsimp only
  rw [bne_self_eq_false, validateIf_of_unneeded (Bool.and_false _)]
  exact ⟨_, rfl⟩

/-! ## Leaving -/

/-- Whether a session has gone back to the call field with an empty line. -/
def HasLeft (session : CaptureSession) : Prop :=
  session.state = .back ∧ session.buffer.text = []

/-- Escape leaves a field whose line is empty. -/
theorem step_escape_of_empty {session : CaptureSession} (collecting : session.state = .collecting)
    (empty : session.buffer.isEmpty = true) :
    ∃ next transition, session.step .escape = .ok (next, transition) ∧ next.HasLeft := by
  have isOpen : session.IsOpen := Or.inl collecting
  have nothing : session.buffer.text = [] := session.buffer.isEmpty_iff.mp empty
  have leaves : { session with lastKey := .escape }.collect .escape =
      { session with lastKey := .escape }.finish .back .tab [.stopTransmission] := by
    have responds : { session with lastKey := .escape }.respond .escape =
        .backed { session with lastKey := .escape } [.stopTransmission] := if_pos empty
    rw [collect, responds]
  rw [step_of_started isOpen.started, take_of_collecting collecting, leaves]
  cases finished : { session with lastKey := .escape }.finish .back .tab [.stopTransmission] with
  | error fault => exact absurd finished (finish_of_empty nothing _ _ _)
  | ok outcome =>
      have ended := ended_of_finish finished
      refine ⟨outcome.1, outcome.2, rfl, ended.state, ?_⟩
      rw [ended.buffer]
      exact nothing

/-- Escape empties a line. -/
theorem step_escape_of_present {session : CaptureSession}
    (collecting : session.state = .collecting) (present : session.buffer.isEmpty = false) :
    ∃ next transition, session.step .escape = .ok (next, transition) ∧
      next.state = .collecting ∧ next.buffer.isEmpty = true := by
  have isOpen : session.IsOpen := Or.inl collecting
  have responds : { session with lastKey := .escape }.respond .escape =
      .passed { session with lastKey := .escape, buffer := session.buffer.clear }
        [.stopTransmission] noKey :=
    if_neg (Bool.eq_false_iff.mp present)
  have mute : (Key.promote noKey).isTyped = false := rfl
  have incomplete : (Key.promote noKey).isCompleting = false := rfl
  rw [step_of_started isOpen.started, take_of_collecting collecting, collect, responds]
  dsimp only
  rw [type_of_not_isTyped mute]
  -- All that may be read here is the emptied line, and that one always can be.
  split
  · rename_i fault failed
    rw [validateIf_eq_error_iff] at failed
    exact absurd failed.2 extract_nil_ne_error
  · rename_i read shown validated
    have after := read_of_validateIf validated
    rw [incomplete]
    refine ⟨read, _, rfl, after.state.trans collecting, ?_⟩
    rw [after.buffer]
    rfl

theorem reachesWithin_escape_of_collecting {session : CaptureSession}
    (collecting : session.state = .collecting) : session.ReachesWithin 2 .escape HasLeft := by
  cases empty : session.buffer.isEmpty with
  | true =>
      rcases step_escape_of_empty collecting empty with ⟨next, transition, stepped, left⟩
      exact (ReachesWithin.last stepped left).mono (by decide)
  | false =>
      rcases step_escape_of_present collecting empty with
        ⟨next, transition, emptied, stays, cleared⟩
      rcases step_escape_of_empty stays cleared with ⟨last, leaving, stepped, left⟩
      exact .step emptied (.last stepped left)

/-- From any open session at most three Escapes lead back. -/
theorem reachesWithin_escape {session : CaptureSession} (sound : Sound session)
    (isOpen : session.IsOpen) : session.ReachesWithin 3 .escape HasLeft := by
  rcases isOpen with collecting | editing
  · exact (reachesWithin_escape_of_collecting collecting).mono (by decide)
  · rcases step_of_closing sound editing closesEditor_escape with ⟨transition, stepped⟩
    have collects : (session.closed .escape).state = .collecting := rfl
    exact .step stepped (reachesWithin_escape_of_collecting collects)

/-! ## Being accepted -/

/-- The tabulator has an exchange accepted that lacks something, unless that is a grid square. -/
theorem admits_tab {rule : Rule} (noSquare : ¬ (rule.strategy = .grid ∧ rule.locatorCheck = true))
    (settings : CaptureSettings) (contact : Contact) (text : Text) (reading : Extraction) :
    rule.Admits settings contact .tab text reading := by
  unfold Rule.Admits
  cases kind : rule.strategy with
  | sweepstakes | serialSection | sectionAlone => exact Or.inl rfl
  | grid => exact Or.inl (Bool.eq_false_iff.mpr fun checks => noSquare ⟨kind, checks⟩)
  | zone => exact fun _ _ => Or.inl rfl
  | none | serial | sectionOnce | dxSection => trivial

/-- A line of ASCII characters that is not overlong can be read on completion. -/
theorem exists_extract_completedText {session : CaptureSession}
    (collecting : session.state = .collecting)
    (narrow : session.buffer.width ≤ Literal.integerDigitLimit)
    (ascii : Text.IsAscii session.buffer.text) :
    ∃ reading, session.extractor.extract false session.completedText = .ok reading := by
  have completing : (session.resolvedKey .tab).isCompleting = true := rfl
  have completed : Text.IsAscii session.completedText :=
    (keystroke_completedText collecting completing).forall_mem
      (fun _ => Text.ascii_of_isTypable) ascii
  have fits : session.completedText.length ≤ session.buffer.width := by
    rw [← text_aligned, ← session.width_aligned]
    exact session.aligned.buffer.fits
  refine Extractor.exists_extract (fun _ => ?_) false
  apply Extraction.readable_of_decimal
  · exact Nat.le_trans fits narrow
  · exact fun character member => Text.isDecimal_of_ascii (completed character member)

/-- What the tabulator needs to have the exchange of a session accepted. -/
structure IsCompletable (session : CaptureSession) : Prop where
  byRule : session.ReadsByRule
  read : (session.rule.isLive && session.reading.isNone) = false
  narrow : session.buffer.width ≤ Literal.integerDigitLimit
  line : Text.IsAscii session.buffer.text
  noSquare : ¬ (session.rule.strategy = .grid ∧ session.rule.locatorCheck = true)

/-- Whether the exchange of a session was accepted with the tabulator. -/
def IsAcceptedByTab (session : CaptureSession) : Prop :=
  session.result.status = .complete ∧ session.result.key = .tab

theorem step_tab_of_collecting {session : CaptureSession} (completable : session.IsCompletable)
    (collecting : session.state = .collecting) :
    ∃ next transition, session.step .tab = .ok (next, transition) ∧ next.IsAcceptedByTab := by
  have isOpen : session.IsOpen := Or.inl collecting
  have completing : (session.resolvedKey .tab).isCompleting = true := rfl
  rcases exists_extract_completedText collecting completable.narrow completable.line with
    ⟨reading, extracted⟩
  have pressed := completable.byRule.of_sameSetting (session.sameSetting_pressed .tab)
  have completes : ∃ actions, actions.countP Action.isNotify = 0 ∧
      { session with lastKey := .tab }.collect .tab =
        { session with lastKey := .tab }.complete (session.resolvedKey .tab) actions :=
    collect_of_completing completing completable.read
  rcases completes with ⟨actions, quiet, collects⟩
  rcases exists_completed pressed completing extracted actions with
    ⟨⟨next, transition⟩, completed, outcome⟩
  have gated := outcome.gated collecting quiet
  have accepted := gated.accepted.mpr (admits_tab completable.noSquare _ _ _ _)
  rw [step_of_started isOpen.started, take_of_collecting collecting]
  refine ⟨next, transition, collects.trans completed, ?_⟩
  rw [IsAcceptedByTab, accepted]
  exact ⟨rfl, rfl⟩

/-- From any open session whose exchange is completable, at most two tabulators complete it. -/
theorem reachesWithin_tab {session : CaptureSession} (completable : session.IsCompletable)
    (sound : Sound session) (isOpen : session.IsOpen) :
    session.ReachesWithin 2 .tab IsAcceptedByTab := by
  rcases isOpen with collecting | editing
  · rcases step_tab_of_collecting completable collecting with ⟨next, transition, stepped, accepted⟩
    exact (ReachesWithin.last stepped accepted).mono (by decide)
  · rcases step_of_closing sound editing closesEditor_tab with ⟨closing, closed⟩
    have still : (session.closed .tab).IsCompletable :=
      ⟨completable.byRule, completable.read, completable.narrow, completable.line,
        completable.noSquare⟩
    rcases step_tab_of_collecting still rfl with ⟨next, transition, stepped, accepted⟩
    exact .step closed (.last stepped accepted)

/-! ## Every open session -/

section Run

variable {rule : Rule} {table : MultiplierTable} {templates : TemplateSet}
  {settings : CaptureSettings} {contact : Contact} {fresh session : CaptureSession}
  {operations : List Operation}

/-- A run that is given ASCII texts leads to completable exchanges only. -/
theorem isCompletable_of_run
    (created : create rule (Extractor.ofRule rule table templates) settings contact = .ok fresh)
    (done : fresh.run operations = .ok session) (isOpen : session.IsOpen)
    (narrow : rule.width ≤ Literal.integerDigitLimit) (plain : contact.IsAscii)
    (texts : ∀ operation ∈ operations, operation.IsAscii)
    (noSquare : ¬ (rule.strategy = .grid ∧ rule.locatorCheck = true)) :
    session.IsCompletable := by
  have fromFresh := invariant_of_create created
  have holds := invariant_of_run fromFresh done
  rcases eq_of_create created with ⟨line, same⟩
  rcases line_of_create created with ⟨empty, width⟩
  constructor
  case byRule => exact holds.byRule
  case read =>
    cases live : session.rule.isLive with
    | false => rfl
    | true =>
        have liveFresh : fresh.rule.isLive = true := by rw [← holds.setting.rule]; exact live
        have current := current_of_run fromFresh (by rw [same]) liveFresh done isOpen.isKept
        rw [Option.isNone_eq_false_iff.mpr current.isSome]
        rfl
  case narrow =>
    rw [holds.setting.width]
    omega
  case line =>
    have ascii : fresh.IsAscii := by
      refine ⟨?_, ?_⟩
      · rw [empty]
        exact .nil
      · rw [same]
        exact plain
    exact (isAscii_of_run fromFresh ascii texts done).line
  case noSquare =>
    rw [holds.setting.rule, same]
    exact noSquare

/-- From every open session that a run leads to, at most three Escapes lead back to the call field
with an empty line.  Where the texts are ASCII, the line is not overlong and the contest does not
insist on a grid square, at most two tabulators have the exchange accepted. -/
theorem operator_gets_out
    (created : create rule (Extractor.ofRule rule table templates) settings contact = .ok fresh)
    (done : fresh.run operations = .ok session) (isOpen : session.IsOpen) :
    session.ReachesWithin 3 .escape HasLeft ∧
    (rule.width ≤ Literal.integerDigitLimit → contact.IsAscii →
      (∀ operation ∈ operations, operation.IsAscii) →
      ¬ (rule.strategy = .grid ∧ rule.locatorCheck = true) →
        session.ReachesWithin 2 .tab IsAcceptedByTab) := by
  have sound := (invariant_of_run (invariant_of_create created) done).sound
  constructor
  · exact reachesWithin_escape sound isOpen
  · intro narrow plain texts noSquare
    have completable := isCompletable_of_run created done isOpen narrow plain texts noSquare
    exact reachesWithin_tab completable sound isOpen

end Run

/-- A serial that is edited in place: both keys close the editor first. -/
theorem operator_gets_out_of_edited_serial :
    ∃ fresh session, create (Rule.basic "WPX" .serial 12)
        (Extractor.ofRule (Rule.basic "WPX" .serial 12) ⟨[]⟩ .builtIn) {} {} = .ok fresh ∧
      fresh.run [.start ['5'] [], .press .home] = .ok session ∧ session.state = .editing ∧
      session.ReachesWithin 3 .escape HasLeft ∧ session.ReachesWithin 2 .tab IsAcceptedByTab := by
  have runs : ∃ fresh session, create (Rule.basic "WPX" .serial 12)
      (Extractor.ofRule (Rule.basic "WPX" .serial 12) ⟨[]⟩ .builtIn) {} {} = .ok fresh ∧
      fresh.run [.start ['5'] [], .press .home] = .ok session ∧ session.state = .editing :=
    ⟨_, _, rfl, rfl, rfl⟩
  rcases runs with ⟨fresh, session, created, done, editing⟩
  rcases operator_gets_out created done (Or.inr editing) with ⟨back, accepted⟩
  refine ⟨fresh, session, created, done, editing, back, accepted (by decide) ?_ ?_ ?_⟩
  · exact ⟨.nil, .nil, .nil⟩
  · intro operation member
    rcases List.mem_cons.mp member with started | pressed
    · subst started
      exact ⟨List.forall_mem_singleton.mpr (by decide), .nil⟩
    · cases List.mem_singleton.mp pressed
      trivial
  · rintro ⟨located, _⟩
    cases located

end CaptureSession
end ContestExchange
