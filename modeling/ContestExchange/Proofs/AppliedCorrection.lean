import ContestExchange.Document.Flow
import ContestExchange.Proofs.CallCorrection
import ContestExchange.Proofs.CompletionGate
import ContestExchange.Proofs.DocumentOpening
import ContestExchange.Proofs.SweepstakesForm
import ContestExchange.Station.TemplateFile

namespace ContestExchange

/-!
# Corrections are always applied

A call that is retyped into an exchange is taken over where the line is read while it is typed, and
nowhere else.  A completion reads the line once more, after padding, and stores what it has read
without taking anything over.  So the stored reading and the call of the contact could drift apart
there, and they do not, because padding never changes which call is retyped.

Three kinds of reading find a retyped call, and zeros in front leave each of them alone.  Under the
shapes of calls nothing lies on a number at the start, since each shape starts with a blank.  The
exchanges of zones and of Sweepstakes take the digits at the start first and look for a call behind
them, and the zeros are among these digits.  The shapes have to be those that a template file may
ask for; a shape that started with a figure could lie on a zero.
-/

/-! ## Shapes of calls -/

namespace TemplateFile

theorem mem_group {groups : List (Value × Value)} {name : String} {isUsable : Template → Bool}
    {builtIn : List Template} {template : Template}
    (member : template ∈ group groups name isUsable builtIn) :
    isUsable template = true ∨ template ∈ builtIn := by
  unfold group at member
  dsimp only at member
  split at member
  · exact Or.inr member
  · exact Or.inl (List.mem_filter.mp member).2

/-- Whether a set of templates has only the built-in shapes of calls. -/
def HasCallShapes (templates : TemplateSet) : Prop :=
  ∀ shape ∈ templates.callsigns, shape ∈ TemplateSet.callShapes

theorem hasCallShapes_builtIn : HasCallShapes .builtIn := fun _ member => member

theorem hasCallShapes_ofGroups (groups : List (Value × Value)) :
    HasCallShapes (ofGroups groups) := by
  intro shape member
  rcases mem_group member with usable | listed
  · exact List.contains_iff_mem.mp usable
  · exact listed

theorem hasCallShapes_ofDocument (path : Text) (document : Value) :
    HasCallShapes (ofDocument path document).1 := by
  unfold ofDocument
  dsimp only
  split
  · split
    · exact hasCallShapes_ofGroups _
    · exact hasCallShapes_builtIn
  · split
    · exact hasCallShapes_builtIn
    · exact hasCallShapes_ofGroups []

/-- Whatever a template file says, the shapes of calls are among the built-in ones. -/
theorem hasCallShapes_of_load {store : Store} {setting : Value} {templates : TemplateSet}
    {warning : Option Text} (loaded : load store setting = .ok (templates, warning)) :
    HasCallShapes templates := by
  rcases RuleBook.opening_meets (fun outcome => HasCallShapes outcome.1) hasCallShapes_builtIn
    (fun _ => hasCallShapes_builtIn) (fun _ => hasCallShapes_builtIn) loaded with
    ⟨_, shapes⟩ | ⟨path, document, _, done⟩
  · exact shapes
  · have same := congrArg Prod.fst (Except.ok.inj done)
    rw [← show _ = templates from same]
    exact hasCallShapes_ofDocument path document

end TemplateFile

/-! ## Digits at the start -/

namespace Serial

/-- What stands behind the digits at the start of a padded text stands behind those of the text. -/
theorem Padded.behindDigits {zeros text : Text} (padded : Padded zeros text) :
    (Extraction.takeDigits (zeros ++ text)).2 = (Extraction.takeDigits text).2 := by
  rcases padded with ⟨leads, first, rest, starts, digit⟩
  have textStarts : Text.trimStart text = text := by
    rw [starts]
    exact Extraction.trimStart_of_head (Extraction.isBlank_of_isDigit digit)
  have zerosStart : Text.trimStart (zeros ++ text) = zeros ++ text := by
    rcases leads.eq_zeros with one | two
    · rw [one]
      rfl
    · rw [two]
      rfl
  have zerosCount : ∀ character ∈ zeros, Text.isDecimal character = true := by
    rcases leads.eq_zeros with one | two
    · rw [one]
      exact List.all_eq_true.mp rfl
    · rw [two]
      exact List.all_eq_true.mp rfl
  show (Text.trimStart (zeros ++ text)).dropWhile Text.isDecimal =
    (Text.trimStart text).dropWhile Text.isDecimal
  rw [textStarts, zerosStart, List.dropWhile_append_of_pos zerosCount]

theorem Padded.zoneCall {zeros text : Text} (padded : Padded zeros text) :
    (Extraction.ZoneParts.ofText (zeros ++ text)).call = (Extraction.ZoneParts.ofText text).call := by
  have cut (line : Text) : (Extraction.ZoneParts.ofText line).call =
      (Extraction.takeZoneCall (Extraction.takeDigits line).2).1 := rfl
  rw [cut, cut, padded.behindDigits]

theorem Padded.sweepstakesCall {zeros text : Text} (padded : Padded zeros text) :
    (Extraction.SweepstakesParts.ofText (zeros ++ text)).correction =
      (Extraction.SweepstakesParts.ofText text).correction := by
  have cut (line : Text) : (Extraction.SweepstakesParts.ofText line).call =
      (Extraction.takeSweepstakesCall
        (Extraction.takePrecedence (Extraction.takeDigits line).2).2).1 := rfl
  have same : (Extraction.SweepstakesParts.ofText (zeros ++ text)).call =
      (Extraction.SweepstakesParts.ofText text).call := by
    rw [cut, cut, padded.behindDigits]
  rw [Extraction.SweepstakesParts.correction, Extraction.SweepstakesParts.correction, same]

end Serial

/-! ## The call of a padded text -/

namespace Extractor

/-- The call that is retyped in a text. -/
def retypedCall (extractor : Extractor) (text : Text) : Text :=
  match extractor.strategy with
  | .none => []
  | .serial | .serialSection | .sectionAlone | .sectionOnce | .dxSection | .grid =>
      extractor.correction text
  | .zone => (Extraction.ZoneParts.ofText text).call
  | .sweepstakes => (Extraction.SweepstakesParts.ofText text).correction

variable {extractor : Extractor}

/-- What a reading corrects the call to depends on the text alone. -/
theorem correction_of_extract {typing : Bool} {text : Text} {reading : Extraction}
    (read : extractor.extract typing text = .ok reading) :
    reading.correction = extractor.retypedCall text := by
  unfold extract at read
  unfold retypedCall
  cases kind : extractor.strategy with
  | serial =>
      simp only [kind, readSerial] at read
      split at read
      · cases read
      · cases read
        rfl
  | serialSection =>
      simp only [kind, readSerialSection] at read
      split at read
      · cases read
      · cases read
        cases typing <;> rfl
  | none =>
      simp only [kind] at read
      cases read
      rfl
  | sectionAlone | sectionOnce | dxSection | grid | zone | sweepstakes =>
      simp only [kind] at read
      cases read
      cases typing <;> rfl

/-- Each shape of a call starts with a blank, where no padded serial has one. -/
theorem keepsPlace_of_callShape {shape : Template} (listed : shape ∈ TemplateSet.callShapes) :
    Serial.keepsPlace shape = true ∧ 2 ≤ shape.length := by
  have every : ∀ shape ∈ TemplateSet.callShapes,
      Serial.keepsPlace shape = true ∧ 2 ≤ shape.length := by decide
  exact every shape listed

/-- Padding never changes which call is retyped. -/
theorem retypedCall_pad (shapes : TemplateFile.HasCallShapes extractor.templates)
    (padding : Padding) (width : Option Int) (text : Text) :
    extractor.retypedCall (Serial.pad padding width text) = extractor.retypedCall text := by
  rcases Serial.pad_cases padding width text with
    same | ⟨zeros, first, rest, starts, digit, leads, longer⟩
  · rw [same]
  have padded : Serial.Padded zeros text := ⟨leads, first, rest, starts, digit⟩
  rw [longer]
  unfold retypedCall
  cases extractor.strategy with
  | none => rfl
  | zone => exact padded.zoneCall
  | sweepstakes => exact padded.sweepstakesCall
  | serial | serialSection | sectionAlone | sectionOnce | dxSection | grid =>
      apply padded.scanCall
      intro shape member
      exact keepsPlace_of_callShape (shapes shape member)

end Extractor

/-! ## The call of the contact -/

namespace CaptureSession

/-- Whether the call of the contact is the one that the stored reading corrects it to, if that is one
of three characters or more. -/
def Corrected (session : CaptureSession) : Prop :=
  ∀ reading, session.reading = some reading → 3 ≤ reading.correction.length →
    session.contact.call = reading.correction

theorem Corrected.of_same {before after : CaptureSession} (corrected : before.Corrected)
    (reading : after.reading = before.reading) (call : after.contact.call = before.contact.call) :
    after.Corrected := by
  intro stored same long
  rw [call]
  exact corrected stored (reading.symm.trans same) long

/-- A line that is read while it is typed has its correction applied. -/
theorem Read.corrected {before after : CaptureSession} {needed : Bool}
    (read : Read before after needed) (updates : before.settings.callUpdate = true)
    (corrected : before.Corrected) : after.Corrected := by
  cases live : before.rule.isLive && needed with
  | false =>
      rw [read.unread live]
      exact corrected
  | true =>
      rcases read.read live with ⟨reading, _, stored, contact⟩
      intro other same long
      cases stored.symm.trans same
      have applies : (before.settings.callUpdate && decide (3 ≤ reading.correction.length)) = true := by
        rw [updates, decide_eq_true long]
        rfl
      rw [contact]
      show before.settings.callAfter before.contact.call reading = reading.correction
      rw [CaptureSettings.callAfter, if_pos applies]

theorem Completed.reading {session : CaptureSession} {key : Key} {actions : List Action}
    {reading : Extraction} {outcome : CaptureSession × Transition}
    (completed : Completed session key actions reading outcome) :
    outcome.1.reading = some reading := by
  cases completed with
  | accepted admits shown => rfl
  | rejected requires refuses note shown => rfl
  | asked requires refuses prompt note => rfl

theorem retypedCall_completedText {session : CaptureSession}
    (shapes : TemplateFile.HasCallShapes session.extractor.templates) :
    session.extractor.retypedCall session.completedText =
      session.extractor.retypedCall session.buffer.text := by
  unfold completedText
  split
  · exact Extractor.retypedCall_pad shapes _ _ _
  · rfl

/-- A completion applies nothing, but what it reads corrects the call to what it was corrected to
when the line was typed. -/
theorem Completed.corrected {session : CaptureSession} {key : Key} {actions : List Action}
    {reading : Extraction} {outcome : CaptureSession × Transition}
    (completed : Completed session key actions reading outcome)
    (extracted : session.extractor.extract false session.completedText = .ok reading)
    (shapes : TemplateFile.HasCallShapes session.extractor.templates)
    (current : session.Current) (corrected : session.Corrected) : outcome.1.Corrected := by
  rcases current with ⟨before, stored, read⟩
  have same : reading.correction = before.correction := by
    calc reading.correction
        = session.extractor.retypedCall session.completedText :=
          Extractor.correction_of_extract extracted
      _ = session.extractor.retypedCall session.buffer.text := retypedCall_completedText shapes
      _ = before.correction := (Extractor.correction_of_extract read).symm
  intro other storedNow long
  cases completed.reading.symm.trans storedNow
  rw [completed.call, same]
  rw [same] at long
  exact corrected before stored long

/-- Every key leaves the call corrected. -/
theorem Taken.corrected {session : CaptureSession} {key : Key}
    {outcome : CaptureSession × Transition} (taken : Taken session key outcome)
    (byRule : session.ReadsByRule) (updates : session.settings.callUpdate = true)
    (shapes : TemplateFile.HasCallShapes session.extractor.templates)
    (current : session.IsKept → session.Current) (corrected : session.Corrected) :
    outcome.1.Corrected := by
  cases taken with
  | final final => exact corrected
  | collected collecting noCursor outcome done =>
      have isOpen : session.IsOpen := Or.inl collecting
      have currentHere := current isOpen.isKept
      cases done with
      | kept actions => exact corrected
      | opened position present => exact corrected
      | left line empty width unchanged outcome ended =>
          have sameReading := ended.reading currentHere.isSome
          exact corrected.of_same sameReading (congrArg Contact.call ended.contact)
      | changed line change incomplete next after actions =>
          have relined : Corrected { session with lastKey := key, buffer := line } := corrected
          exact after.corrected updates relined
      | completed completing next after actions outcome concluded =>
          rcases completed_of_read byRule after completing concluded with
            ⟨same, reading, extracted, completed⟩
          -- The line has been read before, so the key finds the session as it was.
          have unneeded : session.reading.isNone = false :=
            Option.isNone_eq_false_iff.mpr currentHere.isSome
          have unchanged : next = { session with lastKey := key } := by
            apply after.unread
            show (session.rule.isLive && session.reading.isNone) = false
            rw [unneeded, Bool.and_false]
          subst unchanged
          exact completed.corrected extracted shapes currentHere corrected
  | edited editing cursor placed inside outcome done =>
      have withEditor (editor : Editor) :
          Corrected ({ session with lastKey := key }.withEditor editor) := corrected
      cases done with
      | continued next after actions => exact after.corrected updates (withEditor _)
      | closed next after actions =>
          have read : next.Corrected := after.corrected updates (withEditor _)
          exact read.of_same rfl rfl

theorem corrected_of_start {session next : CaptureSession} {prefill recalled : Text}
    {transition : Transition} (updates : session.settings.callUpdate = true)
    (done : session.start prefill recalled = .ok (next, transition)) : next.Corrected := by
  have begun := session.sameSetting_begun prefill recalled
  apply (read_of_start done).corrected
  · rw [begun.settings]
    exact updates
  · intro reading stored
    have unread : (session.begun prefill recalled).reading = none := rfl
    cases unread.symm.trans stored

/-- After every run of a live contest the call is corrected. -/
theorem corrected_of_run {fresh session : CaptureSession} (holds : Invariant fresh fresh)
    (unread : fresh.reading = none) (idle : fresh.state = .idle)
    (live : fresh.rule.isLive = true) (updates : fresh.settings.callUpdate = true)
    (shapes : TemplateFile.HasCallShapes fresh.extractor.templates)
    {operations : List Operation} (done : fresh.run operations = .ok session) :
    session.Corrected := by
  have reached : Invariant fresh session ∧ (session.IsKept → session.Current) ∧
      session.Corrected := by
    refine run_preserves (fun session => Invariant fresh session ∧
      (session.IsKept → session.Current) ∧ session.Corrected) ?starts ?takes ?aborts
      ⟨holds, ?kept, ?fresh⟩ done
    case starts =>
      intro session next prefill recalled transition ⟨reached, _, _⟩ starting
      have liveHere : session.rule.isLive = true := by rw [reached.setting.rule]; exact live
      have updatesHere : session.settings.callUpdate = true := by
        rw [reached.setting.settings]
        exact updates
      exact ⟨reached.start starting, fun _ => current_of_start liveHere starting,
        corrected_of_start updatesHere starting⟩
    case takes =>
      intro session next key transition ⟨reached, current, corrected⟩ started taken
      have took := taken_of_take reached.sound started taken
      have liveHere : session.rule.isLive = true := by rw [reached.setting.rule]; exact live
      have updatesHere : session.settings.callUpdate = true := by
        rw [reached.setting.settings]
        exact updates
      have shapesHere : TemplateFile.HasCallShapes session.extractor.templates := by
        rw [reached.setting.extractor]
        exact shapes
      refine ⟨reached.take started taken, ?_, ?_⟩
      · exact took.current_of_isKept started reached.byRule liveHere current
      · exact took.corrected reached.byRule updatesHere shapesHere current corrected
    case aborts =>
      intro session ⟨reached, _, corrected⟩
      refine ⟨reached.abort, fun isKept => absurd rfl isKept.2.2, ?_⟩
      exact corrected.of_same rfl rfl
    case kept =>
      intro isKept
      exact absurd idle isKept.1
    case fresh =>
      intro reading stored
      cases unread.symm.trans stored
  exact reached.2.2

/-- Under a live rule, with templates from a template file and calls put right, the call of the contact
is the correction last read, in every session that can be reached, if that has three characters or
more.  Padding does not change the correction that is read. -/
theorem call_is_correction {store : Store} {setting : Value} {templates : TemplateSet}
    {warning : Option Text} (loaded : TemplateFile.load store setting = .ok (templates, warning))
    {rule : Rule} (live : rule.isLive = true) (table : MultiplierTable)
    {settings : CaptureSettings} (updates : settings.callUpdate = true) (contact : Contact) :
    (∀ session,
      Reachable rule (Extractor.ofRule rule table templates) settings contact session →
      3 ≤ session.latestReading.correction.length →
        session.contact.call = session.latestReading.correction) ∧
    ∀ typing typingAgain padding width text reading padded,
      (Extractor.ofRule rule table templates).extract typing text = .ok reading →
      (Extractor.ofRule rule table templates).extract typingAgain
          (Serial.pad padding width text) = .ok padded →
        padded.correction = reading.correction := by
  have shapes : TemplateFile.HasCallShapes (Extractor.ofRule rule table templates).templates :=
    TemplateFile.hasCallShapes_of_load loaded
  constructor
  · rintro session ⟨fresh, operations, created, done⟩ long
    have holds := invariant_of_create created
    rcases eq_of_create created with ⟨line, same⟩
    subst same
    have corrected := corrected_of_run holds rfl rfl live updates shapes done
    cases stored : session.reading with
    | none =>
        rw [latestReading, stored] at long
        exact absurd long (by decide)
    | some reading =>
        rw [latestReading, stored] at long ⊢
        exact corrected reading stored long
  · intro typing typingAgain padding width text reading padded read readPadded
    rw [Extractor.correction_of_extract readPadded, Extractor.correction_of_extract read]
    exact Extractor.retypedCall_pad shapes padding width text

/-- Zone five and a call, completed by Enter: the line is padded to three figures and read again,
and the call is still the one that was typed. -/
theorem call_is_correction_after_padding :
    TemplateFile.load (.empty (Flow.form 100)) .null = .ok (.builtIn, none) ∧
      ({ Rule.basic "CQWW" .zone 12 with padding := .wpx } : Rule).isLive = true ∧
      (∃ session, Reachable { Rule.basic "CQWW" .zone 12 with padding := .wpx }
          (Extractor.ofRule { Rule.basic "CQWW" .zone 12 with padding := .wpx } ⟨[]⟩ .builtIn)
          { callUpdate := true } { call := Text.ofString "DL1ABC" } session ∧
        session.buffer.text = Text.ofString "005 K1A" ∧
        session.contact.call = session.latestReading.correction ∧
        session.latestReading.correction = Text.ofString "K1A") ∧
      ∃ typed completed,
        (Extractor.ofRule { Rule.basic "CQWW" .zone 12 with padding := .wpx } ⟨[]⟩
          .builtIn).extract true (Text.ofString "5 K1A") = .ok typed ∧
        (Extractor.ofRule { Rule.basic "CQWW" .zone 12 with padding := .wpx } ⟨[]⟩
          .builtIn).extract false (Serial.pad .wpx (some 12) (Text.ofString "5 K1A")) =
            .ok completed ∧
        completed.correction = typed.correction := by
  have loaded : TemplateFile.load (.empty (Flow.form 100)) .null = .ok (.builtIn, none) := rfl
  have live : ({ Rule.basic "CQWW" .zone 12 with padding := .wpx } : Rule).isLive = true := rfl
  have updates : ({ callUpdate := true } : CaptureSettings).callUpdate = true := rfl
  rcases call_is_correction loaded live ⟨[]⟩ updates { call := Text.ofString "DL1ABC" } with
    ⟨applied, kept⟩
  refine ⟨loaded, live, ?_, ?_⟩
  · have run : Reachable { Rule.basic "CQWW" .zone 12 with padding := .wpx }
        (Extractor.ofRule { Rule.basic "CQWW" .zone 12 with padding := .wpx } ⟨[]⟩ .builtIn)
        { callUpdate := true } { call := Text.ofString "DL1ABC" } _ :=
      ⟨_, .start ['5'] [] :: [Key.ofChar ' ', Key.ofChar 'K', Key.ofChar '1', Key.ofChar 'A',
        .lineFeed].map .press, rfl, rfl⟩
    exact ⟨_, run, rfl, applied _ run (by decide), rfl⟩
  · exact ⟨_, _, rfl, rfl, kept true false .wpx (some 12) (Text.ofString "5 K1A") _ _ rfl rfl⟩

end CaptureSession
end ContestExchange
