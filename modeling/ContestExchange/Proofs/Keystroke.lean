import ContestExchange.Proofs.CompletionGate
import ContestExchange.Proofs.Padding
import ContestExchange.Proofs.Readability

namespace ContestExchange

/-!
# What a key does to the text

A contact is lost if a key drops a part of it, so the text after every key is compared with the text
before.  `Keystroke` lists what may happen: the text stays, gains or loses one character, is given
up as a whole, or is completed with zeros in front.  Nothing is cut off, doubled or replaced,
neither where the line is full nor in the middle of an edited one.

The characters of a line therefore come from three sources only: what the capture started with, what
was typed, and the zeros.  Whatever holds of every character that can be typed is kept by all keys.
-/

namespace Text

/-- Whether a text becomes another by one character inserted somewhere. -/
def Inserts (character : Char) (text longer : Text) : Prop :=
  ∃ before behind, text = before ++ behind ∧ longer = before ++ character :: behind

theorem inserts_take_drop (character : Char) (text : Text) (place : Nat) :
    Inserts character text (text.take place ++ character :: text.drop place) :=
  ⟨text.take place, text.drop place, (List.take_append_drop place text).symm, rfl⟩

theorem inserts_eraseIdx {text : Text} {place : Nat} (inside : place < text.length) :
    Inserts text[place] (text.eraseIdx place) text := by
  refine ⟨text.take place, text.drop (place + 1), List.eraseIdx_eq_take_drop_succ text place, ?_⟩
  rw [List.getElem_cons_drop inside, List.take_append_drop]

theorem inserts_dropLast {text : Text} (present : text ≠ []) :
    Inserts (text.getLast present) text.dropLast text := by
  refine ⟨text.dropLast, [], (List.append_nil _).symm, ?_⟩
  exact (List.dropLast_concat_getLast present).symm

theorem Inserts.mem_iff {character : Char} {text longer : Text}
    (inserts : Inserts character text longer) (other : Char) :
    other ∈ longer ↔ other = character ∨ other ∈ text := by
  rcases inserts with ⟨before, behind, same, longerSame⟩
  subst same longerSame
  simp only [List.mem_append, List.mem_cons]
  constructor
  · rintro (first | here | last)
    · exact Or.inr (Or.inl first)
    · exact Or.inl here
    · exact Or.inr (Or.inr last)
  · rintro (here | first | last)
    · exact Or.inr (Or.inl here)
    · exact Or.inl first
    · exact Or.inr (Or.inr last)

end Text

theorem Key.isTypable_toChar {key : Key} (typed : key.isTyped = true) :
    Text.isTypable key.toChar = true := by
  have codes : ∀ code < 91, 32 ≤ code → Text.isTypable (Char.ofNat code) = true := by decide
  simp only [isTyped, Bool.and_eq_true, decide_eq_true_eq] at typed
  unfold Key at typed
  have below : key.toNat < 91 := by omega
  have above : 32 ≤ key.toNat := by omega
  exact codes key.toNat below above

/-! ## Changes of a line -/

namespace Buffer

/-- An insertion of one character is carried out, or leaves the line as it is. -/
theorem text_insert_char (buffer : Buffer) (position : Int) (character : Char) :
    (buffer.insert position [character]).2.text = buffer.text ∨
      Text.Inserts character buffer.text (buffer.insert position [character]).2.text := by
  by_cases full : buffer.width < buffer.text.length + 1
  · rw [insert_of_no_room (Or.inr full)]
    exact Or.inl rfl
  · have room := Nat.le_of_not_lt full
    rw [(insert_of_room (List.cons_ne_nil character []) room position).2, spliced,
      List.append_assoc]
    exact Or.inr (Text.inserts_take_drop character buffer.text _)

theorem text_delete (buffer : Buffer) (position : Int) :
    (buffer.delete position).2.text = buffer.text ∨
      ∃ character, Text.Inserts character (buffer.delete position).2.text buffer.text := by
  by_cases inside : 0 ≤ position ∧ position < buffer.text.length
  · have place : position.toNat < buffer.text.length := by omega
    rw [(delete_of_inside inside).2]
    exact Or.inr ⟨_, Text.inserts_eraseIdx place⟩
  · rw [delete_of_outside inside]
    exact Or.inl rfl

theorem text_pop (buffer : Buffer) :
    buffer.pop.2.text = buffer.text ∨
      ∃ character, Text.Inserts character buffer.pop.2.text buffer.text := by
  show buffer.text.dropLast = buffer.text ∨
    ∃ character, Text.Inserts character buffer.text.dropLast buffer.text
  by_cases present : buffer.text = []
  · rw [present]
    exact Or.inl rfl
  · exact Or.inr ⟨_, Text.inserts_dropLast present⟩

end Buffer

namespace Editor

theorem text_settle (editor : Editor) : editor.settle.2.buffer = editor.buffer := by
  unfold settle
  split <;> rfl

theorem text_deleteHere (editor : Editor) :
    editor.deleteHere.buffer.text = editor.buffer.text ∨
      ∃ character, Text.Inserts character editor.deleteHere.buffer.text editor.buffer.text :=
  editor.buffer.text_delete editor.cursor

theorem text_type (editor : Editor) (key : Key) :
    (editor.type key).buffer.text = editor.buffer.text ∨
      Text.Inserts key.toChar editor.buffer.text (editor.type key).buffer.text := by
  unfold type
  dsimp only
  split
  · exact editor.buffer.text_insert_char editor.cursor key.toChar
  · exact Or.inl rfl

/-- Editing keeps the text, deletes one character of it, or inserts the one that the key types. -/
theorem text_handle (editor : Editor) (key : Key) :
    (editor.handle key).2.buffer.text = editor.buffer.text ∨
      (key = .backspace ∨ key = .delete) ∧
        (∃ character, Text.Inserts character (editor.handle key).2.buffer.text
          editor.buffer.text) ∨
      key.promote.isTyped = true ∧
        Text.Inserts key.promote.toChar editor.buffer.text
          (editor.handle key).2.buffer.text := by
  have deleted {before : Editor} (same : before.buffer = editor.buffer)
      (erases : key = .backspace ∨ key = .delete) :
      before.deleteHere.settle.2.buffer.text = editor.buffer.text ∨
        (key = .backspace ∨ key = .delete) ∧
          (∃ character, Text.Inserts character before.deleteHere.settle.2.buffer.text
            editor.buffer.text) ∨
        key.promote.isTyped = true ∧ Text.Inserts key.promote.toChar editor.buffer.text
          before.deleteHere.settle.2.buffer.text := by
    rw [text_settle, ← same]
    rcases before.text_deleteHere with kept | gone
    · exact Or.inl kept
    · exact Or.inr (Or.inl ⟨erases, gone⟩)
  unfold handle
  split
  · exact Or.inl rfl
  split
  · exact Or.inl rfl
  split
  · exact Or.inl rfl
  split
  · split <;> exact Or.inl rfl
  split
  · rename_i deletes
    exact deleted rfl (Or.inr deletes)
  split
  · rename_i erases
    split
    · rw [text_settle]
      exact Or.inl rfl
    · exact deleted rfl (Or.inl erases)
  split
  · exact Or.inl rfl
  split
  · rename_i types
    rcases editor.text_type key.promote with kept | inserts
    · exact Or.inl kept
    · exact Or.inr (Or.inr ⟨types, inserts⟩)
  · exact Or.inl rfl

end Editor

namespace CaptureSession

/-! ## The text after a key -/

/-- What a key may leave of the text of an open session. -/
inductive Keystroke (session : CaptureSession) (key : Key) : Text → Prop where
  | kept : Keystroke session key session.buffer.text
  | typed (text : Text) (types : key.promote.isTyped = true)
      (inserts : Text.Inserts key.promote.toChar session.buffer.text text) :
      Keystroke session key text
  | erased (text : Text)
      (erases : key = .backspace ∨ key = .delete ∧ session.state = .editing)
      (gone : ∃ character, Text.Inserts character text session.buffer.text) :
      Keystroke session key text
  | emptied (collecting : session.state = .collecting) (givesUp : key = .escape ∨ key = .ctrlA) :
      Keystroke session key []
  | padded (zeros : Text) (collecting : session.state = .collecting)
      (completing : (session.resolvedKey key).isCompleting = true)
      (few : zeros = ['0'] ∨ zeros = ['0', '0'])
      (starts : ∃ first rest, session.buffer.text = first :: rest ∧ Text.isDigit first = true) :
      Keystroke session key (zeros ++ session.buffer.text)

/-- Only a key that stands for itself types. -/
theorem resolvedKey_of_isTyped {session : CaptureSession} {key : Key}
    (types : (session.resolvedKey key).promote.isTyped = true) : session.resolvedKey key = key := by
  unfold resolvedKey at types ⊢
  split
  · rename_i logs
    rw [if_pos logs] at types
    split at types <;> cases types
  · rename_i later
    rw [if_neg later] at types
    split
    · rename_i keyed
      rw [if_pos keyed] at types
      cases types
    · rfl

theorem LineChange.keystroke {session : CaptureSession} {key : Key} {line : Buffer}
    (change : LineChange session key line) (collecting : session.state = .collecting) :
    Keystroke session key line.text := by
  cases change with
  | emptied present => exact .emptied collecting (Or.inl rfl)
  | shortened =>
      rcases session.buffer.text_pop with same | gone
      · rw [same]
        exact .kept
      · exact .erased _ (Or.inl rfl) gone
  | typed =>
      unfold type
      split
      · rename_i room
        have types := (Bool.and_eq_true_iff.mp room).1
        have itself := resolvedKey_of_isTyped types
        rw [itself] at types ⊢
        rcases session.buffer.text_insert_char session.buffer.length key.promote.toChar with
          same | inserts
        · have kept :
              (session.buffer.append [key.promote.toChar]).2.text = session.buffer.text := same
          show Keystroke session key (session.buffer.append [key.promote.toChar]).2.text
          rw [kept]
          exact .kept
        · exact .typed _ types inserts
      · exact .kept

theorem keystroke_handle {session : CaptureSession} (editing : session.state = .editing)
    (cursor : Nat) (key : Key) :
    Keystroke session key ((Editor.mk session.buffer cursor false).handle key).2.buffer.text := by
  rcases (Editor.mk session.buffer cursor false).text_handle key with
    kept | ⟨erases, gone⟩ | ⟨types, inserts⟩
  · rw [kept]
    exact .kept
  · refine .erased _ ?_ gone
    rcases erases with backspace | delete
    · exact Or.inl backspace
    · exact Or.inr ⟨delete, editing⟩
  · exact .typed _ types inserts

/-- Completing leaves the text as it is, or puts zeros in front of it. -/
theorem keystroke_completedText {session : CaptureSession} {key : Key}
    (collecting : session.state = .collecting)
    (completing : (session.resolvedKey key).isCompleting = true) :
    Keystroke session key session.completedText := by
  unfold completedText
  split
  · rcases Serial.pad_cases session.rule.padding (some session.buffer.width)
      session.buffer.text with same | ⟨zeros, first, rest, split, digit, leads, longer⟩
    · rw [same]
      exact .kept
    · rw [longer]
      exact .padded zeros collecting completing leads.eq_zeros ⟨first, rest, split, digit⟩
  · exact .kept

theorem Completed.text {session : CaptureSession} {key : Key} {actions : List Action}
    {reading : Extraction} {outcome : CaptureSession × Transition}
    (completed : Completed session key actions reading outcome) :
    outcome.1.buffer.text = session.completedText := by
  have judged := session.text_judged reading
  cases completed with
  | accepted admits shown => exact judged
  | rejected requires refuses note shown => exact judged
  | asked requires refuses prompt note => exact judged

/-- A session whose line is read completes the text that it has. -/
theorem Read.completedText {before after : CaptureSession} {needed : Bool}
    (read : Read before after needed) : after.completedText = before.completedText := by
  have foreign : after.contact.foreign = before.contact.foreign := by
    cases live : before.rule.isLive && needed with
    | false => rw [read.unread live]
    | true =>
        rcases read.read live with ⟨reading, _, _, contact⟩
        rw [contact]
  have pads : after.padsSerial = before.padsSerial := by
    simp only [padsSerial, read.setting.rule, foreign]
  simp only [CaptureSession.completedText, pads, read.setting.rule, read.buffer]

/-- What a key does to the text does not depend on the key before it. -/
theorem Keystroke.of_pressed {session : CaptureSession} {key : Key} {text : Text}
    (pressed : Keystroke { session with lastKey := key } key text) :
    Keystroke session key text := by
  cases pressed with
  | kept => exact .kept
  | typed text types inserts => exact .typed text types inserts
  | erased text erases gone => exact .erased text erases gone
  | emptied collecting givesUp => exact .emptied collecting givesUp
  | padded zeros collecting completing few starts =>
      exact .padded zeros collecting completing few starts

/-- The text after a key in an open session is that of a keystroke. -/
theorem Taken.keystroke {session : CaptureSession} {key : Key}
    {outcome : CaptureSession × Transition} (taken : Taken session key outcome)
    (byRule : session.ReadsByRule) : Keystroke session key outcome.1.buffer.text := by
  cases taken with
  | final final => exact .kept
  | collected collecting noCursor outcome done =>
      cases done with
      | kept actions => exact .kept
      | opened position present => exact .kept
      | left line empty width unchanged outcome ended =>
          rw [ended.buffer]
          rcases unchanged with same | pressed
          · have kept : line.text = session.buffer.text := by rw [same]
            show Keystroke session key line.text
            rw [kept]
            exact .kept
          · show Keystroke session key line.text
            rw [empty]
            exact .emptied collecting (Or.inr pressed)
      | changed line change incomplete next after actions =>
          have text : next.buffer.text = line.text := by rw [after.buffer]
          show Keystroke session key next.buffer.text
          rw [text]
          exact (change.keystroke collecting).of_pressed
      | completed completing next after actions outcome concluded =>
          rcases completed_of_read byRule after completing concluded with
            ⟨same, reading, _, completed⟩
          rw [completed.text, after.completedText]
          show Keystroke session key session.completedText
          exact keystroke_completedText collecting completing
  | edited editing cursor placed inside outcome done =>
      have handled := keystroke_handle editing cursor key
      cases done with
      | continued next after actions =>
          have text := congrArg Buffer.text after.buffer
          exact text ▸ handled
      | closed next after actions =>
          have text := congrArg Buffer.text after.buffer
          exact text ▸ handled

/-! ## The characters of a line -/

/-- What holds of every character that can be typed, and of those before a key, holds of those after
it. -/
theorem Keystroke.forall_mem {session : CaptureSession} {key : Key} {text : Text}
    (pressed : Keystroke session key text) {Holds : Char → Prop}
    (typable : ∀ character, Text.isTypable character = true → Holds character)
    (before : ∀ character ∈ session.buffer.text, Holds character) :
    ∀ character ∈ text, Holds character := by
  intro character member
  cases pressed with
  | kept => exact before character member
  | typed text types inserts =>
      rcases (inserts.mem_iff character).mp member with same | earlier
      · rw [same]
        exact typable _ (Key.isTypable_toChar types)
      · exact before character earlier
  | erased text erases gone =>
      rcases gone with ⟨removed, inserts⟩
      exact before character ((inserts.mem_iff character).mpr (Or.inr member))
  | emptied collecting givesUp => cases member
  | padded zeros collecting completing few starts =>
      rcases List.mem_append.mp member with zero | earlier
      · have same : character = '0' := by
          rcases few with one | two
          · subst one
            simpa using zero
          · subst two
            simpa using zero
        rw [same]
        exact typable '0' (by decide)
      · exact before character earlier

theorem Taken.started {session : CaptureSession} {key : Key}
    {outcome : CaptureSession × Transition} (taken : Taken session key outcome)
    (byRule : session.ReadsByRule) : outcome.1.state ≠ .idle := by
  intro idle
  rcases taken.isOpen_or_isFinal byRule with openStill | finalNow
  · exact openStill.started idle
  · rw [idle] at finalNow
    cases finalNow

/-- Whatever is done after a start, the line takes no characters but those of keys and zeros. -/
theorem forall_mem_of_run {fresh session last : CaptureSession} {Holds : Char → Prop}
    (typable : ∀ character, Text.isTypable character = true → Holds character)
    (invariant : Invariant fresh session) (started : session.state ≠ .idle)
    (before : ∀ character ∈ session.buffer.text, Holds character) {operations : List Operation}
    (noStart : ∀ prefill recalled, .start prefill recalled ∉ operations)
    (done : session.run operations = .ok last) :
    ∀ character ∈ last.buffer.text, Holds character := by
  induction operations generalizing session with
  | nil =>
      cases done
      exact before
  | cons operation rest inductionHypothesis =>
      rcases operate_of_run_cons done with ⟨next, transition, operated, continued⟩
      have later : ∀ prefill recalled, .start prefill recalled ∉ rest :=
        fun prefill recalled member =>
          noStart prefill recalled (List.mem_cons_of_mem operation member)
      cases operation with
      | start prefill recalled => exact absurd List.mem_cons_self (noStart prefill recalled)
      | press key =>
          rw [operate, step_of_started started] at operated
          have taken := taken_of_take invariant.sound started operated
          have after := (taken.keystroke invariant.byRule).forall_mem typable before
          exact inductionHypothesis (invariant.take started operated)
            (taken.started invariant.byRule) after later continued
      | abort =>
          cases operated
          exact inductionHypothesis invariant.abort CaptureState.noConfusion before later continued

/-- A line begins with the text that it is to start with, or with nothing if that does not fit. -/
theorem text_begun (session : CaptureSession) (prefill recalled : Text) :
    (session.begun prefill recalled).buffer.text = session.startText prefill recalled ∨
      (session.begun prefill recalled).buffer.text = [] := by
  have filled : (session.begun prefill recalled).buffer =
      (session.fill (session.startText prefill recalled)).buffer := rfl
  rw [filled, fill]
  dsimp only
  by_cases fits : (session.startText prefill recalled).length ≤ session.buffer.width
  · rw [Buffer.replace_of_fits fits]
    exact Or.inl rfl
  · rw [Buffer.replace_of_not_fits fits]
    exact Or.inr rfl

theorem forall_mem_begun {session : CaptureSession} {prefill recalled : Text} {Holds : Char → Prop}
    (starts : ∀ character ∈ session.startText prefill recalled, Holds character) :
    ∀ character ∈ (session.begun prefill recalled).buffer.text, Holds character := by
  intro character member
  rcases session.text_begun prefill recalled with same | nothing
  · rw [same] at member
    exact starts character member
  · rw [nothing] at member
    cases member

/-- A run that begins with a start goes on in a started session that has the line to begin with. -/
theorem exists_started {fresh session last : CaptureSession} (invariant : Invariant fresh session)
    {prefill recalled : Text} {operations : List Operation}
    (done : session.run (.start prefill recalled :: operations) = .ok last) :
    ∃ started, Invariant fresh started ∧ started.state ≠ .idle ∧
      started.buffer = (session.begun prefill recalled).buffer ∧
      started.run operations = .ok last := by
  rcases operate_of_run_cons done with ⟨started, transition, starting, continued⟩
  have read := read_of_start starting
  refine ⟨started, invariant.start starting, ?_, read.buffer, continued⟩
  rw [read.state]
  exact CaptureState.noConfusion

/-- In every open session that can be reached, a key does to the text what a keystroke may do.  So a
line that starts with typable characters only never has others, until it is started again. -/
theorem text_after_keys {rule : Rule} {table : MultiplierTable} {templates : TemplateSet}
    {settings : CaptureSettings} {contact : Contact} {session : CaptureSession}
    (reachable : Reachable rule (Extractor.ofRule rule table templates) settings contact session) :
    (session.IsOpen → ∀ key next transition, session.step key = .ok (next, transition) →
      Keystroke session key next.buffer.text) ∧
    ∀ prefill recalled,
      (∀ character ∈ session.startText prefill recalled, Text.isTypable character = true) →
      ∀ operations last, (∀ prefill recalled, .start prefill recalled ∉ operations) →
        session.run (.start prefill recalled :: operations) = .ok last →
        ∀ character ∈ last.buffer.text, Text.isTypable character = true := by
  rcases reachable with ⟨fresh, operations, created, done⟩
  have invariant := invariant_of_run (invariant_of_create created) done
  constructor
  · intro isOpen key next transition stepped
    rw [step_of_started isOpen.started] at stepped
    have taken := taken_of_take invariant.sound isOpen.started stepped
    exact taken.keystroke invariant.byRule
  · intro prefill recalled starts operations last noStart done
    rcases exists_started invariant done with ⟨started, begun, startedFirst, line, continued⟩
    refine forall_mem_of_run (fun _ typable => typable) begun startedFirst ?_ noStart continued
    rw [line]
    exact forall_mem_begun starts

/-- A serial of one figure is completed behind two zeros. -/
theorem text_after_keys_of_serial :
    ∃ session, Reachable { Rule.basic "WPX" .serial 12 with padding := .wpx }
        (Extractor.ofRule { Rule.basic "WPX" .serial 12 with padding := .wpx } ⟨[]⟩ .builtIn) {} {}
        session ∧ session.IsOpen ∧ session.buffer.text = ['5'] ∧
      (∃ next transition, session.step .lineFeed = .ok (next, transition) ∧
        next.buffer.text = ['0', '0', '5'] ∧ Keystroke session .lineFeed ['0', '0', '5']) ∧
      ∃ last, session.run [.start ['5'] [], .press (Key.ofChar 'a'), .press .lineFeed] = .ok last ∧
        ∀ character ∈ last.buffer.text, Text.isTypable character = true := by
  have runs : ∃ session, Reachable { Rule.basic "WPX" .serial 12 with padding := .wpx }
      (Extractor.ofRule { Rule.basic "WPX" .serial 12 with padding := .wpx } ⟨[]⟩ .builtIn) {} {}
      session ∧ session.state = .collecting ∧ session.buffer.text = ['5'] ∧
      (∃ next transition, session.step .lineFeed = .ok (next, transition) ∧
        next.buffer.text = ['0', '0', '5']) ∧
      ∃ last, session.run [.start ['5'] [], .press (Key.ofChar 'a'), .press .lineFeed] =
        .ok last :=
    ⟨_, ⟨_, [.press (Key.ofChar '5')], rfl, rfl⟩, rfl, rfl, ⟨_, _, rfl, rfl⟩, _, rfl⟩
  rcases runs with
    ⟨session, reachable, collecting, text, ⟨next, transition, stepped, padded⟩, last, done⟩
  rcases text_after_keys reachable with ⟨pressed, typed⟩
  have keystroke := pressed (Or.inl collecting) .lineFeed next transition stepped
  rw [padded] at keystroke
  refine ⟨session, reachable, Or.inl collecting, text,
    ⟨next, transition, stepped, padded, keystroke⟩, last, done, ?_⟩
  refine typed ['5'] [] ?_ _ last ?_ done
  · have starts : session.startText ['5'] [] = ['5'] := rfl
    rw [starts]
    exact List.all_eq_true.mp rfl
  · intro prefill recalled member
    simp only [List.mem_cons, reduceCtorEq, List.not_mem_nil, or_self] at member

end CaptureSession
end ContestExchange
