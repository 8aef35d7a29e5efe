import ContestExchange.Proofs.NumberText
import ContestExchange.Proofs.Occurrence

namespace ContestExchange

/-!
# What padding changes in a reading

Padding puts zeros in front of an exchange, and the zeros are figures like any others: templates may
lie on them.  Of the built-in templates all but one keep their places.  They start with a blank or a
letter, or have a letter behind their first figure, or need four figures, and none of this is there.
The exception is the template of three figures, which lies on the start of a padded serial by
design.

So padding leaves the section and the corrected call alone.  The serial stays as long as three
figures in a row stand further right as well, or the number at the start is the serial anyway.
Otherwise the padded number at the start overrides the one that was read before, which is the only
change that padding makes.
-/

namespace Serial

variable {zeros text : Text}

/-! ## The line of a padded text -/

/-- The marks of a text without the border before it, which the line of the text and the line of the
padded text end with. -/
def marks (text : Text) : List Symbol := text.map Symbol.ofChar ++ [.undefined]

theorem classify_append (front text : Text) :
    classify (front ++ text) = (.undefined :: front.map Symbol.ofChar) ++ marks text := by
  simp only [classify, marks, List.map_append, List.cons_append, List.append_assoc]

/-- A digit of any script is a figure, or has no kind of its own. -/
theorem ofChar_of_isDigit {character : Char} (digit : Text.isDigit character = true) :
    Symbol.ofChar character = .figure ∨ Symbol.ofChar character = .undefined := by
  have noBlank := ne_blank_of_isDigit digit
  have noCapital : Text.isCapital character = false := by
    cases capital : Text.isCapital character with
    | false => rfl
    | true => exact absurd (digit.symm.trans (Text.isDigit_of_isCapital capital)) Bool.noConfusion
  unfold Symbol.ofChar
  by_cases figure : Text.isFigure character = true
  · exact Or.inl (if_pos figure)
  · rw [if_neg figure, noCapital, if_neg Bool.false_ne_true, if_neg noBlank]
    exact Or.inr rfl

/-- What is padded: a short serial at the start of a text, whose first character is a digit. -/
structure Padded (zeros text : Text) : Prop where
  leads : Leads zeros text
  digit : ∃ first rest, text = first :: rest ∧ Text.isDigit first = true

/-! ## Templates that move along -/

/-- Whether the rightmost place of a template on a padded line is that on the line before, as far
further right as the text is. -/
structure Moves (zeros text : Text) (template : Template) : Prop where
  before : locate (classify text) template =
    (lastOccurrence? template (marks text)).map (· + 1)
  after : locate (classify (zeros ++ text)) template =
    (lastOccurrence? template (marks text)).map (· + (zeros.length + 1))

theorem moves_of_nowhere {template : Template} (nonempty : template ≠ [])
    (before : startsIn template [.undefined] (marks text) = false)
    (after : startsIn template (.undefined :: zeros.map Symbol.ofChar) (marks text) = false) :
    Moves zeros text template := by
  constructor
  · exact locate_append nonempty before
  · have padded := locate_append nonempty after
    rw [List.length_cons, List.length_map] at padded
    rw [classify_append]
    exact padded

/-- A template that lies on the text moves along, whether or not it also lies on the zeros. -/
theorem moves_of_found {template : Template} (nonempty : template ≠ []) {place : Nat}
    (found : lastOccurrence? template (marks text) = some place) : Moves zeros text template := by
  have present : ¬ template.isEmpty = true := by
    rw [List.isEmpty_iff]
    exact nonempty
  constructor
  · rw [found, locate, if_neg present]
    exact lastOccurrence?_append_of_some found [.undefined]
  · have padded := lastOccurrence?_append_of_some found (.undefined :: zeros.map Symbol.ofChar)
    rw [List.length_cons, List.length_map] at padded
    rw [found, classify_append, locate, if_neg present]
    exact padded

theorem Moves.textUnder {template : Template} (moves : Moves zeros text template) :
    ContestExchange.textUnder (zeros ++ text) (classify (zeros ++ text)) template =
      ContestExchange.textUnder text (classify text) template := by
  rcases moves with ⟨before, after⟩
  rw [ContestExchange.textUnder, ContestExchange.textUnder, before, after]
  cases lastOccurrence? template (marks text) with
  | none => rfl
  | some place => exact windowText_append zeros text place template.length

theorem Moves.sectionUnder? {template : Template} (moves : Moves zeros text template)
    (lookUp : Text → Option Text) :
    Extraction.sectionUnder? lookUp (zeros ++ text) (classify (zeros ++ text)) template =
      Extraction.sectionUnder? lookUp text (classify text) template := by
  rw [Extraction.sectionUnder?, Extraction.sectionUnder?, Extraction.candidateUnder,
    Extraction.candidateUnder, moves.textUnder]

theorem Moves.groupUnder? {shape : Template} (moves : Moves zeros text shape)
    (long : 2 ≤ shape.length) :
    Extraction.groupUnder? (zeros ++ text) (classify (zeros ++ text)) shape =
      Extraction.groupUnder? text (classify text) shape := by
  rcases moves with ⟨before, after⟩
  rw [Extraction.groupUnder?, Extraction.groupUnder?, before, after]
  cases lastOccurrence? shape (marks text) with
  | none => rfl
  | some place =>
      have start : textIndex ((place + (zeros.length + 1) : Nat) : Int) 1 =
          textIndex ((place + 1 : Nat) : Int) 1 + zeros.length := by
        simp only [textIndex]
        omega
      have inText : 0 ≤ textIndex ((place + 1 : Nat) : Int) 1 := by
        simp only [textIndex]
        omega
      have sliced {size : Int} (forward : 0 ≤ size) :
          Sequence.slice (zeros ++ text) (textIndex ((place + 1 : Nat) : Int) 1 + zeros.length)
              (textIndex ((place + 1 : Nat) : Int) 1 + zeros.length + size) =
            Sequence.slice text (textIndex ((place + 1 : Nat) : Int) 1)
              (textIndex ((place + 1 : Nat) : Int) 1 + size) := by
        rw [Int.add_right_comm]
        exact slice_append zeros text inText (Int.add_nonneg inText forward)
      have callLength : 0 ≤ Template.callLength shape := by
        simp only [Template.callLength]
        omega
      simp only [Option.map_some, start, sliced (Int.le.intro 2 rfl : (0 : Int) ≤ 2),
        sliced callLength]

theorem Moves.serialUnder {template : Template} (moves : Moves zeros text template) (serial : Nat) :
    Extraction.serialUnder (zeros ++ text) (classify (zeros ++ text)) serial template =
      Extraction.serialUnder text (classify text) serial template := by
  rcases moves with ⟨before, after⟩
  rw [Extraction.serialUnder, Extraction.serialUnder, before, after]
  cases lastOccurrence? template (marks text) with
  | none => rfl
  | some place =>
      have further : Extraction.numberPlace (place + (zeros.length + 1)) template =
          zeros.length + Extraction.numberPlace (place + 1) template := by
        simp only [Extraction.numberPlace, textIndex]
        omega
      simp only [Option.map_some, further, List.drop_length_add_append]

/-- The start of a padded line: the border and the zeros, a figure or a digit without a kind, and
behind one or two such characters a blank or the border. -/
inductive PaddedLine : List Symbol → List Symbol → Prop where
  | two (first ender : Symbol) (rest : List Symbol)
      (starts : first = .figure ∨ first = .undefined) (ends : ender = .blank ∨ ender = .undefined) :
      PaddedLine [.undefined, .figure, .figure] (first :: ender :: rest)
  | one (first second ender : Symbol) (rest : List Symbol)
      (starts : first = .figure ∨ first = .undefined) (ends : ender = .blank ∨ ender = .undefined) :
      PaddedLine [.undefined, .figure] (first :: second :: ender :: rest)

theorem Padded.line (padded : Padded zeros text) :
    PaddedLine (.undefined :: zeros.map Symbol.ofChar) (marks text) := by
  rcases padded with ⟨leads, first, rest, starts, digit⟩
  have kind := ofChar_of_isDigit digit
  cases leads with
  | one only =>
      cases starts
      exact .two _ _ [] kind (Or.inr rfl)
  | oneToBlank start rest =>
      cases starts
      exact .two _ _ _ kind (Or.inl rfl)
  | two start second =>
      cases starts
      exact .one _ _ _ [] kind (Or.inr rfl)
  | twoToBlank start second rest =>
      cases starts
      exact .one _ _ _ _ kind (Or.inl rfl)

/-- Whether a template can start neither at a border nor on a padded serial: it starts with a blank
or a letter, a letter follows its first figure, or it asks for four figures. -/
def keepsPlace : Template → Bool
  | .blank :: _ => true
  | .letter :: _ => true
  | .figure :: .letter :: _ => true
  | .figure :: .figure :: .figure :: .figure :: _ => true
  | _ => false

theorem PaddedLine.startsIn_of_keepsPlace {front line : List Symbol}
    (padded : PaddedLine front line) {template : Template} (keeps : keepsPlace template = true) :
    startsIn template front line = false := by
  unfold keepsPlace at keeps
  split at keeps
  · apply startsIn_of_head
    cases padded <;> decide
  · apply startsIn_of_head
    cases padded <;> decide
  · cases padded with
    | two first ender rest starts ends =>
        rcases starts with same | same <;> rw [same] <;> rfl
    | one first second ender rest starts ends =>
        rcases starts with same | same <;> rw [same] <;> rfl
  · cases padded with
    | two first ender rest starts ends =>
        rcases ends with same | same <;> rw [same] <;> simp [startsIn, List.isPrefixOf]
    | one first second ender rest starts ends =>
        rcases ends with same | same <;> rw [same] <;> simp [startsIn, List.isPrefixOf]
  · cases keeps

theorem startsIn_border_of_keepsPlace {template : Template} (keeps : keepsPlace template = true)
    (line : List Symbol) : startsIn template [.undefined] line = false := by
  unfold keepsPlace at keeps
  split at keeps
  case h_5 => cases keeps
  all_goals exact startsIn_of_head (by decide)

theorem Padded.moves (padded : Padded zeros text) {template : Template}
    (keeps : keepsPlace template = true) : Moves zeros text template := by
  apply moves_of_nowhere
  · intro empty
    rw [empty] at keeps
    cases keeps
  · exact startsIn_border_of_keepsPlace keeps _
  · exact padded.line.startsIn_of_keepsPlace keeps

/-! ## Sections and calls -/

theorem Padded.findSection (padded : Padded zeros text) {templates : List Template}
    (keeps : ∀ template ∈ templates, keepsPlace template = true)
    (lookUp : Text → Option Text) :
    Extraction.findSection lookUp templates (zeros ++ text) (classify (zeros ++ text)) =
      Extraction.findSection lookUp templates text (classify text) := by
  refine List.foldl_rel rfl fun template member found same foundSame => ?_
  rw [(padded.moves (keeps template member)).sectionUnder? lookUp, foundSame]

theorem Padded.scanCall (padded : Padded zeros text) {shapes : List Template}
    (keeps : ∀ shape ∈ shapes, keepsPlace shape = true ∧ 2 ≤ shape.length) :
    Extraction.scanCall shapes (zeros ++ text) (classify (zeros ++ text)) =
      Extraction.scanCall shapes text (classify text) := by
  refine List.foldl_rel rfl fun shape member found same foundSame => ?_
  rcases keeps shape member with ⟨keeps, long⟩
  rw [(padded.moves keeps).groupUnder? long, foundSame]

/-! ## The number at the start -/

theorem Padded.leadingDigits (padded : Padded zeros text) :
    Serial.leadingDigits (zeros ++ text) = zeros ++ Serial.leadingDigits text ∧
      (Serial.leadingDigits text).length ≤ 2 := by
  rcases padded with ⟨leads, first, rest, starts, digit⟩
  have noBlank : (first == ' ') = false := beq_eq_false_iff_ne.mpr (ne_blank_of_isDigit digit)
  have blank : Text.isDigit ' ' = false := by decide
  have zero : Text.isDigit '0' = true := by decide
  cases leads with
  | one only =>
      cases starts
      simp [Serial.leadingDigits, noBlank, digit, zero]
  | oneToBlank start later =>
      cases starts
      simp [Serial.leadingDigits, noBlank, digit, zero, blank]
  | two start second =>
      cases starts
      cases followed : Text.isDigit second <;>
        simp [Serial.leadingDigits, noBlank, digit, zero, followed]
  | twoToBlank start second later =>
      cases starts
      cases followed : Text.isDigit second <;>
        simp [Serial.leadingDigits, noBlank, digit, zero, blank, followed]

/-- Zeros in front do not change the number that starts a text. -/
theorem Padded.leadingNumber (padded : Padded zeros text) :
    Serial.leadingNumber (zeros ++ text) = Serial.leadingNumber text := by
  rcases padded.leadingDigits with ⟨longer, short⟩
  have alike : Text.decimalsFrom 0 (zeros ++ Serial.leadingDigits text) =
      Text.decimalsFrom 0 (Serial.leadingDigits text) := by
    rcases padded.leads.eq_zeros with same | same <;> rw [same]
    · exact Text.decimalsFrom_zeros 1 _
    · exact Text.decimalsFrom_zeros 2 _
  have few : zeros.length ≤ 2 := by
    rcases padded.leads.eq_zeros with same | same <;> rw [same] <;> decide
  have limit : 4 ≤ Literal.integerDigitLimit := by decide
  have within : ¬ Literal.integerDigitLimit < (Serial.leadingDigits text).length := by omega
  have paddedWithin :
      ¬ Literal.integerDigitLimit < (zeros ++ Serial.leadingDigits text).length := by
    rw [List.length_append]
    omega
  simp only [Serial.leadingNumber, longer, if_neg within, if_neg paddedWithin, alike]

/-! ## Three figures in a row -/

/-- Three figures in a row. -/
def threeFigures : Template := [.figure, .figure, .figure]

theorem startsIn_threeFigures {front line : List Symbol} (padded : PaddedLine front line) :
    startsIn threeFigures front line = threeFigures.isPrefixOf (front.tail ++ line) := by
  cases padded with
  | two first ender rest starts ends =>
      rcases starts with figure | other <;> rcases ends with blank | border <;> subst_vars <;> rfl
  | one first second ender rest starts ends =>
      rcases starts with figure | other <;> rcases ends with blank | border <;> subst_vars <;>
        cases second <;> rfl

/-- Three figures that stand nowhere on the text but at the start of the padded one. -/
theorem lastOccurrence?_threeFigures {front line : List Symbol} (padded : PaddedLine front line)
    (absent : lastOccurrence? threeFigures line = none)
    (starts : threeFigures.isPrefixOf (front.tail ++ line) = true) :
    lastOccurrence? threeFigures (front ++ line) = some 1 := by
  have onFirst : lastOccurrence? threeFigures (front.tail ++ line) = some 0 := by
    cases padded with
    | two first ender rest _ ends =>
        have notSecond : threeFigures.isPrefixOf (.figure :: first :: ender :: rest) = false := by
          rcases ends with blank | border <;> subst_vars <;> cases first <;> rfl
        rw [List.tail_cons] at starts ⊢
        simp only [List.cons_append, List.nil_append] at starts ⊢
        rw [lastOccurrence?, lastOccurrence?, absent]
        simp only [notSecond, starts, Bool.false_eq_true, if_false, if_true]
    | one first second ender rest _ ends =>
        rw [List.tail_cons] at starts ⊢
        simp only [List.cons_append, List.nil_append] at starts ⊢
        rw [lastOccurrence?, absent]
        simp only [starts, if_true]
  have border : front = .undefined :: front.tail := by cases padded <;> rfl
  rw [border, List.cons_append, lastOccurrence?, onFirst]

/-- Whether three figures in a row stand at the start of the padded text only. -/
structure Exposed (zeros text : Text) : Prop where
  absent : locate (classify text) threeFigures = none
  starts : threeFigures.isPrefixOf (marks (zeros ++ text)) = true

theorem locate_threeFigures (text : Text) :
    locate (classify text) threeFigures =
      (lastOccurrence? threeFigures (marks text)).map (· + 1) := by
  have bordered : startsIn threeFigures [.undefined] (marks text) = false := rfl
  exact locate_append (List.cons_ne_nil _ _) bordered

theorem marks_append (front text : Text) :
    marks (front ++ text) = front.map Symbol.ofChar ++ marks text := by
  simp only [marks, List.map_append, List.append_assoc]

theorem Padded.moves_threeFigures (padded : Padded zeros text) (covered : ¬ Exposed zeros text) :
    Moves zeros text threeFigures := by
  have nonempty : threeFigures ≠ [] := List.cons_ne_nil _ _
  cases found : lastOccurrence? threeFigures (marks text) with
  | some place => exact moves_of_found nonempty found
  | none =>
      have absent : locate (classify text) threeFigures = none := by
        rw [locate_threeFigures, found]
        rfl
      have noStart : threeFigures.isPrefixOf (marks (zeros ++ text)) = false := by
        cases starts : threeFigures.isPrefixOf (marks (zeros ++ text)) with
        | false => rfl
        | true => exact absurd ⟨absent, starts⟩ covered
      refine moves_of_nowhere nonempty rfl ?_
      rw [startsIn_threeFigures padded.line, List.tail_cons, ← marks_append]
      exact noStart

theorem Padded.locate_threeFigures_of_exposed (padded : Padded zeros text)
    (exposed : Exposed zeros text) : locate (classify (zeros ++ text)) threeFigures = some 1 := by
  have starts := exposed.starts
  have absent := exposed.absent
  rw [locate_threeFigures, Option.map_eq_none_iff] at absent
  rw [marks_append] at starts
  rw [classify_append, locate, if_neg (by decide)]
  exact lastOccurrence?_threeFigures padded.line absent starts

/-! ## The serial number -/

theorem serialFrom_append (text : Text) (line : List Symbol) (serial : Nat)
    (front back : List Template) :
    Extraction.serialFrom text line serial (front ++ back) =
      match Extraction.serialFrom text line serial front with
      | .error fault => .error fault
      | .ok serial => Extraction.serialFrom text line serial back := by
  induction front generalizing serial with
  | nil => rfl
  | cons template rest inductionHypothesis =>
      simp only [List.cons_append, Extraction.serialFrom]
      cases Extraction.serialUnder text line serial template with
      | error fault => rfl
      | ok number => exact inductionHypothesis number

theorem serialFrom_of_moves {templates : List Template}
    (moves : ∀ template ∈ templates, Moves zeros text template) (serial : Nat) :
    Extraction.serialFrom (zeros ++ text) (classify (zeros ++ text)) serial templates =
      Extraction.serialFrom text (classify text) serial templates := by
  induction templates generalizing serial with
  | nil => rfl
  | cons template rest inductionHypothesis =>
      have later := inductionHypothesis fun other member =>
        moves other (List.mem_cons_of_mem template member)
      have here := (moves template List.mem_cons_self).serialUnder serial
      simp only [Extraction.serialFrom, here, later]

/-- The serial number as the built-in templates find it. -/
def serialOf (text : Text) : Except Fault Nat :=
  Extraction.findSerial TemplateSet.serialPlaces text (classify text)

/-- All serial templates but the two of figures alone. -/
def shortPlaces : List Template := TemplateSet.serialPlaces.take 6

theorem serialPlaces_eq :
    TemplateSet.serialPlaces = shortPlaces ++ [threeFigures, .figure :: threeFigures] := rfl

theorem keepsPlace_of_mem_shortPlaces {template : Template} (member : template ∈ shortPlaces) :
    keepsPlace template = true := by
  have all : ∀ template ∈ shortPlaces, keepsPlace template = true := by decide
  exact all template member

theorem Padded.serialOf_of_covered (padded : Padded zeros text)
    (covered : ¬ Exposed zeros text) : serialOf (zeros ++ text) = serialOf text := by
  have moves : ∀ template ∈ TemplateSet.serialPlaces, Moves zeros text template := by
    intro template member
    rw [serialPlaces_eq, List.mem_append] at member
    rcases member with short | long
    · exact padded.moves (keepsPlace_of_mem_shortPlaces short)
    · rcases List.mem_cons.mp long with three | four
      · rw [three]
        exact padded.moves_threeFigures covered
      · rw [List.mem_singleton.mp four]
        exact padded.moves rfl
  rw [serialOf, serialOf, Extraction.findSerial, Extraction.findSerial, padded.leadingNumber]
  simp only [serialFrom_of_moves moves]

theorem serialUnder_of_absent {text : Text} {line : List Symbol} {template : Template}
    (absent : locate line template = none) (serial : Nat) :
    Extraction.serialUnder text line serial template = .ok serial := by
  rw [Extraction.serialUnder, absent]

/-- The number at the start of an exposed text overrides the one found before, unless it is zero. -/
theorem Padded.serialUnder_threeFigures (padded : Padded zeros text) (exposed : Exposed zeros text)
    {lead : Nat} (read : Serial.leadingNumber text = .ok lead) (serial : Nat) :
    Extraction.serialUnder (zeros ++ text) (classify (zeros ++ text)) serial threeFigures =
      .ok (if lead = 0 then serial else lead) := by
  have place : Extraction.numberPlace 1 threeFigures = 0 := by decide
  have again : Serial.leadingNumber (zeros ++ text) = .ok lead := padded.leadingNumber.trans read
  rw [Extraction.serialUnder, padded.locate_threeFigures_of_exposed exposed]
  simp only [place, List.drop_zero, again]

theorem Padded.serialOf_of_exposed (padded : Padded zeros text) (exposed : Exposed zeros text)
    {lead : Nat} (read : Serial.leadingNumber text = .ok lead) :
    serialOf (zeros ++ text) =
      (serialOf text).map fun number => if lead = 0 then number else lead := by
  have absent : lastOccurrence? threeFigures (marks text) = none := by
    rw [← Option.map_eq_none_iff, ← locate_threeFigures]
    exact exposed.absent
  have noFour : lastOccurrence? (.figure :: threeFigures) (marks text) = none :=
    lastOccurrence?_eq_none_of_prefix (List.prefix_append threeFigures [.figure]) absent
  have four : Moves zeros text (.figure :: threeFigures) := padded.moves rfl
  have before : locate (classify text) (.figure :: threeFigures) = none := by
    rw [four.before, noFour]
    rfl
  have after : locate (classify (zeros ++ text)) (.figure :: threeFigures) = none := by
    rw [four.after, noFour]
    rfl
  have short := serialFrom_of_moves (fun template member =>
    padded.moves (keepsPlace_of_mem_shortPlaces member)) lead
  rw [serialOf, serialOf, Extraction.findSerial, Extraction.findSerial, padded.leadingNumber, read,
    serialPlaces_eq]
  simp only [serialFrom_append, short]
  cases Extraction.serialFrom text (classify text) lead shortPlaces with
  | error fault => rfl
  | ok number =>
      simp only [Extraction.serialFrom, serialUnder_of_absent exposed.absent,
        serialUnder_of_absent before, serialUnder_of_absent after,
        padded.serialUnder_threeFigures exposed read]
      rfl

theorem Padded.serialOf_of_unreadable (padded : Padded zeros text) {fault : Fault}
    (failed : Serial.leadingNumber text = .error fault) :
    serialOf (zeros ++ text) = serialOf text := by
  rw [serialOf, serialOf, Extraction.findSerial, Extraction.findSerial, padded.leadingNumber,
    failed]

/-- Whether padding a text exposes a number at its start that overrides another one. -/
def Overrides (padding : Padding) (width : Option Int) (text : Text) : Prop :=
  pad padding width text ≠ text ∧
  locate (classify text) threeFigures = none ∧
  threeFigures.isPrefixOf (marks (pad padding width text)) = true ∧
  ∃ lead number, Serial.leadingNumber text = .ok lead ∧ serialOf text = .ok number ∧
    lead ≠ 0 ∧ number ≠ lead

theorem Padded.append_ne (padded : Padded zeros text) : zeros ++ text ≠ text := by
  intro same
  have longer := congrArg List.length same
  rw [List.length_append] at longer
  rcases padded.leads.eq_zeros with one | two
  · rw [one, List.length_singleton] at longer
    omega
  · rw [two, List.length_cons, List.length_singleton] at longer
    omega

/-- The number at the start of a text that is padded has at most two digits. -/
theorem Padded.lead_le (padded : Padded zeros text) {lead : Nat}
    (read : Serial.leadingNumber text = .ok lead) : lead ≤ 9999 := by
  have bound := lt_of_leadingNumber read
  have few := Nat.pow_le_pow_right (by decide : 0 < 10) padded.leadingDigits.2
  omega

/-- Padding leaves the serial number as it is, unless the number at the start overrides it. -/
theorem serialOf_pad (padding : Padding) (width : Option Int) (text : Text) :
    (¬ Overrides padding width text → serialOf (pad padding width text) = serialOf text) ∧
      (Overrides padding width text → ∃ lead number, Serial.leadingNumber text = .ok lead ∧
        serialOf text = .ok number ∧ serialOf (pad padding width text) = .ok lead ∧
        (0 < lead ∧ lead ≤ 9999) ∧ number ≠ lead) := by
  rcases pad_cases padding width text with same | ⟨zeros, first, rest, starts, digit, leads, longer⟩
  · rw [same]
    refine ⟨fun _ => rfl, fun overrides => ?_⟩
    exact absurd same overrides.1
  have padded : Padded zeros text := ⟨leads, first, rest, starts, digit⟩
  rw [Overrides, longer]
  constructor
  · intro kept
    by_cases exposed : Exposed zeros text
    · cases read : Serial.leadingNumber text with
      | error fault => exact padded.serialOf_of_unreadable read
      | ok lead =>
          rw [padded.serialOf_of_exposed exposed read]
          cases found : serialOf text with
          | error fault => rfl
          | ok number =>
              by_cases zero : lead = 0
              · rw [Except.map, if_pos zero]
              · have same : number = lead := by
                  refine Classical.not_not.mp fun differs => kept ?_
                  exact ⟨padded.append_ne, exposed.absent, exposed.starts, lead, number, read,
                    found, zero, differs⟩
                rw [Except.map, if_neg zero, same]
    · exact padded.serialOf_of_covered exposed
  · rintro ⟨_, absent, starts, lead, number, read, found, positive, differs⟩
    have isSerial : 0 < lead ∧ lead ≤ 9999 :=
      ⟨Nat.pos_of_ne_zero positive, padded.lead_le read⟩
    refine ⟨lead, number, read, found, ?_, isSerial, differs⟩
    rw [padded.serialOf_of_exposed ⟨absent, starts⟩ read, found, Except.map, if_neg positive]

end Serial

/-! ## Whole readings -/

namespace Extractor

/-- What is read once the serial number has been found. -/
def readNumbered (extractor : Extractor) (typing : Bool) (number : Nat) (text : Text) :
    Extraction :=
  match extractor.strategy with
  | .serial =>
      { normalized := Serial.normalText number
        serial := Serial.columnText number
        correction := extractor.correction text }
  | _ => extractor.readSection typing (some number) text

theorem extract_of_scansNumber {extractor : Extractor} (builtIn : extractor.templates = .builtIn)
    (scans : extractor.strategy.scansNumber = true) (typing : Bool) (text : Text) :
    extractor.extract typing text =
      (Serial.serialOf text).map fun number => extractor.readNumbered typing number text := by
  have serials : extractor.templates.serials = TemplateSet.serialPlaces := by rw [builtIn]; rfl
  unfold extract
  cases kind : extractor.strategy <;> rw [kind] at scans <;> cases scans
  · simp only [readSerial, serials, readNumbered, kind, Serial.serialOf]
    cases Extraction.findSerial TemplateSet.serialPlaces text (classify text) <;> rfl
  · simp only [readSerialSection, serials, readNumbered, kind, Serial.serialOf]
    cases Extraction.findSerial TemplateSet.serialPlaces text (classify text) <;> rfl

section ReadNumbered

variable (extractor : Extractor) (typing : Bool) (number : Nat) (text : Text)

theorem serial_readNumbered :
    (extractor.readNumbered typing number text).serial = Serial.columnText number := by
  unfold readNumbered
  split
  · rfl
  · cases typing <;> rfl

/-- Only the number itself is read from the serial number. -/
theorem place_readNumbered (other : Nat) :
    (extractor.readNumbered typing number text).multiplier =
        (extractor.readNumbered typing other text).multiplier ∧
      (extractor.readNumbered typing number text).place =
        (extractor.readNumbered typing other text).place ∧
      (extractor.readNumbered typing number text).correction =
        (extractor.readNumbered typing other text).correction := by
  unfold readNumbered
  split
  · exact ⟨rfl, rfl, rfl⟩
  · cases typing <;> exact ⟨rfl, rfl, rfl⟩

end ReadNumbered

/-- Apart from the serial number, the built-in templates read from a padded text what they read
from the text. -/
theorem readNumbered_pad {extractor : Extractor} (builtIn : extractor.templates = .builtIn)
    (scans : extractor.strategy.scansNumber = true) (typing : Bool) (number : Nat)
    (padding : Padding) (width : Option Int) (text : Text) :
    extractor.readNumbered typing number (Serial.pad padding width text) =
      extractor.readNumbered typing number text := by
  rcases Serial.pad_cases padding width text with
    same | ⟨zeros, first, rest, starts, digit, leads, longer⟩
  · rw [same]
  have padded : Serial.Padded zeros text := ⟨leads, first, rest, starts, digit⟩
  have sameCall : extractor.correction (zeros ++ text) = extractor.correction text := by
    rw [correction, correction, builtIn]
    exact padded.scanCall (by decide)
  have sameCode : extractor.strategy = .serialSection →
      extractor.sectionCode (zeros ++ text) = extractor.sectionCode text := by
    intro kind
    rw [sectionCode, sectionCode, kind, builtIn]
    exact padded.findSection (by decide) extractor.table.firstLeading?
  rw [longer]
  cases kind : extractor.strategy <;> rw [kind] at scans <;> cases scans
  · simp only [readNumbered, kind, sameCall]
  · simp only [readNumbered, kind, readSection, sameCall, sameCode kind]

/-- Padding changes nothing that is read but the serial number, and the serial number exactly where
it exposes three figures at the start whose number overrides another one. -/
theorem extract_pad {extractor : Extractor} (builtIn : extractor.templates = .builtIn)
    (scans : extractor.strategy.scansNumber = true) (typing : Bool) (padding : Padding)
    (width : Option Int) (text : Text) :
    (extractor.extract typing (Serial.pad padding width text) = extractor.extract typing text ↔
      ¬ Serial.Overrides padding width text) ∧
    ∀ reading, extractor.extract typing text = .ok reading →
      ∃ padded, extractor.extract typing (Serial.pad padding width text) = .ok padded ∧
        padded.multiplier = reading.multiplier ∧ padded.place = reading.place ∧
        padded.correction = reading.correction ∧
        (Serial.Overrides padding width text → ∃ lead, Serial.leadingNumber text = .ok lead ∧
          padded.serial = Serial.columnText lead ∧ reading.serial ≠ padded.serial) := by
  have reads := extract_of_scansNumber builtIn scans typing
  have readsPadded : extractor.extract typing (Serial.pad padding width text) =
      (Serial.serialOf (Serial.pad padding width text)).map fun number =>
        extractor.readNumbered typing number text := by
    rw [reads]
    simp only [readNumbered_pad builtIn scans]
  have serials (number : Nat) := extractor.serial_readNumbered typing number text
  rcases Serial.serialOf_pad padding width text with ⟨kept, overridden⟩
  rw [reads text, readsPadded]
  constructor
  · constructor
    · intro same overrides
      rcases overridden overrides with ⟨lead, number, _, found, instead, isSerial, differs⟩
      rw [found, instead] at same
      have column := congrArg Extraction.serial (Except.ok.inj same)
      rw [serials, serials] at column
      exact differs (Serial.eq_of_columnText isSerial column.symm)
    · intro holds
      rw [kept holds]
  · intro reading read
    by_cases overrides : Serial.Overrides padding width text
    · rcases overridden overrides with ⟨lead, number, starts, found, instead, isSerial, differs⟩
      rw [found] at read
      cases read
      rcases extractor.place_readNumbered typing lead text number with ⟨multiplier, place, call⟩
      refine ⟨_, by rw [instead]; rfl, multiplier, place, call, fun _ => ⟨lead, starts, ?_, ?_⟩⟩
      · exact serials lead
      · intro column
        rw [serials, serials] at column
        exact differs (Serial.eq_of_columnText isSerial column)
    · refine ⟨reading, by rw [kept overrides]; exact read, rfl, rfl, rfl, fun impossible => ?_⟩
      exact absurd impossible overrides

/-- A five with a seven behind it is serial number seven, until it is padded to three places. -/
theorem extract_pad_of_corrected_serial :
    Serial.Overrides .wpx (some 12) (Text.ofString "5 7 ") ∧
      ((Extractor.mk .serial false ⟨[]⟩ .builtIn).extract false (Text.ofString "5 7 ")).map
        Extraction.normalized = .ok (Text.ofString "007") ∧
      ((Extractor.mk .serial false ⟨[]⟩ .builtIn).extract false
          (Serial.pad .wpx (some 12) (Text.ofString "5 7 "))).map
        Extraction.normalized = .ok (Text.ofString "005") := by
  have seven : ((Extractor.mk .serial false ⟨[]⟩ .builtIn).extract false
      (Text.ofString "5 7 ")).map Extraction.normalized = .ok (Text.ofString "007") := rfl
  have five : ((Extractor.mk .serial false ⟨[]⟩ .builtIn).extract false
      (Serial.pad .wpx (some 12) (Text.ofString "5 7 "))).map Extraction.normalized =
        .ok (Text.ofString "005") := rfl
  refine ⟨Classical.not_not.mp fun kept => ?_, seven, five⟩
  have builtIn : (Extractor.mk .serial false ⟨[]⟩ .builtIn).templates = .builtIn := rfl
  have same := (extract_pad builtIn rfl false .wpx (some 12) (Text.ofString "5 7 ")).1.mpr kept
  rw [same, seven] at five
  exact absurd (Except.ok.inj five) (by decide)

end Extractor
end ContestExchange
