import ContestExchange.Proofs.CallScan
import ContestExchange.Proofs.Window

namespace ContestExchange

/-!
# Serials in typed exchanges

Only one number of a typed exchange can be too long to be read, and that is the one at its start.
The other places where a number is scanned are chosen by templates.  Most of them ask for something
else behind one or two figures.  The two that ask for figures alone lie as far right as they can, so
no further figure follows them.

What can be typed has no digits but the figures.  An exchange can therefore be read again after more
has been typed behind a blank: the number at its start has not become any longer.
-/

namespace Serial

variable {text : Text}

theorem isFigure_of_isTypable {character : Char} (typable : Text.isTypable character = true)
    (digit : Text.isDigit character = true) : Text.isFigure character = true := by
  simp only [Text.isTypable, Bool.and_eq_true, decide_eq_true_eq] at typable
  exact Text.of_codes (fun character => Text.isDigit character = true →
    Text.isFigure character = true) typable.2 (by decide) digit

/-- The digits at the start of a typed text are as many figures on its line. -/
theorem figures_isPrefix_marks (typable : ∀ character ∈ text, Text.isTypable character = true) :
    List.replicate (text.takeWhile Text.isDigit).length .figure <+: marks text := by
  have front : (text.takeWhile Text.isDigit).map Symbol.ofChar <+: marks text :=
    ((List.takeWhile_prefix _).map Symbol.ofChar).trans (List.prefix_append _ _)
  have figures : (text.takeWhile Text.isDigit).map Symbol.ofChar =
      List.replicate (text.takeWhile Text.isDigit).length .figure := by
    rw [List.map_eq_replicate_iff]
    intro character member
    have digit := List.all_eq_true.mp List.all_takeWhile character member
    have inText := (List.takeWhile_sublist _).mem member
    exact ofChar_of_isFigure (isFigure_of_isTypable (typable character inText) digit)
  rw [← figures]
  exact front

/-- The first figure of a template, which is where its number starts. -/
def firstFigure (template : Template) : Nat := (template.findIdx? (· == .figure)).getD 0

theorem numberPlace_eq (offset : Nat) (template : Template) :
    Extraction.numberPlace offset template = (textIndex offset (firstFigure template)).toNat := rfl

/-- What a serial template asks for from its first figure on: something else within five symbols, or
nothing but figures. -/
theorem serialPlaces_cases : ∀ template ∈ TemplateSet.serialPlaces,
    template ≠ [] ∧ (template.drop (firstFigure template)).head? = some .figure ∧
      ((¬ template.drop (firstFigure template) <+: List.replicate 5 .figure ∧
          ¬ List.replicate 5 .figure <+: template.drop (firstFigure template)) ∨
        firstFigure template = 0 ∧ template <+: List.replicate 4 .figure) := by
  decide

theorem ne_nil_of_head? {symbols : List Symbol} (starts : symbols.head? = some .figure) :
    symbols ≠ [] := by
  intro empty
  rw [empty] at starts
  cases starts

/-- The marks behind the place of a number are those of the line behind its first figure. -/
theorem marks_drop_numberPlace {template : Template}
    (starts : (template.drop (firstFigure template)).head? = some .figure) {offset : Nat}
    (begins : template <+: (classify text).drop offset) :
    marks (text.drop (Extraction.numberPlace offset template)) =
      (classify text).drop (offset + firstFigure template) := by
  have figure := begins.drop (firstFigure template)
  rw [List.drop_drop] at figure
  have notBorder : offset + firstFigure template ≠ 0 := by
    intro border
    rw [border, List.drop_zero] at figure
    rcases figure with ⟨rest, same⟩
    have first := congrArg List.head? same
    rw [List.head?_append_of_ne_nil _ (ne_nil_of_head? starts), starts] at first
    cases first
  have place : Extraction.numberPlace offset template + 1 = offset + firstFigure template := by
    rw [numberPlace_eq, textIndex]
    omega
  have inside : Extraction.numberPlace offset template ≤ text.length := by
    refine Nat.le_of_not_lt fun beyond => ?_
    have nothing : (classify text).drop (offset + firstFigure template) = [] := by
      apply List.drop_eq_nil_of_le
      rw [length_classify]
      omega
    rw [nothing, List.prefix_nil] at figure
    exact ne_nil_of_head? starts figure
  rw [← drop_marks inside, ← place]
  rfl

/-- A number under a serial template has four digits at most. -/
theorem length_leadingDigits_of_locate
    (typable : ∀ character ∈ text, Text.isTypable character = true)
    {template : Template} (member : template ∈ TemplateSet.serialPlaces) {offset : Nat}
    (found : locate (classify text) template = some offset) :
    (leadingDigits (text.drop (Extraction.numberPlace offset template))).length ≤ 4 := by
  rcases serialPlaces_cases template member with ⟨nonempty, starts, ends⟩
  have last := (lastOccurrence?_of_locate found).2
  have begins := isPrefix_of_lastOccurrence? last
  have line := marks_drop_numberPlace starts begins
  have asked := begins.drop (firstFigure template)
  rw [List.drop_drop, ← line] at asked
  have typed : ∀ character ∈ text.drop (Extraction.numberPlace offset template),
      Text.isTypable character = true :=
    fun character behind => typable character (List.mem_of_mem_drop behind)
  have digits : leadingDigits (text.drop (Extraction.numberPlace offset template)) =
      (text.drop (Extraction.numberPlace offset template)).takeWhile Text.isDigit := by
    cases behind : text.drop (Extraction.numberPlace offset template) with
    | nil => rfl
    | cons first rest =>
        have figure : Symbol.ofChar first = .figure := by
          rcases asked with ⟨others, same⟩
          have head := congrArg List.head? same
          rw [List.head?_append_of_ne_nil _ (ne_nil_of_head? starts), starts, behind] at head
          exact (Option.some.inj head).symm
        have noBlank : ¬ (first == ' ') = true := by
          intro blank
          rw [beq_iff_eq.mp blank] at figure
          cases figure
        rw [leadingDigits, List.dropWhile_cons, if_neg noBlank]
  have figures := figures_isPrefix_marks typed
  rw [← digits] at figures
  refine Nat.le_of_not_lt fun long => ?_
  have five : List.replicate 5 .figure <+:
      marks (text.drop (Extraction.numberPlace offset template)) := by
    refine List.IsPrefix.trans (List.prefix_replicate_iff.mpr ⟨?_, rfl⟩) figures
    exact long
  rcases ends with ⟨notWithin, notBeyond⟩ | ⟨noOther, within⟩
  · exact (List.prefix_or_prefix_of_prefix asked five).elim notWithin notBeyond
  · -- A fifth figure would let the template lie one place further right.
    have further := five.drop 1
    rw [line, List.drop_drop, noOther] at further
    exact not_isPrefix_behind nonempty last (Nat.lt_succ_self offset) (within.trans further)

/-- Of a typed text all numbers can be read if the one at its start can. -/
theorem readable_of_isTypable (typable : ∀ character ∈ text, Text.isTypable character = true)
    (readable : StartsReadably text) : Extraction.Readable TemplateSet.serialPlaces text := by
  intro place listed
  rcases List.mem_cons.mp listed with start | scanned
  · rw [start]
    exact readable
  · rcases List.mem_filterMap.mp scanned with ⟨template, member, located⟩
    rcases Option.map_eq_some_iff.mp located with ⟨offset, found, same⟩
    rw [← same]
    refine ⟨Nat.le_trans (length_leadingDigits_of_locate typable member found) (by decide), ?_⟩
    intro character digit
    rcases mem_of_mem_leadingDigits digit with ⟨behind, isDigit⟩
    exact Text.isDecimal_of_isTypable (typable character (List.mem_of_mem_drop behind)) isDigit

theorem startsReadably_of_serialOf {number : Nat} (found : serialOf text = .ok number) :
    StartsReadably text := by
  refine Classical.not_not.mp fun unreadable => ?_
  rw [serialOf, Extraction.findSerial, leadingNumber_of_unreadable unreadable] at found
  cases found

/-- Behind a blank more can be typed without a change to the digits at the start. -/
theorem leadingDigits_append_blank (text : Text) {ending : Text}
    (noDigits : leadingDigits ending = []) :
    leadingDigits (text ++ ' ' :: ending) = leadingDigits text := by
  induction text with
  | nil => exact noDigits
  | cons first rest inductionHypothesis =>
      by_cases blank : first = ' '
      · rw [blank]
        exact inductionHypothesis
      · have noBlank : ¬ (first == ' ') = true := mt beq_iff_eq.mp blank
        rw [leadingDigits, leadingDigits, List.cons_append, List.dropWhile_cons, if_neg noBlank,
          List.dropWhile_cons, if_neg noBlank]
        exact (Extraction.Apart.blank ending).takeWhile_append (by decide) (first :: rest)

/-- A typed text with a serial number can be read again when more has been typed. -/
theorem exists_serialOf_append {number : Nat}
    (typable : ∀ character ∈ text, Text.isTypable character = true)
    (found : serialOf text = .ok number) {ending : Text}
    (typed : ∀ character ∈ ending, Text.isTypable character = true)
    (noDigits : leadingDigits ending = []) :
    ∃ other, serialOf (text ++ ' ' :: ending) = .ok other := by
  apply Extraction.exists_findSerial
  apply readable_of_isTypable
  · intro character member
    rcases List.mem_append.mp member with front | back
    · exact typable character front
    · rcases List.mem_cons.mp back with blank | behind
      · rw [blank]
        decide
      · exact typed character behind
  · rw [StartsReadably, leadingDigits_append_blank text noDigits]
    exact startsReadably_of_serialOf found

end Serial
end ContestExchange
