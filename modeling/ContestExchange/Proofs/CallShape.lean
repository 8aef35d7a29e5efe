import ContestExchange.Proofs.AppliedCorrection
import ContestExchange.Proofs.LastCall

namespace ContestExchange
namespace Extraction

/-!
# Calls of the shapes in a template file

A template file may ask for some of the built-in shapes only, in an order of its own and one of them
several times.  A shape brings its length along, which is two more than that of its calls, and the
line of a text starts one place before the text.  So the place of a shape on the line is the place
of its call in the text, and between the delimiters lies the call and nothing else.

Nothing in this depends on the order of the shapes.  The order decides only which of several calls
is found: that of the latest shape whose last group begins as North American calls do.  A shape
whose last group does not is passed over, even if an earlier group of this shape does.
-/

/-! ## The last group of a shape -/

/-- Whether a group stands in a text where a shape lies on its line for the last time, between the
delimiters of the shape.  A place on the line is that of the character behind it in the text. -/
def IsGroupUnder (text : Text) (shape : Template) (group : Text) : Prop :=
  ∃ place, LiesLast (classify text) shape place ∧
    group = (text.drop place).take (shape.length - 2)

theorem isGroupUnder_between_iff {kinds : List Symbol} (noBlank : .blank ∉ kinds)
    {text group : Text} :
    IsGroupUnder text (Template.between kinds) group ↔ lastGroup? kinds text = some group := by
  have located (place : Nat) : LiesLast (classify text) (Template.between kinds) place ↔
      locate (classify text) (Template.between kinds) = some place := by
    rw [locate_eq_some_iff]
    exact (and_iff_right (List.cons_ne_nil _ _)).symm
  rcases locate_between noBlank text with
    ⟨nowhere, noGroup⟩ | ⟨front, last, back, split, there, known⟩
  · rw [noGroup]
    refine iff_of_false ?_ (Option.some_ne_none group).symm
    rintro ⟨place, lies, _⟩
    cases nowhere.symm.trans ((located place).mp lies)
  · have size : (Template.between kinds).length - 2 = last.length := by
      rw [← map_of_lastGroup? known]
      simp only [Template.between, List.length_cons, List.length_append, List.length_map,
        List.length_nil]
      omega
    have under : (text.drop (front.length + 1)).take ((Template.between kinds).length - 2) =
        last := by
      rw [drop_of_split split, size, List.take_left]
    rw [known]
    constructor
    · rintro ⟨place, lies, same⟩
      cases there.symm.trans ((located place).mp lies)
      rw [same, under]
    · intro same
      cases same
      exact ⟨front.length + 1, (located _).mpr there, under.symm⟩

/-- A shape of calls asks for letters and figures between two blanks. -/
theorem kinds_of_mem_callShapes {shape : Template} (member : shape ∈ TemplateSet.callShapes) :
    ∃ kinds ∈ callKinds, shape = Template.between kinds := by
  rw [callShapes_eq] at member
  rcases List.mem_map.mp member with ⟨kinds, listed, same⟩
  exact ⟨kinds, listed, same.symm⟩

theorem letter_or_figure_of_mem_callKinds :
    ∀ kinds ∈ callKinds, ∀ kind ∈ kinds, kind = .letter ∨ kind = .figure := by
  decide

section Shape

variable {shape : Template} {text group : Text}

theorem groupUnder?_eq_some_iff (member : shape ∈ TemplateSet.callShapes) :
    groupUnder? text (classify text) shape = some group ↔
      IsGroupUnder text shape group ∧ StartsAmerican group := by
  rcases kinds_of_mem_callShapes member with ⟨kinds, listed, same⟩
  rcases kinds_of_mem_callKinds kinds listed with ⟨noBlank, two⟩
  rw [same, groupUnder?_between noBlank two, isGroupUnder_between_iff noBlank, startsAmerican_iff,
    americanGroup?, Option.filter_eq_some_iff]
  refine and_congr_right fun last => ?_
  have present : group ≠ [] := by
    intro empty
    rw [← map_of_lastGroup? last, empty] at two
    exact absurd two (by decide)
  exact (and_iff_right present).symm

theorem between_of_isGroupUnder (member : shape ∈ TemplateSet.callShapes)
    (under : IsGroupUnder text shape group) :
    shape = Template.between (group.map Symbol.ofChar) ∧
      ∃ front back, text = front ++ ' ' :: (group ++ ' ' :: back) := by
  rcases kinds_of_mem_callShapes member with ⟨kinds, listed, same⟩
  rcases kinds_of_mem_callKinds kinds listed with ⟨noBlank, _⟩
  rw [same, isGroupUnder_between_iff noBlank] at under
  refine ⟨?_, ?_⟩
  · rw [same, map_of_lastGroup? under]
  · rcases locate_between noBlank text with
      ⟨_, noGroup⟩ | ⟨front, last, back, split, _, known⟩
    · cases noGroup.symm.trans under
    · cases known.symm.trans under
      exact ⟨front, back, split⟩

end Shape

/-! ## The call of the latest shape -/

/-- What a call is that was found in a text by some shapes: a group that fits its shape character
by character, and that no shape behind its own has anything to put in place of. -/
structure IsFound (shapes : List Template) (text call : Text) : Prop where
  separate : ∃ front back, text = front ++ ' ' :: (call ++ ' ' :: back)
  plain : ∀ character ∈ call, Text.isCapital character = true ∨ Text.isFigure character = true
  american : StartsAmerican call
  latest : ∃ before shape behind, shapes = before ++ shape :: behind ∧
    shape = Template.between (call.map Symbol.ofChar) ∧ IsGroupUnder text shape call ∧
    ∀ later ∈ behind, ∀ group, IsGroupUnder text later group → ¬ StartsAmerican group

section Shapes

variable {shapes : List Template} (known : ∀ shape ∈ shapes, shape ∈ TemplateSet.callShapes)
  {text call : Text}

include known

theorem scanCall_ne_nil_iff :
    scanCall shapes text (classify text) ≠ [] ↔
      ∃ shape ∈ shapes, ∃ group, IsGroupUnder text shape group ∧ StartsAmerican group := by
  rw [scanCall_eq]
  constructor
  · intro present
    cases found : shapes.reverse.findSome? (groupUnder? text (classify text)) with
    | none =>
        rw [found] at present
        exact absurd rfl present
    | some call =>
        rcases List.exists_of_findSome?_eq_some found with ⟨shape, member, under⟩
        have listed := List.mem_reverse.mp member
        exact ⟨shape, listed, call, (groupUnder?_eq_some_iff (known shape listed)).mp under⟩
  · rintro ⟨shape, listed, group, american⟩ nothing
    cases found : shapes.reverse.findSome? (groupUnder? text (classify text)) with
    | none =>
        have under := (groupUnder?_eq_some_iff (known shape listed)).mpr american
        have absent := List.findSome?_eq_none_iff.mp found shape (List.mem_reverse.mpr listed)
        cases absent.symm.trans under
    | some call =>
        rw [found] at nothing
        rcases List.exists_of_findSome?_eq_some found with ⟨other, member, under⟩
        have inShapes := known other (List.mem_reverse.mp member)
        have starts := ((groupUnder?_eq_some_iff inShapes).mp under).2
        exact (startsAmerican_iff.mp starts).1 nothing

theorem isFound_of_scanCall (present : scanCall shapes text (classify text) ≠ []) :
    IsFound shapes text (scanCall shapes text (classify text)) := by
  rw [scanCall_eq] at present ⊢
  cases found : shapes.reverse.findSome? (groupUnder? text (classify text)) with
  | none =>
      rw [found] at present
      exact absurd rfl present
  | some call =>
      rcases List.findSome?_eq_some_iff.mp found with ⟨behind, shape, before, split, under, passed⟩
      have order : shapes = before.reverse ++ shape :: behind.reverse := by
        have reversed := congrArg List.reverse split
        rw [List.reverse_reverse, List.reverse_append, List.reverse_cons, List.append_assoc,
          List.singleton_append] at reversed
        exact reversed
      have inShapes : shape ∈ TemplateSet.callShapes := by
        apply known
        rw [order]
        exact List.mem_append_right _ List.mem_cons_self
      rcases (groupUnder?_eq_some_iff inShapes).mp under with ⟨here, american⟩
      rcases between_of_isGroupUnder inShapes here with ⟨fits, separate⟩
      refine ⟨separate, ?_, american, before.reverse, shape, behind.reverse, order, fits, here, ?_⟩
      · intro character member
        rcases kinds_of_mem_callShapes inShapes with ⟨kinds, listed, same⟩
        rw [same] at fits
        have inner : kinds = call.map Symbol.ofChar :=
          List.append_cancel_right (List.cons.inj fits).2
        have kind : Symbol.ofChar character ∈ kinds := by
          rw [inner]
          exact List.mem_map_of_mem member
        rcases letter_or_figure_of_mem_callKinds kinds listed _ kind with letter | figure
        · exact Or.inl (isCapital_of_ofChar letter)
        · exact Or.inr (isFigure_of_ofChar figure)
      · intro later member group underLater starts
        have listed : later ∈ TemplateSet.callShapes := by
          apply known
          rw [order]
          exact List.mem_append_right _ (List.mem_cons_of_mem shape member)
        have nothing := passed later (List.mem_reverse.mp member)
        cases nothing.symm.trans ((groupUnder?_eq_some_iff listed).mpr ⟨underLater, starts⟩)

end Shapes

end Extraction

namespace TemplateFile

/-- With the templates of a file a call is found in a text if and only if the last group of some
shape begins as North American calls do.  What is found then is the group of the latest such shape:
it stands between two blanks and has the letters and figures that the shape asks for. -/
theorem call_found_iff_american_group {store : Store} {setting : Value} {templates : TemplateSet}
    {warning : Option Text} (loaded : load store setting = .ok (templates, warning)) (text : Text) :
    (Extraction.scanCall templates.callsigns text (classify text) ≠ [] ↔
      ∃ shape ∈ templates.callsigns, ∃ group,
        Extraction.IsGroupUnder text shape group ∧ Extraction.StartsAmerican group) ∧
    (Extraction.scanCall templates.callsigns text (classify text) ≠ [] →
      Extraction.IsFound templates.callsigns text
        (Extraction.scanCall templates.callsigns text (classify text))) := by
  have known := hasCallShapes_of_load loaded
  exact ⟨Extraction.scanCall_ne_nil_iff known, Extraction.isFound_of_scanCall known⟩

/-- A file that asks for longer calls before the shorter ones finds the last short call. -/
theorem call_found_iff_american_group_in_own_order :
    ∃ templates,
      load ⟨Flow.form 100, [(.ofPath (Text.ofString "templates"), .file (.document (.mapping
          [(.ofString "callsign", .list [.ofString " BAAFAAB", .ofString "bafaab"])])))]⟩
        (.ofString "templates") = .ok (templates, none) ∧
      Extraction.scanCall templates.callsigns (Text.ofString "599 W1AB K2CD VE3XY ")
        (classify (Text.ofString "599 W1AB K2CD VE3XY ")) = Text.ofString "K2CD" ∧
      Extraction.IsFound templates.callsigns (Text.ofString "599 W1AB K2CD VE3XY ")
        (Text.ofString "K2CD") := by
  have loads : ∃ templates,
      load ⟨Flow.form 100, [(.ofPath (Text.ofString "templates"), .file (.document (.mapping
          [(.ofString "callsign", .list [.ofString " BAAFAAB", .ofString "bafaab"])])))]⟩
        (.ofString "templates") = .ok (templates, none) := ⟨_, rfl⟩
  rcases loads with ⟨templates, loaded⟩
  have shapes : templates.callsigns = [
      [.blank, .letter, .letter, .figure, .letter, .letter, .blank],
      [.blank, .letter, .figure, .letter, .letter, .blank]] := by
    cases loaded
    rfl
  have found : Extraction.scanCall templates.callsigns (Text.ofString "599 W1AB K2CD VE3XY ")
      (classify (Text.ofString "599 W1AB K2CD VE3XY ")) = Text.ofString "K2CD" := by
    rw [shapes]
    decide
  have isFound := (call_found_iff_american_group loaded (Text.ofString "599 W1AB K2CD VE3XY ")).2
  rw [found] at isFound
  exact ⟨templates, loaded, found, isFound (by decide)⟩

end TemplateFile
end ContestExchange
