import ContestExchange.Extraction.Call
import ContestExchange.Extraction.SectionCode

namespace ContestExchange

/-!
# The order of templates

Sections and calls are looked for with one template after the other, and a later find replaces an
earlier one.  So the templates can as well be tried from the last one on, until one of them leads to
something.  In that form it is plain what a find depends on: on the templates behind its own, and
on no template before it.
-/

/-! ## The last find -/

section LastFind

variable {Item Found : Type} {find? : Item → Option Found}

theorem foldl_getD (find? : Item → Option Found) (items : List Item) (initial : Found) :
    items.foldl (fun found item => (find? item).getD found) initial =
      (items.reverse.findSome? find?).getD initial := by
  induction items generalizing initial with
  | nil => rfl
  | cons item rest inductionHypothesis =>
      rw [List.foldl_cons, inductionHypothesis, List.reverse_cons, List.findSome?_append,
        List.findSome?_singleton]
      cases rest.reverse.findSome? find? <;> rfl

theorem findSome?_congr {items : List Item} {other? : Item → Option Found}
    (same : ∀ item ∈ items, find? item = other? item) :
    items.findSome? find? = items.findSome? other? := by
  induction items with
  | nil => rfl
  | cons item rest inductionHypothesis =>
      have later := fun other member => same other (List.mem_cons_of_mem item member)
      rw [List.findSome?_cons, List.findSome?_cons, same item List.mem_cons_self,
        inductionHypothesis later]

theorem getD_eq_self_iff {found : Option Found} {own : Found} :
    found.getD own = own ↔ ∀ other, found = some other → other = own := by
  cases found with
  | none =>
      refine iff_of_true rfl ?_
      intro other nothing
      cases nothing
  | some known =>
      constructor
      · intro same other found
        cases found
        exact same
      · intro all
        exact all known rfl

end LastFind

namespace Extraction

variable {text : Text} {line : List Symbol}

/-! ## The section under a template -/

section FindSection

variable {lookUp : Text → Option Text} {template : Template} {candidate code : Text}

theorem sectionUnder?_of_absent (absent : locate line template = none) :
    sectionUnder? lookUp text line template = none := by
  have nothing : candidateUnder text line template = [] := by
    rw [candidateUnder, textUnder, absent]
    rfl
  rw [sectionUnder?, nothing]
  rfl

theorem sectionUnder?_of_candidate (under : candidateUnder text line template = candidate)
    (present : candidate ≠ []) (fruitful : lookUp candidate ≠ some []) :
    sectionUnder? lookUp text line template = lookUp candidate := by
  rw [sectionUnder?, under, if_neg (mt List.isEmpty_iff.mp present)]
  cases found : lookUp candidate with
  | none => rfl
  | some code =>
      have nonempty : code ≠ [] := fun empty => fruitful (found.trans (congrArg some empty))
      exact if_neg (mt List.isEmpty_iff.mp nonempty)

theorem lookUp_of_sectionUnder? (found : sectionUnder? lookUp text line template = some code) :
    lookUp (candidateUnder text line template) = some code ∧ code ≠ [] := by
  unfold sectionUnder? at found
  dsimp only at found
  split at found
  · cases found
  split at found
  · rename_i other looked
    split at found
    · cases found
    · rename_i present
      cases found
      rw [List.isEmpty_iff] at present
      exact ⟨looked, present⟩
  · cases found

/-! ## Sections from templates -/

variable {templates before behind : List Template}

theorem findSection_eq (lookUp : Text → Option Text) (templates : List Template) (text : Text)
    (line : List Symbol) :
    findSection lookUp templates text line =
      (templates.reverse.findSome? (sectionUnder? lookUp text line)).getD [] :=
  foldl_getD (sectionUnder? lookUp text line) templates []

/-- A section is always one that some candidate led to. -/
theorem findSection_cases :
    findSection lookUp templates text line = [] ∨
      ∃ candidate, lookUp candidate = some (findSection lookUp templates text line) ∧
        findSection lookUp templates text line ≠ [] := by
  rw [findSection_eq]
  cases found : templates.reverse.findSome? (sectionUnder? lookUp text line) with
  | none => exact Or.inl rfl
  | some code =>
      rcases List.exists_of_findSome?_eq_some found with ⟨template, _, under⟩
      exact Or.inr ⟨_, lookUp_of_sectionUnder? under⟩

theorem findSection_of_absent (absent : ∀ template ∈ templates, locate line template = none) :
    findSection lookUp templates text line = [] := by
  have nothing : templates.reverse.findSome? (sectionUnder? lookUp text line) = none := by
    rw [List.findSome?_eq_none_iff]
    intro template member
    exact sectionUnder?_of_absent (absent template (List.mem_reverse.mp member))
  rw [findSection_eq, nothing]
  rfl

/-- The section is the one under a template, or what the templates behind it lead to. -/
theorem findSection_of_found (split : templates = before ++ template :: behind.reverse)
    (found : sectionUnder? lookUp text line template = some code) :
    findSection lookUp templates text line =
      (behind.findSome? (sectionUnder? lookUp text line)).getD code := by
  rw [findSection_eq, split, List.reverse_append, List.reverse_cons, List.reverse_reverse,
    List.append_assoc, List.findSome?_append, List.singleton_append, List.findSome?_cons, found]
  cases behind.findSome? (sectionUnder? lookUp text line) <;> rfl

/-- Templates that lead to one code or to none find that code, if one of them does. -/
theorem findSection_of_alike (member : template ∈ templates)
    (found : sectionUnder? lookUp text line template = some code)
    (alike : ∀ other ∈ templates, sectionUnder? lookUp text line other = none ∨
      sectionUnder? lookUp text line other = some code) :
    findSection lookUp templates text line = code := by
  rcases List.append_of_mem member with ⟨before, after, split⟩
  rw [← List.reverse_reverse after] at split
  rw [findSection_of_found split found, getD_eq_self_iff]
  intro kept later
  rcases List.exists_of_findSome?_eq_some later with ⟨other, listed, under⟩
  have inTemplates : other ∈ templates := by
    rw [split, List.mem_append, List.mem_cons, List.mem_reverse]
    exact Or.inr (Or.inr listed)
  rcases alike other inTemplates with none | some
  · cases none.symm.trans under
  · cases some.symm.trans under
    rfl

/-- Where one template lies on a line and no other, the text under it is the section, if it leads to
itself. -/
theorem findSection_of_only (member : template ∈ templates)
    (candidate : candidateUnder text line template = code) (present : code ≠ [])
    (found : lookUp code = some code)
    (only : ∀ other ∈ templates, locate line other = none ∨ other = template) :
    findSection lookUp templates text line = code := by
  have fruitful : lookUp code ≠ some [] :=
    fun nothing => present (Option.some.inj (found.symm.trans nothing))
  have leads := (sectionUnder?_of_candidate candidate present fruitful).trans found
  apply findSection_of_alike member leads
  intro other listed
  rcases only other listed with absent | same
  · left
    exact sectionUnder?_of_absent absent
  · right
    rw [same]
    exact leads

end FindSection

/-! ## Calls from shapes -/

theorem scanCall_eq (shapes : List Template) (text : Text) (line : List Symbol) :
    scanCall shapes text line =
      (shapes.reverse.findSome? (groupUnder? text line)).getD [] :=
  foldl_getD (groupUnder? text line) shapes []

theorem scanCall_of_absent {shapes : List Template}
    (absent : ∀ shape ∈ shapes, locate line shape = none) : scanCall shapes text line = [] := by
  have nothing : shapes.reverse.findSome? (groupUnder? text line) = none := by
    rw [List.findSome?_eq_none_iff]
    intro shape member
    rw [groupUnder?, absent shape (List.mem_reverse.mp member)]
  rw [scanCall_eq, nothing]
  rfl

end Extraction
end ContestExchange
