import ContestExchange.Proofs.Window

namespace ContestExchange

/-!
# Groups between blanks

A template that asks for a blank at either end, and for none between, lies on a whole group of the
text: on what stands between one blank and the next.  Its rightmost place is the last group of its
kinds, however the groups of other kinds are mixed with it.  So instead of places on the marked line
one can speak of the groups that a text splits into.

A group that is typed behind a blank, and closed by one, is the last of its own kinds.  For all
other kinds the text has the groups that it had before.
-/

namespace Text

/-- The groups of a text that stand between two blanks. -/
def groups (text : Text) : List Text := (splitAt ' ' text).tail.dropLast

theorem splitAt_ne_nil (mark : Char) (text : Text) : splitAt mark text ≠ [] := by
  cases text with
  | nil => exact List.cons_ne_nil _ _
  | cons first rest =>
      rw [splitAt]
      split
      · exact List.cons_ne_nil _ _
      · split
        · exact List.cons_ne_nil _ _
        · exact List.cons_ne_nil _ _

theorem splitAt_append (mark : Char) (front back : Text) :
    splitAt mark (front ++ mark :: back) = splitAt mark front ++ splitAt mark back := by
  induction front with
  | nil => simp only [List.nil_append, splitAt, if_true, List.singleton_append]
  | cons first rest inductionHypothesis =>
      rw [List.cons_append, splitAt, splitAt, inductionHypothesis]
      split
      · rfl
      · cases pieces : splitAt mark rest with
        | nil => exact absurd pieces (splitAt_ne_nil mark rest)
        | cons piece others => rfl

theorem splitAt_of_notMem {mark : Char} {text : Text} (absent : mark ∉ text) :
    splitAt mark text = [text] := by
  induction text with
  | nil => rfl
  | cons first rest inductionHypothesis =>
      rw [List.mem_cons, not_or] at absent
      rw [splitAt, if_neg (Ne.symm absent.1), inductionHypothesis absent.2]

theorem groups_append (front back : Text) :
    groups (front ++ ' ' :: back) = (splitAt ' ' front).tail ++ (splitAt ' ' back).dropLast := by
  rw [groups, splitAt_append, List.tail_append_of_ne_nil (splitAt_ne_nil ' ' front),
    List.dropLast_append_of_ne_nil (splitAt_ne_nil ' ' back)]

theorem groups_of_notMem {text : Text} (absent : ' ' ∉ text) : groups text = [] := by
  rw [groups, splitAt_of_notMem absent]
  rfl

theorem groups_cons_of_ne {first : Char} (other : first ≠ ' ') (rest : Text) :
    groups (first :: rest) = groups rest := by
  rw [groups, splitAt, if_neg other, groups]
  cases pieces : splitAt ' ' rest with
  | nil => exact absurd pieces (splitAt_ne_nil ' ' rest)
  | cons piece others => rfl

/-- A group in front of a blank comes before the groups behind it. -/
theorem groups_cons_blank {group : Text} (whole : ' ' ∉ group) (back : Text) :
    groups (' ' :: (group ++ ' ' :: back)) = group :: groups (group ++ ' ' :: back) := by
  have border := groups_append [] (group ++ ' ' :: back)
  rw [List.nil_append] at border
  rw [border, groups_append, splitAt_append, splitAt_of_notMem whole,
    List.dropLast_append_of_ne_nil (splitAt_ne_nil ' ' back)]
  rfl

theorem groups_cons_cases (first : Char) (rest : Text) :
    groups (first :: rest) = groups rest ∨
      ∃ group back, first = ' ' ∧ rest = group ++ ' ' :: back ∧
        groups (first :: rest) = group :: groups rest := by
  by_cases opens : first = ' '
  · by_cases closed : ' ' ∈ rest
    · right
      rcases List.eq_append_cons_of_mem closed with ⟨group, back, split, whole⟩
      refine ⟨group, back, opens, split, ?_⟩
      rw [opens, split]
      exact groups_cons_blank whole back
    · left
      have border := groups_append [] rest
      rw [List.nil_append] at border
      rw [opens, border, groups_of_notMem closed, splitAt_of_notMem closed]
      rfl
  · exact Or.inl (groups_cons_of_ne opens rest)

/-- A group that is typed behind a blank and closed by one comes after all groups before it. -/
theorem groups_append_group {group : Text} (whole : ' ' ∉ group) (text : Text) :
    groups (text ++ ' ' :: (group ++ [' '])) = groups (text ++ [' ']) ++ [group] := by
  rw [groups_append, groups_append, splitAt_append, splitAt_of_notMem whole]
  simp only [splitAt, List.dropLast_singleton, List.append_nil]
  rfl

end Text

/-- The last group between two blanks whose characters are of certain kinds. -/
def lastGroup? (kinds : List Symbol) (text : Text) : Option Text :=
  (Text.groups text).reverse.find? fun group => group.map Symbol.ofChar == kinds

/-- The template of a group between two blanks. -/
def Template.between (kinds : List Symbol) : Template := .blank :: (kinds ++ [.blank])

section LastGroup

variable {kinds : List Symbol} {group text : Text}

theorem eq_blank_of_ofChar {character : Char} (kind : Symbol.ofChar character = .blank) :
    character = ' ' := by
  unfold Symbol.ofChar at kind
  repeat' split at kind
  all_goals first | assumption | cases kind

theorem blank_notMem (noBlank : .blank ∉ group.map Symbol.ofChar) : ' ' ∉ group :=
  fun member => noBlank (List.mem_map_of_mem (f := Symbol.ofChar) member)

theorem lastGroup?_append_group (whole : ' ' ∉ group) (kinds : List Symbol) (text : Text) :
    lastGroup? kinds (text ++ ' ' :: (group ++ [' '])) =
      if group.map Symbol.ofChar = kinds then some group else lastGroup? kinds (text ++ [' ']) := by
  rw [lastGroup?, Text.groups_append_group whole, List.reverse_append, List.reverse_singleton,
    List.singleton_append, List.find?_cons]
  split
  · rename_i same
    rw [if_pos (beq_iff_eq.mp same)]
  · rename_i other
    rw [if_neg (beq_eq_false_iff_ne.mp other)]
    rfl

theorem map_of_lastGroup? (found : lastGroup? kinds text = some group) :
    group.map Symbol.ofChar = kinds :=
  beq_iff_eq.mp (List.find?_some (p := fun group : Text => group.map Symbol.ofChar == kinds) found)

theorem closed_of_isPrefix (begins : kinds ++ [Symbol.blank] <+: Serial.marks text) :
    ∃ group back, text = group ++ ' ' :: back ∧ group.map Symbol.ofChar = kinds := by
  rcases kinds_take_of_isPrefix begins with covered | atBorder
  · rcases List.map_eq_append_iff.mp covered with ⟨group, closing, split, same, closes⟩
    rcases List.map_eq_cons_iff.mp closes with ⟨last, others, ends, blank, nothing⟩
    refine ⟨group, text.drop (kinds ++ [Symbol.blank]).length, ?_, same⟩
    rw [List.map_eq_nil_iff.mp nothing, eq_blank_of_ofChar blank] at ends
    rw [ends] at split
    calc text
      _ = text.take (kinds ++ [Symbol.blank]).length ++
          text.drop (kinds ++ [Symbol.blank]).length := (List.take_append_drop _ text).symm
      _ = _ := by rw [split, List.append_assoc, List.singleton_append]
  · have ends := congrArg List.getLast? atBorder
    rw [List.getLast?_concat, List.getLast?_concat] at ends
    cases ends

/-- Where the template of a group starts, the text has a blank, such a group and a blank. -/
theorem between_isPrefix_iff {first : Char} {rest : Text} :
    Template.between kinds <+: Serial.marks (first :: rest) ↔
      first = ' ' ∧
        ∃ group back, rest = group ++ ' ' :: back ∧ group.map Symbol.ofChar = kinds := by
  have line : Serial.marks (first :: rest) = Symbol.ofChar first :: Serial.marks rest := rfl
  rw [line, Template.between, List.cons_prefix_cons]
  constructor
  · rintro ⟨blank, begins⟩
    exact ⟨eq_blank_of_ofChar blank.symm, closed_of_isPrefix begins⟩
  · rintro ⟨blank, group, back, split, same⟩
    refine ⟨by rw [blank]; rfl, Serial.marks back, ?_⟩
    rw [split, Serial.marks_append, same, List.append_assoc]
    rfl

/-- The template of a group lies where the last group of its kinds stands. -/
theorem lastOccurrence?_between (noBlank : .blank ∉ kinds) (text : Text) :
    (lastOccurrence? (Template.between kinds) (Serial.marks text) = none ∧
        lastGroup? kinds text = none) ∨
      ∃ front group back, text = front ++ ' ' :: (group ++ ' ' :: back) ∧
        lastOccurrence? (Template.between kinds) (Serial.marks text) = some front.length ∧
        lastGroup? kinds text = some group := by
  induction text with
  | nil => exact Or.inl ⟨rfl, rfl⟩
  | cons first rest inductionHypothesis =>
      have line : Serial.marks (first :: rest) = Symbol.ofChar first :: Serial.marks rest := rfl
      rcases inductionHypothesis with ⟨nowhere, noGroup⟩ | ⟨front, group, back, split, placed, last⟩
      · by_cases begins : Template.between kinds <+: Serial.marks (first :: rest)
        · right
          rcases between_isPrefix_iff.mp begins with ⟨opens, group, back, split, same⟩
          have whole : ' ' ∉ group := by
            apply blank_notMem
            rw [same]
            exact noBlank
          refine ⟨[], group, back, by rw [opens, split]; rfl, ?_, ?_⟩
          · rw [line] at begins ⊢
            rw [lastOccurrence?, nowhere]
            exact if_pos (List.isPrefixOf_iff_prefix.mpr begins)
          · rw [split, lastGroup?] at noGroup
            rw [opens, split, lastGroup?, Text.groups_cons_blank whole, List.reverse_cons,
              List.find?_append, noGroup, List.find?_singleton, same, beq_self_eq_true]
            rfl
        · left
          constructor
          · rw [line] at begins ⊢
            rw [lastOccurrence?, nowhere]
            exact if_neg (mt List.isPrefixOf_iff_prefix.mp begins)
          · rcases Text.groups_cons_cases first rest with same | ⟨group, back, opens, split, more⟩
            · rw [lastGroup?, same]
              exact noGroup
            · have other : (group.map Symbol.ofChar == kinds) = false := by
                rw [beq_eq_false_iff_ne]
                intro same
                exact begins (between_isPrefix_iff.mpr ⟨opens, group, back, split, same⟩)
              rw [lastGroup?] at noGroup
              rw [lastGroup?, more, List.reverse_cons, List.find?_append, noGroup,
                List.find?_singleton, other]
              rfl
      · right
        refine ⟨first :: front, group, back, by rw [split]; rfl, ?_, ?_⟩
        · rw [line, lastOccurrence?, placed]
          rfl
        · rcases Text.groups_cons_cases first rest with same | ⟨_, _, _, _, more⟩
          · rw [lastGroup?, same]
            exact last
          · rw [lastGroup?] at last
            rw [lastGroup?, more, List.reverse_cons, List.find?_append, last]
            rfl

theorem locate_between (noBlank : .blank ∉ kinds) (text : Text) :
    (locate (classify text) (Template.between kinds) = none ∧ lastGroup? kinds text = none) ∨
      ∃ front group back, text = front ++ ' ' :: (group ++ ' ' :: back) ∧
        locate (classify text) (Template.between kinds) = some (front.length + 1) ∧
        lastGroup? kinds text = some group := by
  have bordered : startsIn (Template.between kinds) [.undefined] (Serial.marks text) = false :=
    startsIn_of_head (by decide)
  have placed : locate (classify text) (Template.between kinds) =
      (lastOccurrence? (Template.between kinds) (Serial.marks text)).map (· + 1) :=
    locate_append (List.cons_ne_nil _ _) bordered
  rw [placed]
  rcases lastOccurrence?_between noBlank text with
    ⟨nowhere, noGroup⟩ | ⟨front, group, back, split, there, last⟩
  · left
    rw [nowhere]
    exact ⟨rfl, noGroup⟩
  · right
    rw [there]
    exact ⟨front, group, back, split, rfl, last⟩

theorem drop_of_split {front back : Text} (split : text = front ++ ' ' :: back) :
    text.drop (front.length + 1) = back := by
  rw [split, List.append_cons, ← List.length_singleton (a := ' '), ← List.length_append,
    List.drop_left]

/-- What lies under the template of a group is the last such group with the blank that closes it. -/
theorem textUnder_between (noBlank : .blank ∉ kinds) (text : Text) :
    textUnder text (classify text) (Template.between kinds) =
      ((lastGroup? kinds text).map (· ++ [' '])).getD [] := by
  rcases locate_between noBlank text with
    ⟨nowhere, noGroup⟩ | ⟨front, group, back, split, there, last⟩
  · rw [textUnder, nowhere, noGroup]
    rfl
  · have size : (Template.between kinds).length = group.length + 1 + 1 := by
      rw [← map_of_lastGroup? last]
      simp only [Template.between, List.length_cons, List.length_append, List.length_map,
        List.length_nil]
    rw [textUnder, there, last, size, Option.map_some]
    refine (windowText_eq_take text (front.length + 1) (group.length + 1)).trans ?_
    rw [drop_of_split split, List.append_cons, ← List.length_singleton (a := ' '),
      ← List.length_append, List.take_left]
    rfl

end LastGroup

end ContestExchange
