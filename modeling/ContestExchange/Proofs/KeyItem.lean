import ContestExchange.Console.KeyLine

namespace ContestExchange
namespace KeyLine

/-!
# What a line of keys spells

A line is meant as a list of items: a key written by name between its brackets, or a character.  The
brackets are characters themselves, so one line may be written down from several lists, and the
scanner has to choose one.  It takes a `<` for an opening bracket whenever a name and `>` follow,
and jumps to that `>`; every other bracket is a character.

So the scanner finds the items again as soon as no character `<` among them looks like an opening
bracket.  Each line comes from such a list, which makes the condition one on how a line is
understood and none on the line.
-/

/-! ## Items -/

/-- What a line is made of. -/
inductive Item where
  | named (entry : Text × Key) (listed : entry ∈ namedKeys) (written : Text)
      (spells : Text.upper written = entry.1)
  | character (mark : Char)

namespace Item

/-- What is written for an item. -/
def text : Item → Text
  | .named _ _ written _ => '<' :: written ++ ['>']
  | .character mark => [mark]

/-- The key that an item stands for. -/
def key : Item → Key
  | .named entry _ _ _ => entry.2
  | .character mark => .ofChar mark

end Item

/-- The line that some items are written as. -/
def lineOf (items : List Item) : Text := items.flatMap Item.text

@[simp] theorem lineOf_cons (item : Item) (items : List Item) :
    lineOf (item :: items) = item.text ++ lineOf items :=
  List.flatMap_cons

/-- Whether a text starts with the name of a key and a closing bracket. -/
def StartsWithName (text : Text) : Prop :=
  ∃ written behind, text = written ++ '>' :: behind ∧ '>' ∉ written ∧
    ∃ entry ∈ namedKeys, Text.upper written = entry.1

/-- Whether no character `<` of some items can be taken for an opening bracket. -/
def IsUnambiguous (items : List Item) : Prop :=
  ∀ before after, items = before ++ .character '<' :: after → ¬ StartsWithName (lineOf after)

/-- Whether the last of some items stands for a key that completes the exchange. -/
def EndsCompleting (items : List Item) : Prop :=
  ∃ item ∈ items.getLast?, item.key.isCompleting = true

theorem IsUnambiguous.tail {item : Item} {items : List Item}
    (unambiguous : IsUnambiguous (item :: items)) : IsUnambiguous items := by
  intro before after split
  exact unambiguous (item :: before) after (congrArg (item :: ·) split)

theorem IsUnambiguous.head {items : List Item}
    (unambiguous : IsUnambiguous (.character '<' :: items)) : ¬ StartsWithName (lineOf items) :=
  unambiguous [] items rfl

theorem isUnambiguous_nil : IsUnambiguous [] := by
  intro before after split
  cases before <;> cases split

theorem IsUnambiguous.cons {item : Item} {items : List Item} (unambiguous : IsUnambiguous items)
    (closed : item = .character '<' → ¬ StartsWithName (lineOf items)) :
    IsUnambiguous (item :: items) := by
  intro before after split
  cases before with
  | nil =>
      cases split
      exact closed rfl
  | cons first before =>
      cases split
      exact unambiguous before after rfl

/-! ## Names -/

section Names

variable {written text behind : Text} {key : Key}

/-- No two keys share a name. -/
theorem find?_of_mem : ∀ entry ∈ namedKeys,
    namedKeys.find? (fun other => other.1 == entry.1) = some entry := by
  decide

theorem not_mem_name : ∀ entry ∈ namedKeys, '>' ∉ entry.1 := by
  decide

theorem named?_eq_some_iff :
    named? written = some key ↔
      ∃ entry ∈ namedKeys, Text.upper written = entry.1 ∧ entry.2 = key := by
  constructor
  · intro found
    rcases Option.map_eq_some_iff.mp found with ⟨entry, listed, same⟩
    have equal := List.find?_some (p := fun other : Text × Key => other.1 == Text.upper written)
      listed
    exact ⟨entry, List.mem_of_find?_eq_some listed, (beq_iff_eq.mp equal).symm, same⟩
  · rintro ⟨entry, listed, spells, same⟩
    rw [named?, spells, find?_of_mem entry listed, ← same]
    rfl

/-- What spells the name of a key has no closing bracket in it, since that has no other capital. -/
theorem not_mem_of_upper {entry : Text × Key} (listed : entry ∈ namedKeys)
    (spells : Text.upper written = entry.1) : '>' ∉ written := by
  intro member
  have capital : '>' ∈ Text.capital '>' := by decide
  apply not_mem_name entry listed
  rw [← spells]
  exact List.mem_flatMap.mpr ⟨'>', member, capital⟩

/-- A tag is a name that a closing bracket follows, and the scanner goes on behind the bracket. -/
theorem tagged?_eq_some_iff :
    tagged? text = some (key, behind) ↔
      ∃ written, text = written ++ '>' :: behind ∧ '>' ∉ written ∧ named? written = some key := by
  constructor
  · intro found
    have split := List.takeWhile_append_dropWhile (p := (· != '>')) (l := text)
    have noBracket : '>' ∉ text.takeWhile (· != '>') := by
      intro member
      exact absurd (List.all_eq_true.mp List.all_takeWhile '>' member) (by decide)
    have stops := List.head?_dropWhile_not (· != '>') text
    unfold tagged? at found
    cases rest : text.dropWhile (· != '>') with
    | nil =>
        rw [rest] at found
        cases found
    | cons bracket after =>
        rw [rest] at found split stops
        rcases Option.map_eq_some_iff.mp found with ⟨name, named, same⟩
        cases same
        have closes : bracket = '>' := bne_eq_false_iff_eq.mp stops
        rw [closes] at split
        exact ⟨_, split.symm, noBracket, named⟩
  · rintro ⟨written, same, noBracket, named⟩
    have inside : ∀ mark ∈ written, (mark != '>') = true := by
      intro mark member
      rw [bne_iff_ne]
      rintro rfl
      exact noBracket member
    have rest : text.dropWhile (· != '>') = '>' :: behind := by
      rw [same, List.dropWhile_append_of_pos inside]
      rfl
    have before : Text.before '>' text = written := by
      rw [Text.before, same, List.takeWhile_append_of_pos inside]
      exact List.append_nil written
    unfold tagged?
    rw [rest, before]
    dsimp only
    rw [named]
    rfl

theorem startsWithName_iff : StartsWithName text ↔ (tagged? text).isSome = true := by
  rw [Option.isSome_iff_exists]
  constructor
  · rintro ⟨written, behind, split, noBracket, entry, listed, spells⟩
    exact ⟨(entry.2, behind), tagged?_eq_some_iff.mpr
      ⟨written, split, noBracket, named?_eq_some_iff.mpr ⟨entry, listed, spells, rfl⟩⟩⟩
  · rintro ⟨⟨key, behind⟩, tagged⟩
    rcases tagged?_eq_some_iff.mp tagged with ⟨written, split, noBracket, named⟩
    rcases named?_eq_some_iff.mp named with ⟨entry, listed, spells, _⟩
    exact ⟨written, behind, split, noBracket, entry, listed, spells⟩

end Names

/-! ## Scanning -/

theorem spelled_of_tagged {text behind : Text} {key : Key}
    (tagged : tagged? text = some (key, behind)) :
    spelled ('<' :: text) = key :: spelled behind := by
  rw [spelled, if_pos rfl]
  split
  · rename_i found
    cases found.symm.trans tagged
    rfl
  · rename_i missing
    cases missing.symm.trans tagged

theorem spelled_of_untagged {character : Char} {text : Text}
    (untagged : character = '<' → ¬ StartsWithName text) :
    spelled (character :: text) = .ofChar character :: spelled text := by
  rw [spelled]
  split
  · rename_i opens
    split
    · rename_i found
      exact absurd (startsWithName_iff.mpr (by rw [found]; rfl)) (untagged opens)
    · rfl
  · rfl

/-- What the scanner finds first in a line that starts with an item is its key. -/
theorem spelled_item (item : Item) {rest : Text}
    (closed : item = .character '<' → ¬ StartsWithName rest) :
    spelled (item.text ++ rest) = item.key :: spelled rest := by
  cases item with
  | named entry listed written spells =>
      have tagged : tagged? (written ++ '>' :: rest) = some (entry.2, rest) :=
        tagged?_eq_some_iff.mpr ⟨written, rfl, not_mem_of_upper listed spells,
          named?_eq_some_iff.mpr ⟨entry, listed, spells, rfl⟩⟩
      have line : (Item.named entry listed written spells).text ++ rest =
          '<' :: (written ++ '>' :: rest) := by
        rw [Item.text, List.append_assoc]
        rfl
      rw [line, spelled_of_tagged tagged]
      rfl
  | character mark =>
      apply spelled_of_untagged
      intro opens
      exact closed (congrArg Item.character opens)

theorem spelled_lineOf {items : List Item} (unambiguous : IsUnambiguous items) :
    spelled (lineOf items) = items.map Item.key := by
  induction items with
  | nil => rw [lineOf, List.flatMap_nil, spelled, List.map_nil]
  | cons item items inductionHypothesis =>
      have closed : item = .character '<' → ¬ StartsWithName (lineOf items) := by
        rintro rfl
        exact unambiguous.head
      rw [lineOf_cons, spelled_item item closed, inductionHypothesis unambiguous.tail,
        List.map_cons]

/-- Every line is written from items that it can be read back to. -/
theorem exists_items (line : Text) : ∃ items, lineOf items = line ∧ IsUnambiguous items := by
  induction length : line.length using Nat.strongRecOn generalizing line with
  | ind size inductionHypothesis =>
      cases line with
      | nil => exact ⟨[], rfl, isUnambiguous_nil⟩
      | cons first rest =>
          by_cases tagged : first = '<' ∧ StartsWithName rest
          · rcases tagged with ⟨rfl, written, behind, rfl, _, entry, listed, spells⟩
            have shorter : behind.length < size := by
              rw [← length, List.length_cons, List.length_append, List.length_cons]
              omega
            rcases inductionHypothesis _ shorter behind rfl with ⟨items, same, unambiguous⟩
            refine ⟨.named entry listed written spells :: items, ?_, ?_⟩
            · rw [lineOf_cons, same, Item.text, List.append_assoc]
              rfl
            · exact unambiguous.cons fun other => nomatch other
          · have shorter : rest.length < size := by
              rw [← length, List.length_cons]
              omega
            rcases inductionHypothesis _ shorter rest rfl with ⟨items, same, unambiguous⟩
            refine ⟨.character first :: items, ?_, ?_⟩
            · rw [lineOf_cons, same]
              rfl
            · apply unambiguous.cons
              intro opens starts
              cases opens
              rw [same] at starts
              exact tagged ⟨rfl, starts⟩

/-- The keys of a line are those of its items, and Enter behind them unless the last of them
completes the exchange. -/
theorem keysOf_lineOf {items : List Item} (unambiguous : IsUnambiguous items) :
    (EndsCompleting items → keysOf (lineOf items) = items.map Item.key) ∧
      (¬ EndsCompleting items → keysOf (lineOf items) = items.map Item.key ++ [.lineFeed]) := by
  have spells := spelled_lineOf unambiguous
  have last : (items.map Item.key).getLast? = items.getLast?.map Item.key := List.getLast?_map
  unfold EndsCompleting keysOf
  dsimp only
  rw [spells, last]
  cases ends : items.getLast? with
  | none =>
      constructor
      · rintro ⟨_, absent, _⟩
        cases absent
      · intro _
        rw [List.getLast?_eq_none_iff.mp ends]
        rfl
  | some item =>
      have completes : (∃ other ∈ some item, other.key.isCompleting = true) ↔
          item.key.isCompleting = true := by
        simp only [Option.mem_some_iff, exists_eq_left']
      rw [completes]
      exact ⟨fun completing => if_pos completing, fun incomplete => if_neg incomplete⟩

/-- Two brackets that belong together but hold no name are characters, and the name behind them is
read all the same. -/
theorem keysOf_lineOf_of_stray_brackets :
    ∃ items, IsUnambiguous items ∧ lineOf items = Text.ofString "<9><Tab>" ∧ EndsCompleting items ∧
      keysOf (Text.ofString "<9><Tab>") = [.ofChar '<', .ofChar '9', .ofChar '>', .tab] := by
  have tab : (Text.ofString "TAB", Key.tab) ∈ namedKeys := by decide
  have unambiguous : IsUnambiguous [.character '<', .character '9', .character '>',
      .named (Text.ofString "TAB", Key.tab) tab (Text.ofString "Tab") (by decide)] := by
    refine .cons (.cons (.cons (.cons isUnambiguous_nil ?_) ?_) ?_) ?_
    · exact fun other => nomatch other
    · exact fun other => absurd (Item.character.inj other) (by decide)
    · exact fun other => absurd (Item.character.inj other) (by decide)
    · intro _
      rw [startsWithName_iff]
      exact Bool.false_ne_true
  exact ⟨_, unambiguous, rfl, ⟨_, rfl, rfl⟩, (keysOf_lineOf unambiguous).1 ⟨_, rfl, rfl⟩⟩

end KeyLine
end ContestExchange
