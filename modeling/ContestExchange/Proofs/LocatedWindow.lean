import ContestExchange.Proofs.Window

namespace ContestExchange

/-!
# The text under a located template

A template is written with the letters of the symbols, and so is the marked line of a text.  A
template that is not empty is located as soon as it occurs on the line, at its rightmost place.

A window leaves out the first symbols of a template.  As long as it leaves out one at least, both of
its ends are clear of the border in front of the text: that border can only be the first symbol.  The
border behind the text can only be the last one, and the window ends before it, since no character
lies there.  Everywhere between the two a symbol is the letter of the character under it.
-/

/-! ## Where a template occurs -/

section Search

variable {Mark : Type} [DecidableEq Mark] {pattern line : List Mark} {place : Nat}

/-- A pattern is located as soon as there is one and it occurs. -/
theorem isSome_locate_iff :
    (locate line pattern).isSome = true ↔ pattern ≠ [] ∧ pattern <:+: line := by
  rw [Option.isSome_iff_exists]
  constructor
  · rintro ⟨place, found⟩
    rcases locate_eq_some_iff.mp found with ⟨nonempty, lies⟩
    exact ⟨nonempty, lies.starts.isInfix.trans (List.drop_suffix place line).isInfix⟩
  · rintro ⟨nonempty, front, back, split⟩
    cases found : locate line pattern with
    | some place => exact ⟨place, rfl⟩
    | none =>
        rw [locate, if_neg (mt List.isEmpty_iff.mp nonempty)] at found
        have starts : pattern <+: line.drop front.length := by
          rw [← split, List.append_assoc, List.drop_left]
          exact List.prefix_append pattern back
        exact absurd starts (not_isPrefix_of_lastOccurrence?_eq_none nonempty found front.length)

end Search

theorem LiesLast.end_le {Mark : Type} {line pattern : List Mark} {place : Nat}
    (lies : LiesLast line pattern place) (nonempty : pattern ≠ []) :
    place + pattern.length ≤ line.length := by
  have room := lies.starts.length_le
  have present := List.length_pos_iff.mpr nonempty
  rw [List.length_drop] at room
  omega

/-! ## Lines as they are written -/

/-- The letter that stands for the kind of a character. -/
def kindLetter (character : Char) : Char := (Symbol.ofChar character).code

/-- The marked line of a text, written with the letters of the symbols. -/
def writtenLine (text : Text) : Text := (classify text).map Symbol.code

theorem writtenLine_eq (text : Text) :
    writtenLine text = Symbol.undefined.code :: (text.map kindLetter ++ [Symbol.undefined.code]) := by
  rw [writtenLine, classify, List.map_cons, List.map_append, List.map_map]
  rfl

theorem length_writtenLine (text : Text) : (writtenLine text).length = text.length + 2 := by
  rw [writtenLine, List.length_map, length_classify]

/-- The letters of a text with the border before it are the written line up to the border behind. -/
theorem take_writtenLine (text : Text) :
    (writtenLine text).take (text.length + 1) =
      Symbol.undefined.code :: text.map kindLetter := by
  rw [writtenLine_eq, List.take_succ_cons, List.take_left' (List.length_map kindLetter)]

/-! ## The characters under a template -/

/-- The symbols of a template at a place, but for a last one that lies on the border behind the
text. -/
def symbolsBeforeEnd (text template : Text) (place : Nat) : Text :=
  if place + template.length = text.length + 2 then template.dropLast else template

/-- Whether a piece of a text lies under a template at a place, from the symbol number `skip` on. -/
structure LiesUnder (text template : Text) (place skip : Nat) (piece : Text) : Prop where
  contiguous : piece = (text.drop (place + skip - 1)).take piece.length
  kinds : piece.map kindLetter = (symbolsBeforeEnd text template place).drop skip

section Window

variable {text template : Text} {place skip : Nat}

theorem symbolsBeforeEnd_eq_take (inside : place + template.length ≤ text.length + 2)
    (present : template ≠ []) :
    symbolsBeforeEnd text template place = template.take (text.length + 1 - place) := by
  have size := List.length_pos_iff.mpr present
  unfold symbolsBeforeEnd
  split
  · rename_i atEnd
    rw [List.dropLast_eq_take]
    congr 1
    omega
  · rename_i before
    exact (List.take_of_length_le (by omega)).symm

/-- The characters that a window shows are of the kinds that its template asks for. -/
theorem kinds_drop_take (lies : LiesLast (writtenLine text) template place)
    (present : template ≠ []) (skips : 0 < skip) :
    ((text.take (place + template.length - 1)).drop (place + skip - 1)).map kindLetter =
      (symbolsBeforeEnd text template place).drop skip := by
  have size := List.length_pos_iff.mpr present
  have inside := lies.end_le present
  rw [length_writtenLine] at inside
  have under : template = ((writtenLine text).drop place).take template.length :=
    List.prefix_iff_eq_take.mp lies.starts
  have stop : place + template.length = place + template.length - 1 + 1 := by omega
  have start : place + skip = place + skip - 1 + 1 := by omega
  calc
    ((text.take (place + template.length - 1)).drop (place + skip - 1)).map kindLetter =
        ((Symbol.undefined.code :: text.map kindLetter).take (place + template.length)).drop
          (place + skip) := by
      rw [List.map_drop, List.map_take, stop, start, List.take_succ_cons, List.drop_succ_cons]
      rfl
    _ = (((writtenLine text).take (text.length + 1)).take (place + template.length)).drop
          (place + skip) := by
      rw [take_writtenLine]
    _ = ((((writtenLine text).drop place).take template.length).take
          (text.length + 1 - place)).drop skip := by
      have common : min (place + template.length) (text.length + 1) - place =
          min (text.length + 1 - place) template.length := by omega
      rw [← List.drop_drop, List.take_take, List.drop_take, common, List.take_take]
    _ = (symbolsBeforeEnd text template place).drop skip := by
      rw [symbolsBeforeEnd_eq_take inside present, ← under]

theorem liesUnder_windowText (lies : LiesLast (writtenLine text) template place)
    (present : template ≠ []) (skips : 0 < skip) :
    LiesUnder text template place skip
      (windowText text (some (place : Int)) template.length (skip : Int)) := by
  rw [windowText_eq_drop_take text place template.length skips]
  refine ⟨?_, kinds_drop_take lies present skips⟩
  rw [List.drop_take, List.length_take, ← List.take_eq_take_min]

end Window

/-- The text under a template where it is located, without its first symbols. -/
def windowUnder (text template : Text) (skip : Int) : Text :=
  windowText text ((locate (writtenLine text) template).map Int.ofNat) template.length skip

/-- A template is located exactly if it is not empty and occurs on the marked line of a text, and
then at its rightmost place.  A window that leaves out at least one symbol is the piece of the text
under the remaining ones, whose characters are of their kinds one by one; only a symbol on the border
behind the text has no character.  Where no template is located the window is empty. -/
theorem window_of_located (text template : Text) {skip : Int} (skips : 1 ≤ skip) :
    ((locate (writtenLine text) template).isSome = true ↔
        template ≠ [] ∧ template <:+: writtenLine text) ∧
      match locate (writtenLine text) template with
      | some place =>
          LiesLast (writtenLine text) template place ∧
            LiesUnder text template place skip.toNat (windowUnder text template skip)
      | none => windowUnder text template skip = [] := by
  refine ⟨isSome_locate_iff, ?_⟩
  unfold windowUnder
  cases found : locate (writtenLine text) template with
  | none => rfl
  | some place =>
      rcases locate_eq_some_iff.mp found with ⟨present, lies⟩
      have counted : skip = (skip.toNat : Int) := by omega
      have skipsOne : 0 < skip.toNat := by omega
      have under := liesUnder_windowText lies present skipsOne
      rw [← counted] at under
      exact ⟨lies, under⟩

/-- The letters before the end of a text, behind a blank: the template lies on the border as well. -/
theorem window_of_located_at_border :
    locate (writtenLine (Text.ofString "5 ON")) (Text.ofString "baau") = some 2 ∧
      LiesUnder (Text.ofString "5 ON") (Text.ofString "baau") 2 1 (Text.ofString "ON") := by
  have located := window_of_located (Text.ofString "5 ON") (Text.ofString "baau") (Int.le_refl 1)
  exact ⟨rfl, located.2.2⟩

end ContestExchange
