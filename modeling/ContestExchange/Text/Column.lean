import ContestExchange.Text.Basic

namespace ContestExchange
namespace Text

/-!
# Columns

Fields of a fixed width are filled up on one side.  Filling never shortens a text that is already
wider than its column.
-/

/-- `count` blanks. -/
def blanks (count : Nat) : Text := List.replicate count ' '

/-- The text at the right end of a column of blanks. -/
def alignRight (width : Nat) (text : Text) : Text := blanks (width - text.length) ++ text

/-- The text at the left end of a column of blanks. -/
def alignLeft (width : Nat) (text : Text) : Text := text ++ blanks (width - text.length)

/-- The text at the right end of a column of zeros. -/
def zeroFill (width : Nat) (text : Text) : Text :=
  List.replicate (width - text.length) '0' ++ text

theorem length_alignRight (width : Nat) (text : Text) :
    (alignRight width text).length = max width text.length := by
  simp only [alignRight, blanks, List.length_append, List.length_replicate]
  omega

theorem length_zeroFill (width : Nat) (text : Text) :
    (zeroFill width text).length = max width text.length := by
  simp only [zeroFill, List.length_append, List.length_replicate]
  omega

end Text
end ContestExchange
