import ContestExchange.Text.Digit

namespace ContestExchange

/-!
# Symbols of an exchange

A template describes a part of an exchange by the kinds of its characters.  There are four kinds:
letters `A` to `Z`, figures `0` to `9`, the blank, and everything else.  The marked line of a text
has an undefined symbol at both ends, so that a template can ask for the border of the text.
-/

/-- The kind of a character in an exchange. -/
inductive Symbol where
  | undefined
  | blank
  | letter
  | figure
deriving DecidableEq, Repr

namespace Symbol

/-- The kind of a character. -/
def ofChar (character : Char) : Symbol :=
  if Text.isFigure character then .figure
  else if Text.isCapital character then .letter
  else if character = ' ' then .blank
  else .undefined

/-- The letter that stands for a kind in a written template. -/
def code : Symbol → Char
  | .undefined => 'u'
  | .blank => 'b'
  | .letter => 'a'
  | .figure => 'f'

/-- The kind that a letter of a written template stands for. -/
def ofCode? (code : Char) : Option Symbol :=
  if code = 'u' then some .undefined
  else if code = 'b' then some .blank
  else if code = 'a' then some .letter
  else if code = 'f' then some .figure
  else none

theorem ofCode?_code (symbol : Symbol) : ofCode? symbol.code = some symbol := by
  cases symbol <;> rfl

theorem code_of_ofCode? {code : Char} {symbol : Symbol} (found : ofCode? code = some symbol) :
    symbol.code = code := by
  unfold ofCode? at found
  repeat' split at found
  all_goals simp_all [Symbol.code]
  all_goals subst found
  all_goals rfl

end Symbol

/-- The marked line of a text: the kinds of its characters between two borders. -/
def classify (text : Text) : List Symbol :=
  .undefined :: (text.map Symbol.ofChar ++ [.undefined])

theorem length_classify (text : Text) : (classify text).length = text.length + 2 := by
  simp [classify]

end ContestExchange
