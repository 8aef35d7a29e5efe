import ContestExchange.Morse.Code
import ContestExchange.Number.Quantity
import ContestExchange.Sequence

namespace ContestExchange
namespace Message

/-!
# Prepared messages

A prepared message is a text with three signs to fill in: `%` stands for the own call, `@` for the
call of the station being worked and `#` for the outgoing serial number.

How long a message takes is counted in dots.  Every mark counts with the gap behind it, every
character with the gap to the next one, and a blank adds to that.  At one word per minute a dot
takes 1.2 seconds.
-/

/-! ## Filling in -/

/-- The outgoing serial number with at least three digits; nothing before the first one. -/
def serialText (serial : Int) : Text :=
  if 0 < serial then Text.zeroFill 3 (Decimal.intText serial) else []

/-- What a character of a prepared message is sent as. -/
def filled (myCall hisCall : Text) (serial : Int) (character : Char) : Text :=
  if character = '%' then myCall
  else if character = '@' then hisCall
  else if character = '#' then serialText serial
  else [character]

/-- Fills a prepared message in. -/
def fill (message myCall hisCall : Text) (serial : Int) : Text :=
  message.flatMap (filled myCall hisCall serial)

/-- The message of a slot; there is nothing beyond the slots. -/
def slot (messages : List Text) (place : Int) : Text :=
  if place < 0 then [] else (messages[place.toNat]?).getD []

/-! ## Length -/

/-- The length of a character with the gap behind it: a blank takes three dots, and what has no
code takes no time. -/
def charDots (character : Char) : Nat :=
  if character = ' ' then 3
  else
    match Code.ofEitherCase? character with
    | some code => Sequence.total (fun mark => mark.dots + 1) code + 3
    | none => 0

/-- The length of a text. -/
def textDots (text : Text) : Nat := Sequence.total charDots text

/-- The length of a message in which only the own call is to be filled in. -/
def dots (message myCall : Text) : Nat :=
  Sequence.total
    (fun character => if character = '%' then textDots myCall else charDots character) message

/-- The seconds that a dot takes at one word per minute. -/
def dotSeconds : Double := .ofRatio false 12 10

/-- The seconds that a number of dots takes at a rate in words per minute. -/
def secondsOfDots (dots : Nat) (rate : Double) : Double :=
  ((Double.ofInt dots).mul dotSeconds).div rate

/-- A rate below one word per minute is taken as one. -/
def rate (wpm : Quantity) : Except Fault Double := wpm.atLeastOne.toDouble

/-- The seconds that a message takes. -/
def seconds (message : Text) (wpm : Quantity) (myCall : Text) : Except Fault Double :=
  (rate wpm).map (secondsOfDots (dots message myCall))

end Message
end ContestExchange
