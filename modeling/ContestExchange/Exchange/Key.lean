import ContestExchange.Text.Basic

namespace ContestExchange

/-!
# Key codes

A key is the integer code that a terminal delivers for it, so keys without a name here are keys as
well.  Codes up to 255 are characters; with the Alt key held down a digit arrives with its top bit
set.  Small letters are promoted to capitals before anything else is done with them, and of all
keys only those from blank to `Z` type into an exchange.
-/

/-- The code of a key. -/
abbrev Key := Int

namespace Key

/-- Control-A. -/
def ctrlA : Key := 1
/-- Control-E. -/
def ctrlE : Key := 5
/-- Tabulator. -/
def tab : Key := 9
/-- Enter of the main block. -/
def lineFeed : Key := 10
/-- Control-K. -/
def ctrlK : Key := 11
/-- Control-Q. -/
def ctrlQ : Key := 17
/-- Control-S. -/
def ctrlS : Key := 19
/-- Escape. -/
def escape : Key := 27
/-- The plus sign. -/
def plus : Key := 43
/-- The comma. -/
def comma : Key := 44
/-- The backslash. -/
def backslash : Key := 92
/-- Alt with the digit zero. -/
def altZero : Key := 176
/-- Alt with the digit nine. -/
def altNine : Key := 185
/-- Cursor left. -/
def left : Key := 260
/-- Cursor right. -/
def right : Key := 261
/-- Home. -/
def home : Key := 262
/-- Backspace. -/
def backspace : Key := 263
/-- Delete. -/
def delete : Key := 330
/-- Insert. -/
def insert : Key := 331
/-- Page down. -/
def pageDown : Key := 338
/-- Page up. -/
def pageUp : Key := 339
/-- Enter of the keypad. -/
def enter : Key := 343
/-- End. -/
def endKey : Key := 360

/-- A function key by its number. -/
def function (number : Int) : Key := 264 + number

/-- The key of a character. -/
def ofChar (character : Char) : Key := character.toNat

/-- The character of a key that types one. -/
def toChar (key : Key) : Char := Char.ofNat key.toNat

/-- Small letters become capitals, every other key stays itself. -/
def promote (key : Key) : Key := if 97 ≤ key ∧ key ≤ 122 then key - 32 else key

/-- Whether a key types into an exchange: blank to `Z`. -/
def isTyped (key : Key) : Bool := 32 ≤ key && key ≤ 90

/-- Whether a key is one of the two Enter keys. -/
def isEnter (key : Key) : Bool := key == lineFeed || key == enter

/-- Whether a key asks for a final answer: Enter or backslash. -/
def isFinalizing (key : Key) : Bool := isEnter key || key == backslash

/-- Whether a key completes an exchange: Enter, backslash or the tabulator. -/
def isCompleting (key : Key) : Bool := isFinalizing key || key == tab

end Key
end ContestExchange
