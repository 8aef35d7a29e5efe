import ContestExchange.Capture.Request
import ContestExchange.Console.Screen
import ContestExchange.Number.Decimal

namespace ContestExchange

/-!
# The display

On a screen the contest and the own call stand in the top row, with the clock at its right end.
Below them are the call, the exchange and the fields of the exchange, each field in a row of its own
from its first showing on.  Messages have a row, and so has the bar with the speed and the report.
The cursor stays in the exchange.

The clock is written as `HH:MM:SS`; whatever draws the screen fills the digits in.
-/

/-- A display on a screen. -/
structure Display where
  screen : Screen
  contest : Text
  myCall : Text
  fields : List Text := []
  wpm : Int := 0
  report : Text := []
  column : Int := 8

namespace Display

/-- The row of the call. -/
def callRow : Nat := 2
/-- The row of the exchange. -/
def exchangeRow : Nat := 3
/-- The row of the first field. -/
def fieldRow : Nat := 5
/-- The row of messages. -/
def messageRow : Nat := 10
/-- The row of the bar. -/
def barRow : Nat := 11
/-- The width of what stands before the call and the exchange. -/
def labelWidth : Nat := 8

/-- The clock. -/
def clock : Text := Text.ofString "HH:MM:SS"

/-- Writes a text. -/
def put (display : Display) (row column : Nat) (text : Text) (style : Style) : Display :=
  { display with screen := display.screen.write row column text style }

/-- Brings the cursor back into the exchange. -/
def restoreCursor (display : Display) : Display :=
  { display with screen := display.screen.move exchangeRow display.column }

/-- Writes a text into a row of its own; the last cell of the row stays as it is. -/
def putLine (display : Display) (row : Nat) (text : Text) (style : Style) : Display :=
  ((display.put row 0 (Text.blanks (display.screen.width - 1)) .plain).put row 0 text style)
    |>.restoreCursor

/-- Shows the clock. -/
def tick (display : Display) : Display :=
  (display.put 0 (display.screen.width - (clock.length + 1)) clock .reverse).restoreCursor

/-- Draws everything that is always there. -/
def drawFrame (display : Display) : Display :=
  let title := display.contest ++ Text.ofString "  de " ++ display.myCall
  let erased := { display with screen := display.screen.erase }
  (((erased.put 0 0 title .reverse).put callRow 0 (Text.ofString "Call:") .plain).put
    exchangeRow 0 (Text.ofString "Exch:") .plain).tick

/-- Shows a field in its row. -/
def showField (display : Display) (name text : Text) : Display :=
  let fields := if display.fields.contains name then display.fields else display.fields ++ [name]
  let line := Text.alignRight (labelWidth - 2) name ++ Text.ofString ": " ++ text
  { display with fields := fields }.putLine (fieldRow + fields.idxOf name) line .plain

/-- Shows a message, with a beep. -/
def showMessage (display : Display) (message : Text) : Display :=
  let shown := display.putLine messageRow message .bold
  { shown with screen := shown.screen.signal .beep }

/-- Shows the exchange and its cursor. -/
def showExchange (display : Display) (text : Text) (cursor : Int) : Display :=
  let line := Text.alignLeft labelWidth (Text.ofString "Exch:") ++ text
  { display.putLine exchangeRow line .plain with column := labelWidth + cursor }.restoreCursor

/-- Shows the call. -/
def showCall (display : Display) (call : Text) : Display :=
  display.putLine callRow (Text.alignLeft labelWidth (Text.ofString "Call:") ++ call) .plain

/-- The text of the bar. -/
def barText (display : Display) : Text :=
  let speed :=
    if display.wpm = 0 then []
    else [Text.alignRight 2 (Decimal.intText display.wpm) ++ Text.ofString " WPM"]
  let report :=
    if display.report.isEmpty then [] else [Text.ofString "RST " ++ display.report]
  Text.joined [' ', ' '] (speed ++ report)

/-- Shows the bar. -/
def showBar (display : Display) : Display := display.putLine barRow display.barText .plain

/-- Shows the speed. -/
def showSpeed (display : Display) (wpm : Int) : Display := { display with wpm := wpm }.showBar

/-- Shows the report. -/
def showReport (display : Display) (report : Text) : Display :=
  { display with report := report }.showBar

/-- Shows a notice. -/
def present (display : Display) : Notice → Display
  | .field name text => display.showField name text
  | .message text => display.showMessage text
  | .exchange text cursor => display.showExchange text cursor
  | .call call => display.showCall call
  | .speed wpm => display.showSpeed wpm
  | .report text => display.showReport text

/-! ## Waiting -/

/-- Makes ready to wait for a key, some milliseconds at most and never a negative time. -/
def await (display : Display) (milliseconds : Int) : Display :=
  { display with screen := { display.screen with wait := some milliseconds.toNat } }

end Display
end ContestExchange
