import ContestExchange.Fault
import ContestExchange.Sequence

namespace ContestExchange

/-!
# The received report

The report given to a station rates readability and strength, and for Morse also the tone.  It is
stepped along a row of reports.
-/

/-- A report on a row of reports. -/
structure Report where
  row : List Text
  place : Int
  tone : Bool

namespace Report

/-- The reports from `33` to `59`. -/
def standardRow : List Text :=
  ['3', '4', '5'].flatMap fun readability =>
    ['3', '4', '5', '6', '7', '8', '9'].map fun strength => [readability, strength]

/-- A report on a row; a negative place stands for the last one. -/
def onRow (row : List Text) (place : Int) (tone : Bool) : Report :=
  ⟨row, if place < 0 then (row.length : Int) - 1 else place, tone⟩

/-- The best report. -/
def best : Report := onRow standardRow (-1) true

/-- The text of a report, if the row reaches as far as its place. -/
def text? (report : Report) : Option Text :=
  (Sequence.get? report.row report.place).map fun rating =>
    if report.tone then rating ++ ['9'] else rating

/-- The text of a report, for which its place has to lie on the row. -/
def text (report : Report) : Except Fault Text :=
  match report.text? with
  | some text => .ok text
  | none => .error .outOfRange

/-- The next better report, if there is one. -/
def raise (report : Report) : Report :=
  if report.place < (report.row.length : Int) - 1 then
    { report with place := report.place + 1 }
  else report

/-- The next worse report, if there is one. -/
def lower (report : Report) : Report :=
  if 0 < report.place then { report with place := report.place - 1 } else report

end Report
end ContestExchange
