import ContestExchange.Number.Decimal

namespace ContestExchange

/-!
# Dates and times

A document can give a date, alone or with the time of a day to a millionth of a second.  A time may
be that of a zone, which is some minutes ahead of universal time or behind it.

A moment by itself is written with its parts in the usual order.  Inside of other values it is written
as what it is made of, where seconds and their fraction are left out if they are zero.  A zone that is
behind universal time is then a day behind and the rest of the day ahead.
-/

/-- A time of a day, with the minutes that its zone is ahead of universal time if it has one. -/
structure Clock where
  hour : Nat
  minute : Nat
  second : Nat
  micro : Nat
  zone : Option Int
deriving DecidableEq

/-- A date, alone or with a time. -/
structure Moment where
  year : Nat
  month : Nat
  day : Nat
  clock : Option Clock
deriving DecidableEq

/-- A number with two digits at least. -/
def twoDigits (number : Nat) : Text := Text.zeroFill 2 (Decimal.natText number)

namespace Clock

/-- The way from universal time to a zone. -/
def zoneText (minutes : Int) : Text :=
  (if minutes < 0 then '-' else '+') :: twoDigits (minutes.natAbs / 60) ++
    ':' :: twoDigits (minutes.natAbs % 60)

/-- A time as it is written by itself. -/
def text (clock : Clock) : Text :=
  twoDigits clock.hour ++ ':' :: twoDigits clock.minute ++ ':' :: twoDigits clock.second ++
    (if clock.micro = 0 then [] else '.' :: Text.zeroFill 6 (Decimal.natText clock.micro)) ++
    (clock.zone.map zoneText).getD []

/-- What a zone is made of. -/
def zoneParts (minutes : Int) : Text :=
  if minutes = 0 then Text.ofString "datetime.timezone.utc"
  else
    let days := if minutes < 0 then Text.ofString "days=-1, " else []
    Text.ofString "datetime.timezone(datetime.timedelta(" ++ days ++ Text.ofString "seconds=" ++
      Decimal.intText (60 * (minutes % 1440)) ++ Text.ofString "))"

/-- The numbers of a time, without those at its end that are zero and need not be told. -/
def numbers (clock : Clock) : List Nat :=
  [clock.hour, clock.minute] ++
    (if clock.second = 0 ∧ clock.micro = 0 then [] else [clock.second]) ++
    if clock.micro = 0 then [] else [clock.micro]

end Clock

namespace Moment

/-- A date as it is written by itself. -/
def dateText (moment : Moment) : Text :=
  Text.zeroFill 4 (Decimal.natText moment.year) ++ '-' :: twoDigits moment.month ++
    '-' :: twoDigits moment.day

/-- A moment as it is written by itself. -/
def text (moment : Moment) : Text :=
  match moment.clock with
  | none => moment.dateText
  | some clock => moment.dateText ++ ' ' :: clock.text

/-- A moment as it is written inside of other values. -/
def nestedText (moment : Moment) : Text :=
  let date := [moment.year, moment.month, moment.day]
  let listed (numbers : List Nat) : Text := Text.joined [',', ' '] (numbers.map Decimal.natText)
  match moment.clock with
  | none => Text.ofString "datetime.date(" ++ listed date ++ [')']
  | some clock =>
      let zone := (clock.zone.map fun minutes =>
        Text.ofString ", tzinfo=" ++ Clock.zoneParts minutes).getD []
      Text.ofString "datetime.datetime(" ++ listed (date ++ clock.numbers) ++ zone ++ [')']

end Moment
end ContestExchange
