import ContestExchange.Number.Quantity

namespace ContestExchange

/-!
# Keying speed

The keyer has a fixed row of speeds, in words per minute, and the paging keys step through it.  A
speed asked for by number is the first one of the row that is not below it, or the top speed.
-/

/-- A speed of the keyer, by its place in the row. -/
structure Speed where
  place : Fin 21
deriving DecidableEq

namespace Speed

/-- The row of speeds. -/
def row : List Nat :=
  [6, 12, 14, 16, 18, 20, 22, 24, 26, 28, 30, 32, 34, 36, 38, 40, 42, 44, 46, 48, 50]

/-- The place of the first speed that is not below the one asked for, else the last place. -/
def placeOf (wpm : Quantity) : Fin 21 :=
  match row.findFinIdx? fun speed : Nat => wpm.isAtMost speed with
  | some place => place
  | none => 20

/-- The speed asked for by its words per minute. -/
def ofWpm (wpm : Quantity) : Speed := ⟨placeOf wpm⟩

/-- The speed that is set before anything is asked for. -/
def standard : Speed := ⟨10⟩

/-- The words per minute of a speed. -/
def wpm (speed : Speed) : Nat := row[speed.place]

/-- The next higher speed, if there is one. -/
def raise (speed : Speed) : Speed :=
  if higher : speed.place.val + 1 < 21 then ⟨⟨speed.place.val + 1, higher⟩⟩ else speed

/-- The next lower speed, if there is one. -/
def lower (speed : Speed) : Speed :=
  ⟨⟨speed.place.val - 1, by have bound := speed.place.isLt; omega⟩⟩

end Speed
end ContestExchange
