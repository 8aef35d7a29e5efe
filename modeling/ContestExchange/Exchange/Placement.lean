import ContestExchange.Exchange.Symbol

namespace ContestExchange

/-!
# Where a template lies on a line

An exchange is corrected by appending to it, so of several places where a template fits the
rightmost one counts.  A place on the marked line is one more than the place in the text, because
the line starts with a border; the text under a template is cut to what the text really has.
-/

section Search

variable {Mark : Type} [DecidableEq Mark]

/-- The rightmost place where `pattern` starts on a line, any pattern being accepted. -/
def lastOccurrence? (pattern : List Mark) : List Mark → Option Nat
  | [] => if pattern.isEmpty then some 0 else none
  | mark :: rest =>
      match lastOccurrence? pattern rest with
      | some offset => some (offset + 1)
      | none => if pattern.isPrefixOf (mark :: rest) then some 0 else none

/-- The rightmost place of a template on a line; an empty template has none. -/
def locate (line template : List Mark) : Option Nat :=
  if template.isEmpty then none else lastOccurrence? template line

end Search

/-- The place in the text of a template's symbol, for a template placed at `offset`. -/
def textIndex (offset position : Int) : Int := offset + position - 1

/-- The text under a template of `size` symbols at a place, without the first `skip` symbols. -/
def windowText (text : Text) (place : Option Int) (size : Nat) (skip : Int) : Text :=
  match place with
  | none => []
  | some offset =>
      let start := max (textIndex offset skip) 0
      let stop := min (textIndex offset size) text.length
      if stop ≤ start then [] else (text.take stop.toNat).drop start.toNat

/-- The text under the rightmost occurrence of a template, without its leading delimiter. -/
def textUnder (text : Text) (line template : List Symbol) : Text :=
  windowText text ((locate line template).map Int.ofNat) template.length 1

end ContestExchange
