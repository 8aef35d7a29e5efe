import ContestExchange.Text.Basic

namespace ContestExchange
namespace Text

/-!
# Bytes to text

A file is read as UTF-8.  A document has to be well formed throughout; of a list file the bytes that
belong to no well-formed sequence are left out.
Leaving out one byte and looking again at the next is enough: behind a bad lead byte the bytes that
would have continued it start no sequence of their own, so they are left out as well.
-/

/-- Whether a byte continues a sequence of several bytes. -/
def isContinuation (byte : UInt8) : Bool := 0x80 ≤ byte.toNat && byte.toNat ≤ 0xBF

/-- The six payload bits of a continuation byte. -/
def continuationBits (byte : UInt8) : Nat := byte.toNat - 0x80

/-- The character that starts the bytes, with the number of bytes it takes. -/
def firstScalar? : List UInt8 → Option (Char × Nat)
  | [] => none
  | lead :: rest =>
      let code := lead.toNat
      if code < 0x80 then
        some (Char.ofNat code, 1)
      else
        match rest with
        | [] => none
        | second :: rest =>
            if !isContinuation second then none
            else if 0xC2 ≤ code && code ≤ 0xDF then
              some (Char.ofNat ((code - 0xC0) * 0x40 + continuationBits second), 2)
            else
              match rest with
              | [] => none
              | third :: rest =>
                  if !isContinuation third then none
                  else if 0xE0 ≤ code && code ≤ 0xEF then
                    let scalar := (code - 0xE0) * 0x1000 + continuationBits second * 0x40 +
                      continuationBits third
                    if 0x800 ≤ scalar && !(0xD800 ≤ scalar && scalar ≤ 0xDFFF) then
                      some (Char.ofNat scalar, 3)
                    else none
                  else
                    match rest with
                    | [] => none
                    | fourth :: _ =>
                        if !isContinuation fourth then none
                        else if 0xF0 ≤ code && code ≤ 0xF4 then
                          let scalar := (code - 0xF0) * 0x40000 + continuationBits second * 0x1000 +
                            continuationBits third * 0x40 + continuationBits fourth
                          if 0x10000 ≤ scalar && scalar ≤ 0x10FFFF then
                            some (Char.ofNat scalar, 4)
                          else none
                        else none

/-- The well-formed characters among the bytes, in order. -/
def ofBytes (bytes : List UInt8) : Text :=
  match bytes with
  | [] => []
  | _ :: rest =>
      match firstScalar? bytes with
      | some (character, size) => character :: ofBytes (rest.drop (size - 1))
      | none => ofBytes rest
termination_by bytes.length
decreasing_by all_goals simp only [List.length_cons, List.length_drop]; omega

/-- The text that the bytes spell, if they are well formed throughout. -/
def ofBytes? (bytes : List UInt8) : Option Text :=
  match bytes with
  | [] => some []
  | _ :: rest =>
      match firstScalar? bytes with
      | some (character, size) => (ofBytes? (rest.drop (size - 1))).map (character :: ·)
      | none => none
termination_by bytes.length
decreasing_by simp only [List.length_cons, List.length_drop]; omega

end Text
end ContestExchange
