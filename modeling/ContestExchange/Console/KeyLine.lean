import ContestExchange.Exchange.Key
import ContestExchange.Text.Capital

namespace ContestExchange
namespace KeyLine

/-!
# Keys written in a line

In a line of typed input every character stands for its own key.  Keys without a character are
written by name between `<` and `>`, in capitals or small letters; any other text after `<` is taken
as it stands.  A line that does not end with a completing key is completed with Enter.
-/

/-- The keys that have a name. -/
def namedKeys : List (Text × Key) :=
  [(Text.ofString "TAB", .tab), (Text.ofString "ENTER", .lineFeed),
   (Text.ofString "ESC", .escape), (Text.ofString "BS", .backspace),
   (Text.ofString "DEL", .delete), (Text.ofString "LEFT", .left),
   (Text.ofString "RIGHT", .right), (Text.ofString "HOME", .home),
   (Text.ofString "END", .endKey), (Text.ofString "INS", .insert),
   (Text.ofString "PGUP", .pageUp), (Text.ofString "PGDN", .pageDown),
   (Text.ofString "SPOT", .ctrlA)]

/-- The key of a name in either case. -/
def named? (name : Text) : Option Key :=
  (namedKeys.find? fun entry => entry.1 == Text.upper name).map (·.2)

/-- The key whose name stands before the first `>`, and the text behind that. -/
def tagged? (text : Text) : Option (Key × Text) :=
  match text.dropWhile (· != '>') with
  | [] => none
  | _ :: behind => (named? (Text.before '>' text)).map fun key => (key, behind)

theorem length_of_tagged? {text : Text} {key : Key} {behind : Text}
    (found : tagged? text = some (key, behind)) : behind.length < text.length := by
  unfold tagged? at found
  have bound : (text.dropWhile (· != '>')).length ≤ text.length :=
    (List.dropWhile_suffix _).length_le
  split at found
  · simp at found
  · rename_i mark rest dropped
    rw [dropped] at bound
    simp only [Option.map_eq_some_iff, Prod.mk.injEq] at found
    obtain ⟨_, _, _, same⟩ := found
    subst same
    simp only [List.length_cons] at bound
    omega

/-- The keys that a text spells. -/
def spelled : Text → List Key
  | [] => []
  | character :: rest =>
      if character = '<' then
        match _ : tagged? rest with
        | some (key, behind) => key :: spelled behind
        | none => .ofChar character :: spelled rest
      else .ofChar character :: spelled rest
termination_by text => text.length
decreasing_by
  · rename_i found
    have shorter := length_of_tagged? found
    simp only [List.length_cons]
    omega
  · simp
  · simp

/-- The keys of a line, completed with Enter if its last key does not complete. -/
def keysOf (line : Text) : List Key :=
  let keys := spelled line
  match keys.getLast? with
  | some key => if key.isCompleting then keys else keys ++ [.lineFeed]
  | none => [.lineFeed]

end KeyLine
end ContestExchange
