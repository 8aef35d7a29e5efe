import ContestExchange.Exchange.Buffer
import ContestExchange.Exchange.Key

namespace ContestExchange

/-!
# Editing in place

Behind the last character an exchange is only appended to.  To change it further left it is edited
with a cursor: characters are inserted before the cursor and deleted at it, until a key ends the
editing.  The line may change while it is being edited, so a cursor beyond its end is brought back.
-/

/-- A line that is being edited. -/
structure Editor where
  buffer : Buffer
  cursor : Nat
  changed : Bool

namespace Editor

/-- Starts editing at a position clamped to the line, or on its last character. -/
def start (buffer : Buffer) (position : Option Int) : Editor :=
  let wanted : Int := position.getD ((buffer.length : Int) - 1)
  ⟨buffer, min wanted.toNat buffer.length, false⟩

/-- Deletes the character at the cursor, if there is one. -/
def deleteHere (editor : Editor) : Editor :=
  let (deleted, buffer) := editor.buffer.delete editor.cursor
  { editor with buffer := buffer, changed := editor.changed || deleted }

/-- Brings a cursor beyond the end back to it; that ends the editing. -/
def settle (editor : Editor) : Bool × Editor :=
  if editor.buffer.length < editor.cursor then
    (false, { editor with cursor := editor.buffer.length })
  else
    (true, editor)

/-- Inserts the character of a typed key before the cursor, if there is room for it. -/
def type (editor : Editor) (key : Key) : Editor :=
  let (inserted, buffer) := editor.buffer.insert editor.cursor [key.toChar]
  if inserted then
    { buffer := buffer, cursor := editor.cursor + 1, changed := true }
  else
    editor

/-- Handles one key; the answer tells whether the editing goes on.  Key code zero stands for no key
and leaves everything as it is. -/
def handle (editor : Editor) (key : Key) : Bool × Editor :=
  if key = .ctrlA ∨ key = .home then
    (true, { editor with cursor := 0 })
  else if key = .ctrlE ∨ key = .endKey then
    (false, { editor with cursor := editor.buffer.length })
  else if key = .left then
    (true, { editor with cursor := editor.cursor - 1 })
  else if key = .right then
    if editor.cursor + 1 < editor.buffer.length then
      (true, { editor with cursor := editor.cursor + 1 })
    else
      (false, editor)
  else if key = .delete then
    editor.deleteHere.settle
  else if key = .backspace then
    if editor.cursor = 0 then editor.settle
    else { editor with cursor := editor.cursor - 1 }.deleteHere.settle
  else if key = .escape then
    (false, editor)
  else if key.promote.isTyped then
    (true, editor.type key.promote)
  else
    (key == 0, editor)

end Editor
end ContestExchange
