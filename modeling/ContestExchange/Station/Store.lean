import ContestExchange.Document.Form
import ContestExchange.Station.Place
import ContestExchange.Text.Encoding
import ContestExchange.Text.Line

namespace ContestExchange

/-!
# The station's files

Rules, templates, multipliers and the configuration come from files.  The files are a value here:
reading looks a path up, writing gives the files afterwards.  A file may hold a document or plain
bytes, and it may be unreadable as either; a folder exists by itself or through a file below it.

Not everything that is there can be got at.  A file may be locked and a folder closed, so that nothing
in it can be looked up, and at a place there may be something that the system itself cannot find out
about, such as the end of a link that leads nowhere.  The fault of trying is told with it.  Links that
lead somewhere, and leave to write, are left out: what is not locked can be written, and so can a new
file in any folder that is not closed.  Whether a document can be written in its form is left out too.
-/

/-- What is in a file. -/
inductive FileContent where
  | document (value : Value)
  | bytes (values : List UInt8)
  | malformed
  | undecodable
  | locked

/-- What can be at a place. -/
inductive Stored where
  | file (content : FileContent)
  | folder
  | closed (fault : Fault)
  | lost (fault : Fault)

/-- Files and folders by their places, and the form of the documents in them. -/
structure Store where
  form : DocumentForm
  entries : List (Place × Stored)

namespace Store

/-- A store with nothing in it. -/
def empty (form : DocumentForm) : Store := ⟨form, []⟩

/-! ## Finding -/

/-- What was put at a place itself. -/
def lookup? (store : Store) (place : Place) : Option Stored :=
  (store.entries.find? fun entry => entry.1 == place).map (·.2)

/-- What is at a place. -/
def find? (store : Store) (place : Place) : Option Stored :=
  match store.lookup? place with
  | some stored => some stored
  | none =>
      if place.isGiven || store.entries.any fun entry => place.holds entry.1 then some .folder
      else none

/-- The place that names lead to from a place.  Each of them has to be met in a folder that can be
looked into. -/
def follow (store : Store) (place : Place) : List Text → Except Fault Place
  | [] => .ok place
  | name :: rest =>
      match store.find? place with
      | none => .error .missingFile
      | some (.file _) => .error .notAFolder
      | some (.closed fault) | some (.lost fault) => .error fault
      | some .folder =>
          if Path.nameLimit < Path.size name then .error .nameTooLong
          else store.follow (place.go name) rest

/-- The place that a path leads to. -/
def locate (store : Store) (path : Text) : Except Fault Place :=
  if path.contains '\x00' then .error .unusableName
  else if Path.limit < Path.size (Path.normal path) then .error .nameTooLong
  else store.follow (Place.startOf path) (Path.steps path)

/-- What a path leads to. -/
def look (store : Store) (path : Text) : Except Fault Stored := do
  match store.find? (← store.locate path) with
  | none => .error .missingFile
  | some (.lost fault) => .error fault
  | some stored => .ok stored

/-- Whether a path leads to anything, unless that cannot be found out. -/
def exists? (store : Store) (path : Text) : Except Fault Bool :=
  match store.look path with
  | .ok _ => .ok true
  | .error fault => if fault.isAbsence then .ok false else .error fault

/-! ## Reading -/

/-- What is in the file that a path leads to. -/
def read (store : Store) (path : Text) : Except Fault FileContent := do
  match ← store.look path with
  | .file content => .ok content
  | .folder | .closed _ => .error .folderInstead
  | .lost fault => .error fault

/-- The document in a file. -/
def readDocument (store : Store) (path : Text) : Except Fault Value := do
  match ← store.read path with
  | .document value => .ok value
  | .bytes values =>
      match Text.ofBytes? values with
      | none => .error .undecodable
      | some text => store.form.read text.withLineFeeds
  | .malformed => .error .malformed
  | .undecodable => .error .undecodable
  | .locked => .error .notPermitted

/-- The text of a file, without what is no text in it. -/
def readText (store : Store) (path : Text) : Except Fault Text := do
  match ← store.read path with
  | .document value => .ok (store.form.write value)
  | .bytes values => .ok (Text.ofBytes values)
  | .malformed | .undecodable => .ok []
  | .locked => .error .notPermitted

/-! ## Writing -/

/-- Puts something at a place, instead of what was there. -/
def put (store : Store) (place : Place) (stored : Stored) : Store :=
  ⟨store.form, (store.entries.filter fun entry => entry.1 != place) ++ [(place, stored)]⟩

/-- The store of some files by their paths; of two at the same place the later one counts. -/
def ofFiles (form : DocumentForm) (files : List (Text × Stored)) : Store :=
  files.foldl (fun store file => store.put (.ofPath file.1) file.2) (empty form)

/-- Writes a document into a file, for which there has to be a folder. -/
def writeDocument (store : Store) (path : Text) (content : Value) : Except Fault Store := do
  let place ← store.locate path
  match store.find? place with
  | some .folder | some (.closed _) => .error .folderInstead
  | some (.lost fault) => .error fault
  | some (.file .locked) => .error .notPermitted
  | _ => .ok (store.put place (.file (.document content.asWritten)))

/-- Makes a folder, unless there is one already. -/
def makeFolder (store : Store) (path : Text) : Except Fault Store := do
  let place ← store.locate path
  match store.find? place with
  | some .folder | some (.closed _) => .ok store
  | some (.file _) => .error .fileInstead
  | some (.lost fault) => .error (if fault.isAbsence then .fileInstead else fault)
  | none => .ok (store.put place .folder)

/-- Writes a document into a file of a folder, which is made if need be. -/
def writeBelow (store : Store) (folder path : Text) (content : Value) : Except Fault Store := do
  (← store.makeFolder folder).writeDocument path content

end Store
end ContestExchange
