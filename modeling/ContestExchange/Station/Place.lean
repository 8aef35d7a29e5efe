import ContestExchange.Station.Path

namespace ContestExchange

/-!
# Places

A path tells how to get somewhere, a place is where one gets to: different paths can lead to the
same place.  A place is the row of names that lead to it, either from the root or from the folder
that the program works in.  Two points lead up again, and above the folder that the program works in
a place starts with as many of them as there are folders in between.

Some folders are there whatever files there are: where paths start, all the way up from there, and
the usual ones at the root.
-/

/-- A place for a file or a folder. -/
structure Place where
  isRooted : Bool
  names : List Text
deriving DecidableEq

namespace Place

/-- The name that leads nowhere else. -/
def here : Text := ['.']

/-- The name that leads one folder up. -/
def upward : Text := ['.', '.']

/-- The place that a path starts from. -/
def startOf (path : Text) : Place := ⟨!(Path.root path).isEmpty, []⟩

/-- Whether a place is where paths start, or on the way up from there. -/
def isStart (place : Place) : Bool := place.names.all (· == upward)

/-- The usual folders at the root. -/
def rootFolders : List Text :=
  ["bin", "boot", "dev", "etc", "home", "lib", "media", "mnt", "opt", "proc", "root", "run", "sbin",
   "srv", "sys", "tmp", "usr", "var"].map Text.ofString

/-- Whether there is a folder whatever files there are. -/
def isGiven (place : Place) : Bool :=
  place.isStart || place.isRooted && rootFolders.any fun name => place.names == [name]

/-- The place that a name leads to.  There is nothing above the root. -/
def go (place : Place) (name : Text) : Place :=
  if name = here then place
  else if name ≠ upward then { place with names := place.names ++ [name] }
  else if !place.isStart then { place with names := place.names.dropLast }
  else if place.isRooted then place
  else { place with names := place.names ++ [upward] }

/-- The place that a path leads to, if every name on its way is one of a folder. -/
def ofPath (path : Text) : Place := (Path.names path).foldl go (startOf path)

/-- The shortest path to a place. -/
def path (place : Place) : Text := Path.ofNames (if place.isRooted then ['/'] else []) place.names

/-- Whether a place leads, as a folder, to another one below it. -/
def holds (folder place : Place) : Bool :=
  place.isRooted == folder.isRooted && folder.names.isPrefixOf place.names && place != folder

end Place
end ContestExchange
