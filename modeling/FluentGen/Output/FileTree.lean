import FluentGen.Output.IoError
import FluentGen.Path

/-!
# File trees

Directories and files below a common top. A path is followed part by part: everything but its end
must be a directory, dots stay where they are and double dots go up. Whoever follows a path stands
in a directory and remembers the ones around it, so that what is changed there is found again from
the top.
-/

namespace FluentGen

/-- A file, or a directory with what is in it. -/
inductive FileTree where
  | file (content : ByteArray)
  | directory (entries : List (String × FileTree))

namespace FileTree

/-- A tree with nothing below its top. -/
def empty : FileTree :=
  directory []

/-- The longest name in bytes. -/
def nameLimit : Nat :=
  255

/-- The longest path in bytes; what the system needs for the way to the top is not counted. -/
def pathLimit : Nat :=
  4086

/-! ## Standing in a directory -/

/-- A directory with the ones around it, innermost first, each with the name of the way in. -/
structure Spot where
  here : List (String × FileTree)
  around : List (String × List (String × FileTree))

namespace Spot

/-- The entries of a directory with one put under a name, behind the others if the name is new. -/
def replace (name : String) (tree : FileTree) (entries : List (String × FileTree)) :
    List (String × FileTree) :=
  if entries.any fun entry => entry.1 = name then
    entries.map fun entry => if entry.1 = name then (name, tree) else entry
  else entries ++ [(name, tree)]

/-- What has a name in the directory. -/
def get? (spot : Spot) (name : String) : Option FileTree :=
  spot.here.lookup name

/-- Puts something under a name into the directory. -/
def put (spot : Spot) (name : String) (tree : FileTree) : Spot :=
  { spot with here := replace name tree spot.here }

/-- Goes into a directory of which the name and the entries are given. -/
def enter (spot : Spot) (name : String) (entries : List (String × FileTree)) : Spot :=
  ⟨entries, (name, spot.here) :: spot.around⟩

/-- Goes up to the directory around; the top is inside itself. -/
def leave (spot : Spot) : Spot :=
  match spot.around with
  | [] => spot
  | (name, outer) :: around => ⟨replace name (directory spot.here) outer, around⟩

/-- The entries of the top, from a directory with the ones around it. -/
def entriesFrom (here : List (String × FileTree)) :
    List (String × List (String × FileTree)) → List (String × FileTree)
  | [] => here
  | (name, outer) :: around => entriesFrom (replace name (directory here) outer) around

/-- The whole tree. -/
def close (spot : Spot) : FileTree :=
  directory (entriesFrom spot.here spot.around)

/-- Goes on by a part of a path, which has to lead to a directory. -/
def step (spot : Spot) (part : String) : Except IoError Spot :=
  if part = "" ∨ part = "." then .ok spot
  else if part = ".." then .ok spot.leave
  else if nameLimit < part.utf8ByteSize then .error .nameTooLong
  else match spot.get? part with
    | some (.directory entries) => .ok (spot.enter part entries)
    | some (.file _) => .error .notADirectory
    | none => .error .notFound

/--
Goes on by the parts of a path, and makes the directories from the first one on that is missing.
The spot is the one that was reached, even if it is not the end of the path.
-/
def makeWay (missing : Bool) : List String → Spot → Except IoError Unit × Spot
  | [], spot => (.ok (), spot)
  | part :: rest, spot =>
    match spot.step part with
    | .ok spot => spot.makeWay missing rest
    | .error .notFound => (spot.enter part []).makeWay true rest
    | .error .notADirectory =>
      (.error (if missing || rest.isEmpty then .alreadyExists else .notADirectory), spot)
    | .error error => (.error error, spot)

end Spot

/-! ## Reading and writing -/

/-- The top of a tree. -/
def top : FileTree → Spot
  | file _ => ⟨[], []⟩
  | directory entries => ⟨entries, []⟩

/-- The parts of a path between slashes. -/
def partsOf (path : String) : Except IoError (List String) :=
  if path.toList.contains '\x00' then .error .nullInPath
  else if pathLimit < path.utf8ByteSize then .error .nameTooLong
  else .ok ((Path.slashParts path.toList).map String.ofList)

/-- Whether a part of a path names something in the directory before it. -/
def isName (part : String) : Bool :=
  part ≠ "" && part ≠ "." && part ≠ ".."

/-- The content of the file at the end of a path. -/
def read (tree : FileTree) (path : String) : Except IoError ByteArray := do
  let parts ← partsOf path
  let spot ← parts.dropLast.foldlM Spot.step tree.top
  let last := parts.getLast?.getD ""
  if !isName last then throw .isADirectory
  else if nameLimit < last.utf8ByteSize then throw .nameTooLong
  else match spot.get? last with
    | some (.file content) => pure content
    | some (.directory _) => throw .isADirectory
    | none => throw .notFound

/-- The text of the file at the end of a path. -/
def readText (tree : FileTree) (path : String) : Except IoError String := do
  match String.fromUTF8? (← tree.read path) with
  | some text => pure text
  | none => throw .notText

/-- Writes the file at the end of a path; the directory around it must be there. -/
def writeAt (tree : FileTree) (path : String) (content : ByteArray) :
    Except IoError FileTree := do
  let written ← partsOf path
  let parts := (written.reverse.dropWhile (· = "")).reverse
  let spot ← parts.dropLast.foldlM Spot.step tree.top
  let last := parts.getLast?.getD ""
  if nameLimit < last.utf8ByteSize then throw .nameTooLong
  else if !isName last || parts.length < written.length then throw .isADirectory
  else match spot.get? last with
    | some (.directory _) => throw .isADirectory
    | _ => pure (spot.put last (.file content)).close

/--
Makes the directory at the end of a path and all directories around it that are not there yet. The
tree is what it has become, even if the directory cannot be made.
-/
def makeDirectories (path : String) (tree : FileTree) : Except IoError Unit × FileTree :=
  match partsOf path with
  | .error error => (.error error, tree)
  | .ok parts =>
    let (result, spot) := tree.top.makeWay false parts
    (result, spot.close)

/-- Writes the file at the end of a path and makes the directories around it. -/
def write (path : String) (content : ByteArray) (tree : FileTree) :
    Except IoError Unit × FileTree :=
  match tree.makeDirectories (Path.parent path) with
  | (.ok (), made) =>
    match made.writeAt path content with
    | .ok written => (.ok (), written)
    | .error error => (.error error, made)
  | failed => failed

/-! ## Listing -/

/-- A place in a file tree: the names on the way to it from the top. -/
abbrev Place :=
  List String

mutual

/-- All files of a tree with their places. -/
def files : FileTree → List (Place × ByteArray)
  | file content => [([], content)]
  | directory entries => filesIn entries

/-- All files of the entries of a directory, with their places. -/
def filesIn : List (String × FileTree) → List (Place × ByteArray)
  | [] => []
  | (name, tree) :: rest =>
    (files tree).map (fun file => (name :: file.1, file.2)) ++ filesIn rest

end

/-- Whether one place comes before another, or is the same, in the order of names. -/
def inOrder : Place → Place → Bool
  | [], _ => true
  | _ :: _, [] => false
  | name :: rest, other :: others =>
    if name = other then inOrder rest others else name < other

/-- The paths of all files below a directory, in the order of names. -/
def filesBelow (tree : FileTree) (place : Place) : List String :=
  let inside := tree.files.filterMap fun file =>
    if place.isPrefixOf file.1 then some (file.1.drop place.length) else none
  (inside.mergeSort inOrder).map "/".intercalate

end FileTree

end FluentGen
