import FluentGen.Path

/-!
# Stores

Texts kept under paths. Two spellings of a path with the same components are one path, which keeps
the spelling and the position of its first text.
-/

namespace FluentGen

/-- Texts under paths, in the order in which the paths were first written. -/
structure Store where
  files : List (String × String)
deriving DecidableEq

namespace Store

/-- A store with nothing in it. -/
def empty : Store :=
  ⟨[]⟩

/-- Whether two spellings mean the same path. -/
def samePath (path other : String) : Bool :=
  Path.components path == Path.components other

/-- The text under a path. -/
def get? (store : Store) (path : String) : Option String :=
  (store.files.find? fun file => samePath file.1 path).map Prod.snd

/-- Puts a text under a path in a list of texts. -/
def insertInto (path text : String) : List (String × String) → List (String × String)
  | [] => [(path, text)]
  | file :: rest =>
    if samePath file.1 path then (file.1, text) :: rest else file :: insertInto path text rest

/-- Puts a text under a path. -/
def insert (store : Store) (path text : String) : Store :=
  ⟨insertInto path text store.files⟩

/-- The paths with their texts. -/
def toList (store : Store) : List (String × String) :=
  store.files

/-- The number of paths. -/
def size (store : Store) : Nat :=
  store.files.length

/-- Whether there is nothing in a store. -/
def isEmpty (store : Store) : Bool :=
  store.files.isEmpty

end Store

end FluentGen
