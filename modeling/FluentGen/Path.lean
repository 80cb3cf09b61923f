import FluentGen.Text.Blank

/-!
# Paths

Paths are texts with slashes. Two paths are the same place if their components are equal: repeated
slashes, slashes at the end and dots inside do not count, but a dot at the beginning does.
-/

namespace FluentGen.Path

/-- Whether a path starts from the root of all directories. -/
def isAbsolute (path : String) : Bool :=
  path.toList.head? = some '/'

/-- A path inside another one; an absolute path replaces what stands before it. -/
def join (base path : String) : String :=
  if isAbsolute path || base = "" then path
  else if base.toList.getLast? = some '/' then base ++ path
  else base ++ "/" ++ path

/-- The parts of a text between slashes. -/
def slashParts : List Char → List (List Char)
  | [] => [[]]
  | '/' :: rest => [] :: slashParts rest
  | c :: rest =>
    match slashParts rest with
    | part :: parts => (c :: part) :: parts
    | [] => [[c]]

/-- A component of a path. -/
inductive Component where
  | root
  | current
  | parent
  | normal (name : String)
deriving DecidableEq

/-- The component that a part between slashes stands for, unless it does not count. -/
def component? : List Char → Option Component
  | [] => none
  | ['.'] => none
  | ['.', '.'] => some .parent
  | part => some (.normal (String.ofList part))

/-- The components of a path. -/
def components (path : String) : List Component :=
  let parts := slashParts path.toList
  let start := if isAbsolute path then [.root]
    else if parts.head? = some ['.'] then [.current] else []
  start ++ parts.filterMap component?

/-- Whether a part between slashes goes nowhere. -/
def isIdle (part : List Char) : Bool :=
  part = [] || part = ['.']

/-- The path of the directory that a path is in, as it is written. -/
def parent (path : String) : String :=
  let inside := ((slashParts path.toList).reverse.dropWhile isIdle).tail.dropWhile isIdle
  "/".intercalate (inside.reverse.map String.ofList)

/-- The parts of a module path between pairs of colons. -/
def colonParts : List Char → List (List Char)
  | [] => [[]]
  | ':' :: ':' :: rest => [] :: colonParts rest
  | c :: rest =>
    match colonParts rest with
    | part :: parts => (c :: part) :: parts
    | [] => [[c]]

/-- The segments of a module path without the blanks around them and without the empty ones. -/
def segments (package : String) : List String :=
  ((colonParts package.toList).map Text.trimBlank).filter (!·.isEmpty) |>.map String.ofList

/-- The directory of a module, below the directory of all output. -/
def ofPackage (package : String) : String :=
  (segments package).foldl join ""

end FluentGen.Path
