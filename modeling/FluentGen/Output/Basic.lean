import FluentGen.Output.FileTree
import FluentGen.Output.Store

/-!
# Outputs

Where builders are written: into a store, which may refuse some paths, or below a directory of a
file tree.
-/

namespace FluentGen

/-- A way to write texts under paths into something of type `σ`. -/
structure Output (σ : Type) where
  /-- Writes a text. The result names the path that is really written. -/
  write : (path text : String) → σ → Except IoError String × σ

namespace Output

/-- Keeps the texts in a store, except under the paths that there is an error for. -/
def guarded (refusal : String → Option IoError) : Output Store where
  write path text store :=
    match refusal path with
    | some error => (.error error, store)
    | none => (.ok path, store.insert path text)

/-- Keeps the texts in a store, except under the paths that are refused. -/
def memory (refused : String → Bool) : Output Store :=
  guarded fun path => if refused path then some .readOnly else none

/-- Writes below a directory of a file tree. -/
def disk (directory : String) : Output FileTree where
  write path text tree :=
    let full := Path.join directory path
    let (result, tree) := tree.write full text.toUTF8
    (result.map fun _ => full, tree)

/-- Writes into the first of two things. -/
def first {σ : Type} (output : Output σ) (τ : Type) : Output (σ × τ) where
  write path text state :=
    let (result, changed) := output.write path text state.1
    (result, changed, state.2)

end Output

end FluentGen
