import FluentGen.Builder.Source
import FluentGen.Diagnostic
import FluentGen.Failure
import FluentGen.Output.Basic
import FluentGen.Target.Discovery

/-!
# Rounds

A round writes the builder of every target. A target that fails is counted and reported, and the
others do not notice. The only things that halt a round are a target whose name cannot be turned
into that of a variable and a builder whose code has no layout.
-/

namespace FluentGen

/-- What a round works on: its output, and what it has reported so far. -/
structure Work (σ : Type) where
  output : σ
  diagnostics : List Diagnostic
  events : List Event

namespace Work

variable {σ : Type}

/-- Nothing has been reported yet. -/
def start (output : σ) : Work σ :=
  ⟨output, [], []⟩

/-- Reports a message about a target. -/
def report (element message : String) (work : Work σ) : Work σ :=
  { work with diagnostics := work.diagnostics ++ [⟨message, element⟩] }

/-- Notes events. -/
def note (events : List Event) (work : Work σ) : Work σ :=
  { work with events := work.events ++ events }

end Work

/-- The outcome of a round. -/
structure Summary where
  /-- The paths that have been written, in the order of the targets. -/
  written : List String
  /-- How many targets have no builder. -/
  failed : Nat
deriving DecidableEq

namespace Summary

/-- The outcome of a round without targets. -/
def empty : Summary :=
  ⟨[], 0⟩

/-- Counts the outcome of one target in front of the others. -/
def count (outcome : Except Failure String) (rest : Summary) : Summary :=
  match outcome with
  | .ok path => { rest with written := path :: rest.written }
  | .error _ => { rest with failed := rest.failed + 1 }

end Summary

namespace Round

variable {σ : Type}

/-- Writes a text as that of a builder. A text that cannot be written is reported. -/
def deliver (output : Output σ) (builder : Builder) (text : String) (work : Work σ) :
    Except Failure String × Work σ :=
  let path := builder.relativePath
  let element := builder.qualifiedTarget
  match output.write path text work.output with
  | (.ok written, state) =>
    (.ok written, { work with output := state }.note [.wrote element written])
  | (.error error, state) =>
    let work := { work with output := state }.note [.writeFailed element path error.message]
    (.error (.io path error), work.report element "Failed to write file for element")

/-- Writes a builder. -/
def emit (output : Output σ) (config : Config) (builder : Builder) (work : Work σ) :
    Except Halt (Except Failure String × Work σ) := do
  let text ← (builder.source config.header).mapError .unprintable
  pure (deliver output builder text (work.note builder.sourceEvents))

/-- Reports the setters that a target lacks. -/
def reportMissing (target : Target) (setters : List String) (work : Work σ) : Work σ :=
  setters.foldl (fun work setter =>
    work.report target.qualifiedName s!"missing conventional setter `{setter}`") work

/-- Writes the builder of a target, unless setters are checked and some are missing. -/
def produce (output : Output σ) (config : Config) (target : Target) (work : Work σ) :
    Except Halt (Except Failure String × Work σ) := do
  let builder ← (Builder.ofTarget target).mapError .unusable
  let work := work.note [target.selectionEvent]
  let missing := target.missingSetters builder.fields
  if config.setterPolicy = .validate ∧ missing ≠ [] then
    pure (.error (.missingSetters target.qualifiedName missing), reportMissing target missing work)
  else
    emit output config builder work

/-- Notes that a target has no builder. -/
def noteOutcome (target : Target) (outcome : Except Failure String) (work : Work σ) : Work σ :=
  match outcome with
  | .ok _ => work
  | .error failure => work.note [.notProduced target.qualifiedName failure.message]

/-- Writes the builders of targets, one after another. -/
def run (output : Output σ) (config : Config) :
    List Target → Work σ → Except Halt (Summary × Work σ)
  | [], work => .ok (.empty, work)
  | target :: rest, work => do
    let (outcome, work) ← produce output config target work
    let (summary, work) ← run output config rest (noteOutcome target outcome work)
    pure (summary.count outcome, work)

/-- The events of finding the targets in a file. -/
def discoveryEvents (package : String) (items : List Tree) (targets : List Target) : List Event :=
  (Target.skipped items).map (Event.skippedGeneric package) ++
    [.discovered package targets.length]

/-- Writes the builders of the targets in a source text that comes from somewhere. -/
def runText (output : Output σ) (config : Config) (origin package source : String)
    (work : Work σ) : Except Halt (Except Failure Summary × Work σ) :=
  match readSource source with
  | .error fault => .ok (.error (.syntactic origin fault), work)
  | .ok items => do
    let targets := Target.discover package items
    let (summary, work) ← run output config targets
      (work.note (discoveryEvents package items targets))
    pure (.ok summary, work)

/-- Writes the builders of the targets in a source text. -/
def runSource (output : Output σ) (config : Config) (package source : String) (work : Work σ) :
    Except Halt (Except Failure Summary × Work σ) :=
  runText output config "<source>" package source work

/-- Writes the builders of the targets in a file. -/
def runFile (output : Output σ) (config : Config) (tree : FileTree) (package path : String)
    (work : Work σ) : Except Halt (Except Failure Summary × Work σ) :=
  match tree.readText path with
  | .error error => .ok (.error (.io path error), work)
  | .ok source => runText output config path package source work

end Round

/-- The configuration in a file. -/
def Config.ofFile (tree : FileTree) (path : String) : Except Failure Config :=
  match tree.readText path with
  | .error error => .error (.io path error)
  | .ok text => (Config.ofText text).mapError (Failure.config text)

end FluentGen
