import FluentGen.Demo
import FluentGen.Proofs.Blueprint.Shape
import FluentGen.Proofs.Builder.Banner
import FluentGen.Proofs.Builder.Declarations
import FluentGen.Proofs.Builder.Location
import FluentGen.Proofs.Builder.Manifest
import FluentGen.Proofs.Builder.Names
import FluentGen.Proofs.Builder.Program
import FluentGen.Proofs.Builder.Run
import FluentGen.Proofs.Graph.BreadthFirst
import FluentGen.Proofs.Output.Writes
import FluentGen.Proofs.Round.Keeping
import FluentGen.Proofs.Round.Repetition
import FluentGen.Proofs.Round.Setters
import FluentGen.Proofs.Round.Spelling
import FluentGen.Proofs.Round.Validation
import FluentGen.Proofs.Round.Warnings
import FluentGen.Proofs.Syntax.Members
import FluentGen.Round
import FluentGen.Sample.Catalog
