import FluentGen.Round
import FluentGen.Sample.User

/-!
# Demonstrations

Two small programs: one builds a user, the other one writes the builder of a model as a build
script would.
-/

namespace FluentGen.Demo

/-- The user that is built. -/
def tester : User :=
  User.ofSetters [(.address, "Jaakonkatu 5, Helsinki"), (.email, "tester@ekahau.com"),
    (.phone, "+358-4456-65432"), (.name, "Tester")]

/-- What is printed about the user. -/
def userText : String :=
  tester.text ++ "\n"

/-- The source text of the model. -/
def model : String :=
  "
    #[builder]
    #[derive(Default)]
    pub struct User \x7b
        name: String,
        email: String,
    \x7d

    impl User \x7b
        pub fn set_name(&mut self, name: String) \x7b self.name = name; \x7d
        pub fn set_email(&mut self, email: String) \x7b self.email = email; \x7d
    \x7d
"

/-- What is printed about a file that has been written. -/
def fileText (tree : FileTree) (path : String) : String :=
  match tree.readText path with
  | .ok text => path ++ "\n" ++ text ++ "\n"
  | .error error => path ++ "\n" ++ (Failure.io path error).message ++ "\n"

/-- What is printed while the builder of the model is written below a directory. -/
def modelText (directory : String) : String :=
  let work := Work.start FileTree.empty
  match Round.runSource (Output.disk directory) {} "demo::model" model work with
  | .ok (.ok summary, work) =>
    Diagnostic.cargoText work.diagnostics ++
      String.join (summary.written.map (fileText work.output))
  | .ok (.error failure, _) => failure.message ++ "\n"
  | .error halt => halt.message ++ "\n"

end FluentGen.Demo
