import FluentGen.Sample.Basic

/-!
# Users

A user has four texts, and all of them are set by the builder.
-/

namespace FluentGen

/-- A user. -/
structure User where
  name : String := ""
  email : String := ""
  address : String := ""
  phone : String := ""
deriving DecidableEq

namespace User

/-- A field of a user. -/
inductive Field where
  | name
  | email
  | address
  | phone
deriving DecidableEq

/-- The name of a field. -/
def Field.label : Field → String
  | name => "name"
  | email => "email"
  | address => "address"
  | phone => "phone"

/-- The user with another text in a field. -/
def set (field : Field) (value : String) (user : User) : User :=
  match field with
  | .name => { user with name := value }
  | .email => { user with email := value }
  | .address => { user with address := value }
  | .phone => { user with phone := value }

/-- How users are built. -/
def recipe : Recipe Field (fun _ => String) User where
  fields := [.name, .email, .address, .phone]
  distinct := by decide
  complete field := by cases field <;> decide
  default := {}
  set

/-- The field with a name. -/
def field? (name : String) : Option Field :=
  recipe.fields.find? (·.label = name)

/-- The user that a builder makes after some setters. -/
def ofSetters (setters : List (Field × String)) : User :=
  let slots : Slots fun _ : Field => String :=
    setters.foldl (fun slots (field, value) => slots.fill field value) .empty
  (recipe.build slots).1

/-- A user as a line of text. -/
def text (user : User) : String :=
  "User\x7bname='" ++ user.name ++ "', email='" ++ user.email ++ "', address='" ++ user.address ++
    "', phone='" ++ user.phone ++ "'\x7d"

end User

namespace Sample

/-- Users as a sample. -/
def user : Sample where
  Field := User.Field
  shape _ := .text
  label := User.Field.label
  Object := User
  recipe := User.recipe
  before := []
  values user := [("name", .text user.name), ("email", .text user.email),
    ("address", .text user.address), ("phone", .text user.phone)]

end Sample

end FluentGen
