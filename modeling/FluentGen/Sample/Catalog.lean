import FluentGen.Sample.User

/-!
# The catalog of samples

Besides users there are tokens, whose fields have values of several forms, values, which do not
start empty and have a field without a setter, and addresses, which have nothing to set.
-/

namespace FluentGen

/-- A token. -/
structure AccessToken where
  value : List UInt8 := []
  type : UInt8 := 0
  token : Option Int64 := none
deriving DecidableEq

/-- A field of a token. -/
inductive AccessToken.Field where
  | value
  | type
  | token
deriving DecidableEq

/-- A counted value. -/
structure Reading where
  raw : String := "unset"
  count : Int64 := -1
  limit : UInt64 := 18446744073709551615
deriving DecidableEq

/-- A field of a counted value that has a setter. -/
inductive Reading.Field where
  | raw
  | count
deriving DecidableEq

/-- An address without setters. -/
structure Url where
  host : String := ""
deriving DecidableEq

namespace Sample

/-- Tokens as a sample. -/
def token : Sample where
  Field := AccessToken.Field
  shape
    | .value => .bytes
    | .type => .byte
    | .token => .optionalInteger
  label
    | .value => "value"
    | .type => "type"
    | .token => "token"
  Object := AccessToken
  recipe := {
    fields := [.value, .type, .token]
    distinct := by decide
    complete := fun field => by cases field <;> decide
    default := {}
    set := fun field =>
      match field with
      | .value => fun value token => { token with value }
      | .type => fun type token => { token with type }
      | .token => fun inner token => { token with token := inner } }
  before := []
  values token := [("value", .bytes token.value), ("type", .byte token.type),
    ("token", .optionalInteger token.token)]

/-- Counted values as a sample. -/
def reading : Sample where
  Field := Reading.Field
  shape
    | .raw => .text
    | .count => .integer
  label
    | .raw => "raw"
    | .count => "count"
  Object := Reading
  recipe := {
    fields := [.raw, .count]
    distinct := by decide
    complete := fun field => by cases field <;> decide
    default := {}
    set := fun field =>
      match field with
      | .raw => fun raw reading => { reading with raw }
      | .count => fun count reading => { reading with count } }
  before := ["default"]
  values reading := [("raw", .text reading.raw), ("count", .integer reading.count),
    ("limit", .natural reading.limit)]

/-- Addresses as a sample. -/
def url : Sample where
  Field := Empty
  shape field := nomatch field
  label field := nomatch field
  Object := Url
  recipe := {
    fields := []
    distinct := by decide
    complete := fun field => nomatch field
    default := {}
    set := fun field => nomatch field }
  before := []
  values url := [("host", .text url.host)]

/-- The sample with a name. -/
def ofName? : String → Option Sample
  | "User" => some user
  | "Token" => some token
  | "Value" => some reading
  | "URL" => some url
  | _ => none

end Sample

end FluentGen
