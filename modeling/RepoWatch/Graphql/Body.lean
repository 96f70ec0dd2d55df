import RepoWatch.Payload.FromText
/-!
# The body of an answer

What a GraphQL server sends back: the data, or the errors it reports, or both.
-/

namespace RepoWatch.Graphql

open Payload

/-- A place in a document to which an error refers. -/
structure DocumentPlace where
  line : UInt32
  column : UInt32
deriving DecidableEq, Repr

/-- A step of the way to the field to which an error refers. -/
inductive PathStep where
  | field (name : String)
  | item (index : UInt32)
deriving DecidableEq, Repr

structure ServerError where
  message : String
  locations : Option (List DocumentPlace)
  extensions : Option (List (String × String))
  path : Option (List PathStep)
deriving DecidableEq, Repr

structure Body where
  data : Option Json
  errors : Option (List ServerError)

namespace DocumentPlace

private structure Parts where
  line : Option UInt32
  column : Option UInt32

def decode : TextDecoder DocumentPlace :=
  Collector.decode (σ := Parts)
    { name := "GraphQLErrorLocation"
      slots := [
        ⟨"line", fun s => s.line.isSome, fun s c => do
          let (n, c) ← scalar word c
          return ({ s with line := some n }, c)⟩,
        ⟨"column", fun s => s.column.isSome, fun s c => do
          let (n, c) ← scalar word c
          return ({ s with column := some n }, c)⟩]
      start := ⟨none, none⟩
      finish := fun s =>
        match s.line, s.column with
        | some line, some column => .ok ⟨line, column⟩
        | none, _ => .error (.missing "line")
        | _, none => .error (.missing "column") }

end DocumentPlace

/-- Reads a step: a name or an index, found by looking at a whole value. -/
def PathStep.decode : TextDecoder PathStep := fun c => do
  let (v, c) ← anything 4 c
  match v, word v with
  | .string name, _ => return (.field name, c)
  | _, .ok index => return (.item index, c)
  | _, _ => throw (.pending (.noChoice "GraphQLErrorPathParam") c)

namespace ServerError

private structure Parts where
  message : Option String
  locations : Option (Option (List DocumentPlace))
  extensions : Option (Option (List (String × String)))
  path : Option (Option (List PathStep))

def decode : TextDecoder ServerError :=
  Collector.decode (σ := Parts)
    { name := "GraphQLErrorMessage"
      slots := [
        ⟨"message", fun s => s.message.isSome, fun s c => do
          let (a, c) ← scalar string c
          return ({ s with message := some a }, c)⟩,
        ⟨"locations", fun s => s.locations.isSome, fun s c => do
          let (a, c) ← orNull (listOf DocumentPlace.decode) c
          return ({ s with locations := some a }, c)⟩,
        ⟨"extensions", fun s => s.extensions.isSome, fun s c => do
          let (a, c) ← orNull (mapOf (scalar string)) c
          return ({ s with extensions := some a }, c)⟩,
        ⟨"path", fun s => s.path.isSome, fun s c => do
          let (a, c) ← orNull (listOf PathStep.decode) c
          return ({ s with path := some a }, c)⟩]
      start := ⟨none, none, none, none⟩
      finish := fun s =>
        match s.message with
        | some message =>
          .ok ⟨message, s.locations.getD none, s.extensions.getD none, s.path.getD none⟩
        | none => .error (.missing "message") }

end ServerError

namespace Body

/-- The fields of a body that have been read. -/
structure Parts where
  data : Option (Option Json)
  errors : Option (Option (List ServerError))

def decode : TextDecoder Body :=
  Collector.decode (σ := Parts)
    { name := "GraphQLResponse"
      slots := [
        ⟨"data", fun s => s.data.isSome, fun s c => do
          let (a, c) ← orNull (anything 1) c
          return ({ s with data := some a }, c)⟩,
        ⟨"errors", fun s => s.errors.isSome, fun s c => do
          let (a, c) ← orNull (listOf ServerError.decode) c
          return ({ s with errors := some a }, c)⟩]
      start := ⟨none, none⟩
      finish := fun s => .ok ⟨s.data.getD none, s.errors.getD none⟩ }

end Body
end RepoWatch.Graphql
