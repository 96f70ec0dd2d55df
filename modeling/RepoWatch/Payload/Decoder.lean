import RepoWatch.Json.Basic
import RepoWatch.Json.Numeral
import RepoWatch.Text.Quoted
/-!
# Decoding records

How JSON data becomes typed payloads. A record is spelled by an object that holds its fields
under their keys, or by an array of all its fields in the order of their declaration. A field may
be absent only if it has a value for that case. Of several faulty fields of an object the one
whose key comes first is reported; a missing field is reported when no field is faulty.
-/

namespace RepoWatch.Payload

/-- Why a value is not of the expected form. -/
inductive DecodeFault where
  | missing (key : String)
  /-- The value is of another kind than expected. -/
  | unexpected (found : Json) (expected : String)
  /-- An integer does not fit the expected type. -/
  | outOfRange (found : Int) (expected : String)
  /-- The array of a record ends before its last field. -/
  | tooShort (length : Nat) (record : String) (size : Nat)
  /-- The array of a record goes on after its last field. -/
  | tooLong (length : Nat)
  /-- The same within a tagged value, where the right length is known. -/
  | notOfSize (length size : Nat)

/-- What a value is, in the words of a message. -/
def kindText : Json → String
  | .null => "null"
  | .bool b => "boolean `" ++ (if b then "true" else "false") ++ "`"
  | .integer i => "integer `" ++ toString i ++ "`"
  | .double d => "floating point `" ++ d.numeral ++ "`"
  | .string s => "string " ++ Text.quoted s
  | .array _ => "sequence"
  | .object _ => "map"

def elements (n : Nat) : String := toString n ++ (if n = 1 then " element" else " elements")

def DecodeFault.message : DecodeFault → String
  | .missing key => "missing field `" ++ key ++ "`"
  | .unexpected found expected => "invalid type: " ++ kindText found ++ ", expected " ++ expected
  | .outOfRange found expected =>
    "invalid value: integer `" ++ toString found ++ "`, expected " ++ expected
  | .tooShort length record size =>
    "invalid length " ++ toString length ++ ", expected struct " ++ record
      ++ " with " ++ elements size
  | .tooLong length =>
    "invalid length " ++ toString length ++ ", expected fewer elements in array"
  | .notOfSize length size =>
    "invalid length " ++ toString length ++ ", expected " ++ elements size ++ " in sequence"

/-- A way to read values of a type from JSON data. -/
abbrev Decoder (α : Type) := Json → Except DecodeFault α

def string : Decoder String
  | .string s => .ok s
  | v => .error (.unexpected v "a string")

def word : Decoder UInt32
  | .integer i =>
    if 0 ≤ i ∧ i < 0x100000000 then .ok (UInt32.ofNat i.toNat) else .error (.outOfRange i "u32")
  | v => .error (.unexpected v "u32")

def signedWord : Decoder Int32
  | .integer i =>
    if -0x80000000 ≤ i ∧ i < 0x80000000 then .ok (Int32.ofInt i) else .error (.outOfRange i "i32")
  | v => .error (.unexpected v "i32")

def nullable {α : Type} (decode : Decoder α) : Decoder (Option α)
  | .null => .ok none
  | v => some <$> decode v

def list {α : Type} (decode : Decoder α) : Decoder (List α)
  | .array items => items.mapM decode
  | v => .error (.unexpected v "a sequence")

/-- The fields of a record, to be read from an object or from an array. -/
structure Fields (α : Type) where
  /-- The keys, in the order of declaration, with the fault that a value under each has. -/
  checks : List (String × (Json → Option DecodeFault))
  /-- Reads the fields by their keys; a required field may be missing. -/
  byKey : (String → Option Json) → Except DecodeFault α
  /-- Reads the fields from the front of a list; nothing when the list is too short. -/
  inOrder : List Json → Except DecodeFault (Option (α × List Json))

/-- The fault of decoding a value, if there is one. -/
def faultOf {α : Type} (decode : Decoder α) (v : Json) : Option DecodeFault :=
  match decode v with
  | .ok _ => none
  | .error e => some e

namespace Fields

protected def pure {α : Type} (a : α) : Fields α where
  checks := []
  byKey _ := .ok a
  inOrder items := .ok (some (a, items))

protected def seq {α β : Type} (f : Fields (α → β)) (x : Unit → Fields α) : Fields β where
  checks := f.checks ++ (x ()).checks
  byKey get := do
    let g ← f.byKey get
    return g (← (x ()).byKey get)
  inOrder items := do
    let some (g, items) ← f.inOrder items | return none
    let some (a, items) ← (x ()).inOrder items | return none
    return some (g a, items)

instance : Applicative Fields where
  pure := Fields.pure
  seq := Fields.seq

end Fields

/-- A field; `absent` is its value when an object lacks it. -/
def field {α : Type} (key : String) (decode : Decoder α) (absent : Option α) : Fields α where
  checks := [(key, faultOf decode)]
  byKey get :=
    match get key, absent with
    | some v, _ => decode v
    | none, some a => .ok a
    | none, none => .error (.missing key)
  inOrder
    | [] => .ok none
    | v :: items => do return some (← decode v, items)

def required {α : Type} (key : String) (decode : Decoder α) : Fields α := field key decode none

def optional {α : Type} (key : String) (decode : Decoder α) : Fields (Option α) :=
  field key (nullable decode) (some none)

/-- A list that may be absent, also at the end of an array, and is empty then. -/
def trailingList {α : Type} (key : String) (decode : Decoder α) : Fields (List α) :=
  { field key (list decode) (some []) with
    inOrder := fun
      | [] => .ok (some ([], []))
      | v :: items => do return some (← list decode v, items) }

/-- The fault reported for an object: the one under the least key. -/
def firstFault (checks : List (String × (Json → Option DecodeFault)))
    (get : String → Option Json) : Option DecodeFault :=
  let faults := checks.filterMap fun check =>
    ((get check.1).bind check.2).map fun fault => (check.1, fault)
  (faults.foldl least none).map Prod.snd
where
  least : Option (String × DecodeFault) → String × DecodeFault → Option (String × DecodeFault)
    | none, x => some x
    | some y, x => some (if x.1 < y.1 then x else y)

def Fields.ofObject {α : Type} (fields : Fields α) (get : String → Option Json) :
    Except DecodeFault α :=
  match firstFault fields.checks get with
  | some fault => .error fault
  | none => fields.byKey get

/-- Reads the fields of a record from an array; `tooLong` is the fault of one that goes on. -/
def Fields.ofArray {α : Type} (fields : Fields α) (name : String) (tooLong : DecodeFault)
    (items : List Json) : Except DecodeFault α := do
  match ← fields.inOrder items with
  | none => .error (.tooShort items.length name fields.checks.length)
  | some (a, []) => .ok a
  | some (_, _ :: _) => .error tooLong

def record {α : Type} (name : String) (fields : Fields α) : Decoder α
  | .object entries => fields.ofObject fun key => Json.lookup key entries
  | .array items => fields.ofArray name (.tooLong items.length) items
  | v => .error (.unexpected v ("struct " ++ name))

def taggedRecord {α : Type} (name : String) (fields : Fields α) : Decoder α
  | .object entries => fields.ofObject fun key => Json.lookup key entries
  | .array items =>
    fields.ofArray name (.notOfSize items.length fields.checks.length) items
  | v => .error (.unexpected v ("struct " ++ name))

end RepoWatch.Payload
