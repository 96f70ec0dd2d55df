import RepoWatch.Json.Double
/-!
# JSON data

Values as the cache holds them. Numbers come in kinds that are never equal to each other: an
integer is no double, whatever its value. The fields of an object are kept in the order of their
keys, each key once; `object` built by `ofFields` has that form.
-/

namespace RepoWatch

inductive Json where
  | null
  | bool (value : Bool)
  | integer (value : Int)
  | double (value : Double)
  | string (value : String)
  | array (items : List Json)
  | object (fields : List (String × Json))
deriving Inhabited

namespace Json

mutual

/-- Equality of values: doubles compare as numbers, all else literally. -/
def eqv : Json → Json → Bool
  | .null, .null => true
  | .bool a, .bool b => a == b
  | .integer a, .integer b => a == b
  | .double a, .double b => a.numEq b
  | .string a, .string b => a == b
  | .array xs, .array ys => eqvItems xs ys
  | .object xs, .object ys => eqvFields xs ys
  | _, _ => false
termination_by structural x => x

/-- Equality of arrays, item by item. -/
def eqvItems : List Json → List Json → Bool
  | [], [] => true
  | x :: xs, y :: ys => eqv x y && eqvItems xs ys
  | _, _ => false
termination_by structural xs => xs

/-- Equality of objects, field by field. -/
def eqvFields : List (String × Json) → List (String × Json) → Bool
  | [], [] => true
  | x :: xs, y :: ys => eqvField x y && eqvFields xs ys
  | _, _ => false
termination_by structural xs => xs

/-- Equality of fields: the same key and equal values. -/
def eqvField : String × Json → String × Json → Bool
  | (k, x), (l, y) => k == l && eqv x y
termination_by structural x => x

end

instance : BEq Json := ⟨eqv⟩

def lookup (key : String) : List (String × Json) → Option Json
  | [] => none
  | (k, v) :: rest => if k = key then some v else lookup key rest

/-- The field of an object, if the value is an object that has it. -/
def get? (key : String) : Json → Option Json
  | .object fields => lookup key fields
  | _ => none

/-- Puts a field at its place among sorted fields, instead of one with the same key. -/
def insertField (key : String) (value : Json) : List (String × Json) → List (String × Json)
  | [] => [(key, value)]
  | (k, v) :: rest =>
    if key < k then (key, value) :: (k, v) :: rest
    else if key = k then (key, value) :: rest
    else (k, v) :: insertField key value rest

/-- The object with the given fields; of a key given twice the last value counts. -/
def ofFields (fields : List (String × Json)) : Json :=
  .object (fields.foldl (fun sorted field => insertField field.1 field.2 sorted) [])

mutual

/-- Every object in the value lists its keys in strictly increasing order. -/
def Canonical : Json → Prop
  | .array items => CanonicalItems items
  | .object fields => (fields.map Prod.fst).Pairwise (· < ·) ∧ CanonicalFields fields
  | _ => True
termination_by structural x => x

def CanonicalItems : List Json → Prop
  | [] => True
  | x :: xs => Canonical x ∧ CanonicalItems xs
termination_by structural xs => xs

def CanonicalFields : List (String × Json) → Prop
  | [] => True
  | x :: xs => CanonicalField x ∧ CanonicalFields xs
termination_by structural xs => xs

def CanonicalField : String × Json → Prop
  | (_, x) => Canonical x
termination_by structural x => x

end

mutual

private theorem eqv_self : (x : Json) → eqv x x = true
  | .null => rfl
  | .bool _ => by simp [eqv]
  | .integer _ => by simp [eqv]
  | .double d => by simp [eqv, d.numEq_refl]
  | .string _ => by simp [eqv]
  | .array xs => by simp [eqv, eqvItems_self xs]
  | .object xs => by simp [eqv, eqvFields_self xs]
termination_by structural x => x

private theorem eqvItems_self : (xs : List Json) → eqvItems xs xs = true
  | [] => rfl
  | x :: xs => by simp [eqvItems, eqv_self x, eqvItems_self xs]
termination_by structural xs => xs

private theorem eqvFields_self : (xs : List (String × Json)) → eqvFields xs xs = true
  | [] => rfl
  | x :: xs => by simp [eqvFields, eqvField_self x, eqvFields_self xs]
termination_by structural xs => xs

private theorem eqvField_self : (x : String × Json) → eqvField x x = true
  | (_, x) => by simp [eqvField, eqv_self x]
termination_by structural x => x

end

instance : ReflBEq Json := ⟨fun {x} => eqv_self x⟩

end Json
end RepoWatch
