import RepoWatch.Json.Basic
/-!
# Equality of JSON data

Equality of values does not depend on the side from which it is looked at.
-/

namespace RepoWatch.Json

mutual

private theorem eqv_swap : (x y : Json) → eqv x y = eqv y x
  | .null, y => by cases y <;> rfl
  | .bool _, y => by cases y <;> simp [eqv, Bool.beq_comm]
  | .integer _, y => by cases y <;> simp [eqv, Bool.beq_comm]
  | .double a, y => by cases y <;> simp [eqv, a.numEq_comm]
  | .string _, y => by cases y <;> simp [eqv, BEq.comm]
  | .array xs, y => by cases y <;> simp [eqv, eqvItems_swap xs]
  | .object xs, y => by cases y <;> simp [eqv, eqvFields_swap xs]
termination_by structural x => x

private theorem eqvItems_swap : (xs ys : List Json) → eqvItems xs ys = eqvItems ys xs
  | [], ys => by cases ys <;> rfl
  | x :: xs, ys => by
      cases ys with
      | nil => rfl
      | cons y ys => simp only [eqvItems, eqv_swap x y, eqvItems_swap xs ys]
termination_by structural xs => xs

private theorem eqvFields_swap :
    (xs ys : List (String × Json)) → eqvFields xs ys = eqvFields ys xs
  | [], ys => by cases ys <;> rfl
  | x :: xs, ys => by
      cases ys with
      | nil => rfl
      | cons y ys => simp only [eqvFields, eqvField_swap x y, eqvFields_swap xs ys]
termination_by structural xs => xs

private theorem eqvField_swap : (x y : String × Json) → eqvField x y = eqvField y x
  | (_, x), (_, y) => by simp only [eqvField, eqv_swap x y, BEq.comm]
termination_by structural x => x

end

theorem beq_swap (x y : Json) : (x == y) = (y == x) := eqv_swap x y

end RepoWatch.Json
