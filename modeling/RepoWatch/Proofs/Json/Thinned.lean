import Mathlib.Data.List.Forall2
import RepoWatch.Json.Basic
/-!
# Thinned data

JSON data from whose objects, at any depth, some fields that are null were left out. What is found in
it is what was found before, thinned, but for nulls that are not found any more.
-/

namespace RepoWatch.Json

/-- Some fields that are null were left out, and the other ones changed. -/
inductive ThinnedFields (change : Json → Json → Prop) :
    List (String × Json) → List (String × Json) → Prop where
  | nil : ThinnedFields change [] []
  | kept {key : String} {v w : Json} {xs ys : List (String × Json)} (h : change v w)
      (hs : ThinnedFields change xs ys) : ThinnedFields change ((key, v) :: xs) ((key, w) :: ys)
  | leftOut {key : String} {xs ys : List (String × Json)} (hs : ThinnedFields change xs ys) :
      ThinnedFields change ((key, .null) :: xs) ys

/-- Some fields that are null were left out of objects, at any depth. -/
inductive Thinned : Json → Json → Prop where
  | same (v : Json) : Thinned v v
  | array {vs ws : List Json} (h : List.Forall₂ Thinned vs ws) : Thinned (.array vs) (.array ws)
  | object {xs ys : List (String × Json)} (h : ThinnedFields Thinned xs ys) :
      Thinned (.object xs) (.object ys)

variable {v w : Json} {vs : List Json} {key : String} {xs ys : List (String × Json)}

theorem ThinnedFields.same : (xs : List (String × Json)) → ThinnedFields Thinned xs xs
  | [] => .nil
  | (_, v) :: xs => .kept (.same v) (same xs)

theorem thinned_array_iff :
    Thinned (.array vs) w ↔ ∃ ws, w = .array ws ∧ List.Forall₂ Thinned vs ws := by
  constructor
  · intro h
    cases h with
    | same => exact ⟨vs, rfl, List.forall₂_same.2 fun v _ => .same v⟩
    | array h => exact ⟨_, rfl, h⟩
  · rintro ⟨ws, rfl, h⟩
    exact .array h

theorem thinned_object_iff :
    Thinned (.object xs) w ↔ ∃ ys, w = .object ys ∧ ThinnedFields Thinned xs ys := by
  constructor
  · intro h
    cases h with
    | same => exact ⟨xs, rfl, .same xs⟩
    | object h => exact ⟨_, rfl, h⟩
  · rintro ⟨ys, rfl, h⟩
    exact .object h

theorem Thinned.eq_null_iff (h : Thinned v w) : v = .null ↔ w = .null := by
  cases h <;> simp

theorem Thinned.eq_string_iff (h : Thinned v w) (s : String) : v = .string s ↔ w = .string s := by
  cases h <;> simp

theorem Thinned.eq_integer_iff (h : Thinned v w) (i : Int) : v = .integer i ↔ w = .integer i := by
  cases h <;> simp

/-! ## What is found -/

/-- No key comes twice. -/
theorem Canonical.nodup_keys (h : (object xs).Canonical) : (xs.map Prod.fst).Nodup :=
  h.1.imp String.ne_of_lt

theorem lookup_eq_none_of_notMem (h : key ∉ xs.map Prod.fst) : lookup key xs = none := by
  induction xs with
  | nil => rfl
  | cons x xs ih =>
      rw [List.map_cons, List.mem_cons, not_or] at h
      rw [lookup, if_neg (Ne.symm h.1)]
      exact ih h.2

/-- What was found, and what is found once the data is thinned. -/
inductive Found : Option Json → Option Json → Prop where
  | absent : Found none none
  | leftOut : Found (some .null) none
  | kept {v w : Json} (hv : v.Canonical) (h : Thinned v w) : Found (some v) (some w)

theorem Found.eq_none {found : Option Json} (h : Found none found) : found = none := by
  cases h
  rfl

theorem Found.eq_string_iff {found found' : Option Json} (h : Found found found') (s : String) :
    found = some (.string s) ↔ found' = some (.string s) := by
  cases h with
  | absent => exact Iff.rfl
  | leftOut => simp
  | kept _ h => simpa using h.eq_string_iff s

theorem found_lookup (h : ThinnedFields Thinned xs ys) (hkeys : (xs.map Prod.fst).Nodup)
    (hxs : CanonicalFields xs) (key : String) : Found (lookup key xs) (lookup key ys) := by
  induction h with
  | nil => exact .absent
  | @kept k v w xs ys h hs ih =>
      obtain ⟨hv, hxs⟩ := hxs
      have hrest := ih (List.nodup_cons.1 hkeys).2 hxs
      by_cases hk : k = key
      · simpa [lookup, hk] using Found.kept hv h
      · simpa [lookup, hk] using hrest
  | @leftOut k xs ys hs ih =>
      obtain ⟨hnot, hkeys⟩ := List.nodup_cons.1 hkeys
      have hrest := ih hkeys hxs.2
      by_cases hk : k = key
      · -- the key does not come again, so nothing is found in its place
        subst hk
        rw [lookup_eq_none_of_notMem hnot] at hrest
        have hgone : lookup k ys = none := hrest.eq_none
        simpa [lookup, hgone] using Found.leftOut
      · simpa [lookup, hk] using hrest

/-- The part of a record under a key: the field of an object, or the item of an array that stands at
the place of the key. -/
def part? (keys : List String) (key : String) : Json → Option Json
  | .object fields => lookup key fields
  | .array items => lookup key (keys.zip items)
  | _ => none

theorem found_zip {vs ws : List Json} (h : List.Forall₂ Thinned vs ws) (hvs : CanonicalItems vs)
    (keys : List String) (key : String) :
    Found (lookup key (keys.zip vs)) (lookup key (keys.zip ws)) := by
  induction h generalizing keys with
  | nil => simpa [lookup] using Found.absent
  | @cons v w vs ws h hs ih =>
      obtain ⟨hv, hvs⟩ := hvs
      cases keys with
      | nil => exact .absent
      | cons k keys =>
          have hrest := ih hvs keys
          by_cases hk : k = key
          · simpa [lookup, hk] using Found.kept hv h
          · simpa [lookup, hk] using hrest

theorem found_part? (hv : v.Canonical) (h : Thinned v w) (keys : List String) (key : String) :
    Found (v.part? keys key) (w.part? keys key) := by
  cases v with
  | array vs =>
      obtain ⟨ws, rfl, hitems⟩ := thinned_array_iff.1 h
      exact found_zip hitems hv keys key
  | object xs =>
      obtain ⟨ys, rfl, hfields⟩ := thinned_object_iff.1 h
      exact found_lookup hfields hv.nodup_keys hv.2 key
  | null | bool | integer | double | string =>
      cases h with
      | same => exact .absent

end RepoWatch.Json
