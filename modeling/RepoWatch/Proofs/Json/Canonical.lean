import Mathlib.Data.String.Basic
import RepoWatch.Json.Reader
/-!
# Canonical data

Data that is read has the keys of each object in order, and each of them once.
-/

namespace RepoWatch.Json

theorem canonicalItems_iff {items : List Json} :
    CanonicalItems items ↔ ∀ v ∈ items, v.Canonical := by
  induction items with
  | nil => simp [CanonicalItems]
  | cons v items ih => simp [CanonicalItems, ih]

theorem canonicalFields_iff {fields : List (String × Json)} :
    CanonicalFields fields ↔ ∀ field ∈ fields, field.2.Canonical := by
  induction fields with
  | nil => simp [CanonicalFields]
  | cons field fields ih =>
      obtain ⟨key, v⟩ := field
      rw [List.forall_mem_cons, ← ih]
      exact Iff.rfl

section Fields

variable {key : String} {value : Json} {fields : List (String × Json)}

theorem eq_or_mem_of_mem_insertField {field : String × Json}
    (h : field ∈ insertField key value fields) : field = (key, value) ∨ field ∈ fields := by
  induction fields with
  | nil => exact .inl (List.mem_singleton.1 h)
  | cons first rest ih =>
      simp only [insertField] at h
      split_ifs at h
      · exact List.mem_cons.1 h
      · rcases List.mem_cons.1 h with rfl | h
        · exact .inl rfl
        · exact .inr (.tail _ h)
      · rcases List.mem_cons.1 h with rfl | h
        · exact .inr (.head _)
        · exact (ih h).imp id (.tail _)

/-- A field that is put at its place leaves the keys in order. -/
theorem pairwise_insertField (h : (fields.map Prod.fst).Pairwise (· < ·)) :
    ((insertField key value fields).map Prod.fst).Pairwise (· < ·) := by
  rw [List.pairwise_map] at h ⊢
  induction fields with
  | nil => simp [insertField]
  | cons first rest ih =>
      obtain ⟨hfirst, hrest⟩ := List.pairwise_cons.1 h
      simp only [insertField]
      split_ifs with hlt heq
      · refine .cons (fun field hmem => ?_) h
        rcases List.mem_cons.1 hmem with rfl | hmem
        · exact hlt
        · exact hlt.trans (hfirst field hmem)
      · exact .cons (fun field hmem => heq ▸ hfirst field hmem) hrest
      · refine .cons (fun field hmem => ?_) (ih hrest)
        rcases eq_or_mem_of_mem_insertField hmem with rfl | hmem
        · exact lt_of_le_of_ne (not_lt.1 hlt) (Ne.symm heq)
        · exact hfirst field hmem

theorem canonical_insertField (hfields : (object fields).Canonical) (hvalue : value.Canonical) :
    (object (insertField key value fields)).Canonical := by
  refine ⟨pairwise_insertField hfields.1, canonicalFields_iff.2 fun field hmem => ?_⟩
  rcases eq_or_mem_of_mem_insertField hmem with rfl | hmem
  · exact hvalue
  · exact canonicalFields_iff.1 hfields.2 field hmem

end Fields

/-! ## Reading -/

/-- A value that is read is canonical. -/
def ReadsCanonical (x : Reading (Json × Cursor)) : Prop := ∀ v c, x = .ok (v, c) → v.Canonical

section Steps

variable {v : Json} {c : Cursor} {cause : SyntaxFault}

theorem readsCanonical_ok (h : v.Canonical) : ReadsCanonical (.ok (v, c)) := by
  rintro _ _ ⟨⟩
  exact h

@[simp] theorem readsCanonical_fault : ReadsCanonical (c.fault cause) := nofun

@[simp] theorem readsCanonical_faultAhead : ReadsCanonical (c.faultAhead cause) := nofun

theorem readsCanonical_bind {α : Type} {x : Reading α} {k : α → Reading (Json × Cursor)}
    (h : ∀ a, x = .ok a → ReadsCanonical (k a)) : ReadsCanonical (x >>= k) := by
  cases x with
  | error fault => exact nofun
  | ok a => exact h a rfl

end Steps

section Numbers

variable (negative : Bool) (significand : Nat) (scale : Int) (c : Cursor)

@[simp] theorem readsCanonical_finishDouble :
    ReadsCanonical (finishDouble negative significand scale c) := by
  unfold finishDouble
  split
  · exact readsCanonical_ok trivial
  · simp

@[simp] theorem readsCanonical_readExponent :
    ReadsCanonical (readExponent negative significand scale c) := by
  unfold readExponent
  dsimp only
  split
  · simp
  · split_ifs <;> first | exact readsCanonical_ok trivial | simp

@[simp] theorem readsCanonical_readScale :
    ReadsCanonical (readScale negative significand scale c) := by
  unfold readScale
  split_ifs <;> simp

@[simp] theorem readsCanonical_readFraction :
    ReadsCanonical (readFraction negative significand scale c) := by
  unfold readFraction
  dsimp only
  split_ifs <;> simp

@[simp] theorem readsCanonical_readLongInteger :
    ReadsCanonical (readLongInteger negative significand c) := by
  unfold readLongInteger
  dsimp only
  split_ifs <;> simp

theorem canonical_integerNumeral : (integerNumeral negative significand).Canonical := by
  unfold integerNumeral
  split_ifs <;> trivial

@[simp] theorem readsCanonical_readNumber : ReadsCanonical (readNumber negative c) := by
  unfold readNumber
  split
  · simp
  · dsimp only
    split_ifs <;> first | exact readsCanonical_ok (canonical_integerNumeral _ _) | simp

@[simp] theorem readsCanonical_readScalar : ReadsCanonical (readScalar c) := by
  unfold readScalar
  split
  · exact readsCanonical_bind fun _ _ => readsCanonical_ok trivial
  · exact readsCanonical_bind fun _ _ => readsCanonical_ok trivial
  · exact readsCanonical_bind fun _ _ => readsCanonical_ok trivial
  · simp
  · split_ifs <;> simp
  · simp

end Numbers

mutual

theorem readsCanonical_readValue :
    (fuel depth : Nat) → (c : Cursor) → ReadsCanonical (readValue fuel depth c)
  | 0, _, _ => readsCanonical_fault
  | fuel + 1, depth, c => by
      unfold readValue
      dsimp only
      split
      · exact readsCanonical_bind fun _ _ => readsCanonical_ok trivial
      · split_ifs
        · simp
        · exact readsCanonical_readItems fuel _ _ [] _ trivial
      · split_ifs
        · simp
        · exact readsCanonical_readFields fuel _ _ [] _ ⟨.nil, trivial⟩
      · simp

theorem readsCanonical_readItems :
    (fuel depth : Nat) → (first : Bool) → (seen : List Json) → (c : Cursor) →
    CanonicalItems seen → ReadsCanonical (readItems fuel depth first seen c)
  | 0, _, _, _, _, _ => readsCanonical_fault
  | fuel + 1, depth, first, seen, c, hseen => by
      unfold readItems
      refine readsCanonical_bind fun start _ => ?_
      obtain ⟨more, c⟩ := start
      dsimp only
      split_ifs
      · refine readsCanonical_bind fun read hread => ?_
        exact readsCanonical_readItems fuel _ _ _ _
          ⟨readsCanonical_readValue fuel depth c _ _ hread, hseen⟩
      · refine readsCanonical_ok (canonicalItems_iff.2 fun v hmem => ?_)
        exact canonicalItems_iff.1 hseen v (List.mem_reverse.1 hmem)

theorem readsCanonical_readFields :
    (fuel depth : Nat) → (first : Bool) → (seen : List (String × Json)) → (c : Cursor) →
    (object seen).Canonical → ReadsCanonical (readFields fuel depth first seen c)
  | 0, _, _, _, _, _ => readsCanonical_fault
  | fuel + 1, depth, first, seen, c, hseen => by
      unfold readFields
      refine readsCanonical_bind fun start _ => ?_
      obtain ⟨more, c⟩ := start
      dsimp only
      split_ifs
      · refine readsCanonical_bind fun key _ => readsCanonical_bind fun colon _ =>
          readsCanonical_bind fun read hread => ?_
        exact readsCanonical_readFields fuel _ _ _ _
          (canonical_insertField hseen (readsCanonical_readValue fuel depth _ _ _ hread))
      · exact readsCanonical_ok hseen

end

end RepoWatch.Json
