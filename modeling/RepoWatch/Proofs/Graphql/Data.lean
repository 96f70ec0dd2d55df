import RepoWatch.Graphql.Body
import RepoWatch.Proofs.Json.Canonical
import RepoWatch.Proofs.Payload.Nulls
/-!
# The data of an answer

Whatever a server sends: the data that is found in it has each key of an object once and in order. So
it does not matter to what is made of the data whether null fields are left out of it.
-/

namespace RepoWatch.Payload

open Json (Cursor)

/-- What is read, if anything is, has a property. -/
def Gives {α : Type} (x : Except Stop (α × Cursor)) (P : α → Prop) : Prop :=
  ∀ a c, x = .ok (a, c) → P a

section Gives

variable {α β : Type} {P : α → Prop} {a : α} {c : Cursor}

theorem gives_ok (h : P a) : Gives (.ok (a, c)) P := by
  rintro _ _ ⟨⟩
  exact h

@[simp] theorem gives_error (stop : Stop) : Gives (.error stop) P := nofun

theorem gives_bind {x : Except Stop β} {k : β → Except Stop (α × Cursor)}
    (h : ∀ b, x = .ok b → Gives (k b) P) : Gives (x >>= k) P := by
  intro a c hx
  obtain ⟨b, hb, hk⟩ := bind_eq_ok_iff.1 hx
  exact h b hb a c hk

variable {decode : TextDecoder α}

theorem gives_refuse (expected : String) (c : Cursor) : Gives (refuse expected c) P := by
  unfold refuse scalar
  dsimp only
  split
  · exact gives_bind fun _ _ => gives_error _
  · exact gives_bind fun _ _ => gives_error _
  · exact gives_bind fun _ _ => gives_bind fun _ _ => gives_error _
  · exact gives_bind fun _ _ => gives_error _

theorem gives_enclosed (h : ∀ c, Gives (decode c) P) (b : Bracket) (c : Cursor) :
    Gives (enclosed b decode c) P := by
  unfold enclosed
  split
  · exact gives_error _
  · exact gives_error _
  · rename_i hdecode
    split
    · exact gives_ok (h _ _ _ hdecode)
    · exact gives_error _

theorem gives_orNull (h : ∀ c, Gives (decode c) P) (c : Cursor) :
    Gives (orNull decode c) fun read => ∀ a, read = some a → P a := by
  unfold orNull
  dsimp only
  split
  · exact gives_bind fun _ _ => gives_ok nofun
  · refine gives_bind fun read hread => gives_ok ?_
    rintro _ ⟨⟩
    exact h _ _ _ hread

theorem gives_anything (depth : Nat) (c : Cursor) : Gives (anything depth c) Json.Canonical := by
  unfold anything ofReading
  intro v c' h
  split at h
  · rename_i hread
    cases h
    exact Json.readsCanonical_readValue _ _ _ _ _ hread
  · cases h

end Gives

section Collector

variable {σ α : Type}

/-- A property of the parts that are collected is kept by each field, and gives one of the record. -/
structure Collector.Keeps (r : Collector σ α) (P : σ → Prop) (Q : α → Prop) : Prop where
  start : P r.start
  fill : ∀ slot ∈ r.slots, ∀ s c, P s → Gives (slot.fill s c) P
  finish : ∀ s a, P s → r.finish s = .ok a → Q a

variable {r : Collector σ α} {P : σ → Prop} {Q : α → Prop} {s : σ}

theorem gives_complete (h : r.Keeps P Q) (hs : P s) (c : Cursor) : Gives (r.complete s c) Q := by
  unfold Collector.complete
  split
  · rename_i hfinish
    exact gives_ok (h.finish _ _ hs hfinish)
  · exact gives_error _

theorem gives_fromFields (h : r.Keeps P Q) (fuel : Nat) (first : Bool) (hs : P s) (c : Cursor) :
    Gives (r.fromFields fuel first s c) Q := by
  induction fuel generalizing first s c with
  | zero => exact gives_complete h hs c
  | succ fuel ih =>
      unfold Collector.fromFields
      refine gives_bind fun found _ => ?_
      split
      · exact gives_complete h hs _
      · split
        · rename_i slot hslot
          have hmem := List.mem_of_find?_eq_some hslot
          dsimp only
          split
          · exact gives_error _
          · refine gives_bind fun _ _ => gives_bind fun filled hfilled => ?_
            exact ih false (h.fill slot hmem s _ hs _ _ hfilled) _
        · exact gives_bind fun _ _ => gives_bind fun _ _ => ih false hs _

theorem gives_fromItems (h : r.Keeps P Q) {slots : List (Slot σ)} (hslots : slots ⊆ r.slots)
    (index : Nat) (hs : P s) (c : Cursor) : Gives (r.fromItems slots index s c) Q := by
  induction slots generalizing index s c with
  | nil => exact gives_complete h hs c
  | cons slot slots ih =>
      obtain ⟨hmem, hrest⟩ := List.cons_subset.1 hslots
      unfold Collector.fromItems
      refine gives_bind fun found _ => ?_
      dsimp only
      split
      · exact gives_error _
      · refine gives_bind fun filled hfilled => ?_
        exact ih hrest (index + 1) (h.fill slot hmem s _ hs _ _ hfilled) _

theorem gives_collector (h : r.Keeps P Q) (c : Cursor) : Gives (r.decode c) Q := by
  unfold Collector.decode
  dsimp only
  split
  · exact gives_enclosed (gives_fromFields h _ _ h.start) _ _
  · exact gives_enclosed (gives_fromItems h (List.Subset.refl _) _ h.start) _ _
  · exact gives_refuse _ _

theorem of_decodeText {decode : TextDecoder α} (h : ∀ c, Gives (decode c) Q) {text : String} {a : α}
    (hread : decodeText decode text = .ok a) : Q a := by
  unfold decodeText at hread
  dsimp only at hread
  split at hread
  · rename_i hwhole
    cases hread
    obtain ⟨⟨a', c⟩, hdecode, hrest⟩ := bind_eq_ok_iff.1 hwhole
    obtain ⟨-, -, ha⟩ := bind_eq_ok_iff.1 hrest
    cases ha
    exact h _ _ _ hdecode
  · cases hread
  · cases hread

end Collector

end RepoWatch.Payload

namespace RepoWatch.Graphql

open Payload

/-- The data in the body of an answer is canonical. -/
theorem Body.canonical_data {text : String} {body : Body} {v : Json}
    (hread : decodeText decode text = .ok body) (hdata : body.data = some v) : v.Canonical := by
  have keeps : ∀ c, Gives (decode c) fun body => ∀ v, body.data = some v → v.Canonical := by
    refine gives_collector (P := fun s => ∀ v, s.data = some (some v) → v.Canonical) ⟨nofun, ?_, ?_⟩
    · intro slot hslot s c hs
      simp only [List.mem_cons, List.not_mem_nil, or_false] at hslot
      rcases hslot with rfl | rfl
      · refine gives_bind fun read hread => gives_ok fun v hv => ?_
        exact gives_orNull (gives_anything 1) c _ _ hread v (Option.some.inj hv)
      · exact gives_bind fun _ _ => gives_ok hs
    · rintro s _ hs ⟨⟩ v hv
      cases hdata : s.data with
      | none => simp [hdata] at hv
      | some data => exact hs v (by simpa [hdata] using hv)
  exact of_decodeText keeps hread v hdata

/-- It does not matter to what is made of the data of an answer whether null fields are left out of
it, but for the nodes of the pull requests and of the releases. -/
theorem Body.decode_of_nulls_left_out {text : String} {body : Body} {v w : Json}
    (hread : decodeText decode text = .ok body) (hdata : body.data = some v) (hthin : v.Thinned w) :
    (∀ data, Repositories.decode v = .ok data ↔ Repositories.decode w = .ok data) ∧
    (∀ data, Commits.decode v = .ok data ↔ Commits.decode w = .ok data) ∧
    ∀ data, Detail.decode v = .ok data ↔
      Detail.decode w = .ok data ∧ ¬ Detail.HasNullNodes v := by
  have hv := canonical_data hread hdata
  exact ⟨Repositories.decode_thinned hv hthin, Commits.decode_thinned hv hthin,
    Detail.decode_thinned hv hthin⟩

end RepoWatch.Graphql
