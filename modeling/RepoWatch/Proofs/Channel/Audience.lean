import RepoWatch.Proofs.Channel.Readers
/-!
# The audience of a log

Readers come, read and leave while values are sent to a log. What has happened tells what each of
them has yet to read: the values that were sent since it began, less those it found and those it was
told it had lost.
-/

namespace RepoWatch

variable {α : Type}

/-- What happens at a log, as far as those who read it are concerned. -/
inductive Happening (α : Type) where
  | sent (value : α)
  /-- Somebody reads what is sent from now on, and not from where it did before. -/
  | begun (name : String)
  | ended (name : String)
  | found (name : String) (arrival : Arrival α)
deriving DecidableEq, Repr

abbrev Happenings (α : Type) := List (Happening α)

namespace Happening

def sent? : Happening α → Option α
  | .sent a => some a
  | _ => none

def foundBy? (name : String) : Happening α → Option (Arrival α)
  | .found n arrival => if n = name then some arrival else none
  | _ => none

/-- What has happened since a reader began, once this has happened too. -/
def since (name : String) (later : Option (Happenings α)) (r : Happening α) : Option (Happenings α) :=
  match r with
  | .begun n => if n = name then some [] else later.map (· ++ [r])
  | .ended n => if n = name then none else later.map (· ++ [r])
  | .sent _ | .found _ _ => later.map (· ++ [r])

end Happening

namespace Happenings

def sent (rs : Happenings α) : List α := rs.filterMap Happening.sent?

/-- What a reader found, in order. -/
def found (rs : Happenings α) (name : String) : List (Arrival α) :=
  rs.filterMap (Happening.foundBy? name)

/-- What has happened since a reader began; nothing when it does not read. -/
def since (rs : Happenings α) (name : String) : Option (Happenings α) :=
  rs.foldl (Happening.since name) none

variable (rs : Happenings α) (r : Happening α) (name : String)

theorem sent_snoc : sent (rs ++ [r]) = rs.sent ++ r.sent?.toList := by
  cases hr : r.sent? <;> simp [sent, hr]

theorem found_snoc : found (rs ++ [r]) name = rs.found name ++ (r.foundBy? name).toList := by
  cases hr : r.foundBy? name <;> simp [found, hr]

theorem since_snoc : since (rs ++ [r]) name = r.since name (rs.since name) := by
  rw [since, List.foldl_append]
  rfl

end Happenings

namespace Multicast

/-- Who reads under a name has a position, and is served there as by a queue of its own that knows no
bound. -/
def ServesSince (m : Multicast α) (name : String) : Option Nat → Option (Happenings α) → Prop :=
  Option.Rel fun position later => m.Serves position (later.found name) later.sent

/-- Everybody is served that reads, and nobody else has a position. -/
def ServesAll (m : Multicast α) (positions : String → Option Nat) (rs : Happenings α) : Prop :=
  ∀ name, m.ServesSince name (positions name) (rs.since name)

section ServesAll

variable {m : Multicast α} {positions positions' : String → Option Nat} {rs : Happenings α}
  {name n : String} {position? : Option Nat} {later? : Option (Happenings α)}

theorem ServesSince.sent (h : m.ServesSince name position? later?) (a : α) :
    (m.send a).ServesSince name position? (later?.map (· ++ [.sent a])) := by
  cases h with
  | none => exact .none
  | some serves =>
      refine .some ?_
      rw [Happenings.found_snoc, Happenings.sent_snoc]
      simpa [Happening.foundBy?, Happening.sent?] using serves.send a

/-- What concerns another reader is not noticed. -/
theorem ServesSince.unseen (h : m.ServesSince name position? later?) {r : Happening α}
    (hsent : r.sent? = none) (hfound : r.foundBy? name = none) :
    m.ServesSince name position? (later?.map (· ++ [r])) := by
  cases h with
  | none => exact .none
  | some serves =>
      refine .some ?_
      rw [Happenings.found_snoc, Happenings.sent_snoc, hsent, hfound]
      simpa using serves

theorem servesAll_nil (m : Multicast α) : m.ServesAll (fun _ => none) [] := fun _ => .none

theorem ServesAll.sent (h : m.ServesAll positions rs) (a : α) :
    (m.send a).ServesAll positions (rs ++ [.sent a]) := by
  intro n
  rw [Happenings.since_snoc]
  exact (h n).sent a

theorem ServesAll.begun (h : m.ServesAll positions rs)
    (hpositions : ∀ n, positions' n = if n = name then some m.sent else positions n) :
    m.ServesAll positions' (rs ++ [.begun name]) := by
  intro n
  rw [Happenings.since_snoc, Happening.since, hpositions]
  by_cases hn : n = name
  · rw [if_pos hn, if_pos hn.symm]
    exact .some m.serves_sent
  · rw [if_neg hn, if_neg (Ne.symm hn)]
    exact (h n).unseen rfl rfl

theorem ServesAll.ended (h : m.ServesAll positions rs)
    (hpositions : ∀ n, positions' n = if n = name then none else positions n) :
    m.ServesAll positions' (rs ++ [.ended name]) := by
  intro n
  rw [Happenings.since_snoc, Happening.since, hpositions]
  by_cases hn : n = name
  · rw [if_pos hn, if_pos hn.symm]
    exact .none
  · rw [if_neg hn, if_neg (Ne.symm hn)]
    exact (h n).unseen rfl rfl

/-- A reader that finds something goes on after it. -/
theorem ServesAll.found (h : m.ServesAll positions rs) {position : Nat}
    (hposition : positions name = some position)
    (hpositions : ∀ n, positions' n =
      if n = name then some (m.receive position).2 else positions n) (isClosed : Bool) :
    m.ServesAll positions' (rs ++ [.found name ((m.receive position).1.arrival isClosed)]) := by
  intro n
  rw [Happenings.since_snoc, Happening.since, hpositions]
  by_cases hn : n = name
  · subst hn
    have hn := h n
    rw [hposition] at hn
    rw [if_pos rfl]
    generalize rs.since n = later? at hn
    cases hn with
    | some serves =>
        refine .some ?_
        rw [Happenings.found_snoc, Happenings.sent_snoc]
        simpa [Happening.foundBy?, Happening.sent?] using serves.receive isClosed
  · rw [if_neg hn]
    exact (h n).unseen rfl (if_neg (Ne.symm hn))

/-- A reader has what it has not accounted for before it. -/
theorem ServesAll.reads (h : m.ServesAll positions rs) {later : Happenings α}
    (hsince : rs.since name = some later) :
    ∃ position unread, positions name = some position ∧
      Accounts (later.found name) later.sent unread ∧ m.Leaves position unread := by
  have hname := h name
  rw [hsince] at hname
  generalize positions name = position? at hname
  cases hname with
  | some serves =>
      obtain ⟨unread, accounts, leaves⟩ := serves
      exact ⟨_, unread, rfl, accounts, leaves⟩

theorem ServesAll.isSome_iff (h : m.ServesAll positions rs) (name : String) :
    (positions name).isSome = (rs.since name).isSome := by
  have hname := h name
  generalize positions name = position?, rs.since name = later? at hname
  cases hname <;> rfl

end ServesAll
end Multicast
end RepoWatch
