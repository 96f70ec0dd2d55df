import RepoWatch.Proofs.Channel.Multicast
/-!
# Readers and unbounded queues

To each reader a multicast log is a queue of its own that knows no bound: what is sent is appended,
what the reader finds is taken from the front. The bound shows only when the reader has more unread
than the log holds. Then exactly the excess is skipped, and the reader is told how much that is.
-/

namespace RepoWatch

variable {α : Type}

/-- What a reader found, told against the values that were sent since it began: a value is the next
of them, a loss stands for as many as it tells, and what comes after them is unread. -/
inductive Accounts : List (Arrival α) → List α → List α → Prop where
  | nothing (unread : List α) : Accounts [] unread unread
  | value {found : List (Arrival α)} {sent unread : List α} (a : α)
      (h : Accounts found sent unread) : Accounts (.value a :: found) (a :: sent) unread
  | lagged {found : List (Arrival α)} {sent unread : List α} (lost : List α)
      (h : Accounts found sent unread) :
      Accounts (.lagged lost.length :: found) (lost ++ sent) unread
  | empty {found : List (Arrival α)} {sent unread : List α} (h : Accounts found sent unread) :
      Accounts (.empty :: found) sent unread
  | closed {found : List (Arrival α)} {sent unread : List α} (h : Accounts found sent unread) :
      Accounts (.closed :: found) sent unread

/-- What a reader is to find next that has certain values unread, when so many are held. -/
def Arrival.next (slots : Nat) (isClosed : Bool) (unread : List α) : Arrival α :=
  if slots < unread.length then .lagged (unread.length - slots)
  else
    match unread with
    | a :: _ => .value a
    | [] => if isClosed then .closed else .empty

/-- What is unread after something was found. -/
def Arrival.rest (unread : List α) : Arrival α → List α
  | .value _ => unread.tail
  | .lagged lost => unread.drop lost
  | .empty | .closed => unread

section Accounts

variable {found found' : List (Arrival α)} {sent unread unread' : List α}

theorem Accounts.append (h : Accounts found sent unread) (h' : Accounts found' unread unread') :
    Accounts (found ++ found') sent unread' := by
  induction h with
  | nothing => exact h'
  | value a _ ih => exact .value a (ih h')
  | lagged lost _ ih => exact .lagged lost (ih h')
  | empty _ ih => exact .empty (ih h')
  | closed _ ih => exact .closed (ih h')

/-- What is sent later is unread. -/
theorem Accounts.send (h : Accounts found sent unread) (later : List α) :
    Accounts found (sent ++ later) (unread ++ later) := by
  induction h with
  | nothing unread => exact .nothing (unread ++ later)
  | value a _ ih => exact .value a ih
  | lagged lost _ ih =>
      rw [List.append_assoc]
      exact .lagged lost ih
  | empty _ ih => exact .empty ih
  | closed _ ih => exact .closed ih

end Accounts

section Next

variable {slots : Nat} {isClosed : Bool} {unread : List α}

theorem Arrival.next_cases (slots : Nat) (isClosed : Bool) (unread : List α) :
    (slots < unread.length ∧
      Arrival.next slots isClosed unread = .lagged (unread.length - slots)) ∨
    (∃ a rest, unread = a :: rest ∧ unread.length ≤ slots ∧
      Arrival.next slots isClosed unread = .value a) ∨
    (unread = [] ∧
      Arrival.next slots isClosed unread = if isClosed then .closed else .empty) := by
  unfold next
  by_cases hexcess : slots < unread.length
  · exact .inl ⟨hexcess, if_pos hexcess⟩
  · rw [if_neg hexcess]
    cases unread with
    | nil => exact .inr (.inr ⟨rfl, rfl⟩)
    | cons a rest => exact .inr (.inl ⟨a, rest, rfl, Nat.le_of_not_lt hexcess, rfl⟩)

/-- Only an excess is reported, and exactly as much as it is. -/
theorem Arrival.next_eq_lagged_iff {lost : Nat} :
    Arrival.next slots isClosed unread = .lagged lost ↔
      slots < unread.length ∧ lost = unread.length - slots := by
  rcases Arrival.next_cases slots isClosed unread with ⟨hexcess, hnext⟩ |
    ⟨a, rest, -, hle, hnext⟩ | ⟨rfl, hnext⟩ <;> rw [hnext]
  · simp [hexcess, eq_comm]
  · simp [Nat.not_lt.2 hle]
  · cases isClosed <;> simp

theorem Arrival.next_eq_value_iff {a : α} :
    Arrival.next slots isClosed unread = .value a ↔
      unread.length ≤ slots ∧ unread.head? = some a := by
  rcases Arrival.next_cases slots isClosed unread with ⟨hexcess, hnext⟩ |
    ⟨b, rest, rfl, hle, hnext⟩ | ⟨rfl, hnext⟩ <;> rw [hnext]
  · simp [Nat.not_le.2 hexcess]
  · simpa using fun _ => hle
  · cases isClosed <;> simp

theorem Arrival.next_eq_empty_iff :
    Arrival.next slots isClosed unread = .empty ↔ unread = [] ∧ isClosed = false := by
  rcases Arrival.next_cases slots isClosed unread with ⟨hexcess, hnext⟩ |
    ⟨a, rest, rfl, -, hnext⟩ | ⟨rfl, hnext⟩ <;> rw [hnext]
  · have hne : unread ≠ [] := List.ne_nil_of_length_pos (Nat.zero_lt_of_lt hexcess)
    simp [hne]
  · simp
  · cases isClosed <;> simp

theorem Arrival.next_eq_closed_iff :
    Arrival.next slots isClosed unread = .closed ↔ unread = [] ∧ isClosed = true := by
  rcases Arrival.next_cases slots isClosed unread with ⟨hexcess, hnext⟩ |
    ⟨a, rest, rfl, -, hnext⟩ | ⟨rfl, hnext⟩ <;> rw [hnext]
  · have hne : unread ≠ [] := List.ne_nil_of_length_pos (Nat.zero_lt_of_lt hexcess)
    simp [hne]
  · simp
  · cases isClosed <;> simp

/-- What is found next takes its part from the front of what is unread. -/
theorem Accounts.next {found : List (Arrival α)} {sent : List α}
    (h : Accounts found sent unread) (slots : Nat) (isClosed : Bool) :
    Accounts (found ++ [.next slots isClosed unread]) sent
      ((Arrival.next slots isClosed unread).rest unread) := by
  refine h.append ?_
  rcases Arrival.next_cases slots isClosed unread with ⟨hexcess, hnext⟩ |
    ⟨a, rest, rfl, -, hnext⟩ | ⟨rfl, hnext⟩ <;> rw [hnext]
  · have hlost : (unread.take (unread.length - slots)).length = unread.length - slots := by
      rw [List.length_take]
      omega
    have hsplit := List.take_append_drop (unread.length - slots) unread
    have haccount := Accounts.lagged (unread.take (unread.length - slots))
      (.nothing (unread.drop (unread.length - slots)))
    rwa [hlost, hsplit] at haccount
  · exact .value a (.nothing rest)
  · cases isClosed
    · exact .empty (.nothing [])
    · exact .closed (.nothing [])

end Next

namespace Multicast

/-- The reader at a position has certain values unread, and the last of them are held for it. -/
structure Leaves (m : Multicast α) (position : Nat) (unread : List α) : Prop where
  sent_eq : m.sent = position + unread.length
  ahead_eq : m.ahead position = unread.drop (m.oldest - position)

/-- A reader finds at a log, and will find, what an unbounded queue gives that was sent the same. -/
def Serves (m : Multicast α) (position : Nat) (found : List (Arrival α)) (sent : List α) : Prop :=
  ∃ unread, Accounts found sent unread ∧ m.Leaves position unread

section Serves

variable {m : Multicast α} {position : Nat} {found : List (Arrival α)} {sent unread : List α}

theorem leaves_sent (m : Multicast α) : m.Leaves m.sent [] :=
  ⟨rfl, by rw [ahead_sent, List.drop_nil]⟩

theorem Leaves.send (h : m.Leaves position unread) (a : α) :
    (m.send a).Leaves position (unread ++ [a]) := by
  have hsent := h.sent_eq
  have hahead := h.ahead_eq
  have hlength := m.held_length
  have hold := m.oldest_eq
  have hold' := (m.send a).oldest_eq
  rw [sent_send, capacity_send] at hold'
  refine ⟨by simp [hsent, Nat.add_assoc], ?_⟩
  by_cases hkept : (m.send a).oldest ≤ position
  · have hbefore : m.oldest - position = 0 := by omega
    have hafter : (m.send a).oldest - position = 0 := by omega
    rw [ahead_send a (by omega) hkept, hahead, hbefore, hafter, List.drop_zero, List.drop_zero]
  · -- The reader is behind: all that is held is ahead of it, before and after.
    have hheld : m.held = unread.drop (m.oldest - position) := by
      rw [← hahead, ahead, show position - m.oldest = 0 by omega, List.drop_zero]
    have hshift : (m.send a).oldest - position =
        (m.oldest - position) + (m.held.length + 1 - m.capacity) := by omega
    calc (m.send a).ahead position
        = (m.send a).held := by
          rw [ahead, show position - (m.send a).oldest = 0 by omega, List.drop_zero]
      _ = (m.held ++ [a]).drop (m.held.length + 1 - m.capacity) := rfl
      _ = ((unread ++ [a]).drop (m.oldest - position)).drop
            (m.held.length + 1 - m.capacity) := by
          rw [List.drop_append_of_le_length (show m.oldest - position ≤ unread.length by omega),
            ← hheld]
      _ = (unread ++ [a]).drop ((m.send a).oldest - position) := by
          rw [List.drop_drop, hshift]

/-- A reader finds what an unbounded queue gives whose excess is cut off. -/
theorem Leaves.receive (h : m.Leaves position unread) (isClosed : Bool) :
    (m.receive position).1.arrival isClosed = .next m.capacity isClosed unread ∧
      m.Leaves (m.receive position).2
        ((Arrival.next m.capacity isClosed unread).rest unread) := by
  have hsent := h.sent_eq
  have hahead := h.ahead_eq
  have hold := m.oldest_eq
  rcases m.receive_cases position with ⟨hlag, hr⟩ | ⟨a, hle, hr, hlt, hnext⟩ | ⟨hle, hr, hnone⟩
  · have hlost : m.oldest - position = unread.length - m.capacity := by omega
    have hfound : Arrival.next m.capacity isClosed unread = .lagged (m.oldest - position) :=
      Arrival.next_eq_lagged_iff.2 ⟨by omega, hlost⟩
    rw [hr, hfound]
    refine ⟨rfl, ?_, ?_⟩
    · show m.sent = m.oldest + (unread.drop (m.oldest - position)).length
      rw [List.length_drop]
      omega
    · show m.ahead m.oldest = (unread.drop (m.oldest - position)).drop (m.oldest - m.oldest)
      rw [Nat.sub_self, List.drop_zero, ← hahead, ahead, ahead, Nat.sub_self,
        Nat.sub_eq_zero_of_le (Nat.le_of_lt hlag)]
  · have hkept : m.oldest - position = 0 := Nat.sub_eq_zero_of_le hle
    rw [hkept, List.drop_zero] at hahead
    obtain rfl : unread = a :: m.ahead (position + 1) := hahead.symm.trans hnext
    have hfound : Arrival.next m.capacity isClosed (a :: m.ahead (position + 1)) = .value a :=
      Arrival.next_eq_value_iff.2 ⟨by omega, rfl⟩
    rw [hr, hfound]
    refine ⟨rfl, ?_, ?_⟩
    · show m.sent = position + 1 + (m.ahead (position + 1)).length
      rw [hsent, List.length_cons]
      omega
    · show m.ahead (position + 1) = (m.ahead (position + 1)).drop (m.oldest - (position + 1))
      rw [Nat.sub_eq_zero_of_le (Nat.le_succ_of_le hle), List.drop_zero]
  · have hkept : m.oldest - position = 0 := Nat.sub_eq_zero_of_le hle
    rw [hkept, List.drop_zero, hnone] at hahead
    subst hahead
    rw [hr]
    cases isClosed <;> exact ⟨rfl, h⟩

theorem serves_sent (m : Multicast α) : m.Serves m.sent [] [] :=
  ⟨[], .nothing [], m.leaves_sent⟩

theorem Serves.send (h : m.Serves position found sent) (a : α) :
    (m.send a).Serves position found (sent ++ [a]) := by
  obtain ⟨unread, accounts, leaves⟩ := h
  exact ⟨unread ++ [a], accounts.send [a], leaves.send a⟩

theorem Serves.receive (h : m.Serves position found sent) (isClosed : Bool) :
    m.Serves (m.receive position).2 (found ++ [(m.receive position).1.arrival isClosed]) sent := by
  obtain ⟨unread, accounts, leaves⟩ := h
  obtain ⟨hfound, leaves'⟩ := leaves.receive isClosed
  rw [hfound]
  exact ⟨_, accounts.next m.capacity isClosed, leaves'⟩

end Serves
end Multicast
end RepoWatch
