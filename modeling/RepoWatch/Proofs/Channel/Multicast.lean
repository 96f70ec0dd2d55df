import RepoWatch.Channel.Multicast
/-!
# Readers of a multicast log

What a reader has before it, how receiving takes the first of it, and how sending appends to it or,
when the log is full, pushes its beginning out. What a log becomes by taking several values is said
without sending: by how many it has taken, and by what it holds.
-/

namespace RepoWatch.Multicast

variable {α : Type}

/-- The values that are held and that the reader at a position has not read. -/
def ahead (m : Multicast α) (position : Nat) : List α := m.held.drop (position - m.oldest)

/-- The reader at a position will come across a value, or be told of a loss. -/
def Concerns (m : Multicast α) (position : Nat) (a : α) : Prop :=
  position < m.oldest ∨ a ∈ m.ahead position

theorem oldest_eq (m : Multicast α) : m.oldest = m.sent - m.capacity := by
  have := m.held_length
  unfold oldest
  omega

theorem oldest_le_sent (m : Multicast α) : m.oldest ≤ m.sent := Nat.sub_le _ _

@[simp] theorem sent_send (m : Multicast α) (a : α) : (m.send a).sent = m.sent + 1 := rfl

@[simp] theorem capacity_send (m : Multicast α) (a : α) : (m.send a).capacity = m.capacity := rfl

theorem oldest_le_oldest_send (m : Multicast α) (a : α) : m.oldest ≤ (m.send a).oldest := by
  rw [oldest_eq, oldest_eq, sent_send, capacity_send]
  omega

@[simp] theorem ahead_sent (m : Multicast α) : m.ahead m.sent = [] := by
  have := m.held_length
  apply List.drop_eq_nil_of_le
  unfold oldest
  omega

/-- The value sent comes last for a reader that does not lose anything by it. -/
theorem ahead_send {m : Multicast α} {position : Nat} (a : α) (hle : position ≤ m.sent)
    (hkept : (m.send a).oldest ≤ position) :
    (m.send a).ahead position = m.ahead position ++ [a] := by
  have hlength := m.held_length
  have hold := m.oldest_eq
  rw [oldest_eq, sent_send, capacity_send] at hkept
  have hshift : m.held.length + 1 - m.capacity + (position - (m.send a).oldest) =
      position - m.oldest := by
    rw [oldest_eq (m.send a), sent_send, capacity_send]
    omega
  unfold ahead
  rw [show (m.send a).held = (m.held ++ [a]).drop (m.held.length + 1 - m.capacity) from rfl,
    List.drop_drop, hshift, List.drop_append_of_le_length (by omega)]

theorem mem_ahead_send {m : Multicast α} {position : Nat} {a b : α} (hle : position ≤ m.sent)
    (h : b ∈ (m.send a).ahead position) : b ∈ m.ahead position ∨ b = a := by
  by_cases hkept : (m.send a).oldest ≤ position
  · rw [ahead_send a hle hkept] at h
    simpa using h
  · have hzero : position - (m.send a).oldest = 0 := by omega
    rw [ahead, hzero, List.drop_zero] at h
    have hmem : b ∈ m.held ++ [a] := List.mem_of_mem_drop h
    have hfirst : position - m.oldest = 0 := by
      rw [oldest_eq, sent_send, capacity_send] at hkept
      rw [oldest_eq]
      omega
    rw [ahead, hfirst, List.drop_zero]
    simpa using hmem

theorem ahead_mono {m : Multicast α} {i j : Nat} {a : α} (hle : i ≤ j) (h : a ∈ m.ahead j) :
    a ∈ m.ahead i :=
  (List.drop_sublist_drop_left _ (Nat.sub_le_sub_right hle _)).subset h

/-- What receiving can find: a loss, the first value ahead, or nothing. -/
theorem receive_cases (m : Multicast α) (position : Nat) :
    (position < m.oldest ∧ m.receive position = (.lagged (m.oldest - position), m.oldest)) ∨
    (∃ a, m.oldest ≤ position ∧ m.receive position = (.value a, position + 1) ∧
      position < m.sent ∧ m.ahead position = a :: m.ahead (position + 1)) ∨
    (m.oldest ≤ position ∧ m.receive position = (.nothing, position) ∧ m.ahead position = []) := by
  unfold receive
  by_cases hlag : position < m.oldest
  · exact .inl ⟨hlag, if_pos hlag⟩
  · rw [if_neg hlag]
    have hle : m.oldest ≤ position := Nat.le_of_not_lt hlag
    cases hget : m.held[position - m.oldest]? with
    | none =>
        refine .inr (.inr ⟨hle, rfl, ?_⟩)
        exact List.drop_eq_nil_of_le (List.getElem?_eq_none_iff.1 hget)
    | some a =>
        obtain ⟨hlt, hval⟩ := List.getElem?_eq_some_iff.1 hget
        have hnext : position + 1 - m.oldest = position - m.oldest + 1 := by omega
        refine .inr (.inl ⟨a, hle, rfl, ?_, ?_⟩)
        · have hlength := m.held_length
          unfold oldest at hle hlt
          omega
        · rw [ahead, ahead, hnext, List.drop_eq_getElem_cons hlt, hval]

theorem receive_position_le {m : Multicast α} {position : Nat} (hle : position ≤ m.sent) :
    (m.receive position).2 ≤ m.sent := by
  rcases m.receive_cases position with ⟨-, h⟩ | ⟨a, -, h, hlt, -⟩ | ⟨-, h, -⟩ <;> rw [h]
  · exact m.oldest_le_sent
  · exact hlt
  · exact hle

theorem concerns_send_self {m : Multicast α} {position : Nat} (a : α) (hle : position ≤ m.sent) :
    (m.send a).Concerns position a := by
  by_cases hkept : (m.send a).oldest ≤ position
  · right
    rw [ahead_send a hle hkept]
    simp
  · exact .inl (Nat.lt_of_not_le hkept)

theorem Concerns.send {m : Multicast α} {position : Nat} {a : α} (b : α)
    (h : m.Concerns position a) (hle : position ≤ m.sent) : (m.send b).Concerns position a := by
  by_cases hkept : (m.send b).oldest ≤ position
  · rcases h with hlost | hmem
    · exact absurd (Nat.lt_of_lt_of_le hlost (m.oldest_le_oldest_send b)) (by omega)
    · right
      rw [ahead_send b hle hkept]
      exact List.mem_append_left _ hmem
  · exact .inl (Nat.lt_of_not_le hkept)

/-- Reading another value leaves a reader concerned. -/
theorem Concerns.tail {m : Multicast α} {position : Nat} {a b : α} (h : m.Concerns position a)
    (hle : m.oldest ≤ position) (hahead : m.ahead position = b :: m.ahead (position + 1))
    (hne : b ≠ a) : m.Concerns (position + 1) a := by
  rcases h with hlost | hmem
  · omega
  · rw [hahead] at hmem
    rcases List.mem_cons.1 hmem with rfl | hmem
    · exact absurd rfl hne
    · exact .inr hmem

/-- A reader that finds nothing is not concerned. -/
theorem not_concerns_of_receive_nothing {m : Multicast α} {position : Nat} {a : α}
    (h : (m.receive position).1 = .nothing) : ¬ m.Concerns position a := by
  rcases m.receive_cases position with ⟨-, hr⟩ | ⟨b, -, hr, -, -⟩ | ⟨hle, -, hahead⟩
  · rw [hr] at h
    cases h
  · rw [hr] at h
    cases h
  · rintro (hlost | hmem)
    · omega
    · rw [hahead] at hmem
      cases hmem

/-- The same log of other values. -/
def map {β : Type} (f : α → β) (m : Multicast α) : Multicast β :=
  ⟨m.capacity, m.sent, m.held.map f, by rw [List.length_map, m.held_length]⟩

/-- What a log becomes by taking values, in order: it holds the last of what it held and of these, as
many as it may. -/
structure Takes (m : Multicast α) (values : List α) (m' : Multicast α) : Prop where
  capacity_eq : m'.capacity = m.capacity
  sent_eq : m'.sent = m.sent + values.length
  held_suffix : m'.held <:+ m.held ++ values

section Takes

variable {m m' m'' : Multicast α} {values values' : List α}

theorem Takes.refl (m : Multicast α) : m.Takes [] m := ⟨rfl, rfl, [], by simp⟩

theorem Takes.trans (h : m.Takes values m') (h' : m'.Takes values' m'') :
    m.Takes (values ++ values') m'' where
  capacity_eq := h'.capacity_eq.trans h.capacity_eq
  sent_eq := by rw [h'.sent_eq, h.sent_eq, List.length_append, Nat.add_assoc]
  held_suffix := by
    obtain ⟨lost, hlost⟩ := h.held_suffix
    refine h'.held_suffix.trans ⟨lost, ?_⟩
    rw [← List.append_assoc, hlost, List.append_assoc]

theorem takes_send (m : Multicast α) (a : α) : m.Takes [a] (m.send a) :=
  ⟨rfl, rfl, List.drop_suffix _ _⟩

theorem Takes.map {β : Type} (f : α → β) (h : m.Takes values m') :
    (m.map f).Takes (values.map f) (m'.map f) where
  capacity_eq := h.capacity_eq
  sent_eq := by
    rw [List.length_map]
    exact h.sent_eq
  held_suffix := by
    have hsuffix := h.held_suffix.map f
    rwa [List.map_append] at hsuffix

/-- What a log becomes by taking values is determined. -/
theorem Takes.eq (h : m.Takes values m') (h' : m.Takes values m'') : m' = m'' := by
  have hcapacity := h.capacity_eq.trans h'.capacity_eq.symm
  have hsent := h.sent_eq.trans h'.sent_eq.symm
  have hlength : m'.held.length = m''.held.length := by
    rw [m'.held_length, m''.held_length, hcapacity, hsent]
  have hheld : m'.held = m''.held := by
    rw [List.suffix_iff_eq_drop.1 h.held_suffix, List.suffix_iff_eq_drop.1 h'.held_suffix, hlength]
  cases m'
  cases m''
  congr

theorem takes_nil_iff : m.Takes [] m' ↔ m' = m := by
  constructor
  · exact fun h => h.eq (.refl m)
  · rintro rfl
    exact .refl m'

end Takes

end RepoWatch.Multicast
