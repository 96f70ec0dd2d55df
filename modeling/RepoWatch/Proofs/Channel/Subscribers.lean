import Mathlib.Data.Finset.Card
import Mathlib.Data.List.Induction
import Mathlib.Order.Bounds.Defs
import RepoWatch.Channel.Outlet
import RepoWatch.Proofs.Channel.Audience
import RepoWatch.Proofs.Keyed
/-!
# The subscribers of an outlet

Values are emitted by any of the handles of an outlet while others subscribe, read and leave. What
was asked and answered tells what each subscriber has yet to read: the values that were emitted
since it subscribed, less those it found and those it was told it had lost.
-/

namespace RepoWatch.Outlet

variable {α : Type}

/-- What is done with an outlet, by one of its handles or by a subscriber. -/
inductive Request (α : Type) where
  | emit (handle : Nat) (value : α)
  | clone (handle : Nat)
  | dropHandle (handle : Nat)
  /-- Somebody with a name subscribes, instead of what it had before. -/
  | subscribe (handle : Nat) (name : String)
  | receive (name : String)
  | unsubscribe (name : String)
deriving DecidableEq, Repr

/-- The handle by which something is asked. -/
def Request.handle? : Request α → Option Nat
  | .emit handle _ | .clone handle | .dropHandle handle | .subscribe handle _ => some handle
  | .receive _ | .unsubscribe _ => none

inductive Answer (α : Type) where
  | done
  /-- How many subscribers a value was emitted to. -/
  | reached (count : Nat)
  | found (arrival : Arrival α)
  /-- The handle was dropped, or the name does not subscribe. -/
  | refused
deriving DecidableEq, Repr

/-- What was asked and answered, in order. -/
abbrev History (α : Type) := List (Request α × Answer α)

/-- An outlet, and which of its handles are in use, the oldest first. -/
structure Session (α : Type) where
  outlet : Outlet α
  handles : List Bool

namespace Session

/-- An outlet whose only handle is the one that was made with it. -/
def start (o : Outlet α) : Session α := ⟨o, [true]⟩

def uses (s : Session α) (handle : Nat) : Bool := s.handles[handle]?.getD false

/-- Whether the handle by which something is asked is in use, if one is needed. -/
def hears (s : Session α) (r : Request α) : Bool := r.handle?.all s.uses

def reply (s : Session α) : Request α → Answer α
  | .emit _ _ => .reached s.outlet.count
  | .clone _ | .dropHandle _ | .subscribe _ _ => .done
  | .receive name => (s.outlet.receive name).1.elim .refused .found
  | .unsubscribe name => if s.outlet.isSubscribed name then .done else .refused

def act (s : Session α) : Request α → Session α
  | .emit _ value => { s with outlet := s.outlet.emit value }
  | .clone _ => ⟨s.outlet.clone, s.handles ++ [true]⟩
  | .dropHandle handle => ⟨s.outlet.dropHandle, s.handles.set handle false⟩
  | .subscribe _ name => { s with outlet := s.outlet.subscribe name }
  | .receive name => { s with outlet := (s.outlet.receive name).2 }
  | .unsubscribe name => { s with outlet := s.outlet.unsubscribe name }

def answer (s : Session α) (r : Request α) : Answer α := if s.hears r then s.reply r else .refused

def next (s : Session α) (r : Request α) : Session α := if s.hears r then s.act r else s

def after (s : Session α) (requests : List (Request α)) : Session α := requests.foldl next s

def history (s : Session α) : List (Request α) → History α
  | [] => []
  | r :: requests => (r, s.answer r) :: (s.next r).history requests

theorem after_snoc (s : Session α) (requests : List (Request α)) (r : Request α) :
    s.after (requests ++ [r]) = (s.after requests).next r :=
  List.foldl_append

theorem history_snoc (s : Session α) (requests : List (Request α)) (r : Request α) :
    s.history (requests ++ [r]) = s.history requests ++ [(r, (s.after requests).answer r)] := by
  induction requests generalizing s with
  | nil => rfl
  | cons r' requests ih => exact congrArg ((r', s.answer r') :: ·) (ih (s.next r'))

end Session

namespace History

def happening? : Request α × Answer α → Option (Happening α)
  | (.emit _ value, .reached _) => some (.sent value)
  | (.subscribe _ name, .done) => some (.begun name)
  | (.unsubscribe name, _) => some (.ended name)
  | (.receive name, .found arrival) => some (.found name arrival)
  | _ => none

/-- What has happened at the log: values were emitted, by whichever handle, and subscribers came,
found something and left. -/
def happenings (h : History α) : Happenings α := h.filterMap happening?

theorem happenings_snoc (h : History α) (m : Request α × Answer α) :
    happenings (h ++ [m]) = h.happenings ++ (happening? m).toList := by
  cases hm : happening? m <;> simp [happenings, hm]

end History

/-! ## Positions -/

/-- Where a subscriber reads next. -/
def position? (o : Outlet α) (name : String) : Option Nat := o.subscribers.lookup name

section Positions

variable (o : Outlet α) (name n : String) (position : Nat)

theorem position?_unsubscribe : (o.unsubscribe name).position? n =
    if n = name then none else o.position? n := by
  split
  · rename_i heq
    rw [heq]
    exact Keyed.lookup_without_self _ _
  · rename_i hne
    exact Keyed.lookup_without_of_ne _ hne

theorem position?_subscribe : (o.subscribe name).position? n =
    if n = name then some o.log.sent else o.position? n := by
  split
  · rename_i heq
    rw [heq]
    exact Keyed.lookup_replaced_self _ _ _
  · rename_i hne
    exact Keyed.lookup_replaced_of_ne _ _ hne

theorem position?_moveTo {p : Nat} (h : o.position? name = some p) :
    (o.moveTo name position).position? n =
      if n = name then some position else o.position? n := by
  refine (Keyed.lookup_moved o.subscribers name n position).trans ?_
  by_cases hn : n = name
  · rw [if_pos hn, if_pos hn, hn, show o.subscribers.lookup name = some p from h, Option.map_some]
  · rw [if_neg hn, if_neg hn]
    rfl

/-- A subscriber finds what the log has for its position, and that there will be no more if the
outlet is closed. -/
theorem receive_of_position {o : Outlet α} {name : String} {position : Nat}
    (h : o.position? name = some position) :
    o.receive name = (some ((o.log.receive position).1.arrival o.isClosed),
      o.moveTo name (o.log.receive position).2) := by
  rw [receive, show o.subscribers.lookup name = some position from h]
  rfl

theorem receive_of_position_none {o : Outlet α} {name : String} (h : o.position? name = none) :
    o.receive name = (none, o) := by
  rw [receive, show o.subscribers.lookup name = none from h]

end Positions

/-- As many values are held as the least power of two that has room for what was asked for. -/
theorem isLeast_slots (capacity : Nat) :
    IsLeast {n | max capacity 1 ≤ n ∧ ∃ k, n = Nat.pow 2 k} (slots capacity) := by
  unfold slots
  by_cases hsmall : capacity ≤ 1
  · rw [if_pos hsmall]
    refine ⟨⟨by omega, 0, rfl⟩, ?_⟩
    rintro n ⟨hn, -⟩
    omega
  · rw [if_neg hsmall]
    have hlow : Nat.pow 2 (capacity - 1).log2 ≤ capacity - 1 := Nat.log2_self_le (by omega)
    have hhigh : capacity - 1 < Nat.pow 2 ((capacity - 1).log2 + 1) := Nat.lt_log2_self
    refine ⟨⟨by omega, (capacity - 1).log2 + 1, rfl⟩, ?_⟩
    rintro n ⟨hn, k, rfl⟩
    have hlt : Nat.pow 2 (capacity - 1).log2 < Nat.pow 2 k := by omega
    have hexp : (capacity - 1).log2 < k := (Nat.pow_lt_pow_iff_right (by omega)).1 hlt
    exact Nat.pow_le_pow_right (by omega) hexp

/-! ## What the history tells -/

namespace Session

/-- An outlet is what its history tells. -/
structure Keeps (slots : Nat) (s : Session α) (h : History α) : Prop where
  capacity : s.outlet.log.capacity = slots
  handles : s.outlet.handles = s.handles.count true
  nodup : (s.outlet.subscribers.map Prod.fst).Nodup
  readers : s.outlet.log.ServesAll s.outlet.position? h.happenings

section Keeps

variable {slots : Nat} {s : Session α} {h : History α} {name : String}

theorem uses_iff {handle : Nat} : s.uses handle = true ↔ s.handles[handle]? = some true := by
  unfold uses
  cases s.handles[handle]? <;> simp

theorem capacity_next (s : Session α) (r : Request α) :
    (s.next r).outlet.log.capacity = s.outlet.log.capacity := by
  unfold next
  split
  · cases r with
    | receive name =>
        show (s.outlet.receive name).2.log.capacity = s.outlet.log.capacity
        unfold receive
        split <;> rfl
    | emit | clone | dropHandle | subscribe | unsubscribe => rfl
  · rfl

/-- As many handles are counted as are in use. -/
theorem handles_next (hs : s.outlet.handles = s.handles.count true) (r : Request α) :
    (s.next r).outlet.handles = (s.next r).handles.count true := by
  unfold next
  cases hr : s.hears r with
  | false => exact hs
  | true =>
      cases r with
      | clone handle =>
          show s.outlet.handles + 1 = (s.handles ++ [true]).count true
          simp [hs]
      | dropHandle handle =>
          show s.outlet.handles - 1 = (s.handles.set handle false).count true
          obtain ⟨hlt, hused⟩ := List.getElem?_eq_some_iff.1 (uses_iff.1 hr)
          rw [List.count_set hlt, hused, hs]
          simp
      | receive name =>
          show (s.outlet.receive name).2.handles = s.handles.count true
          unfold receive
          split <;> exact hs
      | emit | subscribe | unsubscribe => exact hs

theorem nodup_next (hs : (s.outlet.subscribers.map Prod.fst).Nodup) (r : Request α) :
    ((s.next r).outlet.subscribers.map Prod.fst).Nodup := by
  unfold next
  split
  · cases r with
    | subscribe handle name => exact Keyed.nodup_replaced hs name s.outlet.log.sent
    | unsubscribe name => exact Keyed.nodup_without hs name
    | receive name =>
        show ((s.outlet.receive name).2.subscribers.map Prod.fst).Nodup
        unfold receive
        split
        · exact hs
        · exact (Keyed.keys_moved s.outlet.subscribers name _).symm ▸ hs
    | emit | clone | dropHandle => exact hs
  · exact hs

/-- What is not heard is no concern of the subscribers. -/
theorem happening?_of_not_hears {r : Request α} (hr : s.hears r = false) :
    History.happening? (r, .refused) = none := by
  cases r with
  | receive | unsubscribe => cases hr
  | emit | clone | dropHandle | subscribe => rfl

theorem servesAll_receive {rs : Happenings α} (hs : s.outlet.log.ServesAll s.outlet.position? rs) :
    (s.act (.receive name)).outlet.log.ServesAll (s.act (.receive name)).outlet.position?
      (rs ++ (History.happening? (.receive name, s.reply (.receive name))).toList) := by
  rw [act, reply]
  cases hposition : s.outlet.position? name with
  | none =>
      rw [receive_of_position_none hposition]
      simpa [History.happening?] using hs
  | some position =>
      rw [receive_of_position hposition]
      exact hs.found hposition (fun n => s.outlet.position?_moveTo name n _ hposition) _

theorem servesAll_next {rs : Happenings α} (hs : s.outlet.log.ServesAll s.outlet.position? rs)
    (r : Request α) :
    (s.next r).outlet.log.ServesAll (s.next r).outlet.position?
      (rs ++ (History.happening? (r, s.answer r)).toList) := by
  unfold next answer
  cases hr : s.hears r with
  | false =>
      rw [if_neg Bool.false_ne_true, if_neg Bool.false_ne_true, happening?_of_not_hears hr]
      simpa using hs
  | true =>
      rw [if_pos rfl, if_pos rfl]
      cases r with
      | emit handle value => exact hs.sent value
      | clone | dropHandle =>
          rw [← List.append_nil rs] at hs
          exact hs
      | subscribe handle name => exact hs.begun (s.outlet.position?_subscribe name)
      | unsubscribe name => exact hs.ended (s.outlet.position?_unsubscribe name)
      | receive name => exact servesAll_receive hs

theorem Keeps.next (k : s.Keeps slots h) (r : Request α) :
    (s.next r).Keeps slots (h ++ [(r, s.answer r)]) where
  capacity := (s.capacity_next r).trans k.capacity
  handles := handles_next k.handles r
  nodup := nodup_next k.nodup r
  readers := by
    rw [History.happenings_snoc]
    exact servesAll_next k.readers r

theorem keeps_start {capacity : Nat} {o : Outlet α} (ho : ofCapacity? capacity = some o) :
    (start o).Keeps (Outlet.slots capacity) [] := by
  unfold ofCapacity? at ho
  split at ho
  · obtain rfl := Option.some.inj ho
    exact ⟨rfl, rfl, List.nodup_nil, Multicast.servesAll_nil _⟩
  · cases ho

/-- An outlet is what its history tells, whatever is done with it. -/
theorem keeps_after {o : Outlet α} (k : (start o).Keeps slots []) (requests : List (Request α)) :
    ((start o).after requests).Keeps slots ((start o).history requests) := by
  induction requests using List.reverseRecOn with
  | nil => exact k
  | append_singleton requests r ih =>
      rw [after_snoc, history_snoc]
      exact ih.next r

theorem Keeps.isClosed_iff (k : s.Keeps slots h) :
    s.outlet.isClosed = true ↔ true ∉ s.handles := by
  rw [isClosed, beq_iff_eq, k.handles, List.count_eq_zero]

/-- As many are counted as subscribe. -/
theorem Keeps.count_eq (k : s.Keeps slots h) :
    ∃ names : Finset String, (∀ name, name ∈ names ↔ (h.happenings.since name).isSome = true) ∧
      s.outlet.count = names.card := by
  refine ⟨(s.outlet.subscribers.map Prod.fst).toFinset, fun name => ?_, ?_⟩
  · rw [List.mem_toFinset, Keyed.mem_keys_iff, ← k.readers.isSome_iff, Option.isSome_iff_exists]
    rfl
  · rw [List.toFinset_card_of_nodup k.nodup, List.length_map, count]

/-- A subscriber has certain values unread. -/
def Reads (s : Session α) (name : String) (unread : List α) : Prop :=
  ∃ position, s.outlet.position? name = some position ∧ s.outlet.log.Leaves position unread

theorem Keeps.reads (k : s.Keeps slots h) {later : Happenings α}
    (hsince : h.happenings.since name = some later) :
    ∃ unread, Accounts (later.found name) later.sent unread ∧ s.Reads name unread := by
  obtain ⟨position, unread, hposition, accounts, leaves⟩ := k.readers.reads hsince
  exact ⟨unread, accounts, position, hposition, leaves⟩

/-- A subscriber finds what is due to it, and goes on with the rest. -/
theorem Reads.receive {unread : List α} (hr : s.Reads name unread) :
    let arrival := Arrival.next s.outlet.log.capacity s.outlet.isClosed unread
    s.answer (.receive name) = .found arrival ∧
      (s.next (.receive name)).Reads name (arrival.rest unread) := by
  intro arrival
  obtain ⟨position, hposition, leaves⟩ := hr
  obtain ⟨hfound, leaves'⟩ := leaves.receive s.outlet.isClosed
  have hreceive := receive_of_position hposition
  have hnext : (s.next (.receive name)).outlet =
      s.outlet.moveTo name (s.outlet.log.receive position).2 := congrArg Prod.snd hreceive
  refine ⟨?_, (s.outlet.log.receive position).2, ?_, ?_⟩
  · show s.reply (.receive name) = .found arrival
    rw [reply, hreceive, hfound, Option.elim_some]
  · rw [hnext, position?_moveTo _ _ _ _ hposition, if_pos rfl]
  · rw [hnext]
    exact leaves'

theorem Reads.emit {unread : List α} (hr : s.Reads name unread) {handle : Nat}
    (huses : s.uses handle = true) (value : α) :
    (s.next (.emit handle value)).Reads name (unread ++ [value]) := by
  obtain ⟨position, hposition, leaves⟩ := hr
  have hnext : s.next (.emit handle value) = s.act (.emit handle value) := if_pos huses
  rw [hnext]
  exact ⟨position, hposition, leaves.send value⟩

theorem found_receive (name : String) (n : Nat) {arrival : Arrival α}
    (hanswer : s.answer (.receive name) = .found arrival) :
    (History.happenings (s.history (List.replicate (n + 1) (.receive name)))).found name =
      arrival :: (History.happenings
        ((s.next (.receive name)).history (List.replicate n (.receive name)))).found name := by
  rw [List.replicate_succ, history, hanswer]
  simp [History.happenings, History.happening?, Happenings.found, Happening.foundBy?]

/-- Whoever reads on comes to the value that was emitted last. -/
theorem Reads.exists_receives {before : List α} {value : α}
    (hr : s.Reads name (before ++ [value])) (hslots : 0 < s.outlet.log.capacity) :
    ∃ n, ((History.happenings
      (s.history (List.replicate n (.receive name)))).found name).getLast? =
      some (.value value) := by
  induction hn : before.length using Nat.strong_induction_on generalizing s before with
  | _ k ih =>
    obtain ⟨hanswer, hrest⟩ := hr.receive
    -- What is left for the second reading is shorter, and ends with the same value.
    have hshorter : ∀ before' : List α, before'.length < k →
        (s.next (.receive name)).Reads name (before' ++ [value]) →
        ∃ n, ((History.happenings
          (s.history (List.replicate n (.receive name)))).found name).getLast? =
          some (.value value) := by
      intro before' hlt hr'
      obtain ⟨n, hlast⟩ := ih _ hlt hr' (by rwa [capacity_next]) rfl
      refine ⟨n + 1, ?_⟩
      rw [found_receive name n hanswer, List.getLast?_cons, hlast, Option.getD_some]
    rcases Arrival.next_cases s.outlet.log.capacity s.outlet.isClosed (before ++ [value]) with
      ⟨hexcess, hnext⟩ | ⟨a, rest, hcons, -, hnext⟩ | ⟨hnil, -⟩
    · rw [hnext] at hrest
      rw [List.length_append, List.length_singleton] at hexcess hrest
      have hle : before.length + 1 - s.outlet.log.capacity ≤ before.length := by omega
      rw [Arrival.rest, List.drop_append_of_le_length hle] at hrest
      refine hshorter _ ?_ hrest
      rw [List.length_drop]
      omega
    · rw [hnext] at hrest hanswer
      cases before with
      | nil =>
          obtain ⟨rfl, rfl⟩ := List.cons_eq_cons.1 hcons
          refine ⟨1, ?_⟩
          rw [found_receive name 0 hanswer]
          rfl
      | cons b before =>
          refine hshorter before ?_ hrest
          rw [← hn, List.length_cons]
          omega
    · simp at hnil

/-- Whatever is done with an outlet that was asked for with a capacity, each subscriber finds the
values that were emitted since it subscribed, by whichever handle, each once and in order. Only when
more are unread than the outlet holds, which is the least power of two that has room for the
capacity, the excess is lost, and the subscriber is told how much that is. It finds nothing only when
all is read, and the outlet closed only when all handles were dropped besides. A value reaches as
many as subscribe, and each of them comes to it. -/
theorem subscribers_find_all (capacity : Nat) (hcapacity : capacity ≤ capacityLimit) :
    let slots := Outlet.slots capacity
    IsLeast {n | max capacity 1 ≤ n ∧ ∃ k, n = Nat.pow 2 k} slots ∧
    ∃ o : Outlet α, ofCapacity? capacity = some o ∧ ∀ requests,
      let s := (start o).after requests
      let h := (start o).history requests
      (∀ name later, h.happenings.since name = some later →
        ∃ unread arrival, Accounts (later.found name) later.sent unread ∧
          s.answer (.receive name) = .found arrival ∧
          (∀ lost, arrival = .lagged lost ↔
            slots < unread.length ∧ lost = unread.length - slots) ∧
          (∀ a, arrival = .value a ↔ unread.length ≤ slots ∧ unread.head? = some a) ∧
          (arrival = .empty ↔ unread = [] ∧ true ∈ s.handles) ∧
          (arrival = .closed ↔ unread = [] ∧ true ∉ s.handles)) ∧
      (∀ handle value, s.uses handle = true →
        ∃ names : Finset String,
          (∀ name, name ∈ names ↔ (h.happenings.since name).isSome = true) ∧
          s.answer (.emit handle value) = .reached names.card ∧
          ∀ name ∈ names, ∃ n,
            ((History.happenings ((s.next (.emit handle value)).history
              (List.replicate n (.receive name)))).found name).getLast? =
              some (.value value)) := by
  intro slots
  have hleast := isLeast_slots capacity
  have hofCapacity : ofCapacity? capacity = some (⟨.empty slots, 1, []⟩ : Outlet α) :=
    if_pos hcapacity
  refine ⟨hleast, _, hofCapacity, fun requests => ?_⟩
  intro s h
  have k : s.Keeps slots h := keeps_after (keeps_start hofCapacity) requests
  refine ⟨fun name later hsince => ?_, fun handle value huses => ?_⟩
  · obtain ⟨unread, accounts, hreads⟩ := k.reads hsince
    have hanswer := hreads.receive.1
    rw [k.capacity] at hanswer
    refine ⟨unread, _, accounts, hanswer, fun lost => Arrival.next_eq_lagged_iff,
      fun a => Arrival.next_eq_value_iff, ?_, ?_⟩
    · rw [Arrival.next_eq_empty_iff, ← Bool.not_eq_true, k.isClosed_iff, not_not]
    · rw [Arrival.next_eq_closed_iff, k.isClosed_iff]
  · obtain ⟨names, hnames, hcount⟩ := k.count_eq
    refine ⟨names, hnames, ?_, fun name hname => ?_⟩
    · have hanswer : s.answer (.emit handle value) = .reached s.outlet.count := if_pos huses
      rw [hanswer, hcount]
    · obtain ⟨later, hsince⟩ := Option.isSome_iff_exists.1 ((hnames name).1 hname)
      obtain ⟨unread, -, hreads⟩ := k.reads hsince
      have hslots : 0 < (s.next (.emit handle value)).outlet.log.capacity := by
        rw [capacity_next, k.capacity]
        have hroom : max capacity 1 ≤ slots := hleast.1.1
        omega
      exact (hreads.emit huses value).exists_receives hslots

/-- Six values come from two handles of an outlet that was asked for with room for three, and has
room for four. -/
def overrun : List (Request Nat) :=
  [.subscribe 0 "late", .clone 0, .emit 0 1, .emit 1 2, .emit 0 3, .emit 1 4, .emit 0 5, .emit 1 6,
    .dropHandle 0]

theorem subscribers_find_all_overrun :
    3 ≤ capacityLimit ∧ ∃ o : Outlet Nat, ofCapacity? 3 = some o ∧
      let s := (start o).after overrun
      s.answer (.receive "late") = .found (.lagged 2) ∧ s.uses 1 = true ∧
      ∃ n, ((History.happenings ((s.next (.emit 1 7)).history
        (List.replicate n (.receive "late")))).found "late").getLast? = some (.value 7) := by
  have hlimit : 3 ≤ capacityLimit := by decide
  obtain ⟨-, o, ho, hall⟩ := subscribers_find_all (α := Nat) 3 hlimit
  obtain rfl := Option.some.inj ho
  obtain ⟨hread, hemit⟩ := hall overrun
  refine ⟨hlimit, _, ho, ?_, rfl, ?_⟩
  · obtain ⟨unread, arrival, accounts, hanswer, hlagged, -⟩ := hread "late" _ rfl
    cases accounts with
    | nothing => rw [hanswer, (hlagged 2).2 (by decide)]
  · obtain ⟨names, hnames, -, hcomes⟩ := hemit 1 7 rfl
    exact hcomes "late" ((hnames "late").2 rfl)

end Keeps
end Session
end RepoWatch.Outlet
