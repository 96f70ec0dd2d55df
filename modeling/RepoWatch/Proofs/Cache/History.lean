import Mathlib.Data.Finmap
import Mathlib.Data.List.Induction
import RepoWatch.Proofs.Cache.Entries
import RepoWatch.Proofs.Channel.Audience
/-!
# The history of a cache

A cache is asked one thing after the other, by those who use its entries and by those who follow its
changes. What it answers is told by the history alone: the entries are those of the finite map that
the history builds, and a follower finds the queries of the puts that were changes.
-/

namespace RepoWatch.Cache

/-- What is asked of a cache. -/
inductive Request where
  | get (query : Query)
  | put (query : Query) (data : Json)
  | remove (query : Query)
  | clear
  | size
  | isEmpty
  /-- Somebody with a name follows the changes from now on, and not from where it did before. -/
  | subscribe (name : String)
  | receive (name : String)

inductive Answer where
  | done
  | entry (found : Option Json)
  | changed (isChange : Bool)
  | count (size : Nat)
  | truth (holds : Bool)
  /-- What a follower finds; nothing is found by somebody who does not follow. -/
  | found (arrival : Option (Arrival Query))

/-- A cache, and the positions of those who follow its changes. -/
structure Session where
  cache : Cache
  positions : String → Option Nat

/-- What was asked and answered, in order. -/
abbrev History := List (Request × Answer)

namespace Session

/-- A new cache that nobody follows. -/
def start : Session := ⟨.empty, fun _ => none⟩

def answer (s : Session) : Request → Answer
  | .get query | .remove query => .entry (s.cache.get? query)
  | .put query data => .changed (!s.cache.holds query data)
  | .size => .count s.cache.size
  | .isEmpty => .truth s.cache.isEmpty
  | .receive name => .found ((s.positions name).map fun position => (s.cache.nextChange position).1)
  | .clear | .subscribe _ => .done

def next (s : Session) : Request → Session
  | .get _ | .size | .isEmpty => s
  | .put query data => { s with cache := s.cache.put query data }
  | .remove query => { s with cache := s.cache.erase query }
  | .clear => { s with cache := s.cache.clear }
  | .subscribe name =>
    { s with positions := Function.update s.positions name (some s.cache.follow) }
  | .receive name =>
    let position := (s.positions name).map fun position => (s.cache.nextChange position).2
    { s with positions := Function.update s.positions name position }

def after (s : Session) (requests : List Request) : Session := requests.foldl next s

def history (s : Session) : List Request → History
  | [] => []
  | r :: requests => (r, s.answer r) :: (s.next r).history requests

theorem positions_subscribe (s : Session) (name n : String) :
    (s.next (.subscribe name)).positions n =
      if n = name then some s.cache.follow else s.positions n :=
  Function.update_apply _ _ _ _

theorem positions_receive (s : Session) (name n : String) :
    (s.next (.receive name)).positions n =
      if n = name then (s.positions name).map fun position => (s.cache.nextChange position).2
      else s.positions n :=
  Function.update_apply _ _ _ _

theorem after_append (s : Session) (requests later : List Request) :
    s.after (requests ++ later) = (s.after requests).after later :=
  List.foldl_append

theorem history_append (s : Session) (requests later : List Request) :
    s.history (requests ++ later) = s.history requests ++ (s.after requests).history later := by
  induction requests generalizing s with
  | nil => rfl
  | cons r requests ih => exact congrArg ((r, s.answer r) :: ·) (ih (s.next r))

theorem history_snoc (s : Session) (requests : List Request) (r : Request) :
    s.history (requests ++ [r]) =
      s.history requests ++ [(r, (s.after requests).answer r)] :=
  s.history_append requests [r]

end Session

namespace History

def happening? : Request × Answer → Option (Happening Query)
  | (.put query _, .changed true) => some (.sent query)
  | (.subscribe name, _) => some (.begun name)
  | (.receive name, .found (some arrival)) => some (.found name arrival)
  | _ => none

/-- What has happened to those who follow the changes: puts were changes, and followers came and
found something. -/
def happenings (h : History) : Happenings Query := h.filterMap happening?

def record (entries : Finmap fun _ : Query => Json) :
    Request × Answer → Finmap fun _ : Query => Json
  | (.put query data, .changed true) => entries.insert query data
  | (.remove query, _) => entries.erase query
  | (.clear, _) => ∅
  | _ => entries

/-- The finite map that is built by the puts that were changes, the removals and the clearings. -/
def entries (h : History) : Finmap fun _ : Query => Json := h.foldl record ∅

theorem happenings_snoc (h : History) (m : Request × Answer) :
    happenings (h ++ [m]) = h.happenings ++ (happening? m).toList := by
  cases hm : happening? m <;> simp [happenings, hm]

theorem entries_snoc (h : History) (m : Request × Answer) :
    entries (h ++ [m]) = record h.entries m := by
  rw [entries, List.foldl_append]
  rfl

/-- An entry is what it was before, unless a put has changed it. -/
theorem lookup_entries_append {h later : History} {query : Query} {data : Json}
    (hdata : (entries (h ++ later)).lookup query = some data)
    (hnone : query ∉ later.happenings.sent) : h.entries.lookup query = some data := by
  induction later using List.reverseRecOn with
  | nil => rwa [List.append_nil] at hdata
  | append_singleton later m ih =>
      rw [happenings_snoc, Happenings.sent, List.filterMap_append, List.mem_append, not_or] at hnone
      refine ih ?_ hnone.1
      rw [← List.append_assoc, entries_snoc] at hdata
      unfold record at hdata
      split at hdata
      · rename_i q _
        have hne : query ≠ q := by simpa [happening?, Happening.sent?, eq_comm] using hnone.2
        rwa [Finmap.lookup_insert_of_ne _ hne] at hdata
      · rename_i q _
        by_cases hq : query = q
        · rw [hq, Finmap.lookup_erase] at hdata
          cases hdata
        · rwa [Finmap.lookup_erase_ne hq] at hdata
      · rw [Finmap.lookup_empty] at hdata
        cases hdata
      · exact hdata

end History

/-! ## What the history tells -/

variable {c : Cache}

/-- Each query has one entry at most. -/
def NodupKeys (c : Cache) : Prop := (c.entries.map Prod.fst).Nodup

theorem nodupKeys_put (h : c.NodupKeys) (query : Query) (data : Json) :
    (c.put query data).NodupKeys := by
  unfold put
  split
  · exact h
  · rename_i hchange
    show ((c.insert query data).entries.map Prod.fst).Nodup
    rw [insert, if_neg hchange]
    exact Keyed.nodup_replaced h query data

theorem put_of_holds {query : Query} {data : Json} (h : c.holds query data = true) :
    c.put query data = c := if_pos h

/-- A put that is a change is told to the followers. -/
theorem put_of_not_holds {query : Query} {data : Json} (h : c.holds query data = false) :
    c.put query data = (c.insert query data).announce query := if_neg (by simp [h])

theorem changes_put (c : Cache) (query : Query) (data : Json) :
    (c.put query data).changes =
      if c.holds query data then c.changes else c.changes.send query := by
  cases hholds : c.holds query data with
  | true => rw [put_of_holds hholds, if_pos rfl]
  | false => rw [put_of_not_holds hholds, changes_announce, changes_insert, if_neg (by simp)]

theorem holders_put (c : Cache) (query : Query) (data : Json) :
    (c.put query data).holders = c.holders := by
  unfold put
  split
  · rfl
  · exact c.holders_insert query data

namespace Session

/-- A cache is what its history tells. -/
structure Keeps (s : Session) (h : History) : Prop where
  entries : ∀ query, s.cache.get? query = h.entries.lookup query
  nodup : s.cache.NodupKeys
  capacity : s.cache.changes.capacity = 256
  isOpen : s.cache.isClosed = false
  followers : s.cache.changes.ServesAll s.positions h.happenings

section Keeps

variable {s : Session} {h : History}

theorem keeps_start : start.Keeps [] where
  entries _ := rfl
  nodup := List.nodup_nil
  capacity := rfl
  isOpen := rfl
  followers := Multicast.servesAll_nil _

theorem capacity_next (s : Session) (r : Request) :
    (s.next r).cache.changes.capacity = s.cache.changes.capacity := by
  cases r with
  | put query data =>
      show (s.cache.put query data).changes.capacity = s.cache.changes.capacity
      rw [changes_put]
      split <;> rfl
  | get | remove | clear | size | isEmpty | subscribe | receive => rfl

theorem isClosed_next (s : Session) (r : Request) :
    (s.next r).cache.isClosed = s.cache.isClosed := by
  cases r with
  | put query data => exact congrArg (· == 0) (s.cache.holders_put query data)
  | get | remove | clear | size | isEmpty | subscribe | receive => rfl

theorem nodup_next (hs : s.cache.NodupKeys) (r : Request) : (s.next r).cache.NodupKeys := by
  cases r with
  | put query data => exact nodupKeys_put hs query data
  | remove query => exact Keyed.nodup_without hs query
  | clear => exact List.nodup_nil
  | get | size | isEmpty | subscribe | receive => exact hs

/-- The entries are those of the finite map, after the next request as before. -/
theorem entries_next {entries : Finmap fun _ : Query => Json}
    (hs : ∀ query, s.cache.get? query = entries.lookup query) (r : Request) (query : Query) :
    (s.next r).cache.get? query = (History.record entries (r, s.answer r)).lookup query := by
  cases r with
  | put q data =>
      simp only [next, answer]
      cases hholds : s.cache.holds q data with
      | true =>
          rw [put_of_holds hholds]
          exact hs query
      | false =>
          rw [put_of_not_holds hholds, get?_announce, Bool.not_false, History.record]
          by_cases hq : query = q
          · rw [hq, get?_insert_self _ _ _ hholds, Finmap.lookup_insert]
          · rw [get?_insert_of_ne _ _ _ hq, Finmap.lookup_insert_of_ne _ hq, hs]
  | remove q =>
      simp only [next, History.record]
      by_cases hq : query = q
      · rw [hq, get?_erase_self, Finmap.lookup_erase]
      · rw [get?_erase_of_ne _ _ hq, Finmap.lookup_erase_ne hq, hs]
  | clear =>
      show none = (∅ : Finmap fun _ : Query => Json).lookup query
      rw [Finmap.lookup_empty]
  | get | size | isEmpty | subscribe | receive => exact hs query

/-- A follower finds what was sent; nobody else finds anything, or is heard of. -/
theorem servesAll_next {rs : Happenings Query} (hs : s.cache.changes.ServesAll s.positions rs)
    (r : Request) :
    (s.next r).cache.changes.ServesAll (s.next r).positions
      (rs ++ (History.happening? (r, s.answer r)).toList) := by
  cases r with
  | put query data =>
      show (s.cache.put query data).changes.ServesAll s.positions _
      rw [changes_put, answer]
      cases s.cache.holds query data with
      | true => simpa [History.happening?] using hs
      | false => exact hs.sent query
  | subscribe name => exact hs.begun (s.positions_subscribe name)
  | receive name =>
      have hpositions := s.positions_receive name
      rw [answer]
      cases hposition : s.positions name with
      | none =>
          have hsame : (s.next (.receive name)).positions = s.positions := by
            funext n
            rw [hpositions, hposition]
            split
            · rename_i hn
              rw [hn, hposition]
              rfl
            · rfl
          rw [hsame]
          rw [← List.append_nil rs] at hs
          exact hs
      | some position =>
          simp only [hposition] at hpositions
          exact hs.found hposition hpositions s.cache.isClosed
  | get | remove | clear | size | isEmpty =>
      rw [← List.append_nil rs] at hs
      exact hs

/-- What the history tells of a cache, it tells after the next request. -/
theorem Keeps.next (k : s.Keeps h) (r : Request) : (s.next r).Keeps (h ++ [(r, s.answer r)]) where
  entries query := by
    rw [History.entries_snoc]
    exact entries_next k.entries r query
  nodup := nodup_next k.nodup r
  capacity := (s.capacity_next r).trans k.capacity
  isOpen := (s.isClosed_next r).trans k.isOpen
  followers := by
    rw [History.happenings_snoc]
    exact servesAll_next k.followers r

theorem keeps_after (requests : List Request) :
    (start.after requests).Keeps (start.history requests) := by
  induction requests using List.reverseRecOn with
  | nil => exact keeps_start
  | append_singleton requests r ih =>
      rw [after_append, history_snoc]
      exact ih.next r

theorem Keeps.card_keys (k : s.Keeps h) : h.entries.keys.card = s.cache.size := by
  have hkeys : h.entries.keys = (s.cache.entries.map Prod.fst).toFinset := by
    ext query
    rw [Finmap.mem_keys, Finmap.mem_iff, List.mem_toFinset, Keyed.mem_keys_iff]
    simp only [← k.entries]
    rfl
  rw [hkeys, List.toFinset_card_of_nodup k.nodup, List.length_map]
  rfl

theorem Keeps.isEmpty_iff (k : s.Keeps h) : s.cache.isEmpty = true ↔ h.entries = ∅ := by
  rw [Cache.isEmpty, List.isEmpty_iff]
  constructor
  · intro hnil
    apply Finmap.ext_lookup
    intro query
    rw [← k.entries, get?, hnil, Finmap.lookup_empty]
    rfl
  · intro hempty
    have hcard := k.card_keys
    rw [hempty, Finmap.keys_empty, Finset.card_empty] at hcard
    exact List.eq_nil_of_length_eq_zero hcard.symm

theorem Keeps.holds_iff (k : s.Keeps h) (query : Query) (data : Json) :
    s.cache.holds query data = true ↔
      ∃ stored, h.entries.lookup query = some stored ∧ (stored == data) = true := by
  rw [holds_eq_true_iff, k.entries]

/-- After a put the entry is equal to what was put, be it a change or not. -/
theorem exists_get?_put (c : Cache) (query : Query) (data : Json) :
    ∃ stored, (c.put query data).get? query = some stored ∧ (stored == data) = true := by
  cases hholds : c.holds query data with
  | true =>
      rw [put_of_holds hholds]
      exact (c.holds_eq_true_iff query data).1 hholds
  | false =>
      rw [put_of_not_holds hholds, get?_announce, get?_insert_self _ _ _ hholds]
      exact ⟨data, rfl, BEq.rfl⟩

theorem Keeps.receive (k : s.Keeps h) {name : String} {later : Happenings Query}
    (hlater : h.happenings.since name = some later) :
    ∃ unread, Accounts (later.found name) later.sent unread ∧
      s.answer (.receive name) = .found (some (.next 256 false unread)) := by
  obtain ⟨position, unread, hposition, accounts, leaves⟩ := k.followers.reads hlater
  have hfound := (leaves.receive s.cache.isClosed).1
  refine ⟨unread, accounts, ?_⟩
  rw [k.capacity, k.isOpen] at hfound
  rw [answer, hposition, Option.map_some, nextChange, k.isOpen, hfound]

/-- Whatever a cache was asked, it answers the next request as the finite map does that the history
builds. A put is a change unless an equal value is stored, which it then leaves alone, and equal
values are of the same kind, zeros without regard to the sign. Who follows the changes finds those
that were made since it subscribed, each once and in order; only when more than 256 are unread, the
oldest ones in excess are lost, and it is told how many. So an entry that has come to be what it is
was told in between. -/
theorem answers_of_history (past : List Request) :
    let s := start.after past
    let h := start.history past
    (∀ query, s.answer (.get query) = .entry (h.entries.lookup query)) ∧
    (∀ query, s.answer (.remove query) = .entry (h.entries.lookup query)) ∧
    s.answer .size = .count h.entries.keys.card ∧
    (∃ isEmpty, s.answer .isEmpty = .truth isEmpty ∧ (isEmpty = true ↔ h.entries = ∅)) ∧
    (∀ query data, ∃ changed, s.answer (.put query data) = .changed changed ∧
      (changed = false ↔
        ∃ stored, h.entries.lookup query = some stored ∧ (stored == data) = true) ∧
      (changed = false →
        (s.next (.put query data)).answer (.get query) = s.answer (.get query)) ∧
      ∃ stored, (s.next (.put query data)).answer (.get query) = .entry (some stored) ∧
        (stored == data) = true) ∧
    ((∀ i d, (Json.integer i == .double d) = false) ∧
      (Json.double (.zero false) == .double (.zero true)) = true) ∧
    (∀ name later, h.happenings.since name = some later →
      ∃ unread, Accounts (later.found name) later.sent unread ∧
        s.answer (.receive name) = .found (some (.next 256 false unread))) ∧
    (∀ query data later, (start.history (past ++ later)).entries.lookup query = some data →
      h.entries.lookup query ≠ some data → query ∈ (s.history later).happenings.sent) := by
  intro s h
  have k : s.Keeps h := keeps_after past
  refine ⟨fun query => ?_, fun query => ?_, ?_, ⟨_, rfl, k.isEmpty_iff⟩, fun query data => ?_,
    ⟨fun _ _ => rfl, by decide⟩, fun name later hlater => k.receive hlater, ?_⟩
  · rw [answer, k.entries]
  · rw [answer, k.entries]
  · rw [answer, k.card_keys]
  · refine ⟨_, rfl, ?_, fun hsame => ?_, ?_⟩
    · rw [Bool.not_eq_false', k.holds_iff]
    · have hholds : s.cache.holds query data = true := by simpa using hsame
      rw [answer, answer, Session.next, put_of_holds hholds]
    · obtain ⟨stored, hstored, heq⟩ := exists_get?_put s.cache query data
      exact ⟨stored, congrArg Answer.entry hstored, heq⟩
  · intro query data later hdata hbefore
    by_contra hnone
    rw [history_append] at hdata
    exact hbefore (History.lookup_entries_append hdata hnone)

/-- One follows the changes and does not read them, while an entry is changed 260 times. -/
def fallingBehind : List Request :=
  .subscribe "late" :: (List.range 260).map fun i => .put (.commits "own") (.integer i)

theorem answers_of_history_falling_behind :
    let s := start.after fallingBehind
    let h := start.history fallingBehind
    let other : Query := .commits "other"
    let later : List Request := [.put other .null]
    (∃ since unread, h.happenings.since "late" = some since ∧ since.sent.length = 260 ∧
      Accounts (since.found "late") since.sent unread ∧
      s.answer (.receive "late") = .found (some (.next 256 false unread))) ∧
    (start.history (fallingBehind ++ later)).entries.lookup other = some .null ∧
    h.entries.lookup other ≠ some .null ∧ other ∈ (s.history later).happenings.sent := by
  intro s h other later
  obtain ⟨-, -, -, -, -, -, hfollows, htold⟩ := answers_of_history fallingBehind
  have hlength : (h.happenings.since "late").map (fun since => since.sent.length) = some 260 := by
    decide +kernel
  obtain ⟨since, hsince, hcount⟩ := Option.map_eq_some_iff.1 hlength
  obtain ⟨unread, accounts, hanswer⟩ := hfollows "late" since hsince
  have hafter : (start.history (fallingBehind ++ later)).entries.lookup other = some .null := by
    have hnew : s.cache.holds other .null = false := by decide +kernel
    have hcache : ∀ s : Session, (s.after later).cache = s.cache.put other .null := fun _ => rfl
    rw [← (keeps_after (fallingBehind ++ later)).entries, after_append, hcache,
      put_of_not_holds hnew, get?_announce, get?_insert_self _ _ _ hnew]
  have hbefore : h.entries.lookup other ≠ some .null := by
    rw [← (keeps_after fallingBehind).entries]
    intro hnull
    have hnone : (s.cache.get? other).isSome = false := by decide +kernel
    rw [hnull] at hnone
    cases hnone
  exact ⟨⟨since, unread, hsince, hcount, accounts, hanswer⟩, hafter, hbefore,
    htold other .null later hafter hbefore⟩

end Keeps
end Session
end RepoWatch.Cache
