import RepoWatch.Proofs.Watch.Advance
/-!
# A step seen from one watch, and from one entry

What a step means to the watch with a number, to the entry of a query, to the log of changes, and to
the changes of the query that are made and not announced yet.
-/

namespace RepoWatch

/-- Whether a step is made by a watch, or by what comes of its request. -/
def Label.isOf (number : Nat) : Label → Bool
  | .sent n _ | .called n | .answered n _ | .crashed n | .put (some n) _ _ _ => n == number
  | _ => false

/-- Whether a watch has changed the entry of a query and has not announced that yet. -/
def Watch.isAnnouncing (x : Watch) (query : Query) : Bool :=
  match x.phase with
  | .notifying _ => x.query == query
  | _ => false

namespace World

def entry (w : World) (query : Query) : Option Json := w.hub.cache.get? query

def log (w : World) : Multicast Query := w.hub.cache.changes

/-- How many changes of the entry of a query are made and not announced yet. -/
def inFlight (w : World) (query : Query) : Nat :=
  w.unannounced.count query + w.hub.watches.countP (·.any (·.isAnnouncing query))

end World

section Watches

variable {w w' : World} {l : Label} {number : Nat} {x : Watch}

/-- The label of a watch's own step tells its number. -/
private theorem Advance.isOf_of_ne {n : Nat} {x' : Watch} {heard : Bool} {cache : Cache}
    (h : Advance n x heard cache l x') (hne : n ≠ number) : l.isOf number = false := by
  cases h with
  | ended hlabel => rcases hlabel with rfl | ⟨_, rfl⟩ | rfl <;> simp [Label.isOf, hne]
  | _ => simp [Label.isOf, hne]

theorem Label.isOf_of_isSpare (h : l.isSpare = true) : l.isOf number = false := by
  cases l <;> first | rfl | cases h

theorem Hub.Spares.watch?_eq {s s' : Hub} (h : s.Spares s') :
    s'.watch? number = s.watch? number := by
  rw [Hub.watch?_eq_join, Hub.watch?_eq_join, h.watches_eq]

/-- A step leaves a watch as it is, or is something that the watch does. -/
theorem Step.watch_cases (h : Step w l w') (hx : w.hub.watch? number = some x) :
    (w'.hub.watch? number = some x ∧ l.isOf number = false) ∨
      ∃ x', w'.hub.watch? number = some x' ∧
        Advance number x (w.hub.isReceived number) w.hub.cache l x' := by
  cases h.cacheSide with
  | spared hspare hub =>
      exact .inl ⟨hub.watch?_eq.trans hx, Label.isOf_of_isSpare hspare⟩
  | opened hspare fresh pipes cache hub =>
      obtain ⟨p, -, -, hpipes⟩ := pipes
      refine .inl ⟨hub.watch?_eq.trans ?_, Label.isOf_of_isSpare hspare⟩
      rw [Hub.watch?, hpipes, List.getElem?_append_left (Hub.lt_length_of_watch? hx)]
      exact hx
  | @moved _ hub n y y' effect hy moves watches =>
      have hlt := Hub.lt_length_of_watch? hx
      have hadvance := moves.advance
      rw [World.withHub, Hub.watch?_eq_join, watches, List.getElem?_set]
      by_cases hn : n = number
      · subst hn
        obtain rfl : y = x := by simpa [hy] using hx
        right
        refine ⟨y', ?_, hadvance⟩
        simp [hlt]
      · rw [if_neg hn, ← Hub.watch?_eq_join]
        exact .inl ⟨hx, hadvance.isOf_of_ne hn⟩
  | stored | storedEqual | announced | removed | retained | released =>
      exact .inl ⟨hx, rfl⟩

/-- No step opens the receiving end of a watch. -/
theorem Step.isReceived_of (h : Step w l w') (hx : w.hub.watch? number = some x)
    (hreceived : w'.hub.isReceived number = true) : w.hub.isReceived number = true := by
  cases h.cacheSide with
  | spared _ hub => exact hub.isReceived_of number hreceived
  | opened _ _ pipes _ hub =>
      obtain ⟨p, -, -, hpipes⟩ := pipes
      have hs := hub.isReceived_of number hreceived
      rwa [Hub.isReceived, hpipes, List.getElem?_append_left (Hub.lt_length_of_watch? hx)] at hs
  | moved _ _ _ _ _ received => exact received number ▸ hreceived
  | stored | storedEqual | announced | removed | retained | released => exact hreceived

theorem Step.isReceived_eq_false (h : Step w l w') (hx : w.hub.watch? number = some x)
    (hgone : w.hub.isReceived number = false) : w'.hub.isReceived number = false := by
  rw [Bool.eq_false_iff] at hgone ⊢
  exact fun hreceived => hgone (h.isReceived_of hx hreceived)

end Watches

section Entries

variable {w w' : World} {l : Label} (query : Query)

theorem Label.changes_of_isSpare (h : l.isSpare = true) : l.changes query = false := by
  cases l <;> first | rfl | cases h

theorem Label.announces_of_isSpare (h : l.isSpare = true) : l.announces query = false := by
  cases l <;> first | rfl | cases h

@[simp] theorem Watch.leave_get? (x x' : Watch) (cache : Cache) :
    (x.leave x' cache).get? query = cache.get? query := by
  unfold Watch.leave
  split <;> simp

@[simp] theorem Watch.leave_changes (x x' : Watch) (cache : Cache) :
    (x.leave x' cache).changes = cache.changes := by
  unfold Watch.leave
  split <;> simp

/-- To store data changes the entry of one query, and only if the data is new. -/
private theorem entry_insert (cache : Cache) (writer : Option Nat) (q : Query) (data : Json) :
    (Label.changes query (.put writer q data (!cache.holds q data)) = false ∧
        (cache.insert q data).get? query = cache.get? query) ∨
      cache.holds q data = false ∧ q = query ∧ (cache.insert q data).get? query = some data := by
  cases hholds : cache.holds q data with
  | true => exact .inl ⟨rfl, by rw [cache.insert_of_holds q data hholds]⟩
  | false =>
      by_cases hq : query = q
      · subst hq
        exact .inr ⟨rfl, rfl, cache.get?_insert_self query data hholds⟩
      · refine .inl ⟨?_, cache.get?_insert_of_ne q data hq⟩
        simpa [Label.changes] using Ne.symm hq

/-- An entry stays or is removed, unless data is stored that is new to it. -/
theorem Step.entry_cases (h : Step w l w') :
    (l.changes query = false ∧
        (w'.entry query = w.entry query ∨ (l = .removed ∧ w'.entry query = none))) ∨
      ∃ writer data, l = .put writer query data true ∧ w'.entry query = some data := by
  unfold World.entry
  cases h.cacheSide with
  | spared hspare hub =>
      exact .inl ⟨Label.changes_of_isSpare query hspare, .inl (by rw [hub.cache_eq])⟩
  | opened hspare _ _ cache hub =>
      refine .inl ⟨Label.changes_of_isSpare query hspare, .inl ?_⟩
      rw [hub.cache_eq, cache]
      split <;> rfl
  | @moved _ hub number x x' effect _ moves _ _ cache =>
      rw [World.withHub, cache, Watch.leave_get?]
      cases moves with
      | step =>
          cases effect with
          | insert data =>
              rcases entry_insert query w.hub.cache (some number) x.query data with
                ⟨hl, hsame⟩ | ⟨hnew, rfl, hget⟩
              · exact .inl ⟨hl, .inl hsame⟩
              · exact .inr ⟨some number, data, by simp [Effect.label, hnew], hget⟩
          | none | send | call | announce => exact .inl ⟨rfl, .inl rfl⟩
      | overhear | answer | crash => exact .inl ⟨rfl, .inl rfl⟩
  | @stored q data hnew =>
      rcases entry_insert query w.hub.cache none q data with ⟨hl, hsame⟩ | ⟨-, rfl, hget⟩
      · exact .inl ⟨by simpa [hnew] using hl, .inl hsame⟩
      · exact .inr ⟨none, data, rfl, hget⟩
  | storedEqual => exact .inl ⟨rfl, .inl rfl⟩
  | announced => exact .inl ⟨rfl, .inl rfl⟩
  | removed entries => exact .inl ⟨rfl, (entries query).imp_right fun hnone => ⟨rfl, hnone⟩⟩
  | retained => exact .inl ⟨rfl, .inl rfl⟩
  | released => exact .inl ⟨rfl, .inl rfl⟩

/-- An entry stays as it is, unless it is removed or changed by storing. -/
theorem Step.entry_eq (h : Step w l w') (hremoved : l ≠ .removed)
    (hchanges : l.changes query = false) : w'.entry query = w.entry query := by
  rcases h.entry_cases query with ⟨-, hsame | ⟨hl, -⟩⟩ | ⟨writer, data, rfl, -⟩
  · exact hsame
  · exact absurd hl hremoved
  · simp [Label.changes] at hchanges

/-- What is stored as new data is the entry afterwards. -/
theorem Step.entry_of_put {query : Query} {writer : Option Nat} {data : Json}
    (h : Step w (.put writer query data true) w') : w'.entry query = some data := by
  rcases h.entry_cases query with ⟨hchanges, -⟩ | ⟨writer', data', hl, hentry⟩
  · simp [Label.changes] at hchanges
  · obtain ⟨-, rfl⟩ : writer = writer' ∧ data = data' := by simpa using hl
    exact hentry

/-- What is stored and found to be there already was the entry before. -/
theorem Step.holds_of_put_equal {query : Query} {writer : Option Nat} {data : Json}
    (h : Step w (.put writer query data false) w') : w.hub.cache.holds query data = true := by
  generalize hl : Label.put writer query data false = l at h
  cases h with
  | @watch _ _ _ effect _ =>
      cases effect with
      | insert data' =>
          simp only [Effect.label, Label.put.injEq] at hl
          obtain ⟨-, rfl, rfl, hholds⟩ := hl
          simpa using hholds.symm
      | none | send | call | announce => cases hl
  | storeEqual hholds =>
      cases hl
      exact hholds
  | follower =>
      unfold Hub.followerLabel at hl
      split at hl <;> cases hl
  | _ => cases hl

/-- Whoever stores data, the entry equals it afterwards. -/
theorem Step.entry_equals_put {query : Query} {writer : Option Nat} {data : Json} {changed : Bool}
    (h : Step w (.put writer query data changed) w') :
    ∃ cached, w'.entry query = some cached ∧ (cached == data) = true := by
  cases changed with
  | true => exact ⟨data, h.entry_of_put, BEq.rfl⟩
  | false =>
      rw [h.entry_eq query (by simp) rfl]
      exact (w.hub.cache.holds_eq_true_iff query data).1 h.holds_of_put_equal

/-- Only announcements go to the log of changes. -/
theorem Step.log_cases (h : Step w l w') :
    (∃ q, l = .announced q ∧ w'.log = w.log.send q) ∨
      (l.isAnnouncement = false ∧ w'.log = w.log) := by
  unfold World.log
  cases h.cacheSide with
  | spared hspare hub =>
      refine .inr ⟨?_, by rw [hub.cache_eq]⟩
      cases l <;> first | rfl | cases hspare
  | opened hspare _ _ cache hub =>
      refine .inr ⟨?_, ?_⟩
      · cases l <;> first | rfl | cases hspare
      · rw [hub.cache_eq, cache]
        split <;> rfl
  | @moved _ hub number x x' effect _ moves _ _ cache =>
      rw [World.withHub, cache, Watch.leave_changes]
      cases moves with
      | step =>
          cases effect with
          | announce => exact .inl ⟨x.query, rfl, rfl⟩
          | insert data => exact .inr ⟨rfl, by simp [Effect.applyTo]⟩
          | none | send | call => exact .inr ⟨rfl, rfl⟩
      | overhear | answer | crash => exact .inr ⟨rfl, rfl⟩
  | stored => exact .inr ⟨rfl, by simp [World.withCache, World.withHub]⟩
  | storedEqual => exact .inr ⟨rfl, rfl⟩
  | announced => exact .inl ⟨_, rfl, rfl⟩
  | removed _ changes => exact .inr ⟨rfl, changes⟩
  | retained => exact .inr ⟨rfl, rfl⟩
  | released => exact .inr ⟨rfl, rfl⟩

/-- What a watch does keeps the account of changes made and announced. -/
private theorem Advance.isAnnouncing_eq {number : Nat} {x x' : Watch} {heard : Bool}
    {cache : Cache} (h : Advance number x heard cache l x') :
    (if x'.isAnnouncing query then 1 else 0) + (if l.announces query then 1 else 0) =
      (if x.isAnnouncing query then 1 else 0) + if l.changes query then 1 else 0 := by
  cases h with
  | ended hlabel hphase hlooks =>
      have hx : x.isAnnouncing query = false := by
        unfold Watch.isAnnouncing
        split <;> simp_all [Watch.looksUp]
      have hx' : x'.isAnnouncing query = false := by simp [Watch.isAnnouncing, hphase]
      rcases hlabel with rfl | ⟨_, rfl⟩ | rfl <;> simp [hx, hx', Label.announces, Label.changes]
  | scheduled hphase | missed hphase | sentCached hphase =>
      cases x.policy <;>
        simp [Watch.isAnnouncing, Watch.goTo, Watch.begin, Watch.afterRead, Watch.afterCached,
          hphase, Label.announces, Label.changes]
  | _ => simp_all [Watch.isAnnouncing, Watch.goTo, Label.announces, Label.changes]

/-- A change is in flight from the moment it is made until it is announced. -/
theorem Step.inFlight_eq (h : Step w l w') :
    w'.inFlight query + (if l.announces query then 1 else 0) =
      w.inFlight query + if l.changes query then 1 else 0 := by
  unfold World.inFlight
  cases h.cacheSide with
  | spared hspare hub unannounced =>
      rw [hub.watches_eq, unannounced, Label.changes_of_isSpare query hspare,
        Label.announces_of_isSpare query hspare]
  | opened hspare fresh pipes _ hub unannounced =>
      obtain ⟨p, rfl, -, hpipes⟩ := pipes
      have hfresh : p.watch.any (·.isAnnouncing query) = false := by
        cases hp : p.watch with
        | none => rfl
        | some x =>
            obtain ⟨_, _, rfl⟩ := fresh x hp
            rfl
      rw [hub.watches_eq, unannounced, Label.changes_of_isSpare query hspare,
        Label.announces_of_isSpare query hspare, Hub.watches_append hpipes]
      simp [hfresh]
  | @moved _ hub number x x' effect hx moves watches =>
      obtain ⟨hlt, hget⟩ := List.getElem?_eq_some_iff.1 (Hub.getElem?_watches_of_watch? hx)
      have haccount := moves.advance.isAnnouncing_eq query
      have hpos : x.isAnnouncing query = true →
          0 < w.hub.watches.countP (·.any (·.isAnnouncing query)) := fun hx =>
        List.countP_pos_iff.2 ⟨some x, hget ▸ List.getElem_mem hlt, hx⟩
      dsimp only [World.withHub]
      rw [watches, List.countP_set hlt, hget, Option.any_some, Option.any_some]
      by_cases hannouncing : x.isAnnouncing query = true
      · have := hpos hannouncing
        rw [if_pos hannouncing] at haccount ⊢
        omega
      · rw [if_neg hannouncing] at haccount ⊢
        omega
  | stored =>
      simp only [World.withCache, World.withHub, Label.announces, Label.changes, List.count_cons,
        Bool.true_and, Bool.false_eq_true, if_false, Hub.watches]
      omega
  | storedEqual => rfl
  | @announced q hmem =>
      have hpos : q = query → 0 < w.unannounced.count query := by
        rintro rfl
        exact List.count_pos_iff.2 hmem
      simp only [World.withCache, World.withHub, Label.announces, Label.changes, List.count_erase,
        Bool.false_eq_true, if_false, beq_iff_eq, Hub.watches]
      split
      · rename_i hq
        have := hpos hq
        omega
      · omega
  | removed => rfl
  | retained => rfl
  | released => rfl

end Entries
end RepoWatch
