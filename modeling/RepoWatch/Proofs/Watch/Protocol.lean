import RepoWatch.Proofs.Feed.Queue
import RepoWatch.Proofs.World.Deeds
import RepoWatch.Proofs.World.Holders
/-!
# The protocol of a watch

What a watch sends is the beginning of a script. The network is asked once for each request that is
announced, no later response repeats the one before, and a watch that is received goes on.
-/

namespace RepoWatch

section Protocol

variable {number : Nat} {x x' : Watch} {heard : Bool} {cache : Cache} {l : Label} {t past : Trace}
  {origin w : World} {es : List Event} {outlets : Outlets} {query : Query} {policy : Policy}

/-- To ask the network is to announce it, and nothing else announces it. -/
theorem Advance.calls_eq (h : Advance number x heard cache l x') :
    (if l.calls number then 1 else 0) = (l.sentBy number).toList.countP Event.isFetch := by
  cases h with
  | ended hlabel => rcases hlabel with rfl | ⟨_, rfl⟩ | rfl <;> rfl
  | _ => simp [Label.calls, Label.sentBy, Event.isFetch]

/-- What a watch sends after the resolution is not what it sent last. -/
theorem Advance.noRepeats (h : Advance number x heard cache l x') (hsent : x.HasSent es)
    (hlast : lastData es = x.lastSent)
    (hfresh : ∀ data, x.phase = .sendingChange data → x.repeats data = false)
    (hno : NoRepeats es) : NoRepeats (es ++ (l.sentBy number).toList) := by
  have hany := hsent.any_isCompletion h.not_stopped
  cases hl : l.sentBy number with
  | none => simpa using hno
  | some event =>
      refine hno.snoc ?_
      intro data hdata hcompleted last hlastData
      rw [hany] at hcompleted
      cases h with
      | @sentChange data' hphase =>
          obtain rfl : .response data' true = event := by simpa [Label.sentBy] using hl
          obtain rfl : data' = data := by simpa [Event.data?] using hdata
          have hnew := hfresh data' hphase
          rw [hlast] at hlastData
          simpa [Watch.repeats, hlastData] using hnew
      | noticed | passedOver | lost | unchanged | changed => cases hl
      | ended hlabel => rcases hlabel with rfl | ⟨_, rfl⟩ | rfl <;> cases hl
      | _ => simp_all [Watch.isResolved]

theorem Run.asks (run : Run origin t w) (born : origin.Opened number query policy) :
    ∃ x, w.hub.watch? number = some x ∧ x.Life origin number query policy t w ∧
      t.calls number = (t.sent number).countP Event.isFetch ∧ NoRepeats (t.sent number) := by
  refine run.life_induction (P := fun t _ _ => t.calls number =
    (t.sent number).countP Event.isFetch ∧ NoRepeats (t.sent number)) born ⟨rfl, noRepeats_nil⟩
    ?_ ?_
  · rintro t w l w' x life ⟨hcalls, hno⟩ _ _ hl
    rw [t.calls_of_isOf w' hl, t.sent_of_isOf w' hl]
    exact ⟨hcalls, hno⟩
  · rintro t w l w' x x' life ⟨hcalls, hno⟩ _ _ advance
    rw [Trace.calls_snoc, Trace.sent_snoc, List.countP_append, hcalls, advance.calls_eq]
    exact ⟨rfl, advance.noRepeats life.sent (life.last advance.not_stopped) life.fresh hno⟩

theorem Delivery.arrival_ne_closed {α : Type} (d : Delivery α) : d.arrival false ≠ .closed := by
  cases d <;> simp [Delivery.arrival]

/-- What a watch sends is the beginning of a script of its query and its policy. As long as there is
a receiver, it is what was received, followed by what waits to be. Each request of the network that
is announced is made once, and no other is made; no response after the resolution repeats the one
before; and as long as the watch is received, and its request comes to an outcome, it goes on, its
stream is open, and changes can come. -/
theorem watch_follows_protocol (before : Run (.start cache outlets) past origin)
    (born : origin.Opened number query policy) (run : Run origin t w) :
    ∃ x, w.hub.watch? number = some x ∧
      (∃ script, Transcript query policy script ∧ t.sent number <+: script) ∧
      (w.hub.isReceived number = true →
        t.sent number = t.received number origin ++ w.hub.queue number) ∧
      t.calls number = (t.sent number).countP Event.isFetch ∧
      NoRepeats (t.sent number) ∧
      (w.hub.isReceived number = true → t.crashed number = false →
        x.phase ≠ .stopped ∧ w.hub.senders[number]? = some (some true) ∧
          (w.hub.cache.nextChange x.position).1 ≠ .closed) := by
  obtain ⟨x, hx, life, hcalls, hno⟩ := run.asks born
  refine ⟨x, hx, ?_, before.sent_eq_received born run, hcalls, hno, ?_⟩
  · obtain ⟨script, hscript, hprefix⟩ := life.sent.isPrefix
    rw [life.query_eq, life.policy_eq] at hscript
    exact ⟨script, hscript, hprefix⟩
  · intro hreceived hcrashed
    have hphase : x.phase ≠ .stopped := by
      intro hstopped
      rcases before.ended born run hx hstopped with hgone | ⟨hcrash, -⟩
      · rw [hreceived] at hgone
        cases hgone
      · rw [hcrashed] at hcrash
        cases hcrash
    have hopen := (run.keeps Step.held before.held).isClosed_eq_false hx hphase
    refine ⟨hphase, ?_, ?_⟩
    · rw [run.keeps Step.streaming before.streaming, List.getElem?_map,
        Hub.getElem?_watches_of_watch? hx]
      simp [Watch.isStopped_eq_false hphase]
    · rw [Cache.nextChange, hopen]
      exact Delivery.arrival_ne_closed _

end Protocol

/-- A watch shows what is cached, asks the network, stores what comes, and shows a later change; its
receiver takes three events meanwhile. -/
def cachedThenFetched (query : Query) : List Deed :=
  [.watch 0, .watch 0, .watch 0, .receive 0, .watch 0, .watch 0, .answer 0 (.ok (.integer 2)),
    .watch 0, .watch 0, .watch 0, .receive 0, .watch 0, .store query (.integer 3), .announce query,
    .watch 0, .watch 0, .watch 0, .watch 0, .receive 0, .watch 0, .watch 0]

theorem watch_follows_protocol_to_change :
    let query : Query := .commits "own"
    let cache := Cache.empty.insert query (.integer 1)
    let origin : World := .watching cache query .cacheAndNetwork
    let t := origin.trace (cachedThenFetched query)
    let w := origin.after (cachedThenFetched query)
    Run (.start cache .unheard) [⟨.silent, origin⟩] origin ∧
      origin.Opened 0 query .cacheAndNetwork ∧ Run origin t w ∧ t.calls 0 = 1 ∧
      (t.sent 0).length = 7 ∧ (t.received 0 origin).length = 3 ∧
      w.hub.isReceived 0 = true ∧ ∃ x, w.hub.watch? 0 = some x ∧
      (∃ script, Transcript query .cacheAndNetwork script ∧ t.sent 0 <+: script) ∧
      (w.hub.isReceived 0 = true → t.sent 0 = t.received 0 origin ++ w.hub.queue 0) ∧
      t.calls 0 = (t.sent 0).countP Event.isFetch ∧
      NoRepeats (t.sent 0) ∧
      (w.hub.isReceived 0 = true → t.crashed 0 = false →
        x.phase ≠ .stopped ∧ w.hub.senders[0]? = some (some true) ∧
          (w.hub.cache.nextChange x.position).1 ≠ .closed) := by
  intro query cache origin t w
  have before := Run.watching cache query .cacheAndNetwork
  have born : origin.Opened 0 query .cacheAndNetwork := rfl
  have run : Run origin t w := .of_deeds origin (cachedThenFetched query)
  have hcalls : t.calls 0 = 1 := by decide +kernel
  have hlength : (t.sent 0).length = 7 := by decide +kernel
  have htaken : (t.received 0 origin).length = 3 := by decide +kernel
  have hreceived : w.hub.isReceived 0 = true := by decide +kernel
  exact ⟨before, born, run, hcalls, hlength, htaken, hreceived,
    watch_follows_protocol before born run⟩

end RepoWatch
