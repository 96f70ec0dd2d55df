import RepoWatch.Fetch.Stack
import RepoWatch.Proofs.Fetch.Chronicle
/-!
# Turns under a quota

Fetches whose quota is guarded, one after the other. A reply that leaves no calls is held back until
the reset that it tells, so that nothing is asked before the reset by a later fetch.
-/

namespace RepoWatch.Plan

open Graphql

variable {ι : Type}

/-- A call of the server, or its answer. -/
def Act.isCall : Act ι → Bool
  | .asks _ | .hears _ => true
  | .waits _ | .looks _ | .notes _ => false

/-- One of several fetches: when it began, what was done for it, and when that was over. -/
structure Turn (ι : Type) where
  query : Query
  start : Int
  entries : List (Entry ι)
  stop : Int
  /-- The outcome, if the fetch was not given up before. -/
  ending : Option (Outcome (Except ErrorChain Reply))

/-- A turn is taken by a fetch. -/
structure Turn.IsOf (turn : Turn ι) (fetch : Query → Plan ι (Except ErrorChain Reply)) : Prop where
  course : (fetch turn.query).Course (turn.entries.map Entry.act) turn.ending
  chronicle : Chronicle turn.start turn.entries turn.stop

/-- The turn of a fetch that is carried out in an environment. -/
def Turn.ofRun (fetch : Query → Plan ι (Except ErrorChain Reply)) (query : Query)
    (e : Environment ι) : Turn ι where
  query
  start := e.time
  entries := (fetch query).entries e
  stop := ((fetch query).run e).2.time
  ending := some ((fetch query).run e).1

/-- In a turn no timer is set for longer than timers can be set. -/
def Turn.isTimed (turn : Turn ι) : Bool := turn.entries.all fun entry => entry.act.isTimed

theorem Turn.isOf_ofRun (fetch : Query → Plan ι (Except ErrorChain Reply)) (query : Query)
    (e : Environment ι) (h : (Turn.ofRun fetch query e).isTimed = true) :
    (Turn.ofRun fetch query e).IsOf fetch where
  course := course_entries _ e
  chronicle := chronicle_entries _ e (List.all_eq_true.1 h)

/-- How it goes on with a fetch that has come to an ending when its quota is guarded: what is done
besides, up to a time, and the ending of it all. -/
inductive Guarding (stop : Int) : Option (Outcome (Except ErrorChain Reply)) →
    List (Entry ι) → Option (Outcome (Except ErrorChain Reply)) → Prop where
  | givenUp (inner : Option (Outcome (Except ErrorChain Reply))) {rest : List (Entry ι)}
      (hquiet : ∀ entry ∈ rest, entry.act.isCall = false) : Guarding stop inner rest none
  | crashed (reason : String) : Guarding stop (some (.crashed reason)) [] (some (.crashed reason))
  | failed (e : ErrorChain) :
      Guarding stop (some (.finished (.error e))) [] (some (.finished (.error e)))
  | spared {reply : Reply} (hquota : ∀ quota, reply.quota = some quota → 0 < quota.remaining) :
      Guarding stop (some (.finished (.ok reply))) [] (some (.finished (.ok reply)))
  /-- The wait is over when the quota is reset, and takes no time if that has happened before. -/
  | heldBack {reply : Reply} {quota : Payload.Quota} {reset shown : Instant} {span : Span}
      {look wait : Int} (hquota : reply.quota = some quota) (hnone : quota.remaining ≤ 0)
      (hread : Timestamp.read quota.resetAt = .ok reset)
      (hspan : reset.inLeapSecond = false →
        (span.nanoseconds : Int) = max 0 (reset.unixNanoseconds - shown.unixNanoseconds))
      (hstop : reset.inLeapSecond = false → reset.unixNanoseconds ≤ stop) :
      Guarding stop (some (.finished (.ok reply)))
        [⟨look, .looks shown⟩, ⟨wait, .waits span⟩] (some (.finished (.ok reply)))
  | unreadable {reply : Reply} {quota : Payload.Quota} {why : Timestamp.Fault} {shown : Instant}
      {look : Int} (hquota : reply.quota = some quota) (hnone : quota.remaining ≤ 0)
      (hread : Timestamp.read quota.resetAt = .error why) :
      Guarding stop (some (.finished (.ok reply))) [⟨look, .looks shown⟩]
        (some (.finished (.error ⟨.plain why.message,
          [.plain ("Invalid rate limit reset date: " ++ quota.resetAt)]⟩)))

section Guarding

variable {start stop : Int} {entries rest : List (Entry ι)} {reply : Reply}
  {quota : Payload.Quota} {ending : Option (Outcome (Except ErrorChain Reply))}

theorem holdBack_of_error {why : Timestamp.Fault}
    (hread : Timestamp.read quota.resetAt = .error why) :
    (holdBack reply quota : Plan ι _) = .now fun _ => .done (.error ⟨.plain why.message,
      [.plain ("Invalid rate limit reset date: " ++ quota.resetAt)]⟩) := by
  simp [holdBack, Payload.Quota.untilReset, hread, ErrorChain.wrap, ErrorChain.ofText]

theorem holdBack_of_ok {reset : Instant} (hread : Timestamp.read quota.resetAt = .ok reset) :
    (holdBack reply quota : Plan ι _) =
      .now fun shown => .wait (reset.spanFrom shown) fun _ => .done (.ok reply) := by
  simp [holdBack, Payload.Quota.untilReset, hread]

/-- A look at the clock and a wait until the reset end after the reset. -/
theorem Chronicle.reset_le {reset shown : Instant} {look wait : Int}
    (h : Chronicle start
      [⟨look, (.looks shown : Act ι)⟩, ⟨wait, .waits (reset.spanFrom shown)⟩] stop)
    (hreset : reset.inLeapSecond = false) :
    ((reset.spanFrom shown).nanoseconds : Int) =
        max 0 (reset.unixNanoseconds - shown.unixNanoseconds) ∧
      reset.unixNanoseconds ≤ stop := by
  cases h with
  | cons _ hlook h =>
      obtain ⟨hshown, hleap, hlookEnd⟩ := hlook
      cases h with
      | @cons _ waited _ _ _ hwaitBegin hwait h =>
          have hspan := Instant.spanFrom_eq hreset hleap
          have hwaitEnd : wait + (reset.spanFrom shown).nanoseconds ≤ waited := hwait
          have hstop := h.le
          refine ⟨hspan, ?_⟩
          dsimp only at hshown hlookEnd hwaitBegin
          omega

theorem guarding_of_error {why : Timestamp.Fault} (hquota : reply.quota = some quota)
    (hnone : quota.remaining ≤ 0) (hread : Timestamp.read quota.resetAt = .error why)
    (h : (holdBack reply quota : Plan ι _).Course (rest.map Entry.act) ending) :
    Guarding stop (some (.finished (.ok reply))) rest ending := by
  rw [holdBack_of_error hread] at h
  rcases course_now_iff.1 h with ⟨hnil, rfl⟩ | ⟨shown, later, hacts, hlater⟩
  · obtain rfl := List.map_eq_nil_iff.1 hnil
    exact .givenUp _ (by simp)
  · obtain ⟨⟨look, _⟩, rest, rfl, rfl, hrest⟩ := List.map_eq_cons_iff.1 hacts
    obtain ⟨rfl, hend⟩ := course_done_iff.1 hlater
    obtain rfl := List.map_eq_nil_iff.1 hrest
    cases ending with
    | none => exact .givenUp _ (by simp [Act.isCall])
    | some o =>
        obtain rfl := hend o rfl
        exact .unreadable hquota hnone hread

theorem guarding_of_ok {reset : Instant} (hquota : reply.quota = some quota)
    (hnone : quota.remaining ≤ 0) (hread : Timestamp.read quota.resetAt = .ok reset)
    (h : (holdBack reply quota : Plan ι _).Course (rest.map Entry.act) ending)
    (hrest : Chronicle start rest stop) :
    Guarding stop (some (.finished (.ok reply))) rest ending := by
  rw [holdBack_of_ok hread] at h
  rcases course_now_iff.1 h with ⟨hnil, rfl⟩ | ⟨shown, later, hacts, hlater⟩
  · obtain rfl := List.map_eq_nil_iff.1 hnil
    exact .givenUp _ (by simp)
  · obtain ⟨⟨look, _⟩, rest, rfl, rfl, hlook⟩ := List.map_eq_cons_iff.1 hacts
    rcases course_wait_iff.1 hlater with ⟨hnil, rfl⟩ | ⟨last, hacts', hlast⟩
    · rw [← hlook] at hnil
      obtain rfl := List.map_eq_nil_iff.1 hnil
      exact .givenUp _ (by simp [Act.isCall])
    · rw [← hlook] at hacts'
      obtain ⟨⟨wait, _⟩, rest, rfl, rfl, hwait⟩ := List.map_eq_cons_iff.1 hacts'
      obtain ⟨rfl, hend⟩ := course_done_iff.1 hlast
      obtain rfl := List.map_eq_nil_iff.1 hwait
      cases ending with
      | none => exact .givenUp _ (by simp [Act.isCall])
      | some o =>
          obtain rfl := hend o rfl
          exact .heldBack hquota hnone hread (fun hleap => (hrest.reset_le hleap).1)
            fun hleap => (hrest.reset_le hleap).2

theorem guarding_of_done {result : Except ErrorChain Reply}
    (h : (done result : Plan ι _).Course (rest.map Entry.act) ending)
    (hguarding : Guarding stop (some (.finished result)) ([] : List (Entry ι))
      (some (.finished result))) :
    Guarding stop (some (.finished result)) rest ending := by
  obtain ⟨hnil, hend⟩ := course_done_iff.1 h
  obtain rfl := List.map_eq_nil_iff.1 hnil
  cases ending with
  | none => exact .givenUp _ (by simp)
  | some o =>
      obtain rfl := hend o rfl
      exact hguarding

end Guarding

/-- A fetch whose quota is guarded does what the fetch does, and is then held back if it has to. -/
theorem exists_guarding {fetch : Plan ι (Except ErrorChain Reply)} {start stop : Int}
    {entries : List (Entry ι)} {ending : Option (Outcome (Except ErrorChain Reply))}
    (h : fetch.guarded.Course (entries.map Entry.act) ending)
    (hentries : Chronicle start entries stop) :
    ∃ own rest inner, entries = own ++ rest ∧ fetch.Course (own.map Entry.act) inner ∧
      Guarding stop inner rest ending := by
  generalize hacts : entries.map Entry.act = acts at h
  cases course_bind h with
  | underWay hfetch =>
      subst hacts
      exact ⟨entries, [], none, (List.append_nil _).symm, hfetch, .givenUp _ (by simp)⟩
  | crashed hfetch =>
      subst hacts
      exact ⟨entries, [], _, (List.append_nil _).symm, hfetch, .crashed _⟩
  | @finished _ _ result _ hfetch hafter =>
      obtain ⟨own, rest, rfl, rfl, rfl⟩ := List.map_eq_append_iff.1 hacts
      obtain ⟨middle, -, hrest⟩ := hentries.drop
      refine ⟨own, rest, _, rfl, hfetch, ?_⟩
      cases result with
      | error e => exact guarding_of_done hafter (.failed e)
      | ok reply =>
          cases hquota : reply.quota with
          | none =>
              simp only [hquota] at hafter
              exact guarding_of_done hafter (.spared (by simp [hquota]))
          | some quota =>
              simp only [hquota, Payload.Quota.isExhausted, decide_eq_true_eq] at hafter
              split at hafter
              · rename_i hnone
                cases hread : Timestamp.read quota.resetAt with
                | error why => exact guarding_of_error hquota hnone hread hafter
                | ok reset => exact guarding_of_ok hquota hnone hread hafter hrest
              · rename_i hleft
                refine guarding_of_done hafter (.spared ?_)
                rintro _ hsame
                obtain rfl := Option.some.inj (hquota.symm.trans hsame)
                exact Int32.not_le.1 hleft

/-- A fetch that returns a reply without calls left returns it after the reset. -/
theorem Guarding.reset_le {inner : Option (Outcome (Except ErrorChain Reply))} {stop : Int}
    {rest : List (Entry ι)} {reply : Reply} {quota : Payload.Quota} {reset : Instant}
    (h : Guarding stop inner rest (some (.finished (.ok reply))))
    (hquota : reply.quota = some quota) (hnone : quota.remaining ≤ 0)
    (hread : Timestamp.read quota.resetAt = .ok reset) (hleap : reset.inLeapSecond = false) :
    reset.unixNanoseconds ≤ stop := by
  cases h with
  | spared hspared => exact absurd hnone (Int32.not_le.2 (hspared quota hquota))
  | heldBack hquota' _ hread' _ hstop =>
      obtain rfl := Option.some.inj (hquota.symm.trans hquota')
      obtain rfl := Except.ok.inj (hread.symm.trans hread')
      exact hstop hleap

/-- Fetches follow one another, and their quota is guarded. In each turn there is one fetch and, when
it has come to an outcome, no other call. An error, and a reply that leaves calls or tells no quota,
is returned as it is and at once; a reply that leaves none is returned as it is when the quota is
reset, without a wait if that has happened before; and if the reset cannot be read there is an error
at once that tells what was given for it. Hence after a reply without calls left nothing is asked
before the reset. Carrying out a fetch in an environment is such a turn, and has an outcome. -/
theorem turns_wait_for_reset (fetch : Query → Plan ι (Except ErrorChain Reply))
    (turns : List (Turn ι)) (hturns : ∀ turn ∈ turns, turn.IsOf fun query => (fetch query).guarded)
    (horder : turns.Pairwise fun earlier later => earlier.stop ≤ later.start) :
    (∀ turn ∈ turns, ∃ own rest inner, turn.entries = own ++ rest ∧
      (fetch turn.query).Course (own.map Entry.act) inner ∧
      Guarding turn.stop inner rest turn.ending) ∧
    (turns.Pairwise fun earlier later => ∀ reply quota reset,
      earlier.ending = some (.finished (.ok reply)) → reply.quota = some quota →
      quota.remaining ≤ 0 → Timestamp.read quota.resetAt = .ok reset →
      reset.inLeapSecond = false → ∀ entry ∈ later.entries, reset.unixNanoseconds ≤ entry.time) ∧
    ∀ query e, (Turn.ofRun (fun query => (fetch query).guarded) query e).isTimed = true →
      (Turn.ofRun (fun query => (fetch query).guarded) query e).IsOf
        fun query => (fetch query).guarded := by
  have hguarding : ∀ turn ∈ turns, ∃ own rest inner, turn.entries = own ++ rest ∧
      (fetch turn.query).Course (own.map Entry.act) inner ∧
      Guarding turn.stop inner rest turn.ending := fun turn hmem =>
    exists_guarding (hturns turn hmem).course (hturns turn hmem).chronicle
  refine ⟨hguarding, horder.imp_of_mem ?_, fun query e => Turn.isOf_ofRun _ query e⟩
  intro earlier later hearlier hlater hle reply quota reset hending hquota hnone hread hleap entry
    hmem
  obtain ⟨own, rest, inner, -, -, guarding⟩ := hguarding earlier hearlier
  rw [hending] at guarding
  calc reset.unixNanoseconds
      ≤ earlier.stop := guarding.reset_le hquota hnone hread hleap
    _ ≤ later.start := hle
    _ ≤ entry.time := (hturns later hlater).chronicle.le_time hmem

/-- The first reply leaves no calls for a second, and the later ones tell no quota. -/
def exhaustedOnce : Environment (Except ErrorChain Reply) where
  server n :=
    ⟨fun _ => .ok ⟨.null, if n = 0 then some ⟨5000, 1, 0, "2026-01-01T00:00:01Z"⟩ else none⟩, 0⟩
  origin := .ofUnix 1767225600 0
  clock := 0
  calls := []
  notes := []

theorem turns_wait_for_reset_after_exhausted :
    let fetch : Query → Plan (Except ErrorChain Reply) _ := fun query => (directFetch query).guarded
    let query : Query := .commits "own"
    let first := Turn.ofRun fetch query exhaustedOnce
    let second := Turn.ofRun fetch query ((fetch query).run exhaustedOnce).2
    let reset : Instant := .ofUnix 1767225601 0
    first.IsOf fetch ∧ second.IsOf fetch ∧ first.stop ≤ second.start ∧
      Timestamp.read "2026-01-01T00:00:01Z" = .ok reset ∧ reset.inLeapSecond = false ∧
      second.entries.length = 2 ∧ ∀ entry ∈ second.entries, reset.unixNanoseconds ≤ entry.time := by
  intro fetch query first second reset
  have hfirst : first.IsOf fetch := Turn.isOf_ofRun fetch query exhaustedOnce (by decide +kernel)
  have hsecond : second.IsOf fetch := Turn.isOf_ofRun fetch query _ (by decide +kernel)
  have hreset : (Timestamp.read "2026-01-01T00:00:01Z").toOption = some reset := by decide +kernel
  have hread : Timestamp.read "2026-01-01T00:00:01Z" = .ok reset := by
    cases hresult : Timestamp.read "2026-01-01T00:00:01Z" <;> simp_all [Except.toOption]
  have horder : first.stop ≤ second.start := Int.le_refl _
  have hwaits := (turns_wait_for_reset directFetch [first, second]
    (by simpa using ⟨hfirst, hsecond⟩) (by simpa using horder)).2.1
  have hsecondWaits := List.rel_of_pairwise_cons hwaits (.head _)
  exact ⟨hfirst, hsecond, horder, hread, rfl, rfl,
    hsecondWaits ⟨.null, some ⟨5000, 1, 0, "2026-01-01T00:00:01Z"⟩⟩ _ reset rfl rfl (by decide)
      hread rfl⟩

end RepoWatch.Plan
