import RepoWatch.Graphql.Exchange
import RepoWatch.Proofs.Cache.History
import RepoWatch.Proofs.Feed.Cancellation
/-!
# Keys and requests

A query is the key of its entry in the cache and of its watch in the feed, while a request is a
document and the variables that fill it in. Both tell the same queries apart: queries of one operation
have one document, and their variables tell all the rest. So what is asked by different requests is
never taken for one another, and what is asked by equal requests always is.
-/

namespace RepoWatch

/-! ## The tokens of variables -/

theorem RepositoryOrder.token_injective : Function.Injective token := by
  intro order order'
  cases order <;> cases order' <;> decide

theorem Direction.token_injective : Function.Injective token := by
  intro direction direction'
  cases direction <;> cases direction' <;> decide

theorem PullRequestState.token_injective : Function.Injective token := by
  intro state state'
  cases state <;> cases state' <;> decide

theorem PullRequestState.eq_of_tokens {states states' : List PullRequestState}
    (h : Json.eqvItems (states.map fun s => .string s.token)
      (states'.map fun s => .string s.token) = true) : states = states' := by
  induction states generalizing states' with
  | nil =>
      cases states' with
      | nil => rfl
      | cons => cases h
  | cons state states ih =>
      cases states' with
      | nil => cases h
      | cons state' states' =>
          simp only [List.map_cons, Json.eqvItems, Json.eqv, Bool.and_eq_true, beq_iff_eq] at h
          rw [token_injective h.1, ih h.2]

/-! ## Requests -/

namespace Query

/-- Two queries send the same request: one document, with equal variables. -/
def SameRequest (a b : Query) : Prop :=
  a.document = b.document ∧ (a.variables == b.variables) = true

theorem operation_eq_of_document {a b : Query} (h : a.document = b.document) :
    a.operation = b.operation := by
  have hdocuments : ∀ o o' : Operation,
      o.selection.document = o'.selection.document → o = o' := by
    intro o o'
    cases o <;> cases o' <;> decide +kernel
  exact hdocuments _ _ h

/-- Among the queries of one operation the variables tell which one it is. -/
theorem eq_of_variables {a b : Query} (hoperation : a.operation = b.operation)
    (h : (a.variables == b.variables) = true) : a = b := by
  replace h : Json.eqv a.variables b.variables = true := h
  cases a <;> cases b <;> cases hoperation
  all_goals
    simp only [Query.variables, Json.eqv, Json.eqvFields, Json.eqvField, Bool.and_eq_true,
      beq_iff_eq] at h
  case repositories.repositories =>
      obtain ⟨⟨-, horder⟩, ⟨-, hdirection⟩, ⟨-, hcount⟩, -⟩ := h
      rw [RepositoryOrder.token_injective horder, Direction.token_injective hdirection,
        UInt16.toNat_inj.1 (Int.ofNat_inj.1 hcount)]
  case detail.detail =>
      obtain ⟨⟨-, rfl⟩, ⟨-, hstates⟩, -⟩ := h
      rw [PullRequestState.eq_of_tokens hstates]
  case commits.commits =>
      obtain ⟨⟨-, rfl⟩, -⟩ := h
      rfl

theorem sameRequest_iff {a b : Query} : a.SameRequest b ↔ a = b := by
  constructor
  · rintro ⟨hdocument, hvariables⟩
    exact eq_of_variables (operation_eq_of_document hdocument) hvariables
  · rintro rfl
    exact ⟨rfl, BEq.rfl⟩

end Query

/-- A client refuses all queries alike, or sends the request of each. -/
theorem Graphql.Client.prepare_cases (c : Graphql.Client) :
    (∃ refusal, ∀ q, c.prepare q = .error refusal) ∨
      ∃ address, ∀ q, c.prepare q = .ok ⟨address, c.token, q⟩ := by
  unfold prepare
  cases Web.Address.read c.endpoint with
  | error fault => exact .inl ⟨_, fun _ => rfl⟩
  | ok address =>
      simp only [pure_bind]
      cases address.hasHost with
      | false => exact .inl ⟨_, fun _ => rfl⟩
      | true =>
          cases c.token.toList.all isHeaderChar with
          | false => exact .inl ⟨_, fun _ => rfl⟩
          | true =>
              cases isSendable address with
              | false => exact .inl ⟨_, fun _ => rfl⟩
              | true => exact .inr ⟨_, fun _ => rfl⟩

/-! ## Entries -/

namespace Cache

variable {a b : Query}

theorem get?_put_of_ne (c : Cache) (hne : b ≠ a) (data : Json) :
    (c.put a data).get? b = c.get? b := by
  cases hholds : c.holds a data with
  | true => rw [put_of_holds hholds]
  | false => rw [put_of_not_holds hholds, get?_announce, get?_insert_of_ne _ _ _ hne]

end Cache

/-! ## Watches -/

/-- A step begins neither to fetch what is asked by the request of a query nor to cancel. -/
def Label.Spares (query : Query) : Label → Prop
  | .fetched q _ => ¬ q.SameRequest query
  | .stopping => False
  | _ => True

section Watches

variable {w w' origin : World} {l : Label} {t : Trace} {number : Nat} {query : Query}

theorem Label.spares_iff : l.Spares query ↔ l.supersedes query = false := by
  cases l <;> simp [Spares, supersedes, Query.sameRequest_iff]

/-- When a fetch has returned, its watch is followed, and no other one whose request is the same. -/
theorem Step.returned_fetch (step : Step w (.returned (.fetch query number)) w') (tidy : w.Tidy) :
    w'.hub.active? number = some query ∧
      ∀ n f, w'.hub.follower? n = some f → n ≠ number → f.query.SameRequest query →
        f.isActive = false := by
  have tidy' := step.tidy tidy
  obtain ⟨hcall, hregistered⟩ := step.settled tidy
  refine ⟨tidy'.active hregistered, fun n f hf hne hsame => ?_⟩
  obtain rfl := Query.sameRequest_iff.1 hsame
  rw [Bool.eq_false_iff]
  intro hon
  have hactive : w'.hub.active? n = some f.query := by
    rw [Hub.active?, hf, Option.bind_some, if_pos hon]
  exact hne (tidy'.unique (tidy'.mem_registry hcall hactive) hregistered)

/-- A watch that was fetched is followed as long as it is spared. -/
theorem Run.active?_of_spares (step : Step w (.fetched query number) origin) (tidy : w.Tidy)
    (run : Run origin t w') (ht : ∀ m ∈ t, m.label.Spares query) :
    w'.hub.active? number = some query := by
  have follows := run.follows (fun m hm => Label.spares_iff.1 (ht m hm)) step.follows_fetched.1
  exact follows.active?_eq (run.keeps Step.tidy (step.tidy tidy))

end Watches

/-- Queries are equal exactly if they send the same request, and there is a request for each: a client
that refuses one refuses all. So an entry that is stored or removed is that of all queries with the
same request, and no other; and a fetch that has returned has superseded the watches with the same
request, while a watch stays as long as only different requests are fetched and nothing is cancelled. -/
theorem keys_are_requests :
    (∀ a b : Query, a = b ↔ a.SameRequest b) ∧
    (∀ c : Graphql.Client, (∃ refusal, ∀ q, c.prepare q = .error refusal) ∨
      ∀ q, ∃ request, c.prepare q = .ok request ∧
        request.body = .object [("query", .string q.document), ("variables", q.variables)]) ∧
    (∀ (c : Cache) (a b : Query) (data : Json),
      (a.SameRequest b →
        (∃ stored, (c.put a data).get? b = some stored ∧ (stored == data) = true) ∧
          (c.erase a).get? b = none) ∧
      (¬ a.SameRequest b →
        (c.put a data).get? b = c.get? b ∧ (c.erase a).get? b = c.get? b)) ∧
    ∀ {cache : Cache} {outlets : Outlets} {past : Trace} {w₀ : World},
      Run (.start cache outlets) past w₀ →
      (∀ {query : Query} {number : Nat} {origin : World},
        Step w₀ (.returned (.fetch query number)) origin →
        origin.hub.active? number = some query ∧
          ∀ n f, origin.hub.follower? n = some f → n ≠ number → f.query.SameRequest query →
            f.isActive = false) ∧
      (∀ {query : Query} {number : Nat} {origin w : World} {t : Trace},
        Step w₀ (.fetched query number) origin → Run origin t w →
        (∀ m ∈ t, m.label.Spares query) → w.hub.active? number = some query) := by
  refine ⟨fun a b => Query.sameRequest_iff.symm, fun c => ?_, fun c a b data => ?_,
    fun before => ?_⟩
  · refine c.prepare_cases.imp_right ?_
    rintro ⟨address, h⟩ q
    exact ⟨_, h q, rfl⟩
  · rw [Query.sameRequest_iff]
    constructor
    · rintro rfl
      exact ⟨Cache.Session.exists_get?_put c a data, c.get?_erase_self a⟩
    · intro hne
      exact ⟨c.get?_put_of_ne (Ne.symm hne) data, c.get?_erase_of_ne a (Ne.symm hne)⟩
  · exact ⟨fun step => step.returned_fetch before.tidy,
      fun step run ht => run.active?_of_spares step before.tidy ht⟩

/-- Two queries concern one repository. The one is fetched again, which supersedes its watch; and then
the other one is fetched, which does not. -/
theorem keys_are_requests_of_one_name :
    let query : Query := .commits "own"
    let other : Query := .detail "own" []
    let start : World := .start .empty .unheard
    let w := start.after (refetching query)
    let returned := (w.withHub (w.hub.conclude (.fetch query 1))).calling none
    let deeds : List Deed := [.proceed, .proceed, .fetch other, .proceed, .proceed, .proceed]
    let fetched := start.after [.fetch query]
    ¬ query.SameRequest other ∧
      (Cache.empty.put query (.integer 1)).get? other = none ∧
      (∃ stored, (Cache.empty.put query (.integer 1)).get? query = some stored ∧
        (stored == .integer 1) = true) ∧
      (Step w (.returned (.fetch query 1)) returned ∧ returned.hub.active? 1 = some query ∧
        ∃ f, returned.hub.follower? 0 = some f ∧ f.query.SameRequest query ∧ f.isActive = false) ∧
      Step start (.fetched query 0) fetched ∧
      (∀ m ∈ fetched.trace deeds, m.label.Spares query) ∧
      (fetched.after deeds).hub.active? 0 = some query := by
  intro query other start w returned deeds fetched
  obtain ⟨hkeys, -, hcache, hfeed⟩ := keys_are_requests
  have hdifferent : ¬ query.SameRequest other := fun hsame =>
    absurd ((hkeys query other).2 hsame) (by decide)
  have hsame : query.SameRequest query := (hkeys query query).1 rfl
  obtain ⟨hput, -⟩ := (hcache .empty query other (.integer 1)).2 hdifferent
  obtain ⟨hstored, -⟩ := (hcache .empty query query (.integer 1)).1 hsame
  refine ⟨hdifferent, hput, hstored, ?_, ?_⟩
  · have hcall : w.call = some (.switchingOff [] (.fetch query 1)) := by decide +kernel
    have step : Step w (.returned (.fetch query 1)) returned := .conclude hcall
    obtain ⟨hactive, hothers⟩ := (hfeed (Run.of_deeds start (refetching query))).1 step
    have hfollower : (returned.hub.follower? 0).map Follower.query = some query := by
      decide +kernel
    obtain ⟨f, hf, hquery⟩ := Option.map_eq_some_iff.1 hfollower
    have hrequest : f.query.SameRequest query := (hkeys f.query query).1 hquery
    exact ⟨step, hactive, f, hf, hrequest, hothers 0 f hf (by decide) hrequest⟩
  · have step : Step start (.fetched query 0) fetched := .fetch .outside query rfl rfl
    have hspared : (fetched.trace deeds).all (fun m => !m.label.supersedes query) = true := by
      decide +kernel
    have ht : ∀ m ∈ fetched.trace deeds, m.label.Spares query := by
      intro m hm
      exact Label.spares_iff.2 (by simpa using List.all_eq_true.1 hspared m hm)
    exact ⟨step, ht, (hfeed .nil).2 step (.of_deeds fetched deeds) ht⟩

end RepoWatch
