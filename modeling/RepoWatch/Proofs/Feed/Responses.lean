import RepoWatch.Proofs.Feed.Emissions
import RepoWatch.Proofs.Feed.Images
import RepoWatch.Proofs.Payload.Chain
import RepoWatch.Proofs.World.Deeds
/-!
# Responses, from the raw data to the outlets

For a response one value is published: what the raw data tells, or a failure when some of it cannot be
read. A chain that is broken is no failure; it tells nothing.
-/

namespace RepoWatch

open Payload

/-- To handle a response for a query of an operation is to publish one value and nothing else: the log
of the outlet to which the value belongs takes it, and the other logs stay. A follower that is switched
on and has taken the response can do so. -/
def Operation.Publishes (operation : Operation) (data : Json) (publication : Publication) : Prop :=
  ∀ {w : World} {number : Nat} {query : Query} {fromCache : Bool},
    w.hub.active? number = some query → query.operation = operation →
    (w.hub.handling? number = some (.response data fromCache) →
      ∃ w', Step w (.handled number (.response data fromCache)) w') ∧
    ∀ {w' : World}, Step w (.handled number (.response data fromCache)) w' →
      w.hub.outlets.Takes [publication] w'.hub.outlets

theorem Step.exists_of_handling {w : World} {number : Nat} {event : Event}
    (h : w.hub.handling? number = some event) : ∃ w', Step w (.handled number event) w' := by
  have hlabel : w.hub.followerLabel number = .handled number event := by
    rw [Hub.followerLabel, h]
  unfold Hub.handling? at h
  split at h
  · rename_i f hf
    obtain ⟨p, hp, hf⟩ := Option.bind_eq_some_iff.1 hf
    split at h
    · rename_i hcond
      obtain ⟨hrunning, hactive⟩ : f.isFinished = false ∧ f.isActive = true := by
        simpa using hcond
      have hstep : w.hub.stepFollower number = some ((w.hub.setFollower number p
          { f with holding := none }).handle f.query.operation event) := by
        simp [Hub.stepFollower, hp, hf, hrunning, hactive, h]
      have step := Step.follower hstep
      rw [hlabel] at step
      exact ⟨_, step⟩
    · cases h
  · cases h

theorem Operation.Image.publishes {operation : Operation} {data : Json} {publication : Publication}
    (h : operation.Image data publication) : operation.Publishes data publication := by
  rintro w number query fromCache hactive rfl
  refine ⟨Step.exists_of_handling, fun step => ?_⟩
  obtain ⟨image, himage, htakes⟩ := step.takes_image hactive
  cases himage with
  | response h' => rwa [← Operation.image_iff.1 h, Operation.image_iff.1 h']

/-- Each item of a list that can be read spells a value. -/
theorem Payload.exists_spelled_of_mem {α : Type} {s : Spelling α} {items : List Json} {as : List α}
    (h : List.Forall₂ s items as) {v : Json} (hmem : v ∈ items) : ∃ a, s v a := by
  obtain ⟨i, rfl⟩ := List.mem_iff_get.1 hmem
  have hlt : i.val < as.length := h.length_eq ▸ i.isLt
  exact ⟨_, h.get i.isLt hlt⟩

namespace Payload.Commits

variable {data : Json} {raw : List Json}

theorem Edge.rightUnique_spelled : Relator.RightUnique Edge.Spelled := by
  intro v edge edge' h h'
  rw [← Edge.accepts_decode] at h h'
  exact Except.ok.inj (h.symm.trans h')

theorem decode_eq_ok_iff {commits : Commits} : decode data = .ok commits ↔ Spelled data commits := by
  rw [← accepts_decode]
  rfl

theorem decode_of_rawEdges (h : RawEdges data raw) {edges : List Edge}
    (hedges : List.Forall₂ Edge.Spelled raw edges) :
    ∃ commits, decode data = .ok commits ∧ commits.edges = edges := by
  obtain ⟨hsome, hall⟩ := h.spelled
  obtain ⟨commits, hcommits⟩ := hsome edges hedges
  refine ⟨commits, decode_eq_ok_iff.2 hcommits, ?_⟩
  exact List.right_unique_forall₂' Edge.rightUnique_spelled (hall commits hcommits) hedges

theorem decode_of_faulty (h : RawEdges data raw)
    (hfaulty : ∃ v ∈ raw, ∀ edge, ¬ Edge.Spelled v edge) : ∃ fault, decode data = .error fault := by
  cases hdecode : decode data with
  | error fault => exact ⟨fault, rfl⟩
  | ok commits =>
      obtain ⟨v, hmem, hnone⟩ := hfaulty
      have hedges := h.spelled.2 commits (decode_eq_ok_iff.1 hdecode)
      obtain ⟨edge, hedge⟩ := exists_spelled_of_mem hedges hmem
      exact absurd hedge (hnone edge)

end Payload.Commits

/-- The edges that are published for a response are those which its raw edges spell, each once and in
order, an edge without a commit like any other one: none when a link of the chain is absent or null or
when the target is no commit, whatever else it has. When a raw edge spells none, one failure to parse
is published, and no list. -/
theorem commits_are_the_raw_edges {data : Json} {raw : List Json} (h : Commits.RawEdges data raw) :
    (∀ edges, List.Forall₂ Commits.Edge.Spelled raw edges →
      (∃ commits, Commits.decode data = .ok commits ∧ commits.edges = edges) ∧
        Operation.commits.Publishes data (.commits edges)) ∧
    ((∃ v ∈ raw, ∀ edge, ¬ Commits.Edge.Spelled v edge) →
      ∃ fault, Commits.decode data = .error fault ∧
        Operation.commits.Publishes data
          (.failure ⟨"GithubRepositoryCommits", .parse fault.message⟩)) ∧
    ∀ entries, Json.lookup "node" entries = none ∨ Json.lookup "node" entries = some .null →
      Commits.Edge.Spelled (.object entries) ⟨none⟩ := by
  refine ⟨fun edges hedges => ?_, fun hfaulty => ?_, fun entries hnode => ?_⟩
  · obtain ⟨commits, hdecode, rfl⟩ := Commits.decode_of_rawEdges h hedges
    exact ⟨⟨commits, hdecode, rfl⟩, (Operation.Image.commits hdecode).publishes⟩
  · obtain ⟨fault, hdecode⟩ := Commits.decode_of_faulty h hfaulty
    have hundecodable : Operation.commits.decode data = .error fault := by
      rw [Operation.decode, hdecode]
      rfl
    exact ⟨fault, hdecode, (Operation.Image.undecodable hundecodable).publishes⟩
  · exact (record_link_of_missing hnode).2 rfl

/-- Data of the commits query with a commit as target, and the items of its history. -/
def commitsData (items : List Json) : Json :=
  .object [("viewer", .object [("repository", .object [("defaultBranchRef", .object [("target",
    .object [("__typename", .string "Commit"), ("history", .object [("edges", .array items)])])])])])]

theorem rawEdges_commitsData (items : List Json) :
    Commits.RawEdges (commitsData items) (Json.given items) := by
  refine .edges (.next rfl (by simp) (.next rfl (by simp) (.next rfl (by simp)
    (.next rfl (by simp) (.here _))))) rfl ?_
  exact .next rfl (by simp) (.next rfl (by simp) (.here _))

/-- Of a null, an edge without a commit and one with a commit two are published; and none of an edge
without a commit and one whose commit is a number. -/
theorem commits_are_the_raw_edges_mixed :
    let commit : Json := .object [("node", .object [("abbreviatedOid", .string "a1"),
      ("messageHeadline", .string "first")])]
    let read : List Json := [.null, .object [("node", .null)], commit]
    let faulty : List Json := [.object [], .object [("node", .integer 5)]]
    let followed : World := World.after (.start .empty .unheard) [.fetch (.commits "own")]
    let waiting (items : List Json) : World :=
      followed.after [.feed 0 (.response (commitsData items) false), .follower 0]
    Commits.RawEdges (commitsData read) [.object [("node", .null)], commit] ∧
      Commits.RawEdges (commitsData faulty) faulty ∧
      (∀ items, (waiting items).hub.active? 0 = some (.commits "own") ∧
        (waiting items).hub.handling? 0 = some (.response (commitsData items) false)) ∧
      (∃ w, Step (waiting read) (.handled 0 (.response (commitsData read) false)) w ∧
        (waiting read).hub.outlets.Takes [.commits [⟨none⟩, ⟨some ⟨"a1", "first", none⟩⟩]]
          w.hub.outlets) ∧
      ∃ w fault, Step (waiting faulty) (.handled 0 (.response (commitsData faulty) false)) w ∧
        (waiting faulty).hub.outlets.Takes [.failure ⟨"GithubRepositoryCommits", .parse fault⟩]
          w.hub.outlets := by
  intro commit read faulty followed waiting
  have hread := rawEdges_commitsData read
  have hfaulty := rawEdges_commitsData faulty
  have hwaiting : ∀ items, (waiting items).hub.active? 0 = some (.commits "own") ∧
      (waiting items).hub.handling? 0 = some (.response (commitsData items) false) :=
    fun _ => ⟨rfl, rfl⟩
  have hspelled : ∀ {v edge}, Commits.Edge.decode v = .ok edge → Commits.Edge.Spelled v edge := by
    intro v edge h
    rw [← Commits.Edge.accepts_decode]
    exact h
  have hedges : List.Forall₂ Commits.Edge.Spelled (Json.given read)
      [⟨none⟩, ⟨some ⟨"a1", "first", none⟩⟩] :=
    .cons (hspelled rfl) (.cons (hspelled rfl) .nil)
  have hnone : ∀ edge, ¬ Commits.Edge.Spelled (.object [("node", .integer 5)]) edge := by
    intro edge h
    rw [← Commits.Edge.accepts_decode] at h
    cases h
  refine ⟨hread, hfaulty, hwaiting, ?_, ?_⟩
  · obtain ⟨-, hpublishes⟩ := (commits_are_the_raw_edges hread).1 _ hedges
    obtain ⟨hactive, hhandling⟩ := hwaiting read
    obtain ⟨hgoes, hpublished⟩ := hpublishes hactive rfl
    obtain ⟨w, step⟩ := hgoes hhandling
    exact ⟨w, step, hpublished step⟩
  · obtain ⟨fault, -, hpublishes⟩ :=
      (commits_are_the_raw_edges hfaulty).2.1 ⟨_, .tail _ (.head _), hnone⟩
    obtain ⟨hactive, hhandling⟩ := hwaiting faulty
    obtain ⟨hgoes, hpublished⟩ := hpublishes hactive rfl
    obtain ⟨w, step⟩ := hgoes hhandling
    exact ⟨w, fault.message, step, hpublished step⟩

/-! ## Lists of repositories -/

namespace Payload.Repositories

variable {data : Json} {raw : List Json}

theorem decode_eq_ok_iff {repositories : Repositories} :
    decode data = .ok repositories ↔ Spelled data repositories := by
  rw [← accepts_decode]
  rfl

theorem summaries_eq (repositories : Repositories) :
    repositories.summaries = (repositories.nodes.filterMap id).map Node.summary := by
  rw [summaries, List.map_filterMap]
  rfl

theorem Tells.exists_entries {v : Json} {summary : Summary} (h : Tells v summary) :
    ∃ entries, v = .object entries := by
  cases h <;> exact ⟨_, rfl⟩

theorem rightUnique_tells : Relator.RightUnique Tells := by
  intro v summary summary' h h'
  cases h with
  | described hid hname hdescription =>
      cases h' with
      | described hid' hname' hdescription' => simp_all
      | bare hid' hname' hdescription' => simp_all
  | bare hid hname hdescription =>
      cases h' with
      | described hid' hname' hdescription' => simp_all
      | bare hid' hname' hdescription' => simp_all

/-- Nodes that are spelled by objects have the summaries that the objects tell. -/
theorem forall₂_tells {nodes : List Node} (hobjects : ∀ v ∈ raw, ∃ entries, v = .object entries)
    (h : List.Forall₂ Node.Spelled raw nodes) :
    List.Forall₂ Tells raw (nodes.map Node.summary) := by
  induction h with
  | nil => exact .nil
  | @cons v node _ _ hnode _ ih =>
      obtain ⟨entries, rfl⟩ := hobjects v List.mem_cons_self
      exact .cons (Node.spelled_object_iff.1 hnode)
        (ih fun v hv => hobjects v (List.mem_cons_of_mem _ hv))

theorem exists_forall₂_spelled (h : ∀ v ∈ raw, ∃ summary, Tells v summary) :
    ∃ nodes, List.Forall₂ Node.Spelled raw nodes := by
  induction raw with
  | nil => exact ⟨[], .nil⟩
  | cons v raw ih =>
      obtain ⟨⟨id, name, description⟩, htells⟩ := h v List.mem_cons_self
      obtain ⟨entries, rfl⟩ := htells.exists_entries
      obtain ⟨nodes, hnodes⟩ := ih fun v hv => h v (List.mem_cons_of_mem _ hv)
      have hnode : Node.Spelled (.object entries) ⟨id, name, description⟩ :=
        Node.spelled_object_iff.2 htells
      exact ⟨_, .cons hnode hnodes⟩

theorem decode_of_rawNodes (h : RawNodes data raw) (htells : ∀ v ∈ raw, ∃ summary, Tells v summary) :
    ∃ repositories, decode data = .ok repositories ∧
      List.Forall₂ Tells raw repositories.summaries := by
  obtain ⟨hsome, hall⟩ := h.spelled
  obtain ⟨nodes, hnodes⟩ := exists_forall₂_spelled htells
  obtain ⟨repositories, hrepositories⟩ := hsome nodes hnodes
  refine ⟨repositories, decode_eq_ok_iff.2 hrepositories, ?_⟩
  have hobjects : ∀ v ∈ raw, ∃ entries, v = .object entries := by
    intro v hv
    obtain ⟨summary, hsummary⟩ := htells v hv
    exact hsummary.exists_entries
  rw [summaries_eq]
  exact forall₂_tells hobjects (hall repositories hrepositories)

theorem decode_of_faulty (h : RawNodes data raw) {entries : List (String × Json)}
    (hmem : .object entries ∈ raw) (hnone : ∀ summary, ¬ Tells (.object entries) summary) :
    ∃ fault, decode data = .error fault := by
  cases hdecode : decode data with
  | error fault => exact ⟨fault, rfl⟩
  | ok repositories =>
      have hnodes := h.spelled.2 repositories (decode_eq_ok_iff.1 hdecode)
      obtain ⟨node, hnode⟩ := exists_spelled_of_mem hnodes hmem
      exact absurd (Node.spelled_object_iff.1 hnode) (hnone _)

end Payload.Repositories

/-- For a response to a query for repositories one list is published: a summary for each raw node that
is not null, in order, with its id, its name and its description. So it is when all of them tell
summaries, which none has to do when a link is absent or null. When an object among them tells none,
one failure to parse is published, and no list. -/
theorem repositories_are_the_raw_nodes {data : Json} {raw : List Json}
    (h : Repositories.RawNodes data raw) :
    ((∀ v ∈ raw, ∃ summary, Repositories.Tells v summary) →
      ∃ summaries, (∀ told, List.Forall₂ Repositories.Tells raw told ↔ told = summaries) ∧
        Operation.repositories.Publishes data (.repositories summaries)) ∧
    ∀ entries, .object entries ∈ raw →
      (∀ summary, ¬ Repositories.Tells (.object entries) summary) →
      ∃ fault, Operation.repositories.Publishes data
        (.failure ⟨"GithubRepositories", .parse fault⟩) := by
  constructor
  · intro htells
    obtain ⟨repositories, hdecode, hsummaries⟩ := Repositories.decode_of_rawNodes h htells
    refine ⟨_, fun told => ⟨fun htold => ?_, ?_⟩, (Operation.Image.repositories hdecode).publishes⟩
    · exact List.right_unique_forall₂' Repositories.rightUnique_tells htold hsummaries
    · rintro rfl
      exact hsummaries
  · intro entries hmem hnone
    obtain ⟨fault, hdecode⟩ := Repositories.decode_of_faulty h hmem hnone
    have hundecodable : Operation.repositories.decode data = .error fault := by
      rw [Operation.decode, hdecode]
      rfl
    exact ⟨fault.message, (Operation.Image.undecodable hundecodable).publishes⟩

/-- Data of the repositories query with the items of its list. -/
def repositoriesData (items : List Json) : Json :=
  .object [("viewer", .object [("repositories", .object [("nodes", .array items)])])]

theorem rawNodes_repositoriesData (items : List Json) :
    Repositories.RawNodes (repositoriesData items) (Json.given items) :=
  .nodes (.next rfl (by simp) (.next rfl (by simp) (.next rfl (by simp) (.here _))))

/-- Of a null, a node that is there twice and a node without description three are published; and none
of a node with a summary and one whose id is a number. -/
theorem repositories_are_the_raw_nodes_repeated :
    let own : Json := .object [("description", .string "mine"), ("id", .string "R1"),
      ("name", .string "own"), ("stars", .integer 5)]
    let plain : Json := .object [("description", .null), ("id", .string "R2"),
      ("name", .string "plain")]
    let faulty : List (String × Json) := [("id", .integer 3), ("name", .string "faulty")]
    let read : List Json := [.null, own, own, plain]
    let spoilt : List Json := [own, .object faulty]
    let followed : World := World.after (.start .empty .unheard) [.fetch Hub.repositoriesQuery]
    let waiting (items : List Json) : World :=
      followed.after [.feed 0 (.response (repositoriesData items) false), .follower 0]
    Repositories.RawNodes (repositoriesData read) [own, own, plain] ∧
      Repositories.RawNodes (repositoriesData spoilt) spoilt ∧
      (∀ items, (waiting items).hub.active? 0 = some Hub.repositoriesQuery ∧
        (waiting items).hub.handling? 0 = some (.response (repositoriesData items) false)) ∧
      (∃ w, Step (waiting read) (.handled 0 (.response (repositoriesData read) false)) w ∧
        (waiting read).hub.outlets.Takes [.repositories [⟨"R1", "own", some "mine"⟩,
          ⟨"R1", "own", some "mine"⟩, ⟨"R2", "plain", none⟩]] w.hub.outlets) ∧
      ∃ w fault, Step (waiting spoilt) (.handled 0 (.response (repositoriesData spoilt) false)) w ∧
        (waiting spoilt).hub.outlets.Takes [.failure ⟨"GithubRepositories", .parse fault⟩]
          w.hub.outlets := by
  intro own plain faulty read spoilt followed waiting
  have hread := rawNodes_repositoriesData read
  have hspoilt := rawNodes_repositoriesData spoilt
  have hwaiting : ∀ items, (waiting items).hub.active? 0 = some Hub.repositoriesQuery ∧
      (waiting items).hub.handling? 0 = some (.response (repositoriesData items) false) :=
    fun _ => ⟨rfl, rfl⟩
  have hown : Repositories.Tells own ⟨"R1", "own", some "mine"⟩ := .described rfl rfl rfl
  have hplain : Repositories.Tells plain ⟨"R2", "plain", none⟩ := .bare rfl rfl (.inr rfl)
  have hfaulty : ∀ summary, ¬ Repositories.Tells (.object faulty) summary := by
    intro summary h
    cases h with
    | described hid | bare hid => simp [faulty, Json.lookup] at hid
  have htells : ∀ v ∈ [own, own, plain], ∃ summary, Repositories.Tells v summary :=
    List.forall_mem_cons.2 ⟨⟨_, hown⟩, List.forall_mem_cons.2 ⟨⟨_, hown⟩,
      List.forall_mem_singleton.2 ⟨_, hplain⟩⟩⟩
  refine ⟨hread, hspoilt, hwaiting, ?_, ?_⟩
  · obtain ⟨summaries, hsummaries, hpublishes⟩ := (repositories_are_the_raw_nodes hread).1 htells
    obtain rfl := (hsummaries _).1 (.cons hown (.cons hown (.cons hplain .nil)))
    obtain ⟨hactive, hhandling⟩ := hwaiting read
    obtain ⟨hgoes, hpublished⟩ := hpublishes hactive rfl
    obtain ⟨w, step⟩ := hgoes hhandling
    exact ⟨w, step, hpublished step⟩
  · obtain ⟨fault, hpublishes⟩ :=
      (repositories_are_the_raw_nodes hspoilt).2 faulty (.tail _ (.head _)) hfaulty
    obtain ⟨hactive, hhandling⟩ := hwaiting spoilt
    obtain ⟨hgoes, hpublished⟩ := hpublishes hactive rfl
    obtain ⟨w, step⟩ := hgoes hhandling
    exact ⟨w, fault, step, hpublished step⟩

end RepoWatch
