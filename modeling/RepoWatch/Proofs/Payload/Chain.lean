import RepoWatch.Proofs.Payload.Grammar
import RepoWatch.Proofs.Payload.Nulls
/-!
# Chains of links

Some data is reached through a chain of records, each with one link to the next. A link may be absent
or null, and then the chain is broken. What stands at the end of a chain that is not broken decides
what is read.
-/

namespace RepoWatch

/-- The items that are not null. -/
def Json.given (items : List Json) : List Json :=
  items.filter fun
    | .null => false
    | _ => true

namespace Payload

open Spelling (Nullable Optional Record Rule)

variable {α β ρ : Type}

/-- A chain of keys leads through objects to a value, or to nothing where a key is absent or null. -/
inductive Reaches : List String → Json → Option Json → Prop where
  | here (v : Json) : Reaches [] v (some v)
  | absent {key : String} {keys : List String} {entries : List (String × Json)}
      (h : Json.lookup key entries = none) : Reaches (key :: keys) (.object entries) none
  | null {key : String} {keys : List String} {entries : List (String × Json)}
      (h : Json.lookup key entries = some .null) : Reaches (key :: keys) (.object entries) none
  | next {key : String} {keys : List String} {entries : List (String × Json)} {v : Json}
      {found : Option Json} (h : Json.lookup key entries = some v) (hne : v ≠ .null)
      (hrest : Reaches keys v found) : Reaches (key :: keys) (.object entries) found

/-- The records that a spelling tells have a chain of links to what another spelling tells. -/
structure Spelling.Links (s : Spelling ρ) (keys : List String) (target : Spelling β)
    (follow : ρ → Option β) : Prop where
  broken : ∀ {v : Json}, Reaches keys v none → (∃ r, s v r) ∧ ∀ r, s v r → follow r = none
  whole : ∀ {v w : Json}, Reaches keys v (some w) →
    (∀ b, target w b → ∃ r, s v r) ∧ ∀ r, s v r → ∃ b, target w b ∧ follow r = some b

section Links

variable {s : Spelling α} {target : Spelling β} {follow : α → Option β} {keys : List String}
  {key : String} {get : ρ → Option α} {entries : List (String × Json)} {r : ρ}

theorem links_nil (s : Spelling β) : Spelling.Links s [] s some where
  broken h := nomatch h
  whole h := by
    cases h
    exact ⟨fun b hb => ⟨b, hb⟩, fun r hr => ⟨r, hr, rfl⟩⟩

/-- A link that is absent or null is spelled as nothing. -/
theorem record_link_of_missing
    (h : Json.lookup key entries = none ∨ Json.lookup key entries = some .null) :
    Record [.optional key s get] (.object entries) r ↔ get r = none := by
  rcases h with h | h <;> simp [Spelling.record_iff, h, Spelling.optional_iff, Spelling.nullable_iff]

theorem record_link_of_found {v : Json} (h : Json.lookup key entries = some v) (hne : v ≠ .null) :
    Record [.optional key s get] (.object entries) r ↔ ∃ a, get r = some a ∧ s v a := by
  simp [Spelling.record_iff, h, Spelling.optional_iff, Spelling.nullable_iff, hne]

/-- A record with one link begins a chain. -/
theorem Spelling.Links.cons (h : s.Links keys target follow) (hget : get.Surjective) :
    Spelling.Links (Record [.optional key s get]) (key :: keys) target
      fun r => (get r).bind follow where
  broken hbroken := by
    have hmissing : ∀ {entries : List (String × Json)},
        (Json.lookup key entries = none ∨ Json.lookup key entries = some .null) →
        (∃ r, Record [.optional key s get] (.object entries) r) ∧
          ∀ r, Record [.optional key s get] (.object entries) r → (get r).bind follow = none := by
      intro entries hnone
      constructor
      · obtain ⟨r, hr⟩ := hget none
        exact ⟨r, (record_link_of_missing hnone).2 hr⟩
      · intro r hr
        rw [(record_link_of_missing hnone).1 hr]
        rfl
    cases hbroken with
    | absent hfound => exact hmissing (.inl hfound)
    | null hfound => exact hmissing (.inr hfound)
    | next hfound hne hrest =>
        obtain ⟨⟨a, ha⟩, hall⟩ := h.broken hrest
        constructor
        · obtain ⟨r, hr⟩ := hget (some a)
          exact ⟨r, (record_link_of_found hfound hne).2 ⟨a, hr, ha⟩⟩
        · intro r hr
          obtain ⟨a', ha', hspelled⟩ := (record_link_of_found hfound hne).1 hr
          rw [ha']
          exact hall a' hspelled
  whole hwhole := by
    cases hwhole with
    | next hfound hne hrest =>
        obtain ⟨hspell, hall⟩ := h.whole hrest
        constructor
        · intro b hb
          obtain ⟨a, ha⟩ := hspell b hb
          obtain ⟨r, hr⟩ := hget (some a)
          exact ⟨r, (record_link_of_found hfound hne).2 ⟨a, hr, ha⟩⟩
        · intro r hr
          obtain ⟨a, ha, hspelled⟩ := (record_link_of_found hfound hne).1 hr
          obtain ⟨b, hb, hfollow⟩ := hall a hspelled
          refine ⟨b, hb, ?_⟩
          rw [ha]
          exact hfollow

end Links

/-! ## Lists with nulls -/

section Given

variable {s : Spelling α} {items : List Json}

theorem given_cons_of_ne {v : Json} (hne : v ≠ .null) (items : List Json) :
    Json.given (v :: items) = v :: Json.given items := by
  cases v with
  | null => exact absurd rfl hne
  | bool | integer | double | string | array | object => rfl

/-- What a list with nulls spells are the values that its other items spell, in order. -/
theorem forall₂_given {found : List (Option α)} (h : List.Forall₂ (Nullable s) items found) :
    List.Forall₂ s (Json.given items) (found.filterMap id) := by
  induction h with
  | nil => exact .nil
  | cons hitem _ ih =>
      cases hitem with
      | null => exact ih
      | value hne hspelled =>
          rw [given_cons_of_ne hne]
          exact .cons hspelled ih

/-- The values that the items spell which are not null are spelled by the list with its nulls. -/
theorem exists_forall₂_nullable {as : List α} (h : List.Forall₂ s (Json.given items) as) :
    ∃ found, List.Forall₂ (Nullable s) items found := by
  induction items generalizing as with
  | nil => exact ⟨[], .nil⟩
  | cons v items ih =>
      by_cases hnull : v = .null
      · subst hnull
        obtain ⟨found, hfound⟩ := ih h
        exact ⟨none :: found, .cons .null hfound⟩
      · rw [given_cons_of_ne hnull] at h
        obtain ⟨a, as, ha, has, rfl⟩ := List.forall₂_cons_left_iff.1 h
        obtain ⟨found, hfound⟩ := ih has
        exact ⟨some a :: found, .cons (.value hnull ha) hfound⟩

end Given
/-! ## The chain of commits -/

namespace Commits

/-- The items that tell the edges of a history: none when a link to them is missing, or when the target
is of another type, whatever else the target has then. -/
inductive RawEdges (data : Json) : List Json → Prop where
  | noTarget (h : Reaches ["viewer", "repository", "defaultBranchRef", "target"] data none) :
      RawEdges data []
  | noCommit {entries : List (String × Json)} {tag : String}
      (h : Reaches ["viewer", "repository", "defaultBranchRef", "target"] data
        (some (.object entries)))
      (htag : Json.lookup "__typename" entries = some (.string tag)) (hne : tag ≠ "Commit") :
      RawEdges data []
  | noEdges {entries : List (String × Json)}
      (h : Reaches ["viewer", "repository", "defaultBranchRef", "target"] data
        (some (.object entries)))
      (htag : Json.lookup "__typename" entries = some (.string "Commit"))
      (hhistory : Reaches ["history", "edges"] (.object entries) none) : RawEdges data []
  | edges {entries : List (String × Json)} {items : List Json}
      (h : Reaches ["viewer", "repository", "defaultBranchRef", "target"] data
        (some (.object entries)))
      (htag : Json.lookup "__typename" entries = some (.string "Commit"))
      (hhistory : Reaches ["history", "edges"] (.object entries) (some (.array items))) :
      RawEdges data (Json.given items)

theorem links_target :
    Spelled.Links ["viewer", "repository", "defaultBranchRef", "target"] Target.Spelled target := by
  have hbranch : Branch.Spelled.Links ["target"] Target.Spelled _ :=
    (links_nil Target.Spelled).cons fun o => ⟨⟨o⟩, rfl⟩
  have hrepository : Repository.Spelled.Links ["defaultBranchRef", "target"] Target.Spelled _ :=
    hbranch.cons fun o => ⟨⟨o⟩, rfl⟩
  have hviewer :
      Viewer.Spelled.Links ["repository", "defaultBranchRef", "target"] Target.Spelled _ :=
    hrepository.cons fun o => ⟨⟨o⟩, rfl⟩
  have hlinks : Spelled.Links ["viewer", "repository", "defaultBranchRef", "target"]
      Target.Spelled _ := hviewer.cons fun o => ⟨⟨o⟩, rfl⟩
  have hfollow : (fun data : Commits => data.viewer.bind fun viewer => viewer.repository.bind
      fun repository => repository.defaultBranch.bind fun branch => branch.target.bind some) =
      target := by
    funext data
    simp [target, Option.bind_assoc]
  exact hfollow ▸ hlinks

theorem links_edges : bodySpelled.Links ["history", "edges"] (Spelling.list (Nullable Edge.Spelled))
    fun history => history.bind History.edges := by
  have hhistory : History.Spelled.Links ["edges"] (Spelling.list (Nullable Edge.Spelled)) _ :=
    (links_nil _).cons fun o => ⟨⟨o⟩, rfl⟩
  have hlinks : bodySpelled.Links ["history", "edges"] (Spelling.list (Nullable Edge.Spelled)) _ :=
    hhistory.cons fun o => ⟨o, rfl⟩
  have hfollow : (fun history : Option History => (id history).bind fun h => h.edges.bind some) =
      fun history => history.bind History.edges := by
    funext history
    cases history with
    | none => rfl
    | some h =>
        show h.edges.bind some = h.edges
        cases h.edges <;> rfl
  exact hfollow ▸ hlinks

section Target

variable {entries : List (String × Json)} {tag : String} {target : Target}

theorem Target.spelled_of_ne_commit (htag : Json.lookup "__typename" entries = some (.string tag))
    (hne : tag ≠ "Commit") : Target.Spelled (.object entries) target ↔ target = ofBareTag tag := by
  constructor
  · intro h
    cases h with
    | commitObject hcommit _ =>
        rw [htag] at hcommit
        cases hcommit
        exact absurd rfl hne
    | bareObject _ hbare =>
        rw [htag] at hbare
        cases hbare
        rfl
  · rintro rfl
    exact .bareObject hne htag

theorem Target.spelled_of_commit (htag : Json.lookup "__typename" entries = some (.string "Commit")) :
    Target.Spelled (.object entries) target ↔
      ∃ history, target = .commit history ∧ bodySpelled (.object entries) history := by
  constructor
  · intro h
    cases h with
    | commitObject _ hbody => exact ⟨_, rfl, hbody⟩
    | bareObject hne hbare =>
        rw [htag] at hbare
        cases hbare
        exact absurd rfl hne
  · rintro ⟨history, rfl, hbody⟩
    exact .commitObject htag hbody

end Target

theorem edges_of_none {data : Commits} (h : data.target = none) : data.edges = [] := by
  rw [edges, h]

theorem Target.ofBareTag_ne_commit (tag : String) (history : Option History) :
    ofBareTag tag ≠ .commit history := by
  unfold ofBareTag
  split <;> simp

theorem edges_of_bareTag {data : Commits} {tag : String}
    (h : data.target = some (Target.ofBareTag tag)) : data.edges = [] := by
  rw [edges, h]
  cases hbare : Target.ofBareTag tag with
  | commit history => exact absurd hbare (Target.ofBareTag_ne_commit tag history)
  | tree | blob | tag | unknown => rfl

theorem edges_of_commit {data : Commits} {history : Option History}
    (h : data.target = some (.commit history)) :
    data.edges = ((history.bind History.edges).getD []).filterMap id := by
  rw [edges, h]

/-- Data can be read exactly if its raw edges can, and its edges are then what they spell. -/
theorem RawEdges.spelled {data : Json} {raw : List Json} (h : RawEdges data raw) :
    (∀ edges, List.Forall₂ Edge.Spelled raw edges → ∃ commits, Spelled data commits) ∧
      ∀ commits, Spelled data commits → List.Forall₂ Edge.Spelled raw commits.edges := by
  cases h with
  | noTarget htarget =>
      obtain ⟨hsome, hall⟩ := links_target.broken htarget
      refine ⟨fun _ _ => hsome, fun commits hcommits => ?_⟩
      rw [edges_of_none (hall commits hcommits)]
      exact .nil
  | @noCommit entries tag htarget htag hne =>
      obtain ⟨hspell, hall⟩ := links_target.whole htarget
      refine ⟨fun _ _ => hspell _ ((Target.spelled_of_ne_commit htag hne).2 rfl), ?_⟩
      intro commits hcommits
      obtain ⟨target, hspelled, hfollow⟩ := hall commits hcommits
      rw [(Target.spelled_of_ne_commit htag hne).1 hspelled] at hfollow
      rw [edges_of_bareTag hfollow]
      exact .nil
  | noEdges htarget htag hhistory =>
      obtain ⟨hspell, hall⟩ := links_target.whole htarget
      obtain ⟨⟨history, hbody⟩, hnone⟩ := links_edges.broken hhistory
      refine ⟨fun _ _ => hspell _ ((Target.spelled_of_commit htag).2 ⟨history, rfl, hbody⟩), ?_⟩
      intro commits hcommits
      obtain ⟨target, hspelled, hfollow⟩ := hall commits hcommits
      obtain ⟨history', rfl, hbody'⟩ := (Target.spelled_of_commit htag).1 hspelled
      rw [edges_of_commit hfollow, hnone history' hbody']
      exact .nil
  | @edges entries items htarget htag hhistory =>
      obtain ⟨hspell, hall⟩ := links_target.whole htarget
      obtain ⟨hlist, hitems⟩ := links_edges.whole hhistory
      constructor
      · intro edges hedges
        obtain ⟨found, hfound⟩ := exists_forall₂_nullable hedges
        obtain ⟨history, hbody⟩ := hlist found ⟨items, rfl, hfound⟩
        exact hspell _ ((Target.spelled_of_commit htag).2 ⟨history, rfl, hbody⟩)
      · intro commits hcommits
        obtain ⟨target, hspelled, hfollow⟩ := hall commits hcommits
        obtain ⟨history, rfl, hbody⟩ := (Target.spelled_of_commit htag).1 hspelled
        obtain ⟨found, ⟨items', hsame, hfound⟩, hhas⟩ := hitems history hbody
        cases hsame
        rw [edges_of_commit hfollow, hhas]
        exact forall₂_given hfound

end Commits

/-! ## The chain of repositories -/

namespace Repositories

/-- The items that tell the nodes of a list of repositories: none when a link to them is missing. -/
inductive RawNodes (data : Json) : List Json → Prop where
  | missing (h : Reaches ["viewer", "repositories", "nodes"] data none) : RawNodes data []
  | nodes {items : List Json}
      (h : Reaches ["viewer", "repositories", "nodes"] data (some (.array items))) :
      RawNodes data (Json.given items)

/-- An object tells a summary by its id, its name and its description, which may be absent or null,
whatever else it has. -/
inductive Tells : Json → Summary → Prop where
  | described {entries : List (String × Json)} {id name description : String}
      (hid : Json.lookup "id" entries = some (.string id))
      (hname : Json.lookup "name" entries = some (.string name))
      (hdescription : Json.lookup "description" entries = some (.string description)) :
      Tells (.object entries) ⟨id, name, some description⟩
  | bare {entries : List (String × Json)} {id name : String}
      (hid : Json.lookup "id" entries = some (.string id))
      (hname : Json.lookup "name" entries = some (.string name))
      (hdescription : Json.lookup "description" entries = none ∨
        Json.lookup "description" entries = some .null) :
      Tells (.object entries) ⟨id, name, none⟩

theorem links_nodes : Spelled.Links ["viewer", "repositories", "nodes"]
    (Spelling.list (Nullable Node.Spelled))
    fun data => (data.viewer.bind Viewer.repositories).bind Connection.nodes := by
  have hconnection : Connection.Spelled.Links ["nodes"]
      (Spelling.list (Nullable Node.Spelled)) _ := (links_nil _).cons fun o => ⟨⟨o⟩, rfl⟩
  have hviewer : Viewer.Spelled.Links ["repositories", "nodes"]
      (Spelling.list (Nullable Node.Spelled)) _ := hconnection.cons fun o => ⟨⟨o⟩, rfl⟩
  have hlinks : Spelled.Links ["viewer", "repositories", "nodes"]
      (Spelling.list (Nullable Node.Spelled)) _ := hviewer.cons fun o => ⟨⟨o⟩, rfl⟩
  have hfollow : (fun data : Repositories => data.viewer.bind fun viewer =>
      viewer.repositories.bind fun connection => connection.nodes.bind some) =
      fun data => (data.viewer.bind Viewer.repositories).bind Connection.nodes := by
    funext data
    simp [Option.bind_assoc]
  exact hfollow ▸ hlinks

/-- Data can be read exactly if its raw nodes can, and its nodes are then what they spell. -/
theorem RawNodes.spelled {data : Json} {raw : List Json} (h : RawNodes data raw) :
    (∀ nodes, List.Forall₂ Node.Spelled raw nodes → ∃ repositories, Spelled data repositories) ∧
      ∀ repositories, Spelled data repositories →
        List.Forall₂ Node.Spelled raw (repositories.nodes.filterMap id) := by
  cases h with
  | missing hmissing =>
      obtain ⟨hsome, hall⟩ := links_nodes.broken hmissing
      refine ⟨fun _ _ => hsome, fun repositories hrepositories => ?_⟩
      rw [Repositories.nodes, hall repositories hrepositories]
      exact .nil
  | nodes hnodes =>
      obtain ⟨hlist, hitems⟩ := links_nodes.whole hnodes
      constructor
      · intro nodes hspelled
        obtain ⟨found, hfound⟩ := exists_forall₂_nullable hspelled
        exact hlist found ⟨_, rfl, hfound⟩
      · intro repositories hrepositories
        obtain ⟨found, ⟨items, hsame, hfound⟩, hhas⟩ := hitems repositories hrepositories
        cases hsame
        rw [Repositories.nodes, hhas]
        exact forall₂_given hfound

/-- An object spells a node if it tells the summary of the node. -/
theorem Node.spelled_object_iff {entries : List (String × Json)} {node : Node} :
    Node.Spelled (.object entries) node ↔ Tells (.object entries) node.summary := by
  have hrecord : Node.Spelled (.object entries) node ↔
      Json.lookup "id" entries = some (.string node.id) ∧
        Json.lookup "name" entries = some (.string node.name) ∧
        Spelling.Optional .string (Json.lookup "description" entries) node.description := by
    simp [Node.Spelled, Spelling.record_iff, Spelling.required_iff, Spelling.string]
  rw [hrecord]
  constructor
  · rintro ⟨hid, hname, hdescription⟩
    obtain ⟨id, name, description⟩ := node
    generalize hfound : Json.lookup "description" entries = found at hdescription
    cases hdescription with
    | absent => exact .bare hid hname (.inl hfound)
    | given hgiven =>
        cases hgiven with
        | null => exact .bare hid hname (.inr hfound)
        | value _ hspelled => exact .described hid hname (hspelled ▸ hfound)
  · obtain ⟨id, name, description⟩ := node
    intro h
    cases h with
    | described hid hname hdescription =>
        refine ⟨hid, hname, ?_⟩
        rw [hdescription]
        exact .given (.value (by simp) rfl)
    | bare hid hname hdescription =>
        refine ⟨hid, hname, ?_⟩
        rcases hdescription with hnone | hnull
        · rw [hnone]
          exact .absent
        · rw [hnull]
          exact .given .null

end Repositories
end Payload
end RepoWatch
