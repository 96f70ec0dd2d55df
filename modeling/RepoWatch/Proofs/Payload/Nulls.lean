import RepoWatch.Proofs.Json.Thinned
import RepoWatch.Proofs.Payload.Grammar
/-!
# Null and absent fields

A field that is null is read as one that is absent, at any depth of the data of a query, but for one:
the nodes of the pull requests and the releases of a repository may be absent, and may not be null.
-/

namespace RepoWatch.Payload

open Json (Thinned Found)

variable {α β ρ : Type}

namespace Spelling

/-! ## Records by their parts -/

/-- Data of the form of a record: an object, or an array of fitting length. -/
def Fits (rules : List (Rule ρ)) : Json → Prop
  | .object _ => True
  | .array items =>
    items.length ≤ rules.length ∧ ∀ rule ∈ rules.drop items.length, rule.mayEnd = true
  | _ => False

variable {rules : List (Rule ρ)}

theorem inOrder_iff_parts (hkeys : (rules.map Rule.key).Nodup) {items : List Json} {r : ρ} :
    InOrder rules items r ↔ Fits rules (.array items) ∧
      ∀ rule ∈ rules, rule.spells (Json.lookup rule.key ((rules.map Rule.key).zip items)) r := by
  induction rules generalizing items with
  | nil => simp [Fits]
  | cons rule rules ih =>
      obtain ⟨hnot, hkeys⟩ := List.nodup_cons.1 hkeys
      cases items with
      | nil =>
          rw [inOrder_cons_iff]
          simp [Fits, Json.lookup, ih hkeys]
          tauto
      | cons v items =>
          have hlater : (∀ other ∈ rules, other.spells (Json.lookup other.key
                (((rule :: rules).map Rule.key).zip (v :: items))) r) ↔
              ∀ other ∈ rules,
                other.spells (Json.lookup other.key ((rules.map Rule.key).zip items)) r := by
            -- no other rule has the key of the first one
            refine forall₂_congr fun other hmem => ?_
            have hne : rule.key ≠ other.key := by
              intro heq
              exact hnot (heq ▸ List.mem_map_of_mem hmem)
            simp [Json.lookup, hne]
          rw [inOrder_cons_iff, List.forall_mem_cons, hlater]
          simp [Fits, Json.lookup, ih hkeys]
          tauto

/-- A record is told by its parts, be it an object or an array. -/
theorem record_iff_parts (hkeys : (rules.map Rule.key).Nodup) {v : Json} {r : ρ} :
    Record rules v r ↔ Fits rules v ∧
      ∀ rule ∈ rules, rule.spells (v.part? (rules.map Rule.key) rule.key) r := by
  rw [record_iff]
  cases v with
  | object entries => simp [Fits, Json.part?]
  | array items => simp [inOrder_iff_parts hkeys, Json.part?]
  | null | bool | integer | double | string => simp [Fits]

theorem fits_iff_of_thinned {v w : Json} (h : Thinned v w) : Fits rules v ↔ Fits rules w := by
  cases h with
  | same | object => exact Iff.rfl
  | array h => simp only [Fits, h.length_eq]

/-! ## Spellings that disregard nulls -/

/-- Leaving null fields out does not change what data spells, unless the data is spoilt by a null:
then it spells nothing. -/
def Disregards (spoilt : Json → Prop) (s : Spelling α) : Prop :=
  ∀ ⦃v w : Json⦄, v.Canonical → Thinned v w → ∀ a, s v a ↔ s w a ∧ ¬ spoilt v

/-- No data is spoilt by a null. -/
def Unspoilt : Json → Prop := fun _ => False

@[simp] theorem not_unspoilt (v : Json) : ¬ Unspoilt v := id

/-- Leaving null fields out does not change what stands for a field, unless that is spoilt. -/
def Rule.Disregards (spoilt : Json → Prop) (rule : Rule ρ) : Prop :=
  ∀ ⦃found found' : Option Json⦄, Found found found' → ∀ r,
    rule.spells found r ↔ rule.spells found' r ∧ ∀ v, found = some v → ¬ spoilt v

@[simp] theorem disregards_string : string.Disregards Unspoilt := by
  intro v w _ h s
  simp [string, h.eq_string_iff]

@[simp] theorem disregards_word : word.Disregards Unspoilt := by
  intro v w _ h n
  simp [word, h.eq_integer_iff]

@[simp] theorem not_string_null (s : String) : ¬ string .null s := nofun

@[simp] theorem not_word_null (n : UInt32) : ¬ word .null n := nofun

@[simp] theorem not_record_null {rules : List (Rule ρ)} (r : ρ) : ¬ Record rules .null r := nofun

section Values

variable {spoilt : Json → Prop} {s : Spelling α}

theorem nullable_iff {v : Json} {a : Option α} :
    Nullable s v a ↔ (v = .null ∧ a = none) ∨ (v ≠ .null ∧ ∃ b, a = some b ∧ s v b) := by
  constructor
  · rintro (_ | ⟨hne, h⟩)
    · exact .inl ⟨rfl, rfl⟩
    · exact .inr ⟨hne, _, rfl, h⟩
  · rintro (⟨rfl, rfl⟩ | ⟨hne, b, rfl, h⟩)
    · exact .null
    · exact .value hne h

@[simp] theorem disregards_nullable (h : s.Disregards spoilt) (hnull : ¬ spoilt .null) :
    (Nullable s).Disregards spoilt := by
  intro v w hv hthin a
  simp only [nullable_iff, ne_eq, hthin.eq_null_iff, h hv hthin]
  by_cases hw : w = .null
  · obtain rfl := hthin.eq_null_iff.2 hw
    simp [hw, hnull]
  · cases a <;> simp [hw]

theorem forall₂_iff_of_thinned (h : s.Disregards Unspoilt) {vs ws : List Json}
    (hthin : List.Forall₂ Thinned vs ws) (hvs : Json.CanonicalItems vs) (as : List α) :
    List.Forall₂ s vs as ↔ List.Forall₂ s ws as := by
  induction hthin generalizing as with
  | nil => exact Iff.rfl
  | cons hthin _ ih =>
      simp only [List.forall₂_cons_left_iff, h hvs.1 hthin, ih hvs.2, not_unspoilt,
        not_false_eq_true, and_true]

@[simp] theorem disregards_list (h : s.Disregards Unspoilt) : (list s).Disregards Unspoilt := by
  intro v w hv hthin as
  simp only [list, not_unspoilt, not_false_eq_true, and_true]
  cases v with
  | array vs =>
      obtain ⟨ws, rfl, hitems⟩ := Json.thinned_array_iff.1 hthin
      simp [forall₂_iff_of_thinned h hitems hv]
  | object xs =>
      obtain ⟨ys, rfl, -⟩ := Json.thinned_object_iff.1 hthin
      simp
  | null | bool | integer | double | string =>
      cases hthin
      exact Iff.rfl

/-! ## Rules -/

variable {key : String}

@[simp] theorem Rule.disregards_required {get : ρ → α} (h : s.Disregards spoilt)
    (hnull : ∀ a, ¬ s .null a) : (Rule.required key s get).Disregards spoilt := by
  intro found found' hfound r
  cases hfound with
  | absent => simp
  | leftOut => simp [required_iff, hnull]
  | kept hv hthin => simp [required_iff, h hv hthin]

@[simp] theorem Rule.disregards_optional {get : ρ → Option α} (h : s.Disregards spoilt)
    (hnull : ¬ spoilt .null) : (Rule.optional key s get).Disregards spoilt := by
  intro found found' hfound r
  cases hfound with
  | absent => simp
  | leftOut => simp [optional_iff, nullable_iff, hnull]
  | kept hv hthin => simp [optional_iff, disregards_nullable h hnull hv hthin]

@[simp] theorem Rule.disregards_trailingList {get : ρ → List α} (h : s.Disregards Unspoilt) :
    (Rule.trailingList key s get).Disregards (· = .null) := by
  intro found found' hfound r
  cases hfound with
  | absent => simp
  | leftOut => simp [listIfAny_iff, list]
  | @kept v w hv hthin =>
      -- a null in an array cannot be left out, and is no list
      by_cases hnull : v = .null
      · obtain rfl := hnull
        simp [listIfAny_iff, list]
      · simp [listIfAny_iff, disregards_list h hv hthin, hnull]

end Values

/-- A record is spoilt by a part that is. -/
theorem disregards_record {rules : List (Rule ρ)} (spoilt : String → Json → Prop)
    {spoiltRecord : Json → Prop} (hkeys : (rules.map Rule.key).Nodup)
    (hspoilt : ∀ v, spoiltRecord v ↔ ∃ rule ∈ rules, ∃ part,
      v.part? (rules.map Rule.key) rule.key = some part ∧ spoilt rule.key part)
    (h : ∀ rule ∈ rules, rule.Disregards (spoilt rule.key)) :
    Disregards spoiltRecord (Record rules) := by
  intro v w hv hthin r
  have hparts := forall₂_congr fun rule hmem =>
    h rule hmem (Json.found_part? hv hthin (rules.map Rule.key) rule.key) r
  rw [record_iff_parts hkeys, record_iff_parts hkeys, fits_iff_of_thinned hthin, hparts, hspoilt]
  simp only [not_exists, not_and]
  constructor
  · rintro ⟨hfits, hall⟩
    exact ⟨⟨hfits, fun rule hmem => (hall rule hmem).1⟩, fun rule hmem => (hall rule hmem).2⟩
  · rintro ⟨⟨hfits, hspells⟩, hunspoilt⟩
    exact ⟨hfits, fun rule hmem => ⟨hspells rule hmem, hunspoilt rule hmem⟩⟩

theorem disregards_record_of_unspoilt {rules : List (Rule ρ)}
    (hkeys : (rules.map Rule.key).Nodup) (h : ∀ rule ∈ rules, rule.Disregards Unspoilt) :
    Disregards Unspoilt (Record rules) :=
  disregards_record (fun _ => Unspoilt) hkeys (by simp) h

end Spelling

open Spelling

namespace Repositories

theorem Node.disregards : Node.Spelled.Disregards Unspoilt :=
  disregards_record_of_unspoilt (by simp) (by simp)

theorem Connection.disregards : Connection.Spelled.Disregards Unspoilt :=
  disregards_record_of_unspoilt (by simp)
    (by simp [disregards_nullable Node.disregards (not_unspoilt _)])

theorem Viewer.disregards : Viewer.Spelled.Disregards Unspoilt :=
  disregards_record_of_unspoilt (by simp) (by simp [Connection.disregards])

theorem disregards : Spelled.Disregards Unspoilt :=
  disregards_record_of_unspoilt (by simp) (by simp [Viewer.disregards])

end Repositories

namespace Detail

/-- The nodes of a connection are given, but null. -/
def Connection.HasNullNodes (connection : Json) : Prop :=
  connection.part? ["totalCount", "nodes"] "nodes" = some .null

def Repository.HasNullNodes (repository : Json) : Prop :=
  ∃ key ∈ ["pullRequests", "releases"], ∃ connection,
    repository.part? ["id", "name", "description", "url", "pullRequests", "releases"] key =
      some connection ∧ Connection.HasNullNodes connection

def Viewer.HasNullNodes (viewer : Json) : Prop :=
  ∃ repository, viewer.part? ["repository"] "repository" = some repository ∧
    Repository.HasNullNodes repository

/-- The nodes of the pull requests or the releases of the repository are given, but null. -/
def HasNullNodes (data : Json) : Prop :=
  ∃ viewer, data.part? ["viewer"] "viewer" = some viewer ∧ Viewer.HasNullNodes viewer

theorem Actor.disregards : Actor.Spelled.Disregards Unspoilt :=
  disregards_record_of_unspoilt (by simp) (by simp)

theorem PullRequest.disregards : PullRequest.Spelled.Disregards Unspoilt :=
  disregards_record_of_unspoilt (by simp) (by simp [Actor.disregards])

theorem Release.disregards : Release.Spelled.Disregards Unspoilt :=
  disregards_record_of_unspoilt (by simp) (by simp)

/-- Pull requests and releases alike are spoilt by a null instead of their nodes. -/
theorem disregards_connection {s : Spelling α} {count : ρ → UInt32} {nodes : ρ → List (Option α)}
    (h : s.Disregards Unspoilt) : Disregards Connection.HasNullNodes (Record
      [.required "totalCount" .word count, .trailingList "nodes" (.Nullable s) nodes]) := by
  refine disregards_record (fun key => if key = "nodes" then (· = .null) else Unspoilt)
    (by simp) (by simp [Connection.HasNullNodes]) ?_
  simp [disregards_nullable h (not_unspoilt _)]

theorem PullRequests.disregards : PullRequests.Spelled.Disregards Connection.HasNullNodes :=
  disregards_connection PullRequest.disregards

theorem Releases.disregards : Releases.Spelled.Disregards Connection.HasNullNodes :=
  disregards_connection Release.disregards

theorem not_pullRequests_null (r : PullRequests) : ¬ PullRequests.Spelled .null r :=
  not_record_null r

theorem not_releases_null (r : Releases) : ¬ Releases.Spelled .null r :=
  not_record_null r

theorem Repository.disregards : Repository.Spelled.Disregards Repository.HasNullNodes := by
  refine disregards_record (fun key =>
      if key ∈ ["pullRequests", "releases"] then Connection.HasNullNodes else Unspoilt)
    (by simp) ?_ ?_
  · simp [Repository.HasNullNodes]
  · simp [PullRequests.disregards, Releases.disregards, not_pullRequests_null, not_releases_null]

theorem Viewer.disregards : Viewer.Spelled.Disregards Viewer.HasNullNodes := by
  refine disregards_record (fun _ => Repository.HasNullNodes) (by simp) ?_ ?_
  · simp [Viewer.HasNullNodes]
  · simp [Repository.disregards, Repository.HasNullNodes, Json.part?]

theorem disregards : Spelled.Disregards HasNullNodes := by
  refine disregards_record (fun _ => Viewer.HasNullNodes) (by simp) ?_ ?_
  · simp [HasNullNodes]
  · simp [Viewer.disregards, Viewer.HasNullNodes, Json.part?]

end Detail

namespace Commits

theorem Author.disregards : Author.Spelled.Disregards Unspoilt :=
  disregards_record_of_unspoilt (by simp) (by simp)

theorem Commit.disregards : Commit.Spelled.Disregards Unspoilt :=
  disregards_record_of_unspoilt (by simp) (by simp [Author.disregards])

theorem Edge.disregards : Edge.Spelled.Disregards Unspoilt :=
  disregards_record_of_unspoilt (by simp) (by simp [Commit.disregards])

theorem History.disregards : History.Spelled.Disregards Unspoilt :=
  disregards_record_of_unspoilt (by simp)
    (by simp [disregards_nullable Edge.disregards (not_unspoilt _)])

theorem disregards_body : bodySpelled.Disregards Unspoilt :=
  disregards_record_of_unspoilt (by simp) (by simp [History.disregards])

section Target

variable {target : Target}

theorem Target.spelled_object_iff {entries : List (String × Json)} :
    Target.Spelled (.object entries) target ↔
      ∃ tag, Json.lookup "__typename" entries = some (.string tag) ∧
        ((tag = "Commit" ∧ ∃ history, bodySpelled (.object entries) history ∧
            target = .commit history) ∨
          (tag ≠ "Commit" ∧ target = ofBareTag tag)) := by
  constructor
  · intro h
    cases h with
    | commitObject htag h => exact ⟨_, htag, .inl ⟨rfl, _, h, rfl⟩⟩
    | bareObject hne htag => exact ⟨_, htag, .inr ⟨hne, rfl⟩⟩
  · rintro ⟨tag, htag, ⟨rfl, history, h, rfl⟩ | ⟨hne, rfl⟩⟩
    · exact .commitObject htag h
    · exact .bareObject hne htag

theorem Target.spelled_cons_iff {label : Json} {items : List Json} :
    Target.Spelled (.array (label :: items)) target ↔
      ∃ tag, label = .string tag ∧
        ((tag = "Commit" ∧ ∃ history, bodySpelled (.array items) history ∧
            target = .commit history) ∨
          (tag ≠ "Commit" ∧ items = [] ∧ target = ofBareTag tag)) := by
  constructor
  · intro h
    cases h with
    | commitArray h => exact ⟨_, rfl, .inl ⟨rfl, _, h, rfl⟩⟩
    | bareArray hne => exact ⟨_, rfl, .inr ⟨hne, rfl, rfl⟩⟩
  · rintro ⟨tag, rfl, ⟨rfl, history, h, rfl⟩ | ⟨hne, rfl, rfl⟩⟩
    · exact .commitArray h
    · exact .bareArray hne

end Target

theorem Target.disregards : Disregards Unspoilt Target.Spelled := by
  intro v w hv hthin target
  simp only [not_unspoilt, not_false_eq_true, and_true]
  cases v with
  | object xs =>
      obtain ⟨ys, rfl, hfields⟩ := Json.thinned_object_iff.1 hthin
      have htag := (Json.found_lookup hfields hv.nodup_keys hv.2 "__typename").eq_string_iff
      have hbody := disregards_body hv hthin
      simp only [not_unspoilt, not_false_eq_true, and_true] at hbody
      simp only [spelled_object_iff, htag, hbody]
  | array vs =>
      obtain ⟨ws, rfl, hitems⟩ := Json.thinned_array_iff.1 hthin
      cases hitems with
      | nil => exact Iff.rfl
      | @cons label label' vs ws hlabel hrest =>
          have hvs : (Json.array vs).Canonical := hv.2
          have hbody := disregards_body hvs (.array hrest)
          have hempty : vs = [] ↔ ws = [] := by
            rw [← List.length_eq_zero_iff, hrest.length_eq, List.length_eq_zero_iff]
          simp only [not_unspoilt, not_false_eq_true, and_true] at hbody
          simp only [spelled_cons_iff, hlabel.eq_string_iff, hbody, hempty]
  | null | bool | integer | double | string =>
      cases hthin
      exact Iff.rfl

theorem Branch.disregards : Branch.Spelled.Disregards Unspoilt :=
  disregards_record_of_unspoilt (by simp) (by simp [Target.disregards])

theorem Repository.disregards : Repository.Spelled.Disregards Unspoilt :=
  disregards_record_of_unspoilt (by simp) (by simp [Branch.disregards])

theorem Viewer.disregards : Viewer.Spelled.Disregards Unspoilt :=
  disregards_record_of_unspoilt (by simp) (by simp [Repository.disregards])

theorem disregards : Spelled.Disregards Unspoilt :=
  disregards_record_of_unspoilt (by simp) (by simp [Viewer.disregards])

end Commits

section Thinned

variable {v w : Json}

/-- A decoder of data that disregards nulls gives the same when null fields are left out. -/
theorem Decoder.eq_ok_iff_of_thinned {decode : Decoder α} {s : Spelling α} {spoilt : Json → Prop}
    (haccepts : decode.accepts = s) (hdisregards : s.Disregards spoilt) (hv : v.Canonical)
    (hthin : v.Thinned w) (a : α) : decode v = .ok a ↔ decode w = .ok a ∧ ¬ spoilt v := by
  subst haccepts
  exact hdisregards hv hthin a

theorem Repositories.decode_thinned (hv : v.Canonical) (hthin : v.Thinned w)
    (data : Repositories) : decode v = .ok data ↔ decode w = .ok data :=
  (Decoder.eq_ok_iff_of_thinned accepts_decode disregards hv hthin data).trans
    (and_iff_left (not_unspoilt v))

theorem Commits.decode_thinned (hv : v.Canonical) (hthin : v.Thinned w) (data : Commits) :
    decode v = .ok data ↔ decode w = .ok data :=
  (Decoder.eq_ok_iff_of_thinned accepts_decode disregards hv hthin data).trans
    (and_iff_left (not_unspoilt v))

theorem Detail.decode_thinned (hv : v.Canonical) (hthin : v.Thinned w) (data : Detail) :
    decode v = .ok data ↔ decode w = .ok data ∧ ¬ HasNullNodes v :=
  Decoder.eq_ok_iff_of_thinned accepts_decode disregards hv hthin data

end Thinned

/-- When null fields are left out of data, in objects at any depth, the data is decoded as it was
before: to the same value, or not at all. The one exception are the nodes of the pull requests and of
the releases of a repository: they may be left out, but a null in their place is a fault. -/
theorem nulls_are_absences (v w : Json) (hv : v.Canonical) (hthin : v.Thinned w) :
    (∀ data, Repositories.decode v = .ok data ↔ Repositories.decode w = .ok data) ∧
    (∀ data, Commits.decode v = .ok data ↔ Commits.decode w = .ok data) ∧
    ∀ data, Detail.decode v = .ok data ↔
      Detail.decode w = .ok data ∧ ¬ Detail.HasNullNodes v :=
  ⟨Repositories.decode_thinned hv hthin, Commits.decode_thinned hv hthin,
    Detail.decode_thinned hv hthin⟩

/-- The nodes of the pull requests, given as null and left out. -/
theorem nulls_are_absences_but_for_nodes :
    let detail (pullRequests : List (String × Json)) : Json := .object [("viewer", .object
      [("repository", .object [("description", .null), ("id", .string "R"), ("name", .string "n"),
        ("pullRequests", .object pullRequests), ("releases", .object [("totalCount", .integer 0)]),
        ("url", .string "u")])])]
    let v := detail [("nodes", .null), ("totalCount", .integer 0)]
    let w := detail [("totalCount", .integer 0)]
    v.Canonical ∧ v.Thinned w ∧
      (∃ data, Detail.decode w = .ok data) ∧ ∀ data, Detail.decode v ≠ .ok data := by
  intro detail v w
  have hv : v.Canonical := by
    simp only [v, detail, Json.Canonical, Json.CanonicalFields, Json.CanonicalField, and_true]
    decide
  have hthin : v.Thinned w :=
    .object (.kept (.object (.kept (.object (.kept (.same _) (.kept (.same _) (.kept (.same _)
      (.kept (.object (.leftOut (.same _))) (.same _)))))) .nil)) .nil)
  have hnodes : Detail.HasNullNodes v :=
    ⟨_, rfl, _, rfl, "pullRequests", by simp, _, rfl, rfl⟩
  refine ⟨hv, hthin, ⟨_, rfl⟩, fun data hdata => ?_⟩
  exact (((nulls_are_absences v w hv hthin).2.2 data).1 hdata).2 hnodes

end RepoWatch.Payload
