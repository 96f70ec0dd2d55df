import RepoWatch.Payload.Commits
import RepoWatch.Payload.Detail
import RepoWatch.Payload.Quota
import RepoWatch.Payload.Repositories
import RepoWatch.Proofs.Payload.Spelling
/-!
# The grammar of the payloads

How the data of each query and the quota are spelled, record by record. What is decoded is exactly
what is spelled so.
-/

namespace RepoWatch.Payload

open Spelling (Rule)

namespace Repositories

def Node.Spelled : Spelling Node := Spelling.Record
  [.required "id" .string Node.id, .required "name" .string Node.name,
    .optional "description" .string Node.description]

def Connection.Spelled : Spelling Connection := Spelling.Record
  [.optional "nodes" (.list (.Nullable Node.Spelled)) Connection.nodes]

def Viewer.Spelled : Spelling Viewer := Spelling.Record
  [.optional "repositories" Connection.Spelled Viewer.repositories]

def Spelled : Spelling Repositories := Spelling.Record [.optional "viewer" Viewer.Spelled viewer]

@[simp] theorem Node.accepts_decode : Node.decode.accepts = Node.Spelled := by
  refine accepts_record (Fields.obeys_of_reads ?_ ?_) _ <;> rintro ⟨⟩ <;> simp

@[simp] theorem Connection.accepts_decode : Connection.decode.accepts = Connection.Spelled := by
  refine accepts_record (Fields.obeys_of_reads ?_ ?_) _ <;> rintro ⟨⟩ <;> simp

@[simp] theorem Viewer.accepts_decode : Viewer.decode.accepts = Viewer.Spelled := by
  refine accepts_record (Fields.obeys_of_reads ?_ ?_) _ <;> rintro ⟨⟩ <;> simp

@[simp] theorem accepts_decode : Decoder.accepts decode = Spelled := by
  refine accepts_record (Fields.obeys_of_reads ?_ ?_) _ <;> rintro ⟨⟩ <;> simp

end Repositories

namespace Detail

def Actor.Spelled : Spelling Actor := Spelling.Record [.required "login" .string Actor.login]

def PullRequest.Spelled : Spelling PullRequest := Spelling.Record
  [.required "id" .string PullRequest.id, .required "title" .string PullRequest.title,
    .required "url" .string PullRequest.url, .optional "author" Actor.Spelled PullRequest.author]

def PullRequests.Spelled : Spelling PullRequests := Spelling.Record
  [.required "totalCount" .word PullRequests.totalCount,
    .trailingList "nodes" (.Nullable PullRequest.Spelled) PullRequests.nodes]

def Release.Spelled : Spelling Release := Spelling.Record
  [.required "id" .string Release.id, .optional "name" .string Release.name,
    .required "url" .string Release.url, .optional "publishedAt" .string Release.publishedAt]

def Releases.Spelled : Spelling Releases := Spelling.Record
  [.required "totalCount" .word Releases.totalCount,
    .trailingList "nodes" (.Nullable Release.Spelled) Releases.nodes]

def Repository.Spelled : Spelling Repository := Spelling.Record
  [.required "id" .string Repository.id, .required "name" .string Repository.name,
    .optional "description" .string Repository.description,
    .required "url" .string Repository.url,
    .required "pullRequests" PullRequests.Spelled Repository.pullRequests,
    .required "releases" Releases.Spelled Repository.releases]

def Viewer.Spelled : Spelling Viewer := Spelling.Record
  [.optional "repository" Repository.Spelled Viewer.repository]

def Spelled : Spelling Detail := Spelling.Record [.optional "viewer" Viewer.Spelled viewer]

@[simp] theorem Actor.accepts_decode : Actor.decode.accepts = Actor.Spelled := by
  refine accepts_record (Fields.obeys_of_reads ?_ ?_) _ <;> rintro ⟨⟩ <;> simp

@[simp] theorem PullRequest.accepts_decode : PullRequest.decode.accepts = PullRequest.Spelled := by
  refine accepts_record (Fields.obeys_of_reads ?_ ?_) _ <;> rintro ⟨⟩ <;> simp

@[simp] theorem PullRequests.accepts_decode : PullRequests.decode.accepts = PullRequests.Spelled := by
  refine accepts_record (Fields.obeys_of_reads ?_ ?_) _ <;> rintro ⟨⟩ <;> simp

@[simp] theorem Release.accepts_decode : Release.decode.accepts = Release.Spelled := by
  refine accepts_record (Fields.obeys_of_reads ?_ ?_) _ <;> rintro ⟨⟩ <;> simp

@[simp] theorem Releases.accepts_decode : Releases.decode.accepts = Releases.Spelled := by
  refine accepts_record (Fields.obeys_of_reads ?_ ?_) _ <;> rintro ⟨⟩ <;> simp

@[simp] theorem Repository.accepts_decode : Repository.decode.accepts = Repository.Spelled := by
  refine accepts_record (Fields.obeys_of_reads ?_ ?_) _ <;> rintro ⟨⟩ <;> simp

@[simp] theorem Viewer.accepts_decode : Viewer.decode.accepts = Viewer.Spelled := by
  refine accepts_record (Fields.obeys_of_reads ?_ ?_) _ <;> rintro ⟨⟩ <;> simp

@[simp] theorem accepts_decode : Decoder.accepts decode = Spelled := by
  refine accepts_record (Fields.obeys_of_reads ?_ ?_) _ <;> rintro ⟨⟩ <;> simp

end Detail

namespace Commits

def Author.Spelled : Spelling Author := Spelling.Record
  [.optional "name" .string Author.name, .optional "email" .string Author.email,
    .optional "date" .string Author.date]

def Commit.Spelled : Spelling Commit := Spelling.Record
  [.required "abbreviatedOid" .string Commit.abbreviatedOid,
    .required "messageHeadline" .string Commit.messageHeadline,
    .optional "author" Author.Spelled Commit.author]

def Edge.Spelled : Spelling Edge := Spelling.Record [.optional "node" Commit.Spelled Edge.node]

def History.Spelled : Spelling History := Spelling.Record
  [.optional "edges" (.list (.Nullable Edge.Spelled)) History.edges]

/-- What a commit has besides its tag. -/
def bodySpelled : Spelling (Option History) := Spelling.Record
  [.optional "history" History.Spelled id]

/-- The target of a type that has nothing besides its tag. Types that are not known have not. -/
def Target.ofBareTag : String → Target
  | "Tree" => .tree
  | "Blob" => .blob
  | "Tag" => .tag
  | _ => .unknown

/-- A target is an object with its tag at any place, or an array that begins with it. Of a target
that has nothing besides its tag the object may hold anything, the array nothing else. -/
inductive Target.Spelled : Json → Target → Prop where
  | commitObject {entries : List (String × Json)} {history : Option History}
      (htag : Json.lookup "__typename" entries = some (.string "Commit"))
      (h : bodySpelled (.object entries) history) : Spelled (.object entries) (.commit history)
  | commitArray {items : List Json} {history : Option History}
      (h : bodySpelled (.array items) history) :
      Spelled (.array (.string "Commit" :: items)) (.commit history)
  | bareObject {entries : List (String × Json)} {tag : String} (hne : tag ≠ "Commit")
      (htag : Json.lookup "__typename" entries = some (.string tag)) :
      Spelled (.object entries) (ofBareTag tag)
  | bareArray {tag : String} (hne : tag ≠ "Commit") :
      Spelled (.array [.string tag]) (ofBareTag tag)

def Branch.Spelled : Spelling Branch := Spelling.Record
  [.optional "target" Target.Spelled Branch.target]

def Repository.Spelled : Spelling Repository := Spelling.Record
  [.optional "defaultBranchRef" Branch.Spelled Repository.defaultBranch]

def Viewer.Spelled : Spelling Viewer := Spelling.Record
  [.optional "repository" Repository.Spelled Viewer.repository]

def Spelled : Spelling Commits := Spelling.Record [.optional "viewer" Viewer.Spelled viewer]

@[simp] theorem Author.accepts_decode : Author.decode.accepts = Author.Spelled := by
  refine accepts_taggedRecord (Fields.obeys_of_reads ?_ ?_) _ <;> rintro ⟨⟩ <;> simp

@[simp] theorem Commit.accepts_decode : Commit.decode.accepts = Commit.Spelled := by
  refine accepts_taggedRecord (Fields.obeys_of_reads ?_ ?_) _ <;> rintro ⟨⟩ <;> simp

@[simp] theorem Edge.accepts_decode : Edge.decode.accepts = Edge.Spelled := by
  refine accepts_taggedRecord (Fields.obeys_of_reads ?_ ?_) _ <;> rintro ⟨⟩ <;> simp

@[simp] theorem History.accepts_decode : History.decode.accepts = History.Spelled := by
  refine accepts_taggedRecord (Fields.obeys_of_reads ?_ ?_) _ <;> rintro ⟨⟩ <;> simp

@[simp] theorem accepts_commitBody : Decoder.accepts commitBody = bodySpelled := by
  refine accepts_taggedRecord (Fields.obeys_of_reads ?_ ?_) _ <;> rintro ⟨⟩ <;> simp

/-! A target is read by its tag. -/

section Target

variable {tag : String} {label : Json} {target : Target}

theorem ofTag_commit_eq_ok_iff {body : Json} :
    Target.ofTag "Commit" body = .ok target ↔
      ∃ history, bodySpelled body history ∧ target = .commit history := by
  rw [← accepts_commitBody]
  show Target.commit <$> commitBody body = .ok target ↔ _
  cases hbody : commitBody body <;> simp [Decoder.accepts, hbody, eq_comm]

theorem ofTag_of_ne_commit (hne : tag ≠ "Commit") :
    Target.ofTag tag = bare (Target.ofBareTag tag) := by
  unfold Target.ofTag Target.ofBareTag
  split
  · exact absurd rfl hne
  · rfl
  · rfl
  · rfl
  · simp_all

theorem decodeTag_eq_ok_iff : decodeTag label = .ok tag ↔ label = .string tag := by
  cases label <;> simp [decodeTag]

theorem bare_array_eq_ok_iff {target' : Target} {items : List Json} :
    bare target (.array items) = .ok target' ↔ items = [] ∧ target' = target := by
  cases items <;> simp [bare, eq_comm]

theorem decode_object_eq_ok_iff {entries : List (String × Json)} :
    Target.decode (.object entries) = .ok target ↔
      ∃ tag, Json.lookup "__typename" entries = some (.string tag) ∧
        Target.ofTag tag (.object entries) = .ok target := by
  rw [show "__typename" = tagKey from rfl]
  cases hlabel : Json.lookup tagKey entries with
  | none => simp [Target.decode, hlabel]
  | some label => simp [Target.decode, hlabel, bind_eq_ok_iff, decodeTag_eq_ok_iff]

theorem decode_array_eq_ok_iff {items : List Json} :
    Target.decode (.array items) = .ok target ↔
      ∃ tag rest, items = .string tag :: rest ∧
        Target.ofTag tag (.array rest) = .ok target := by
  cases items with
  | nil => simp [Target.decode]
  | cons label rest =>
      show (decodeTag label >>= fun tag => Target.ofTag tag (.array rest)) = .ok target ↔ _
      simp [bind_eq_ok_iff, decodeTag_eq_ok_iff]

end Target

@[simp] theorem Target.accepts_decode : Target.decode.accepts = Target.Spelled := by
  funext v target
  rw [eq_iff_iff]
  constructor
  · intro h
    cases v with
    | object entries =>
        obtain ⟨tag, htag, hread⟩ := decode_object_eq_ok_iff.1 h
        by_cases hcommit : tag = "Commit"
        · subst hcommit
          obtain ⟨history, hbody, rfl⟩ := ofTag_commit_eq_ok_iff.1 hread
          exact .commitObject htag hbody
        · rw [ofTag_of_ne_commit hcommit] at hread
          obtain rfl := Except.ok.inj hread
          exact .bareObject hcommit htag
    | array items =>
        obtain ⟨tag, rest, rfl, hread⟩ := decode_array_eq_ok_iff.1 h
        by_cases hcommit : tag = "Commit"
        · subst hcommit
          obtain ⟨history, hbody, rfl⟩ := ofTag_commit_eq_ok_iff.1 hread
          exact .commitArray hbody
        · rw [ofTag_of_ne_commit hcommit] at hread
          obtain ⟨rfl, rfl⟩ := bare_array_eq_ok_iff.1 hread
          exact .bareArray hcommit
    | null | bool | integer | double | string => cases h
  · intro h
    cases h with
    | commitObject htag hbody =>
        exact decode_object_eq_ok_iff.2
          ⟨"Commit", htag, ofTag_commit_eq_ok_iff.2 ⟨_, hbody, rfl⟩⟩
    | commitArray hbody =>
        exact decode_array_eq_ok_iff.2
          ⟨"Commit", _, rfl, ofTag_commit_eq_ok_iff.2 ⟨_, hbody, rfl⟩⟩
    | @bareObject entries tag hne htag =>
        refine decode_object_eq_ok_iff.2 ⟨tag, htag, ?_⟩
        rw [ofTag_of_ne_commit hne]
        rfl
    | @bareArray tag hne =>
        refine decode_array_eq_ok_iff.2 ⟨tag, [], rfl, ?_⟩
        rw [ofTag_of_ne_commit hne]
        rfl

@[simp] theorem Branch.accepts_decode : Branch.decode.accepts = Branch.Spelled := by
  refine accepts_record (Fields.obeys_of_reads ?_ ?_) _ <;> rintro ⟨⟩ <;> simp

@[simp] theorem Repository.accepts_decode : Repository.decode.accepts = Repository.Spelled := by
  refine accepts_record (Fields.obeys_of_reads ?_ ?_) _ <;> rintro ⟨⟩ <;> simp

@[simp] theorem Viewer.accepts_decode : Viewer.decode.accepts = Viewer.Spelled := by
  refine accepts_record (Fields.obeys_of_reads ?_ ?_) _ <;> rintro ⟨⟩ <;> simp

@[simp] theorem accepts_decode : Decoder.accepts decode = Spelled := by
  refine accepts_record (Fields.obeys_of_reads ?_ ?_) _ <;> rintro ⟨⟩ <;> simp

end Commits

namespace Quota

def Spelled : Spelling Quota := Spelling.Record
  [.required "limit" .signedWord limit, .required "cost" .signedWord cost,
    .required "remaining" .signedWord remaining, .required "resetAt" .string resetAt]

@[simp] theorem accepts_decode : Decoder.accepts decode = Spelled := by
  refine accepts_record (Fields.obeys_of_reads ?_ ?_) _ <;> rintro ⟨⟩ <;> simp

end Quota

/-- What is decoded is what is spelled: nothing else is accepted, and nothing that is spelled is
refused. -/
theorem decode_eq_ok_iff_spelled :
    (∀ v data, Repositories.decode v = .ok data ↔ Repositories.Spelled v data) ∧
    (∀ v data, Detail.decode v = .ok data ↔ Detail.Spelled v data) ∧
    (∀ v data, Commits.decode v = .ok data ↔ Commits.Spelled v data) ∧
    (∀ v quota, Quota.decode v = .ok quota ↔ Quota.Spelled v quota) := by
  simp only [← Repositories.accepts_decode, ← Detail.accepts_decode, ← Commits.accepts_decode,
    ← Quota.accepts_decode]
  exact ⟨fun _ _ => Iff.rfl, fun _ _ => Iff.rfl, fun _ _ => Iff.rfl, fun _ _ => Iff.rfl⟩

end RepoWatch.Payload
