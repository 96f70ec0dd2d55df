import RepoWatch.Payload.Decoder
/-!
# The commits of a repository

The data of the commits query: a chain of links from the user down to the edges of a history.
What a branch points to is tagged with its type; only a commit has a history, and every other
type, known or not, ends the chain. A missing link gives an empty list of edges.
-/

namespace RepoWatch.Payload

namespace Commits

structure Author where
  name : Option String
  email : Option String
  date : Option String
deriving DecidableEq, Repr

structure Commit where
  abbreviatedOid : String
  messageHeadline : String
  author : Option Author
deriving DecidableEq, Repr

/-- A place in a history; its commit may be null. -/
structure Edge where
  node : Option Commit
deriving DecidableEq, Repr

def Edge.text (e : Edge) : String :=
  match e.node with
  | some c =>
    "Commit: " ++ c.abbreviatedOid ++ " " ++ c.messageHeadline
      ++ " (" ++ (c.author.bind Author.name).getD "unknown" ++ ")"
  | none => "Commit: -"

/-- A list of edges; an edge may be null. -/
structure History where
  edges : Option (List (Option Edge))
deriving DecidableEq, Repr

inductive Target where
  | commit (history : Option History)
  | tree
  | blob
  | tag
  | unknown
deriving DecidableEq, Repr

structure Branch where
  target : Option Target
deriving DecidableEq, Repr

/-- A repository with its default branch. -/
structure Repository where
  defaultBranch : Option Branch
deriving DecidableEq, Repr

structure Viewer where
  repository : Option Repository
deriving DecidableEq, Repr

end Commits

structure Commits where
  viewer : Option Commits.Viewer
deriving DecidableEq, Repr

namespace Commits

def Author.decode : Decoder Author :=
  taggedRecord "CommitAuthor" <|
    Author.mk <$> optional "name" string <*> optional "email" string <*> optional "date" string

def Commit.decode : Decoder Commit :=
  taggedRecord "Commit" <|
    Commit.mk <$> required "abbreviatedOid" string <*> required "messageHeadline" string
      <*> optional "author" Author.decode

def Edge.decode : Decoder Edge :=
  taggedRecord "CommitEdge" <| Edge.mk <$> optional "node" Commit.decode

def History.decode : Decoder History :=
  taggedRecord "CommitHistory" <| History.mk <$> optional "edges" (list (nullable Edge.decode))

/-- Reads what a commit has besides its tag. -/
def commitBody : Decoder (Option History) :=
  taggedRecord "CommitTarget" <| id <$> optional "history" History.decode

/-- The key of the tag. -/
def tagKey : String := "__typename"

/-- A target without a body: its object may hold anything, its array nothing else. -/
def bare (target : Target) : Decoder Target
  | .array (item :: items) => .error (.notOfSize (item :: items).length 0)
  | _ => .ok target

def Target.ofTag (tag : String) : Decoder Target :=
  match tag with
  | "Commit" => fun body => Target.commit <$> commitBody body
  | "Tree" => bare .tree
  | "Blob" => bare .blob
  | "Tag" => bare .tag
  | _ => bare .unknown

def decodeTag : Decoder String
  | .string s => .ok s
  | v => .error (.unexpected v "variant identifier")

/-- Reads a target: an object with its tag at any place, or an array that begins with it. -/
def Target.decode : Decoder Target
  | .object entries =>
    match Json.lookup tagKey entries with
    | some label => do Target.ofTag (← decodeTag label) (.object entries)
    | none => .error (.missing tagKey)
  | .array (label :: items) => do Target.ofTag (← decodeTag label) (.array items)
  | .array [] => .error (.missing tagKey)
  | v => .error (.unexpected v "internally tagged enum RefTarget")

def Branch.decode : Decoder Branch :=
  record "Ref" <| Branch.mk <$> optional "target" Target.decode

def Repository.decode : Decoder Repository :=
  record "CommitsRepository" <| Repository.mk <$> optional "defaultBranchRef" Branch.decode

def Viewer.decode : Decoder Viewer :=
  record "CommitsViewer" <| Viewer.mk <$> optional "repository" Repository.decode

def decode : Decoder Commits :=
  record "RepositoryCommitsData" <| Commits.mk <$> optional "viewer" Viewer.decode

def target (data : Commits) : Option Target :=
  ((data.viewer.bind Viewer.repository).bind Repository.defaultBranch).bind Branch.target

/-- The published edges: those of the history that are not null. -/
def edges (data : Commits) : List Edge :=
  match data.target with
  | some (.commit history) => ((history.bind History.edges).getD []).filterMap id
  | _ => []

end Commits
end RepoWatch.Payload
