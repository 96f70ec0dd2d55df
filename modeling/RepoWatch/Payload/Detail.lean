import RepoWatch.Payload.Decoder
/-!
# The detail of a repository

The data of the detail query: a repository with its pull requests and releases, if the user owns
one with the requested name.
-/

namespace RepoWatch.Payload

namespace Detail

structure Actor where
  login : String
deriving DecidableEq, Repr

structure PullRequest where
  id : String
  title : String
  url : String
  author : Option Actor
deriving DecidableEq, Repr

/-- The pull requests of a repository; a node may be null. -/
structure PullRequests where
  totalCount : UInt32
  nodes : List (Option PullRequest)
deriving DecidableEq, Repr

structure Release where
  id : String
  name : Option String
  url : String
  publishedAt : Option String
deriving DecidableEq, Repr

/-- The releases of a repository; a node may be null. -/
structure Releases where
  totalCount : UInt32
  nodes : List (Option Release)
deriving DecidableEq, Repr

structure Repository where
  id : String
  name : String
  description : Option String
  url : String
  pullRequests : PullRequests
  releases : Releases
deriving DecidableEq, Repr

structure Viewer where
  repository : Option Repository
deriving DecidableEq, Repr

end Detail

structure Detail where
  viewer : Option Detail.Viewer
deriving DecidableEq, Repr

namespace Detail

def Actor.decode : Decoder Actor := record "Actor" <| Actor.mk <$> required "login" string

def PullRequest.decode : Decoder PullRequest :=
  record "PullRequest" <|
    PullRequest.mk <$> required "id" string <*> required "title" string <*> required "url" string
      <*> optional "author" Actor.decode

def PullRequests.decode : Decoder PullRequests :=
  record "PullRequestConnection" <|
    PullRequests.mk <$> required "totalCount" word
      <*> trailingList "nodes" (nullable PullRequest.decode)

def Release.decode : Decoder Release :=
  record "Release" <|
    Release.mk <$> required "id" string <*> optional "name" string <*> required "url" string
      <*> optional "publishedAt" string

def Releases.decode : Decoder Releases :=
  record "ReleaseConnection" <|
    Releases.mk <$> required "totalCount" word <*> trailingList "nodes" (nullable Release.decode)

def Repository.decode : Decoder Repository :=
  record "RepositoryDetail" <|
    Repository.mk <$> required "id" string <*> required "name" string
      <*> optional "description" string <*> required "url" string
      <*> required "pullRequests" PullRequests.decode <*> required "releases" Releases.decode

def Viewer.decode : Decoder Viewer :=
  record "RepositoryDetailViewer" <| Viewer.mk <$> optional "repository" Repository.decode

def decode : Decoder Detail :=
  record "RepositoryDetailData" <| Detail.mk <$> optional "viewer" Viewer.decode

/-- The repository, if the user owns one with the requested name. -/
def repository (data : Detail) : Option Repository := data.viewer.bind Viewer.repository

def text (data : Detail) : String :=
  match data.repository with
  | some r =>
    "Repository: " ++ r.name ++ ", Url: " ++ r.url
      ++ ", Open pull requests: " ++ toString r.pullRequests.totalCount.toNat
      ++ ", Releases: " ++ toString r.releases.totalCount.toNat
  | none => "Repository: not found"

end Detail
end RepoWatch.Payload
