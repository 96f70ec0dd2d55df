import RepoWatch.Payload.Decoder
/-!
# The list of repositories

The data of the repositories query, and the summaries that are published of it: one for each
node that is not null, in the order of the nodes. A missing link gives an empty list.
-/

namespace RepoWatch.Payload

/-- The name of a repository, given as a string. -/
def repositoryName : Decoder String := string

/-- What is published about a repository of a list. -/
structure Summary where
  id : String
  name : String
  description : Option String
deriving DecidableEq, Repr

def Summary.text (s : Summary) : String :=
  "Repository: " ++ s.name ++ ", Description: " ++ s.description.getD "-"

namespace Repositories

structure Node where
  id : String
  name : String
  description : Option String
deriving DecidableEq, Repr

/-- A list of repositories; a node may be null. -/
structure Connection where
  nodes : Option (List (Option Node))
deriving DecidableEq, Repr

structure Viewer where
  repositories : Option Connection
deriving DecidableEq, Repr

end Repositories

/-- The data of the repositories query. -/
structure Repositories where
  viewer : Option Repositories.Viewer
deriving DecidableEq, Repr

namespace Repositories

def Node.decode : Decoder Node :=
  record "RepositoryNode" <|
    Node.mk <$> required "id" string <*> required "name" string <*> optional "description" string

def Connection.decode : Decoder Connection :=
  record "RepositoryConnection" <|
    Connection.mk <$> optional "nodes" (list (nullable Node.decode))

def Viewer.decode : Decoder Viewer :=
  record "RepositoriesViewer" <| Viewer.mk <$> optional "repositories" Connection.decode

def decode : Decoder Repositories :=
  record "RepositoriesData" <| Repositories.mk <$> optional "viewer" Viewer.decode

def Node.summary (n : Node) : Summary := ⟨n.id, n.name, n.description⟩

/-- The nodes at the end of the links, null ones included. -/
def nodes (data : Repositories) : List (Option Node) :=
  ((data.viewer.bind Viewer.repositories).bind Connection.nodes).getD []

def summaries (data : Repositories) : List Summary :=
  data.nodes.filterMap fun node => node.map Node.summary

end Repositories
end RepoWatch.Payload
