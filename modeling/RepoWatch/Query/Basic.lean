/-!
# Queries

What can be asked about the repositories of the authenticated user. A query is its own key: two
fetches of equal queries concern the same data.
-/

namespace RepoWatch

/-- The field by which repositories are ordered. -/
inductive RepositoryOrder where
  | createdAt
  | updatedAt
  | pushedAt
  | name
  | stargazers
deriving DecidableEq, Repr

inductive Direction where
  | ascending
  | descending
deriving DecidableEq, Repr

inductive PullRequestState where
  | opened
  | closed
  | merged
deriving DecidableEq, Repr

inductive Query where
  /-- The first `count` repositories in an order. -/
  | repositories (count : UInt16) (order : RepositoryOrder) (direction : Direction)
  /-- One repository with its pull requests in the given states and its releases. -/
  | detail (name : String) (states : List PullRequestState)
  /-- The history of the default branch of one repository. -/
  | commits (name : String)
deriving DecidableEq, Repr

inductive Operation where
  | repositories
  | detail
  | commits
deriving DecidableEq, Repr

/-- The operation name by which a server and a reader of failures know the kind. -/
def Operation.name : Operation → String
  | .repositories => "GithubRepositories"
  | .detail => "GithubRepositoryDetail"
  | .commits => "GithubRepositoryCommits"

def Query.operation : Query → Operation
  | .repositories .. => .repositories
  | .detail .. => .detail
  | .commits .. => .commits

def RepositoryOrder.label : RepositoryOrder → String
  | .createdAt => "CreatedAt"
  | .updatedAt => "UpdatedAt"
  | .pushedAt => "PushedAt"
  | .name => "Name"
  | .stargazers => "Stargazers"

def Direction.label : Direction → String
  | .ascending => "Asc"
  | .descending => "Desc"

def PullRequestState.label : PullRequestState → String
  | .opened => "Open"
  | .closed => "Closed"
  | .merged => "Merged"

/-- The text of a query, as logs and cache misses show it. -/
def Query.text : Query → String
  | .repositories count order direction =>
    "RepositoriesQuery: repositories_count=" ++ toString count.toNat
      ++ ", order_by=" ++ order.label ++ ", order_direction=" ++ direction.label
  | .detail name states =>
    "RepositoryDetailQuery: name=" ++ name
      ++ ", pull_request_states=[" ++ ", ".intercalate (states.map PullRequestState.label) ++ "]"
  | .commits name => "RepositoryCommitsQuery: name=" ++ name

end RepoWatch
