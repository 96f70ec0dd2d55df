import RepoWatch.Json.Basic
import RepoWatch.Query.Basic
import RepoWatch.Query.Document
/-!
# Requests

What a query sends: the document of its operation and the variables that fill it in.
-/

namespace RepoWatch

def Operation.selection : Operation → Selection
  | .repositories => .repositories
  | .detail => .detail
  | .commits => .commits

def Query.document (q : Query) : String := q.operation.selection.document

def RepositoryOrder.token : RepositoryOrder → String
  | .createdAt => "CREATED_AT"
  | .updatedAt => "UPDATED_AT"
  | .pushedAt => "PUSHED_AT"
  | .name => "NAME"
  | .stargazers => "STARGAZERS"

def Direction.token : Direction → String
  | .ascending => "ASC"
  | .descending => "DESC"

def PullRequestState.token : PullRequestState → String
  | .opened => "OPEN"
  | .closed => "CLOSED"
  | .merged => "MERGED"

/-- The variables sent along with the document, in the order of their names. -/
def Query.variables : Query → Json
  | .repositories count order direction =>
    .object [("orderBy", .string order.token), ("orderDirection", .string direction.token),
      ("repositoriesCount", .integer count.toNat)]
  | .detail name states =>
    .object [("name", .string name),
      ("pullRequestStates", .array (states.map fun s => .string s.token))]
  | .commits name => .object [("name", .string name)]

end RepoWatch
