/-!
# Query documents

A document is the header of an operation and the tree of fields it selects. It is written one
field a line, each level indented by two spaces, with a line break before and after the whole.
-/

namespace RepoWatch

/-- A selected field with its arguments, and what is selected of its value. -/
inductive Selection where
  | field (head : String) (parts : List Selection)

namespace Selection

def leaf (head : String) : Selection := .field head []

mutual

def lines (indent : String) : Selection → List String
  | .field head [] => [indent ++ head]
  | .field head (part :: parts) =>
    (indent ++ head ++ " \x7b")
      :: (part.lines (indent ++ "  ") ++ partLines (indent ++ "  ") parts ++ [indent ++ "\x7d"])
termination_by structural x => x

def partLines (indent : String) : List Selection → List String
  | [] => []
  | part :: parts => part.lines indent ++ partLines indent parts
termination_by structural xs => xs

end

def document (operation : Selection) : String :=
  "\n" ++ "\n".intercalate (operation.lines "") ++ "\n"

/-- How much of the hourly quota is left; every document asks for it. -/
def quota : Selection :=
  .field "rateLimit" [leaf "limit", leaf "cost", leaf "remaining", leaf "resetAt"]

/-- The first repositories of the user in a given order. -/
def repositories : Selection :=
  .field ("query GithubRepositories($repositoriesCount: Int!, "
      ++ "$orderBy: RepositoryOrderField!, $orderDirection: OrderDirection!)")
    [.field "viewer"
      [.field ("repositories(first: $repositoriesCount, "
          ++ "orderBy: \x7bfield: $orderBy, direction: $orderDirection\x7d, "
          ++ "ownerAffiliations: [OWNER])")
        [.field "nodes" [leaf "id", leaf "name", leaf "description"]]],
      quota]

/-- One repository with its last pull requests and releases. -/
def detail : Selection :=
  .field "query GithubRepositoryDetail($name: String!, $pullRequestStates: [PullRequestState!])"
    [.field "viewer"
      [.field "repository(name: $name)"
        [leaf "id", leaf "name", leaf "description", leaf "url",
          .field "pullRequests(last: 10, states: $pullRequestStates)"
            [leaf "totalCount",
              .field "nodes"
                [leaf "id", leaf "title", leaf "url", .field "author" [leaf "login"]]],
          .field "releases(last: 10)"
            [leaf "totalCount",
              .field "nodes" [leaf "id", leaf "name", leaf "url", leaf "publishedAt"]]]],
      quota]

/-- The last commits on the default branch of one repository. -/
def commits : Selection :=
  .field "query GithubRepositoryCommits($name: String!)"
    [.field "viewer"
      [.field "repository(name: $name)"
        [.field "defaultBranchRef"
          [.field "target"
            [leaf "__typename",
              .field "... on Commit"
                [.field "history(first: 50)"
                  [.field "edges"
                    [.field "node"
                      [leaf "abbreviatedOid", leaf "messageHeadline",
                        .field "author" [leaf "name", leaf "email", leaf "date"]]]]]]]]],
      quota]

end Selection
end RepoWatch
