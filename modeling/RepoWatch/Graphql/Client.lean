import RepoWatch.Failure
import RepoWatch.Graphql.Body
import RepoWatch.Payload.Quota
import RepoWatch.Text.Blank
import RepoWatch.Text.Search
/-!
# Replies of a GraphQL server

What a fetch makes of the outcome of a client: the data as it is, with the quota it reports, or a
fault. A client's error counts as a parse fault when its message says that the answer could not
be parsed.
-/

namespace RepoWatch.Graphql

def defaultEndpoint : String := "https://api.github.com/graphql"

def checkToken (token : String) : Except ErrorChain String :=
  if Text.isBlank token then .error (.ofText "Missing GitHub API token") else .ok token

structure ClientError where
  message : String
  /-- What the server reports, if it does. -/
  reasons : Option (List ServerError)
deriving DecidableEq, Repr

/-- The words by which a client says that it could not parse an answer. -/
def parseMark : String := "Failed to parse response"

def faultOfMessage (message : String) : QueryFault :=
  if Text.contains message parseMark then .parse message else .remote message

def ClientError.toFault (e : ClientError) : QueryFault := faultOfMessage e.message

structure Reply where
  data : Json
  quota : Option Payload.Quota

def quotaKey : String := "rateLimit"

/-- The quota that data reports, if it does. -/
def quotaOf (data : Json) : Except QueryFault (Option Payload.Quota) :=
  match data.get? quotaKey with
  | none | some .null => .ok none
  | some v =>
    match Payload.Quota.decode v with
    | .ok quota => .ok (some quota)
    | .error e => .error (.parse ("Invalid rate limit: " ++ e.message))

def replyOf (outcome : Except ClientError Json) : Except QueryFault Reply :=
  match outcome with
  | .error e => .error e.toFault
  | .ok data => do return ⟨data, ← quotaOf data⟩

end RepoWatch.Graphql
