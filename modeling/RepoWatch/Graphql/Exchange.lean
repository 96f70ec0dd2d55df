import RepoWatch.Fetch.Plan
import RepoWatch.Graphql.Client
import RepoWatch.Query.Request
import RepoWatch.Web.Address
/-!
# Exchanges with a GraphQL server

A query is sent as one request to an endpoint, and what comes back is read: the data, or an error
in the words of the client. How a request is carried is not said here; an exchange either reaches
no server or brings a status and a body.
-/

namespace RepoWatch.Graphql

open Web (Address AddressFault)

inductive Exchange where
  | unreachable
  | answered (status : Nat) (body : String)
deriving DecidableEq, Repr

/-- One who sends queries to an endpoint, on behalf of the owner of a token. -/
structure Client where
  endpoint : String
  token : String
deriving DecidableEq, Repr

structure Request where
  address : Address
  token : String
  query : Query

namespace Request

def line (r : Request) : String :=
  "POST " ++ r.address.path ++ (r.address.query.map ("?" ++ ·)).getD "" ++ " HTTP/1.1"

def authorization (r : Request) : String := "Bearer " ++ r.token

def userAgent : String := "gql-client"

def contentType : String := "application/json"

def body (r : Request) : Json :=
  .object [("query", .string r.query.document), ("variables", r.query.variables)]

end Request

inductive Refusal where
  | wrongAddress (endpoint : String) (fault : AddressFault)
  | noHost (endpoint : String)
  | unusableToken
  | unusableAddress (address : Address)

def Refusal.message : Refusal → String
  | .wrongAddress endpoint fault => "Wrong endpoint: " ++ endpoint ++ ". " ++ fault.label
  | .noHost endpoint => "Wrong endpoint: " ++ endpoint
  | .unusableToken => "builder error"
  | .unusableAddress address => "builder error for url (" ++ address.text ++ ")"

def isHeaderChar (c : Char) : Bool := c = '\t' || (0x20 ≤ c.toNat && c.toNat ≠ 0x7f)

/-- Whether requests can be sent to an address: it has a scheme of the web, and a host in plain
characters. -/
def isSendable (address : Address) : Bool :=
  ["http", "https"].contains address.scheme
    && !((address.host.map Web.Host.text).getD "").toList.any fun c =>
      ['"', '\x60', '\x7b', '\x7d'].contains c

namespace Client

def prepare (c : Client) (query : Query) : Except Refusal Request := do
  let address ← match Address.read c.endpoint with
    | .ok address => pure address
    | .error fault => throw (.wrongAddress c.endpoint fault)
  if !address.hasHost then throw (.noHost c.endpoint)
  if !c.token.toList.all isHeaderChar then throw .unusableToken
  if !isSendable address then throw (.unusableAddress address)
  return ⟨address, c.token, query⟩

def unreadable (body : String) (fault : Json.Located Payload.TextFault) : ClientError :=
  ⟨parseMark ++ ": Error(" ++ Text.quoted fault.cause.message ++ ", line: " ++ toString fault.line
    ++ ", column: " ++ toString fault.column ++ "). The response body is: " ++ body, none⟩

/-- What is said of an answer with another status than success. -/
def unsuccessful (status : Nat) (errors : List ServerError) : ClientError :=
  ⟨"The response is [" ++ toString status ++ "]", some errors⟩

def reported (errors : List ServerError) : ClientError :=
  ⟨"Look at json field for more details", some errors⟩

def noData (endpoint : String) : ClientError :=
  ⟨"No data from graphql server(" ++ endpoint ++ ") for this query", none⟩

def unreached (address : Address) : ClientError :=
  ⟨"error sending request for url (" ++ address.text ++ ")", none⟩

def isSuccess (status : Nat) : Bool := 200 ≤ status && status < 300

def outcomeOf (c : Client) (status : Nat) (body : String) : Except ClientError Json :=
  match Payload.decodeText Body.decode body with
  | .error fault => .error (unreadable body fault)
  | .ok content =>
    if isSuccess status then
      match content.errors, content.data with
      | some errors, _ => .error (reported errors)
      | none, some data => .ok data
      | none, none => .error (noData c.endpoint)
    else .error (unsuccessful status (content.errors.getD []))

def outcome (c : Client) (request : Request) : Exchange → Except ClientError Json
  | .unreachable => .error (unreached request.address)
  | .answered status body => c.outcomeOf status body

/-- Sends a query, and reads what comes back. -/
def ask (c : Client) (query : Query) : Plan Exchange (Except ClientError Json) :=
  match c.prepare query with
  | .error refusal => .done (.error ⟨refusal.message, none⟩)
  | .ok request => .call query fun exchange => .done (c.outcome request exchange)

end Client

section Fetch

variable {ι : Type}

/-- The end of a fetch: an answer that could not be parsed is noted. -/
def conclude (outcome : Except ClientError Json) : Plan ι (Except ErrorChain Reply) :=
  let result := (replyOf outcome).mapError .ofFault
  match outcome.mapError ClientError.toFault with
  | .error (.parse message) => .note (.unparsable message) (.done result)
  | _ => .done result

/-- A fetch by way of a client, which is asked once. -/
def fetchThrough (ask : Query → Plan ι (Except ClientError Json)) (query : Query) :
    Plan ι (Except ErrorChain Reply) :=
  .note (.sending query.operation) ((ask query).bind conclude)

end Fetch

def Client.fetch (c : Client) : Query → Plan Exchange (Except ErrorChain Reply) :=
  fetchThrough c.ask

end RepoWatch.Graphql
