import RepoWatch.Query.Basic
import RepoWatch.Watch.Event
/-!
# The journal

What is noted while queries are fetched, watched and published, each note with its level. Two lines
of the log have no note, since their text or their moment differs from run to run: for how long a
reply is held back, and that a watch has stopped.
-/

namespace RepoWatch

inductive Note where
  | watching (operation : Operation) (policy : Policy)
  | sending (operation : Operation)
  | unparsable (message : String)
  /-- An attempt failed, with the words of its error's outermost layer. -/
  | attemptFailed (number : Nat) (operation : Operation) (error : String)
  | fetching (query : Query)
  | response (operation : Operation) (fromCache : Bool)
  | undecodable (operation : Operation) (message : String)
  | failed (operation : Operation) (fault : QueryFault)
  | progress (stage : Progress)
  /-- The feed stopped following, on request. -/
  | cancelled (count : Nat)
  | unheard
deriving DecidableEq, Repr

namespace Note

def feedMark : String := "[WatcherDataSource] "

/-- The text of a note, with its level. -/
def text : Note → String
  | .watching operation policy =>
    "INFO Watching " ++ operation.name ++ " with " ++ policy.label ++ " policy"
  | .sending operation => "DEBUG Sending GraphQL operation " ++ operation.name
  | .unparsable message => "ERROR Failed to parse GraphQL response: " ++ message
  | .attemptFailed number operation error =>
    "WARN Fetch attempt #" ++ toString number ++ " of " ++ operation.name ++ " failed: " ++ error
  | .fetching query => "INFO " ++ feedMark ++ "Fetching " ++ query.text
  | .response operation fromCache =>
    "DEBUG " ++ feedMark ++ operation.name ++ " response from "
      ++ (if fromCache then "cache" else "network")
  | .undecodable operation message =>
    "ERROR " ++ feedMark ++ "Failed to decode " ++ operation.name ++ " response: " ++ message
  | .failed operation fault =>
    "WARN " ++ feedMark ++ operation.name ++ " failed: " ++ fault.text
  | .progress stage => "DEBUG " ++ feedMark ++ "Status event: " ++ stage.label
  | .cancelled count => "INFO " ++ feedMark ++ "Cancelled " ++ toString count ++ " watches"
  | .unheard => "TRACE Value dropped, sink has no subscriber"

end Note
end RepoWatch
