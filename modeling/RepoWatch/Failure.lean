/-!
# Failures

A failed query is classified as a fault. On its way outwards an error collects contexts; the
classification looks through them, and the message keeps all of them, the outermost first.
-/

namespace RepoWatch

inductive QueryFault where
  | parse (message : String)
  /-- The server, or the way to it, failed. -/
  | remote (message : String)
  /-- Nothing was cached for a query that may only read the cache. -/
  | cacheMiss (message : String)
deriving DecidableEq, Repr

namespace QueryFault

def message : QueryFault → String
  | .parse m | .remote m | .cacheMiss m => m

def text : QueryFault → String
  | .parse m => "Parsing error: " ++ m
  | .remote m => "Remote error: " ++ m
  | .cacheMiss m => "No cached data for query " ++ m

def withMessage (message : String) : QueryFault → QueryFault
  | .parse _ => .parse message
  | .remote _ => .remote message
  | .cacheMiss _ => .cacheMiss message

end QueryFault

/-- One layer of an error: plain words, or a fault. -/
inductive Layer where
  | plain (text : String)
  | fault (fault : QueryFault)
deriving DecidableEq, Repr

namespace Layer

def text : Layer → String
  | .plain text => text
  | .fault f => f.text

/-- The fault of a layer, if it is one. -/
def fault? : Layer → Option QueryFault
  | .plain _ => none
  | .fault f => some f

end Layer

/-- An error with the contexts it was given on its way outwards. -/
structure ErrorChain where
  base : Layer
  /-- The contexts, the outermost first. -/
  contexts : List Layer
deriving DecidableEq, Repr

namespace ErrorChain

def ofText (text : String) : ErrorChain := ⟨.plain text, []⟩

def ofFault (f : QueryFault) : ErrorChain := ⟨.fault f, []⟩

def wrap (e : ErrorChain) (context : Layer) : ErrorChain :=
  { e with contexts := context :: e.contexts }

/-- All layers, the outermost first. -/
def layers (e : ErrorChain) : List Layer := e.contexts ++ [e.base]

def top (e : ErrorChain) : String := (e.contexts.headD e.base).text

def full (e : ErrorChain) : String := ": ".intercalate (e.layers.map Layer.text)

/-- The fault that an error amounts to: the kind of the outermost fault among its layers, a
remote fault when there is none, and the words of all layers. -/
def toFault (e : ErrorChain) : QueryFault :=
  ((e.layers.findSome? Layer.fault?).getD (.remote "")).withMessage e.full

end ErrorChain

/-- A failed query, as it is published. -/
structure QueryFailure where
  operation : String
  source : QueryFault
deriving DecidableEq, Repr

def QueryFailure.text (f : QueryFailure) : String :=
  "Query " ++ f.operation ++ " failed: " ++ f.source.text

end RepoWatch
