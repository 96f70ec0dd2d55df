import RepoWatch.CommandLine.Options
import RepoWatch.Channel.Outlet
import RepoWatch.Graphql.Client
/-!
# Reading the command line

Settings come first, in any order, then a command with its own arguments. The value of a setting
is its next argument, or is attached to it; it is checked when the next setting is met, or at the
end. After a double hyphen no argument is a setting.
-/

namespace RepoWatch.CommandLine

/-- A setting whose value is not checked yet. -/
structure Pending where
  setting : Setting
  value : Option String
deriving DecidableEq, Repr

/-- The settings of a command line, as far as it is read. -/
structure Settings where
  given : List (Setting × String)
  pending : Option Pending
deriving DecidableEq, Repr

namespace Settings

def none : Settings := ⟨[], Option.none⟩

/-- Whether the next argument is the value of a setting. -/
def isAwaiting (s : Settings) : Bool := (s.pending.map fun p => p.value.isNone).getD false

/-- The value of a setting, if it is given. -/
def value? (s : Settings) (setting : Setting) : Option String := s.given.lookup setting

/-- Checks that a text can be the value of a setting. -/
def check (setting : Setting) (value : String) : Except NumberFault Unit :=
  match setting with
  | .endpoint | .token => .ok ()
  | .attempts => do
    let _ ← readWord value
  | .retryDelay | .sinkCapacity | .watchDuration => do
    let _ ← readUnsigned value

def accept (s : Settings) (setting : Setting) (value : String) : Except Halt Settings :=
  if (s.value? setting).isSome then .error (.error (.repeated setting))
  else
    match check setting value with
    | .ok () => .ok { s with given := (setting, value) :: s.given }
    | .error fault => .error (.error (.invalid setting value fault))

def resolve (s : Settings) : Except Halt Settings :=
  match s.pending with
  | Option.none => .ok s
  | some ⟨setting, Option.none⟩ => .error (.error (.missingValue setting))
  | some ⟨setting, some value⟩ => { s with pending := Option.none }.accept setting value

/-- Meets a setting, whose value may be attached to it. -/
def meet (s : Settings) (setting : Setting) (attached : Option String) : Except Halt Settings := do
  let s ← s.resolve
  match attached with
  | some value => s.accept setting value
  | Option.none => return { s with pending := some ⟨setting, Option.none⟩ }

def supply (s : Settings) (value : String) : Settings :=
  { s with pending := s.pending.map fun p => { p with value := some value } }

end Settings

/-! ## Kinds of arguments -/

/-- The mark after which no argument is a setting. -/
def terminator : String := "--"

inductive Shape where
  | terminator
  /-- Two hyphens and a name, with a value after an equals sign. -/
  | long (name : String) (value : Option String)
  | short (first : Char) (rest : List Char)
  | plain
deriving DecidableEq, Repr

/-- The part before the first equals sign, and the part after it. -/
def splitEquals (cs : List Char) : String × Option String :=
  match cs.dropWhile (· ≠ '=') with
  | _ :: value => (String.ofList (cs.takeWhile (· ≠ '=')), some (String.ofList value))
  | [] => (String.ofList cs, none)

def Shape.of (argument : String) : Shape :=
  match argument.toList with
  | ['-', '-'] => .terminator
  | '-' :: '-' :: cs =>
    let (name, value) := splitEquals cs
    .long name value
  | '-' :: c :: cs => .short c cs
  | _ => .plain

def attachedValue : List Char → Option String
  | [] => none
  | '=' :: cs => some (String.ofList cs)
  | cs => some (String.ofList cs)

/-! ## The arguments of a command -/

/-- Reads the arguments of a command: `name` is what was read of them, `plain` says whether the
terminator was met. -/
def readName (word : CommandWord) (takesName : Bool) :
    Bool → Option String → List String → Except Halt (Option String)
  | _, name, [] =>
    if takesName && name.isNone then .error (.error .missingArgument) else .ok name
  | plain, name, argument :: rest =>
    match if plain then .plain else Shape.of argument with
    | .terminator => readName word takesName true name rest
    | .long "help" none => .error (.help (some word))
    | .long "help" (some value) => .error (.error (.needlessValue "--help" value))
    | .long flag _ => .error (.error (.unexpected ("--" ++ flag)))
    | .short 'h' _ => .error (.help (some word))
    | .short c _ => .error (.error (.unexpected ("-" ++ c.toString)))
    | .plain =>
      if takesName && name.isNone then readName word takesName plain (some argument) rest
      else .error (.error (.unexpected argument))

def readCommand (word : CommandWord) (arguments : List String) : Except Halt Command := do
  match word with
  | .repositories =>
    let _ ← readName word false false none arguments
    return .repositories
  | .detail => return .detail ((← readName word true false none arguments).getD "")
  | .commits => return .commits ((← readName word true false none arguments).getD "")

/-- What help is asked for by the words after `help`. -/
def readHelp : List String → Halt
  | [] => .help none
  | [word] =>
    match CommandWord.of? word with
    | some word => .help (some word)
    | none => if word = helpWord then .helpOnHelp else .error (.unknownCommand word)
  | word :: next :: _ =>
    if (CommandWord.of? word).isSome ∨ word = helpWord then .error (.unknownCommand next)
    else .error (.unknownCommand word)

/-! ## The whole command line -/

/-- A flag ends the reading, once the value before it is checked. -/
def halt {α : Type} (s : Settings) (h : Halt) : Except Halt α := do
  let _ ← s.resolve
  throw h

def meetLong (s : Settings) (name : String) (value : Option String) : Except Halt Settings :=
  match Setting.ofLong? name with
  | some setting => s.meet setting value
  | none =>
    if name = "help" ∨ name = "version" then
      match value with
      | some value => .error (.error (.needlessValue ("--" ++ name) value))
      | none => halt s (if name = "help" then .help none else .version)
    else .error (.error (.unexpected ("--" ++ name)))

def meetShort (s : Settings) (first : Char) (rest : List Char) : Except Halt Settings :=
  match Setting.ofShort? first with
  | some setting => s.meet setting (attachedValue rest)
  | none =>
    if first = 'h' then halt s (.help none)
    else if first = 'V' then halt s .version
    else .error (.error (.unexpected ("-" ++ first.toString)))

/-- What is wrong with an argument that is neither a setting nor a command. -/
def misplaced (plain : Bool) (argument : String) : Halt :=
  if plain ∧ ((CommandWord.of? argument).isSome ∨ argument = helpWord) then
    .error (.unexpected argument)
  else .error (.unknownCommand argument)

/-- Reads the settings up to the command, and the command. -/
def readArguments (s : Settings) : Bool → List String → Except Halt (Settings × Option Command)
  | _, [] => .ok (s, none)
  | true, argument :: _ => .error (misplaced true argument)
  | false, argument :: rest =>
    if s.isAwaiting then
      match Shape.of argument with
      | .terminator => readArguments s true rest
      | .long name value => do readArguments (← meetLong s name value) false rest
      | .short first cs => do readArguments (← meetShort s first cs) false rest
      | .plain => readArguments (s.supply argument) false rest
    else if argument = helpWord then .error (readHelp rest)
    else
      match CommandWord.of? argument, Shape.of argument with
      | some word, _ => do return (s, some (← readCommand word rest))
      | none, .terminator => readArguments s true rest
      | none, .long name value => do readArguments (← meetLong s name value) false rest
      | none, .short first cs => do readArguments (← meetShort s first cs) false rest
      | none, .plain => .error (misplaced false argument)

def numberOf (s : Settings) (setting : Setting) (otherwise : Nat) : Nat :=
  match s.value? setting with
  | some value => (readUnsigned value).toOption.getD otherwise
  | none => otherwise

/-- How often a request is tried when nothing else is asked for. -/
def defaultAttempts : UInt32 := 3

/-- The delay in milliseconds when nothing else is asked for. -/
def defaultRetryDelay : Nat := 500

/-- The time to watch in seconds when nothing else is asked for. -/
def defaultWatchDuration : Nat := 10

/-- The options that settings and a command amount to. -/
def Settings.options (s : Settings) (token : String) (command : Command) : Options where
  command
  endpoint := (s.value? .endpoint).getD Graphql.defaultEndpoint
  token
  attempts := ((s.value? .attempts).bind fun v => (readWord v).toOption).getD defaultAttempts
  retryDelay := numberOf s .retryDelay defaultRetryDelay
  sinkCapacity := numberOf s .sinkCapacity (Outlet.defaultCapacity)
  watchDuration := numberOf s .watchDuration defaultWatchDuration

/-- Reads a command line; the token may also come from the environment. -/
def Options.read (arguments : List String) (tokenVariable : Option String) :
    Except Halt Options := do
  let (s, command) ← readArguments .none false arguments
  let s ← s.resolve
  match (s.value? .token).orElse fun _ => tokenVariable, command with
  | some token, some command => return s.options token command
  | none, some _ => throw (.error .missingArgument)
  | token, none =>
    if token.isNone && s.given.isEmpty then throw .nothing else throw (.error .missingCommand)

end RepoWatch.CommandLine
