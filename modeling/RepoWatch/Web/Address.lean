import RepoWatch.Web.Host
/-!
# Addresses

Reads and writes the addresses of the web in their common form. Reading is lenient: white space
around an address is dropped, the usual schemes take a backslash for a slash, dots in the path
are resolved, and reserved characters are percent-encoded. User names and passwords are read and
dropped.
-/

namespace RepoWatch.Web

structure Address where
  scheme : String
  /-- The host; it may be empty, and there is none where no slashes announce it. -/
  host : Option Host
  /-- The port, unless it is the one of the scheme. -/
  port : Option Nat
  path : String
  query : Option String
  fragment : Option String
deriving DecidableEq, Repr

namespace Address

/-- The port of a scheme; the schemes that have one are the usual ones. -/
def defaultPort? : String → Option Nat
  | "http" | "ws" => some 80
  | "https" | "wss" => some 443
  | "ftp" => some 21
  | _ => none

def fileScheme : String := "file"

/-- Whether a scheme is written with slashes or backslashes and has names in ASCII. -/
def isUsual (scheme : String) : Bool := (defaultPort? scheme).isSome || scheme == fileScheme

/-- What is dropped at both ends of an address. -/
def isMargin (c : Char) : Bool := c.toNat ≤ 0x20

def isIgnored (c : Char) : Bool := c = '\t' || c = '\n' || c = '\r'

def significant (text : String) : List Char :=
  let cs := text.toList.dropWhile isMargin
  (cs.reverse.dropWhile isMargin).reverse.filter fun c => !isIgnored c

def isSchemeChar (c : Char) : Bool := c.isAlphanum || c = '+' || c = '-' || c = '.'

/-- The scheme, and what follows its colon. -/
def splitScheme (cs : List Char) : Except AddressFault (String × List Char) :=
  match (cs.head?.map Char.isAlpha).getD false, cs.dropWhile isSchemeChar with
  | true, ':' :: rest =>
    .ok (String.ofList ((cs.takeWhile isSchemeChar).map Char.toLower), rest)
  | _, _ => .error .noScheme

/-- Whether a character separates the segments of a path. -/
def isSlash (usual : Bool) (c : Char) : Bool := c = '/' || (usual && c = '\\')

/-- Whether a character ends the authority of an address. -/
def endsAuthority (usual : Bool) (c : Char) : Bool := isSlash usual c || c = '?' || c = '#'

/-! ## The authority -/

/-- What stands after the last at sign, and whether there was one, with something before it. -/
def withoutCredentials (cs : List Char) : List Char × Bool × Bool :=
  let host := (cs.reverse.takeWhile (· ≠ '@')).reverse
  let before := cs.length - host.length
  (host, 0 < before, 1 < before)

/-- The characters of a host, up to a colon outside brackets, and what follows them. -/
def splitHost (inBrackets : Bool) : List Char → List Char × List Char
  | [] => ([], [])
  | c :: cs =>
    if c = ':' ∧ !inBrackets then ([], c :: cs)
    else
      let (host, rest) := splitHost (c = '[' || (inBrackets && c ≠ ']')) cs
      (c :: host, rest)

def portLimit : Nat := 0xFFFF

/-- The port that follows a host; none when it is the one of the scheme. -/
def readPort (scheme : String) : List Char → Except AddressFault (Option Nat)
  | ':' :: digits =>
    if digits.isEmpty then .ok none
    else
      match digits? 10 digits with
      | some port =>
        if portLimit < port then .error .invalidPort
        else .ok (if defaultPort? scheme = some port then none else some port)
      | none => .error .invalidPort
  | _ => .ok none

/-- The host and the port of an authority. Only with the other schemes the host may be empty, and
then there are no port and no credentials. -/
def readAuthority (scheme : String) (usual ended : Bool) (cs : List Char) :
    Except AddressFault (Host × Option Nat) := do
  let (cs, hasMark, hasCredentials) := withoutCredentials cs
  if hasMark ∧ !hasCredentials ∧ cs.isEmpty ∧ ended then throw .emptyHost
  let (host, rest) := splitHost false cs
  if host.isEmpty then
    if usual ∨ hasCredentials ∨ !rest.isEmpty then throw .emptyHost
    return (.empty, none)
  let host ← Host.read usual host
  return (host, ← readPort scheme rest)

/-! ## The path -/

/-- Whether a segment stands for the place itself. -/
def isSingleDot (segment : List Char) : Bool :=
  ["."  , "%2e"].contains (String.ofList (segment.map Char.toLower))

/-- Whether a segment stands for the place above. -/
def isDoubleDot (segment : List Char) : Bool :=
  ["..", ".%2e", "%2e.", "%2e%2e"].contains (String.ofList (segment.map Char.toLower))

/-- Resolves the dots in the segments of a path; `above` holds the segments before, the last one
first. -/
def resolveDots (above : List (List Char)) : List (List Char) → List (List Char)
  | [] => above.reverse
  | segment :: rest =>
    let above' :=
      if isDoubleDot segment then above.tail else if isSingleDot segment then above
      else segment :: above
    if rest.isEmpty && (isDoubleDot segment || isSingleDot segment) then
      resolveDots ([] :: above') rest
    else resolveDots above' rest

def pathText (usual : Bool) (cs : List Char) : String :=
  let slashed := cs.map fun c => if isSlash usual c then '/' else c
  let segments := resolveDots [] (splitAt '/' slashed)
  String.ofList ('/' :: ['/'].intercalate (segments.map (percentEncode isPathReserved)))

def readPath (usual : Bool) (cs : List Char) : String :=
  match cs with
  | [] => if usual then "/" else ""
  | c :: rest => if isSlash usual c then pathText usual rest else pathText usual (c :: rest)

/-! ## The whole -/

/-- Splits at the first occurrence of a mark, which belongs to neither part. -/
def splitMark (mark : Char) (cs : List Char) : List Char × Option (List Char) :=
  (cs.takeWhile (· ≠ mark), ((cs.dropWhile (· ≠ mark)).tail?))

/-- Puts the parts of an address together; `rest` is what follows the authority. -/
def assemble (scheme : String) (usual : Bool) (host : Option Host) (port : Option Nat)
    (path : List Char → String) (rest : List Char) : Address :=
  let (rest, fragment) := splitMark '#' rest
  let (rest, query) := splitMark '?' rest
  { scheme, host, port
    path := path rest
    query := query.map fun cs => String.ofList (percentEncode (isQueryReserved usual) cs)
    fragment := fragment.map fun cs => String.ofList (percentEncode isFragmentReserved cs) }

/-- Reads an address after the slashes that announce its authority. -/
def readHosted (scheme : String) (usual : Bool) (cs : List Char) : Except AddressFault Address := do
  let authority := cs.takeWhile fun c => !endsAuthority usual c
  let rest := cs.dropWhile fun c => !endsAuthority usual c
  let (host, port) ← readAuthority scheme usual (!rest.isEmpty) authority
  return assemble scheme usual (some host) port (readPath usual) rest

/-- Whether the host of a file is a drive letter, which belongs to the path. -/
def isDriveLetter : List Char → Bool
  | [letter, mark] => letter.isAlpha && (mark = ':' || mark = '|')
  | _ => false

/-- Reads the address of a file. This computer is the empty host. -/
def readFile (cs : List Char) : Except AddressFault Address := do
  let local' := assemble fileScheme true (some .empty) none (readPath true)
  match cs with
  | a :: b :: rest =>
    if isSlash true a ∧ isSlash true b then
      let host := rest.takeWhile fun c => !endsAuthority true c
      let path := rest.dropWhile fun c => !endsAuthority true c
      if isDriveLetter host then return local' rest
      if host.isEmpty then return local' path
      let host ← Host.read true host
      if host = .name "localhost" then return local' path
      return assemble fileScheme true (some host) none (readPath true) path
    else return local' cs
  | cs => return local' cs

def read (text : String) : Except AddressFault Address := do
  let (scheme, rest) ← splitScheme (significant text)
  if scheme = fileScheme then readFile rest
  else if isUsual scheme then readHosted scheme true (rest.dropWhile (isSlash true))
  else
    match rest with
    | '/' :: '/' :: rest => readHosted scheme false rest
    | '/' :: rest => return assemble scheme false none none (pathText false) rest
    | rest =>
      let path := fun cs => String.ofList (percentEncode isControl cs)
      return assemble scheme false none none path rest

def hasHost (a : Address) : Bool := (a.host.getD .empty) ≠ .empty

def text (a : Address) : String :=
  a.scheme ++ ":" ++ (a.host.map fun host => "//" ++ host.text).getD ""
    ++ (a.port.map fun port => ":" ++ toString port).getD "" ++ a.path
    ++ (a.query.map ("?" ++ ·)).getD "" ++ (a.fragment.map ("#" ++ ·)).getD ""

end Address
end RepoWatch.Web
