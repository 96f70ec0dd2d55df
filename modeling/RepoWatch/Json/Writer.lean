import RepoWatch.Json.Basic
import RepoWatch.Json.Numeral
/-!
# Writing JSON text

The compact form of a value: no white space, fields in the order of the object, and escapes only
where the format needs them.
-/

namespace RepoWatch.Json

def hexDigit (n : Nat) : Char := "0123456789abcdef".toList.getD n '0'

/-- A character inside a string: quotes, backslashes and control characters are escaped. -/
def writeChar (c : Char) : List Char :=
  match c with
  | '"' => ['\\', '"']
  | '\\' => ['\\', '\\']
  | '\x08' => ['\\', 'b']
  | '\x0c' => ['\\', 'f']
  | '\n' => ['\\', 'n']
  | '\r' => ['\\', 'r']
  | '\t' => ['\\', 't']
  | c =>
    if c.toNat < 0x20 then ['\\', 'u', '0', '0', hexDigit (c.toNat / 16), hexDigit (c.toNat % 16)]
    else [c]

def writeString (s : String) : String :=
  String.ofList ('"' :: (s.toList.flatMap writeChar ++ ['"']))

mutual

def write : Json → String
  | .null => "null"
  | .bool b => if b then "true" else "false"
  | .integer i => toString i
  | .double d => d.numeral
  | .string s => writeString s
  | .array items => "[" ++ ",".intercalate (writeItems items) ++ "]"
  | .object fields => "\x7b" ++ ",".intercalate (writeFields fields) ++ "\x7d"
termination_by structural x => x

def writeItems : List Json → List String
  | [] => []
  | x :: xs => write x :: writeItems xs
termination_by structural xs => xs

def writeFields : List (String × Json) → List String
  | [] => []
  | x :: xs => writeField x :: writeFields xs
termination_by structural xs => xs

def writeField : String × Json → String
  | (key, value) => writeString key ++ ":" ++ write value
termination_by structural x => x

end

end RepoWatch.Json
