import RepoWatch.Json.Reader
/-!
# Skipping JSON values

A value that nobody asks for is passed over without being kept. It may be nested as deep as it
likes, its numbers may be of any size, and the halves of surrogate pairs need not fit together.
-/

namespace RepoWatch.Json

def skipDigit (c : Cursor) : Reading Cursor :=
  if c.atDigit then .ok c.advance else c.faultAhead .invalidNumber

def skipExponent (c : Cursor) : Reading Cursor := do
  let c := c.advance
  let c := if c.peek? == some '+' || c.peek? == some '-' then c.advance else c
  return (← skipDigit c).skipWhile Char.isDigit

/-- Skips a fraction from its point on, and the exponent. -/
def skipFraction (c : Cursor) : Reading Cursor := do
  let c := (← skipDigit c.advance).skipWhile Char.isDigit
  if c.atExponent then skipExponent c else return c

def skipNumber (c : Cursor) : Reading Cursor := do
  let next ← skipDigit c
  if c.peek? == some '0' && next.atDigit then next.faultAhead .invalidNumber
  else
    let next := next.skipWhile Char.isDigit
    if next.peek? == some '.' then skipFraction next
    else if next.atExponent then skipExponent next
    else return next

def skipEscape (c : Cursor) : Reading Cursor :=
  match c.peek? with
  | some 'u' => do
    let (_, c) ← readHex c.advance
    return c
  | _ => do
    let (_, c) ← readEscape c
    return c

def skipString (c : Cursor) : Reading Cursor := go (c.rest.length + 1) c
where
  go : Nat → Cursor → Reading Cursor
    | 0, c => c.fault .endInString
    | fuel + 1, c =>
      match c.peek? with
      | none => c.fault .endInString
      | some '"' => .ok c.advance
      | some '\\' => do go fuel (← skipEscape c.advance)
      | some x => if x.toNat < 0x20 then c.fault .controlCharacter else go fuel c.advance

def skipKey (c : Cursor) : Reading Cursor := do
  let c := c.skipBlank
  match c.peek? with
  | some '"' =>
    let ((), c) ← readColon (← skipString c.advance)
    return c
  | some _ => c.faultAhead .keyMustBeString
  | none => c.fault .endInObject

mutual

def skipValue : Nat → Cursor → Reading Cursor
  | 0, c => c.fault .tooDeep
  | fuel + 1, c =>
    let c := c.skipBlank
    match c.peek? with
    | some '"' => skipString c.advance
    | some '[' => skipItems fuel true c.advance
    | some '\x7b' => skipFields fuel true c.advance
    | some '-' => skipNumber c.advance
    | some x =>
      if x.isDigit then skipNumber c
      else do
        let (_, c) ← readScalar c
        return c
    | none => c.fault .endInValue

def skipItems : Nat → Bool → Cursor → Reading Cursor
  | 0, _, c => c.fault .tooDeep
  | fuel + 1, first, c => do
    let c := c.skipBlank
    match c.peek? with
    | none => c.fault .endInList
    | some ']' => return c.advance
    | some x =>
      if first then skipItems fuel false (← skipValue fuel c)
      else if x = ',' then skipItems fuel false (← skipValue fuel c.advance)
      else c.faultAhead .expectedListCommaOrEnd

def skipFields : Nat → Bool → Cursor → Reading Cursor
  | 0, _, c => c.fault .tooDeep
  | fuel + 1, first, c => do
    let c := c.skipBlank
    match c.peek? with
    | none => c.fault .endInObject
    | some '\x7d' => return c.advance
    | some x =>
      if first then skipFields fuel false (← skipValue fuel (← skipKey c))
      else if x = ',' then skipFields fuel false (← skipValue fuel (← skipKey c.advance))
      else c.faultAhead .expectedObjectCommaOrEnd

end

/-- Skips a value; the fuel is more than it can take. -/
def skip (c : Cursor) : Reading Cursor := skipValue (2 * c.rest.length + 2) c

end RepoWatch.Json
