import FileSearch.Regex.Read.Escape

/-!
# Groups and flags

`opening` reads what an opening parenthesis starts: a group, whose inside is still to be read, or
a flag directive, which is complete.
-/

namespace FileSearch.Regex

/-- The flag with a letter. -/
def flag? : Char → Option Flag
  | 'i' => some .caseInsensitive
  | 'm' => some .multiLine
  | 's' => some .dotMatchesNewline
  | 'U' => some .swapGreed
  | 'u' => some .unicode
  | 'R' => some .crlf
  | 'x' => some .verbose
  | _ => none

/-- Whether a character can stand in the name of a group; the first one is restricted. -/
def isNameChar (c : Char) (first : Bool) : Bool :=
  if first then c = '_' || Unicode.isAlphabetic c
  else c = '_' || c = '.' || c = '[' || c = ']' || Unicode.isAlphanumeric c

/-- What an opening parenthesis can start. -/
inductive Opening where
  | directive (span : Stretch) (items : FlagGroup)
  | group (span : Stretch) (kind : GroupKind)

namespace Reader

/-- Reads flags up to the colon or parenthesis that ends them, with those read so far; `limit`
bounds their number. -/
def flagItems : Nat → FlagGroup → Reader FlagGroup
  | 0, items => return items
  | limit + 1, items => do
    match ← peek with
    | none => fail (← point) .flagUnexpectedEnd
    | some c =>
      if c = ':' || c = ')' then return items
      let span ← here
      let item ← if c = '-' then pure .negation else
        match flag? c with
        | some f => pure (.flag f)
        | none => fail span .flagUnrecognized
      if let some (_, original) := items.find? (·.1 = item) then
        throw { cause := if item = .negation then .flagRepeatedNegation else .flagDuplicate,
                span, original := some original }
      bump
      flagItems limit (items ++ [(item, span)])

/-- Reads the flags of a group, the last of which must not be the negation. -/
def flags : Reader FlagGroup := do
  let items ← flagItems ((← get).rest.length + 1) []
  match items.getLast? with
  | some (.negation, span) => fail span .flagDanglingNegation
  | _ => return items

/-- Reads the characters of a group's name up to the sign that ends it. -/
def nameChars : Nat → List Char → Reader (List Char)
  | 0, name => return name
  | limit + 1, name => do
    match ← peek with
    | none => return name
    | some c =>
      if c = '>' then return name
      unless isNameChar c name.isEmpty do fail (← here) .groupNameInvalid
      bump
      nameChars limit (name ++ [c])

/-- Reads the name of a group with the sign that ends it. -/
def groupName : Reader (String × Stretch) := do
  if ← atEnd then fail (← point) .groupNameUnexpectedEnd
  let start ← pos
  let name ← nameChars ((← get).rest.length) []
  let span ← since start
  if ← atEnd then fail (← point) .groupNameUnexpectedEnd
  bump
  if name.isEmpty then fail (.point start) .groupNameEmpty
  return (String.ofList name, span)

/-- Reads what an opening parenthesis starts; the parenthesis comes next.  `names` are the group
names in use with their places. -/
def opening (names : List (String × Stretch)) :
    Reader (Opening × List (String × Stretch)) := do
  let span ← here
  bump
  skip
  for sign in ["?=", "?!", "?<=", "?<!"] do
    if ← bumpIf sign then fail (← since span.start) .lookAround
  let inner ← point
  let named ← do
    if ← bumpIf "?P<" then pure true else bumpIf "?<"
  if named then
    let (name, place) ← groupName
    if let some (_, original) := names.find? (·.1 = name) then
      throw { cause := .groupNameDuplicate, span := place, original := some original }
    return (.group span (.named name), names ++ [(name, place)])
  if ← bumpIf "?" then
    if ← atEnd then fail span .groupUnclosed
    let items ← flags
    let close ← peek
    bump
    if close = some ')' then
      if items.isEmpty then fail inner .repetitionMissing
      return (.directive (← since span.start) items, names)
    return (.group span (.plain items), names)
  return (.group span .numbered, names)

end Reader

end FileSearch.Regex
