import FileSearch.Yaml.Property
import FileSearch.Yaml.Scalar

/-!
# Tokens of YAML texts

`Token.ofText` splits a text into tokens, up to its end or its first fault.

A colon may turn what stands before it in its line into a key.  Where a key may begin is therefore kept
as pending, one place for each open flow collection and one outside of them, and the sign of the key is
put in front of it when the colon comes.  Tokens wait in a queue until no pending key can come before
them.  Outside of flow collections the columns of open block collections are kept, and a lesser column
closes them.
-/

namespace FileSearch.Yaml

/-- The kinds of tokens. -/
inductive TokenKind where
  | directive
  | documentStart
  | documentEnd
  | streamEnd
  | blockSequenceStart
  | blockMappingStart
  | blockEnd
  | blockEntry
  | flowSequenceStart
  | flowSequenceEnd
  | flowMappingStart
  | flowMappingEnd
  | flowEntry
  | key
  | value
  | anchor (name : String)
  | alias (name : String)
  | tag (t : Tag)
  | scalar (style : Style) (text : String)
  deriving DecidableEq, Repr

/-- A token with its place. -/
structure Token where
  kind : TokenKind
  mark : Mark
  deriving DecidableEq, Repr

/-- A place where a key may begin. -/
structure PendingKey where
  mark : Mark
  /-- The number of tokens before it. -/
  number : Nat
  /-- Whether it is a fault if no colon comes. -/
  required : Bool

/-- How far a text has been split into tokens. -/
structure Lexer where
  cursor : Cursor
  /-- The tokens that wait, the first one first. -/
  queue : List Token := []
  /-- The number of tokens that wait no more. -/
  passed : Nat := 0
  /-- The pending keys, that of the innermost flow collection first. -/
  keys : List (Option PendingKey) := [none]
  /-- Whether a key may begin here. -/
  keyAllowed : Bool := true
  /-- The column of the innermost block collection, -1 outside of all. -/
  indent : Int := -1
  /-- The columns of those around it. -/
  outerIndents : List Int := []
  /-- The end of the latest quoted scalar; a colon there needs no gap behind it. -/
  adjacentAt : Nat := 0

namespace Lexer

/-- What fails or gives a lexer. -/
abbrev Step := Except Fault Lexer

/-- The number of open flow collections. -/
def flowDepth (l : Lexer) : Nat := l.keys.length - 1

/-- Whether a flow collection is open. -/
def inFlow (l : Lexer) : Bool := 1 < l.keys.length

/-- The place reached. -/
def mark (l : Lexer) : Mark := l.cursor.mark

/-- Fails at the place reached. -/
def fail {α : Type} (l : Lexer) (cause : Cause) : Except Fault α := .error ⟨cause, l.mark⟩

/-- Adds a token at the end of the queue. -/
def push (l : Lexer) (kind : TokenKind) (mark : Mark) : Lexer :=
  { l with queue := l.queue ++ [⟨kind, mark⟩] }

/-- Adds a token in front of the one with the given number. -/
def pushAt (l : Lexer) (number : Nat) (kind : TokenKind) (mark : Mark) : Lexer :=
  let i := number - l.passed
  { l with queue := l.queue.take i ++ ⟨kind, mark⟩ :: l.queue.drop i }

/-- Adds a token of `n` characters at the end of the queue and passes them. -/
def sign (l : Lexer) (kind : TokenKind) (n : Nat) : Lexer :=
  { l.push kind l.mark with cursor := l.cursor.skips n }

/-- The lexer with or without permission for a key. -/
def allowKey (l : Lexer) (allowed : Bool) : Lexer := { l with keyAllowed := allowed }

/-! ## Pending keys -/

/-- Drops the innermost pending key. -/
def dropKey (l : Lexer) : Step :=
  match l.keys with
  | some k :: rest =>
    if k.required then l.fail .simpleKeyExpected else .ok { l with keys := none :: rest }
  | _ => .ok l

/-- Notes that a key may begin here, if allowed. -/
def saveKey (l : Lexer) : Step := do
  if !l.keyAllowed then return l
  let l ← l.dropKey
  let k : PendingKey := {
    mark := l.mark
    number := l.passed + l.queue.length
    required := l.inFlow && l.indent == l.mark.column }
  return { l with keys := some k :: l.keys.tail }

/-- The greatest number of characters from the beginning of a key up to its colon. -/
def longestKey : Nat := 1024

/-- Whether it is too late for the colon of a key. -/
def isStale (l : Lexer) (k : PendingKey) : Bool :=
  k.mark.line < l.mark.line || k.mark.index + longestKey < l.mark.index

/-- Drops the pending keys for whose colon it is too late. -/
def dropStaleKeys (l : Lexer) : Step :=
  if l.keys.any fun k => k.any fun k => l.isStale k && k.required then l.fail .simpleKeyColon
  else .ok { l with keys := l.keys.map fun k => k.filter fun k => !l.isStale k }

/-- Whether the next token could still become a key. -/
def awaitsKey (l : Lexer) : Bool := l.keys.any fun k => k.any (·.number == l.passed)

/-! ## Block collections -/

/-- Opens a block collection at a column unless it is open; `add` adds the token. -/
def openBlock (l : Lexer) (column : Nat) (add : Lexer → Lexer) : Lexer :=
  if l.inFlow || !(l.indent < column) then l
  else add { l with indent := column, outerIndents := l.indent :: l.outerIndents }

/-- Closes the block collections that begin behind a column. -/
def closeBlocks (column : Int) : List Int → Lexer → Lexer
  | [], l => l
  | outer :: rest, l =>
    if l.indent ≤ column then l
    else closeBlocks column rest
      { l.push .blockEnd l.mark with indent := outer, outerIndents := rest }

/-- Closes the block collections that begin behind a column, outside of flow collections. -/
def close (l : Lexer) (column : Int) : Lexer :=
  if l.inFlow then l else closeBlocks column l.outerIndents l

/-! ## The next token -/

/-- Passes blanks, remarks and the ends of lines; `fuel` bounds the number of steps. -/
def skipGap : Nat → Lexer → Lexer
  | 0, l => l
  | fuel + 1, l =>
    let c := l.cursor
    if c.head = ' ' ∨ (c.head = '\t' ∧ (l.inFlow ∨ !l.keyAllowed)) then
      skipGap fuel { l with cursor := c.skip }
    else if isBreak c.head then
      skipGap fuel { l with cursor := c.skipBreak, keyAllowed := l.keyAllowed || !l.inFlow }
    else if c.head = '#' then skipGap fuel { l with cursor := c.skipRemark }
    else l

/-- Ends the text. -/
def endStream (l : Lexer) : Step := do
  let m := l.mark
  let l := if m.column = 0 then l
    else { l with cursor := { l.cursor with mark := ⟨m.index, m.line + 1, 0⟩ } }
  let l ← (l.close (-1)).dropKey
  return (l.allowKey false).push .streamEnd l.mark

/-- Passes a directive. -/
def directive (l : Lexer) : Step := do
  let l ← (l.close (-1)).dropKey
  let c ← skipDirective l.cursor
  return { (l.allowKey false).push .directive l.mark with cursor := c }

/-- Passes the sign of a document's start or end. -/
def documentSign (l : Lexer) (kind : TokenKind) : Step := do
  let l ← (l.close (-1)).dropKey
  return (l.allowKey false).sign kind 3

/-- The greatest number of open flow collections. -/
def deepestFlow : Nat := 255

/-- Opens a flow collection. -/
def openFlow (l : Lexer) (kind : TokenKind) : Step := do
  let l ← l.saveKey
  if deepestFlow ≤ l.flowDepth then l.fail .nestingLimit
  else return ({ l with keys := none :: l.keys }.allowKey true).sign kind 1

/-- Closes a flow collection. -/
def closeFlow (l : Lexer) (kind : TokenKind) : Step := do
  let l ← l.dropKey
  let keys := if l.inFlow then l.keys.tail else l.keys
  return ({ l with keys }.allowKey false).sign kind 1

/-- Passes the comma between two entries of a flow collection. -/
def flowEntry (l : Lexer) : Step := do
  return ((← l.dropKey).allowKey true).sign .flowEntry 1

/-- Passes the hyphen in front of an entry of a block sequence. -/
def blockEntry (l : Lexer) : Step := do
  if l.inFlow then l.fail .blockEntryInFlow
  else if !l.keyAllowed then l.fail .blockEntryNotAllowed
  else
    let m := l.mark
    let l ← (l.openBlock m.column fun l => l.push .blockSequenceStart m).dropKey
    return (l.allowKey true).sign .blockEntry 1

/-- Passes the question mark in front of a key. -/
def explicitKey (l : Lexer) : Step := do
  if !l.inFlow && !l.keyAllowed then l.fail .keyNotAllowed
  else
    let m := l.mark
    let l ← (l.openBlock m.column fun l => l.push .blockMappingStart m).dropKey
    return (l.allowKey !l.inFlow).sign .key 1

/-- Passes the colon in front of a value. -/
def value (l : Lexer) : Step :=
  let m := l.mark
  match l.keys with
  | some k :: rest =>
    let l := l.pushAt k.number .key k.mark
    let l := l.openBlock k.mark.column fun l => l.pushAt k.number .blockMappingStart m
    .ok (({ l with keys := none :: rest }.allowKey false).sign .value 1)
  | _ =>
    if l.inFlow then .ok ((l.allowKey false).sign .value 1)
    else if !l.keyAllowed then l.fail .valueNotAllowed
    else
      let l := l.openBlock m.column fun l => l.push .blockMappingStart m
      .ok ((l.allowKey true).sign .value 1)

/-- Passes something that may be a key or stand in front of one. -/
def item {α : Type} (l : Lexer) (scan : Cursor → Except Fault (α × Cursor)) (kind : α → TokenKind) :
    Step := do
  let l ← l.saveKey
  let (a, c) ← scan l.cursor
  return { (l.allowKey false).push (kind a) l.mark with cursor := c }

/-- Passes a quoted scalar. -/
def quoted (l : Lexer) (single : Bool) : Step := do
  let style : Style := if single then .singleQuoted else .doubleQuoted
  let l ← l.item (scanQuoted single) (.scalar style)
  return { l with adjacentAt := l.mark.index }

/-- Passes a plain scalar. -/
def plain (l : Lexer) : Step := do
  let l ← l.saveKey
  let (text, endsWithLine, c) ← scanPlain l.inFlow (l.indent + 1) l.cursor
  return { (l.allowKey endsWithLine).push (.scalar .plain text) l.mark with cursor := c }

/-- Passes a block scalar. -/
def block (l : Lexer) (literal : Bool) : Step := do
  let l ← l.saveKey
  let (text, m, c) ← scanBlock literal l.indent l.cursor
  let style : Style := if literal then .literal else .folded
  return { (l.allowKey true).push (.scalar style text) m with cursor := c }

/-- Whether a colon comes next that stands in front of a value. -/
def atValue (l : Lexer) : Bool :=
  let next := l.cursor.peek 1
  isGap next || (l.inFlow && (isFlowSign next || l.mark.index == l.adjacentAt))

/-- Passes a token that begins in the middle of a line. -/
def fetchInLine (l : Lexer) : Step :=
  let c := l.cursor
  let gap := isGap (c.peek 1)
  match c.head with
  | '[' => l.openFlow .flowSequenceStart
  | '\x7b' => l.openFlow .flowMappingStart
  | ']' => l.closeFlow .flowSequenceEnd
  | '\x7d' => l.closeFlow .flowMappingEnd
  | ',' => l.flowEntry
  | '-' => if gap then l.blockEntry else l.plain
  | '?' => if gap then l.explicitKey else l.plain
  | ':' => if l.atValue then l.value else l.plain
  | '*' => l.item scanAnchor .alias
  | '&' => l.item scanAnchor .anchor
  | '!' => l.item scanTag .tag
  | '|' => if l.inFlow then l.plain else l.block true
  | '>' => if l.inFlow then l.plain else l.block false
  | '\'' => l.quoted true
  | '"' => l.quoted false
  | '%' | '@' | '\x60' => l.fail (.unexpectedChar c.head)
  | _ => l.plain

/-- Passes a token. -/
def fetch (l : Lexer) : Step := do
  let l ← (skipGap (l.cursor.rest.length + 1) l).dropStaleKeys
  let l := l.close l.mark.column
  let c := l.cursor
  if isEnd c.head then l.endStream
  else if c.mark.column = 0 ∧ c.head = '%' then l.directive
  else if c.atDocumentSign '-' then l.documentSign .documentStart
  else if c.atDocumentSign '.' then l.documentSign .documentEnd
  else l.fetchInLine

/-- The tokens up to the end of the text or its first fault, after those in `read`; `fuel` bounds the
number of steps. -/
def tokens : Nat → Lexer → Array Token → Array Token × Option Fault
  | 0, _, read => (read, none)
  | fuel + 1, l, read =>
    let fetchMore (l : Lexer) :=
      match l.fetch with
      | .ok l => tokens fuel l read
      | .error f => (read, some f)
    match l.queue with
    | [] => fetchMore l
    | t :: rest =>
      match l.dropStaleKeys with
      | .error f => (read, some f)
      | .ok l =>
        if l.awaitsKey then fetchMore l
        else if t.kind = .streamEnd then (read.push t, none)
        else tokens fuel { l with queue := rest, passed := l.passed + 1 } (read.push t)

end Lexer

/-- The tokens of a text up to its end or its first fault.  A step passes a character or a token, and
there are at most four tokens for a character. -/
def Token.ofText (text : String) : List Token × Option Fault :=
  let c := Cursor.ofString text
  let (ts, fault) := Lexer.tokens (8 * (c.rest.length + 2)) { cursor := c } #[]
  (ts.toList, fault)

end FileSearch.Yaml
