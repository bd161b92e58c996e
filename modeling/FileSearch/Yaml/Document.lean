import FileSearch.Yaml.Node

/-!
# YAML documents

`documents` reads all documents of a text as nodes.  The reader goes through the tokens of the text; a
fault of the text counts when the reader comes to it, so that a fault of the order of the tokens in
front of it comes first.

Nodes that have an anchor are kept under its name from their beginning on, without a value until they
end.
-/

namespace FileSearch.Yaml

/-- A node with an anchor. -/
structure Anchored where
  name : String
  /-- The node, once it has been read to its end. -/
  node : Option Node := none

/-- How far the tokens of a text have been read. -/
structure Reading where
  tokens : List Token
  /-- The fault behind the tokens. -/
  fault : Option Fault
  /-- The anchored nodes of the document. -/
  anchors : Array Anchored := #[]

/-- What reads tokens or fails. -/
abbrev Reader := StateT Reading (Except Fault)

namespace Reader

/-- The next token. -/
def peek : Reader Token := do
  let r ← get
  match r.tokens, r.fault with
  | t :: _, _ => return t
  | [], some f => throw f
  | [], none => throw ⟨.streamEnd, ⟨0, 1, 0⟩⟩

/-- The kind of the next token. -/
def peekKind : Reader TokenKind := return (← peek).kind

/-- Passes a token. -/
def skip : Reader Unit := modify fun r => { r with tokens := r.tokens.tail }

/-- Fails at the next token. -/
def fail {α : Type} (cause : Cause) : Reader α := do throw ⟨cause, (← peek).mark⟩

/-- Passes the next token if it is of the given kind, and tells whether it was. -/
def accept (kind : TokenKind) : Reader Bool := do
  if (← peekKind) = kind then
    skip
    return true
  return false

/-- An upper bound for the number of steps to the end of the tokens. -/
def bound : Reader Nat := return 3 * (← get).tokens.length + 3

/-! ## Properties -/

/-- Notes that a node with an anchor begins, and gives its number. -/
def beginAnchored (name : String) : Reader Nat := do
  let r ← get
  set { r with anchors := r.anchors.push { name } }
  return r.anchors.size

/-- Notes that a node with an anchor has ended. -/
def endAnchored (number : Nat) (n : Node) : Reader Unit := modify fun r =>
  { r with anchors := r.anchors.modify number fun a => { a with node := some n } }

/-- The node that a name refers to, which is the latest one with this name. -/
def anchored (name : String) : Reader (Option Node) := do
  let r ← get
  return (r.anchors.toList.reverse.find? (·.name = name)).map fun a => a.node.getD .invalid

/-- Reads an anchor, if one comes next. -/
def anchor? : Reader (Option Nat) := do
  match ← peekKind with
  | .anchor name =>
    skip
    return some (← beginAnchored name)
  | _ => return none

/-- Reads a tag, if one comes next. -/
def tag? : Reader (Option Tag) := do
  match ← peekKind with
  | .tag t =>
    skip
    return some t
  | _ => return none

/-- Reads an anchor and a tag in either order. -/
def properties : Reader (Option Nat × Option Tag) := do
  match ← anchor? with
  | some a => return (some a, ← tag?)
  | none =>
    match ← tag? with
    | some t => return (← anchor?, some t)
    | none => return (none, none)

/-! ## Collections -/

/-- How nodes are read: whether block collections may come, and whether a sequence may begin without a
sign of its own. -/
abbrev NodeReader := Bool → Bool → Reader Node

section

variable (node : NodeReader)

/-- Reads a node, or null if a token of one of the given kinds comes next. -/
def nodeUnless (kinds : List TokenKind) (block indentless : Bool) : Reader Node := do
  if kinds.contains (← peekKind) then return .null else node block indentless

/-- The kinds of tokens that end an entry of a block collection. -/
def blockEnds : List TokenKind := [.key, .value, .blockEnd]

/-- Reads the entries of a block sequence; `fuel` bounds their number. -/
def blockSequence : Nat → List Node → Reader Node
  | 0, read => return .list read.reverse
  | fuel + 1, read => do
    match ← peekKind with
    | .blockEnd =>
      skip
      return .list read.reverse
    | .blockEntry =>
      skip
      blockSequence fuel ((← nodeUnless node [.blockEntry, .blockEnd] true false) :: read)
    | _ => fail .sequenceEntry

/-- Reads the entries of a sequence that is not indented; `fuel` bounds their number. -/
def indentlessSequence : Nat → List Node → Reader Node
  | 0, read => return .list read.reverse
  | fuel + 1, read => do
    if ← accept .blockEntry then
      indentlessSequence fuel ((← nodeUnless node (.blockEntry :: blockEnds) true false) :: read)
    else return .list read.reverse

/-- Reads a value with its sign; without the sign there is none. -/
def valueWith (kinds : List TokenKind) (block : Bool) : Reader Node := do
  if ← accept .value then nodeUnless node kinds block block else return .null

/-- Reads the members of a block mapping; `fuel` bounds their number. -/
def blockMapping : Nat → Members → Reader Node
  | 0, m => return m.node
  | fuel + 1, m => do
    match ← peekKind with
    | .blockEnd =>
      skip
      return m.node
    | .key =>
      skip
      let m := m.add (← nodeUnless node blockEnds true true)
      blockMapping fuel (m.add (← valueWith node blockEnds true))
    | .value => blockMapping fuel ((m.add .null).add (← valueWith node blockEnds true))
    | _ => fail .mappingKey

/-- Whether another entry of a flow collection comes before its end, which is passed. -/
def moreInFlow (stop : TokenKind) (missing : Cause) (first : Bool) : Reader Bool := do
  if ← accept stop then return false
  if first then return true
  unless ← accept .flowEntry do fail missing
  return !(← accept stop)

/-- Reads a key inside a flow sequence.  A token that cannot begin a key stands for null. -/
def flowSequenceKey : Reader Node := do
  if [.value, .flowEntry, .flowSequenceEnd].contains (← peekKind) then
    skip
    return .null
  node false false

/-- Reads a mapping of one member inside a flow sequence, after the sign of its key. -/
def singleMember : Reader Node := do
  let m := Members.add {} (← flowSequenceKey node)
  return (m.add (← valueWith node [.flowEntry, .flowSequenceEnd] false)).node

/-- Reads the entries of a flow sequence; `fuel` bounds their number. -/
def flowSequence : Nat → List Node → Reader Node
  | 0, read => return .list read.reverse
  | fuel + 1, read => do
    unless ← moreInFlow .flowSequenceEnd .flowSequenceEnd read.isEmpty do
      return .list read.reverse
    if ← accept .key then flowSequence fuel ((← singleMember node) :: read)
    else flowSequence fuel ((← node false false) :: read)

/-- Reads the members of a flow mapping, the first one if `first`; `fuel` bounds their number. -/
def flowMapping : Nat → Bool → Members → Reader Node
  | 0, _, m => return m.node
  | fuel + 1, first, m => do
    unless ← moreInFlow .flowMappingEnd .flowMappingEnd first do return m.node
    let stops : List TokenKind := [.flowEntry, .flowMappingEnd]
    if ← accept .key then
      let m := m.add (← nodeUnless node (.value :: stops) false false)
      flowMapping fuel false (m.add (← valueWith node stops false))
    else if (← peekKind) = .value then
      flowMapping fuel false ((m.add .null).add (← valueWith node stops false))
    else flowMapping fuel false ((m.add (← node false false)).add .null)

/-- Reads what follows the properties of a node, of which there are some if `hasProperties`. -/
def content (tag : Option Tag) (hasProperties block indentless : Bool) : Reader Node := do
  let fuel ← bound
  match ← peekKind with
  | .scalar style text =>
    skip
    return .ofScalar style tag text
  | .flowSequenceStart =>
    skip
    flowSequence node fuel []
  | .flowMappingStart =>
    skip
    flowMapping node fuel true {}
  | kind =>
    if kind = .blockEntry ∧ indentless then indentlessSequence node fuel []
    else if kind = .blockSequenceStart ∧ block then
      skip
      blockSequence node fuel []
    else if kind = .blockMappingStart ∧ block then
      skip
      blockMapping node fuel {}
    else if hasProperties then return .ofScalar .plain tag ""
    else fail .node

/-- Reads a node whose inner nodes are read by `node`. -/
def nodeWith : NodeReader := fun block indentless => do
  match ← peekKind with
  | .alias name =>
    match ← anchored name with
    | some n =>
      skip
      return n
    | none => fail .unknownAnchor
  | _ =>
    let (anchor, tag) ← properties
    let n ← content node tag (anchor.isSome || tag.isSome) block indentless
    if let some number := anchor then endAnchored number n
    return n

end

/-- Reads a node; `fuel` bounds the depth of its inner nodes. -/
def node : Nat → NodeReader
  | 0 => fun _ _ => fail .nestingLimit
  | fuel + 1 => nodeWith (node fuel)

/-! ## Documents -/

/-- Passes the ends of documents; `fuel` bounds their number. -/
def skipDocumentEnds : Nat → Reader Unit
  | 0 => return
  | fuel + 1 => do if ← accept .documentEnd then skipDocumentEnds fuel

/-- Passes directives and tells whether there were some; `fuel` bounds their number. -/
def skipDirectives : Nat → Bool → Reader Bool
  | 0, found => return found
  | fuel + 1, found => do
    if ← accept .directive then skipDirectives fuel true else return found

/-- The kinds of tokens that leave a document empty. -/
def documentStops : List TokenKind := [.directive, .documentStart, .documentEnd, .streamEnd]

/-- Reads a document.  Only the first one needs no sign of its start. -/
def document (first : Bool) : Reader Node := do
  let fuel ← bound
  let directives ← skipDirectives fuel false
  modify fun r => { r with anchors := #[] }
  let n ←
    if ← accept .documentStart then nodeUnless (node fuel) documentStops true false
    else if first && !directives then node fuel true false
    else fail .documentStart
  let _ ← accept .documentEnd
  return n

/-- Reads the remaining documents; `fuel` bounds their number. -/
def documents : Nat → Bool → List Node → Reader (List Node)
  | 0, _, read => return read.reverse
  | fuel + 1, first, read => do
    unless first do skipDocumentEnds (← bound)
    if (← peekKind) = .streamEnd then return read.reverse
    documents fuel false ((← document first) :: read)

end Reader

/-- The documents of a text. -/
def documents (text : String) : Except Fault (List Node) :=
  let (tokens, fault) := Token.ofText text
  let reading : Reading := { tokens, fault }
  (((Reader.documents (tokens.length + 1) true []).run reading).map (·.1))

end FileSearch.Yaml
