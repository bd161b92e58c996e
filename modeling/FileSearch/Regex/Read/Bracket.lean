import FileSearch.Regex.Read.Escape

/-!
# Sets in brackets

`readBracket` reads a set with its nested sets and set operations.  The sets and operations that
are still open are kept on a stack; the operations of one set associate to the left and bind
weaker than juxtaposition.
-/

namespace FileSearch.Regex

/-- The items of a set read so far, last one first, and where they begin and end. -/
structure Items where
  span : Stretch
  items : List SetTree

/-- No items, to be read from a place on. -/
def Items.from (i : Nat) : Items := ⟨.point i, []⟩

/-- Adds an item. -/
def Items.push (xs : Items) (t : SetTree) : Items :=
  ⟨⟨if xs.items.isEmpty then t.span.start else xs.span.start, t.span.stop⟩, t :: xs.items⟩

/-- The items as one set. -/
def Items.toSet (xs : Items) : SetTree := .ofItems xs.span xs.items.reverse

/-- What is still open in brackets: a set with the items that stand before it, or an operation
with its left side. -/
inductive OpenSet where
  | bracket (before : Items) (span : Stretch) (negated : Bool)
  | op (kind : SetOp) (lhs : SetTree)

/-- The named ASCII classes. -/
def posixClass? : String → Option PosixClass
  | "alnum" => some .alnum
  | "alpha" => some .alpha
  | "ascii" => some .ascii
  | "blank" => some .blank
  | "cntrl" => some .cntrl
  | "digit" => some .digit
  | "graph" => some .graph
  | "lower" => some .lower
  | "print" => some .print
  | "punct" => some .punct
  | "space" => some .space
  | "upper" => some .upper
  | "word" => some .word
  | "xdigit" => some .xdigit
  | _ => none

/-- Completes the operation on top of the stack, if there is one, with its right side. -/
def closeOp (stack : List OpenSet) (rhs : SetTree) : List OpenSet × SetTree :=
  match stack with
  | .op kind lhs :: rest => (rest, .op ⟨lhs.span.start, rhs.span.stop⟩ kind lhs rhs)
  | _ => (stack, rhs)

/-- The stretch of the innermost open bracket. -/
def innermost : List OpenSet → Stretch
  | [] => .point 0
  | .bracket _ span _ :: _ => span
  | .op _ _ :: rest => innermost rest

namespace Reader

/-- Reads a named ASCII class such as `[:alpha:]` if one comes next. -/
def posix? : Reader (Option SetTree) := do
  let c ← get
  let start := c.pos
  let body (cs : List Char) (negated : Bool) (used : Nat) : Option (SetTree × Nat) := do
    let name := cs.takeWhile (· != ':')
    guard ([':', ']'].isPrefixOf (cs.drop name.length))
    let kind ← posixClass? (String.ofList name)
    let length := used + name.length + 2
    some (.posix ⟨start, start + length⟩ negated kind, length)
  let read := match c.rest with
    | '[' :: ':' :: '^' :: rest => body rest true 3
    | '[' :: ':' :: rest => body rest false 2
    | _ => none
  match read with
  | none => return none
  | some (t, length) =>
    set { c with rest := c.rest.drop length, pos := start + length }
    return some t

/-- Reads the hyphens that open a set, all of which are literal. -/
def openingHyphens (start : Nat) : Nat → Items → Reader Items
  | 0, xs => return xs
  | limit + 1, xs => do
    if (← peek) = some '-' then
      let xs := xs.push (.literal { char := '-', byteEscape := false, span := ← here })
      next
      if ← atEnd then fail (.point start) .classUnclosed
      openingHyphens start limit xs
    else return xs

/-- Reads the opening of a set: the bracket, the sign of negation, and the hyphens and the closing
bracket that are literal in first place. -/
def bracketOpening : Reader (Stretch × Bool × Items) := do
  let start ← pos
  next
  if ← atEnd then fail (← since start) .classUnclosed
  let negated := (← peek) = some '^'
  if negated then
    next
    if ← atEnd then fail (← since start) .classUnclosed
  let mut xs ← openingHyphens start ((← get).rest.length) (.from (← pos))
  if xs.items.isEmpty && (← peek) = some ']' then
    xs := xs.push (.literal { char := ']', byteEscape := false, span := ← here })
    next
    if ← atEnd then fail (← since start) .classUnclosed
  return (← since start, negated, xs)

/-- Reads one character or escape of a set. -/
def setPrimitive : Reader Primitive := do
  match ← peek with
  | some '\\' => escape
  | some c =>
    let span ← here
    bump
    return .literal { char := c, byteEscape := false, span }
  | none => fail (← point) .classUnclosed

/-- A primitive as an item of a set. -/
def setItem : Primitive → Reader SetTree
  | .literal l => return .literal l
  | .shorthand s n k => return .shorthand s n k
  | .property s n q => return .property s n q
  | p => fail p.span .classEscapeInvalid

/-- A primitive as an end of a range. -/
def rangeEnd : Primitive → Reader Literal
  | .literal l => return l
  | p => fail p.span .classRangeLiteral

/-- Reads an item of a set that is no set itself: a character, a class or a range. -/
def setRange (stack : List OpenSet) : Reader SetTree := do
  let first ← setPrimitive
  skip
  if ← atEnd then fail (innermost stack) .classUnclosed
  let second := (← get).second
  if (← peek) != some '-' || second = some ']' || second = some '-' then setItem first
  else
    next
    if ← atEnd then fail (innermost stack) .classUnclosed
    let last ← setPrimitive
    let span : Stretch := ⟨first.span.start, last.span.stop⟩
    let lo ← rangeEnd first
    let hi ← rangeEnd last
    unless lo.char ≤ hi.char do fail span .classRangeInvalid
    return .range span lo hi

/-- The operation whose sign begins a text. -/
def setOp? : List Char → Option SetOp
  | '&' :: '&' :: _ => some .inter
  | '-' :: '-' :: _ => some .diff
  | '~' :: '~' :: _ => some .symmDiff
  | _ => none

/-- Reads on in the innermost set, with the open sets and its items so far, up to the bracket that
closes the outermost one; `limit` bounds the number of items. -/
def bracketItems : Nat → List OpenSet → Items → Reader Tree
  | 0, stack, _ => fail (innermost stack) .classUnclosed
  | limit + 1, stack, xs => do
    skip
    let rest := (← get).rest
    match rest with
    | [] => fail (innermost stack) .classUnclosed
    | '[' :: _ =>
      let posix ← if stack.isEmpty then pure none else posix?
      match posix with
      | some t => bracketItems limit stack (xs.push t)
      | none =>
        let (span, negated, inner) ← bracketOpening
        bracketItems limit (.bracket xs span negated :: stack) inner
    | ']' :: _ =>
      let (stack, set) := closeOp stack xs.toSet
      match stack with
      | .bracket before span negated :: outer =>
        bump
        let span : Stretch := ⟨span.start, ← pos⟩
        if outer.isEmpty then return .bracket span negated set
        bracketItems limit outer (before.push (.bracket span negated set))
      | _ => fail (innermost stack) .classUnclosed
    | _ :: _ =>
      match setOp? rest with
      | some kind =>
        bump
        bump
        let (stack, lhs) := closeOp stack xs.toSet
        bracketItems limit (.op kind lhs :: stack) (.from (← pos))
      | none =>
        let item ← setRange stack
        bracketItems limit stack (xs.push item)

/-- Reads a set; its opening bracket comes next. -/
def bracket : Reader Tree := do
  let limit := (← get).rest.length + 1
  bracketItems limit [] (.from (← pos))

end Reader

end FileSearch.Regex
