import FileSearch.Regex.Read.Bracket
import FileSearch.Regex.Read.Group
import FileSearch.Regex.Read.Repetition

/-!
# Reading a whole pattern

`Tree.read` turns a pattern into a `Tree` or says what is wrong with it.  Items are collected in a
`Sequence`; groups and alternations that are still open wait on a stack.
-/

namespace FileSearch.Regex

/-- The items of the current branch, last one first, and where the branch begins. -/
structure Sequence where
  start : Nat
  items : List Tree

/-- The branch as a tree, ending before the character number `stop`. -/
def Sequence.toTree (s : Sequence) (stop : Nat) : Tree := .ofItems ⟨s.start, stop⟩ s.items.reverse

/-- What is still open: a group with the branch it stands in, or an alternation with the branches
read so far, last one first. -/
inductive Pending where
  | group (outer : Sequence) (span : Stretch) (kind : GroupKind) (verbose : Bool)
  | alternation (start : Nat) (branches : List Tree)

/-- How far a pattern has been read. -/
structure Progress where
  stack : List Pending
  current : Sequence
  names : List (String × Stretch)

/-- The current branch, joined with the branches of its alternation if it has any, and the rest of
the stack. -/
def Progress.close (p : Progress) (stop : Nat) : Tree × List Pending :=
  match p.stack with
  | .alternation start branches :: rest =>
    (.alternation ⟨start, stop⟩ (p.current.toTree stop :: branches).reverse, rest)
  | stack => (p.current.toTree stop, stack)

namespace Reader

/-- Reads an opening parenthesis. -/
def openGroup (p : Progress) : Reader Progress := do
  match ← opening p.names with
  | (.directive span items, names) =>
    if let some v := items.setting .verbose then modify ({ · with verbose := v })
    return { p with names, current := { p.current with items := .flags span items :: p.current.items } }
  | (.group span kind, names) =>
    let outer := (← get).verbose
    modify ({ · with verbose := (kind.flags.setting .verbose).getD outer })
    return { names, stack := .group p.current span kind outer :: p.stack, current := ⟨← pos, []⟩ }

/-- Reads a closing parenthesis. -/
def closeGroup (p : Progress) : Reader Progress := do
  let stop ← pos
  match p.close stop with
  | (sub, .group outer span kind verbose :: stack) =>
    modify ({ · with verbose })
    bump
    let t := Tree.group ⟨span.start, ← pos⟩ kind sub
    return { p with stack, current := { outer with items := t :: outer.items } }
  | _ => fail (← here) .groupUnopened

/-- Reads a vertical bar. -/
def nextBranch (p : Progress) : Reader Progress := do
  let branch := p.current.toTree (← pos)
  let stack := match p.stack with
    | .alternation start branches :: rest => .alternation start (branch :: branches) :: rest
    | stack => .alternation p.current.start [branch] :: stack
  bump
  return { p with stack, current := ⟨← pos, []⟩ }

/-- Reads an item of one character or one escape. -/
def primitive (c : Char) : Reader Primitive := do
  if c = '\\' then escape
  else
    let span ← here
    bump
    return match c with
      | '.' => .dot span
      | '^' => .assertion span .lineStart
      | '$' => .assertion span .lineEnd
      | _ => .literal { char := c, byteEscape := false, span }

/-- Reads the next item, which begins with the given character. -/
def item (p : Progress) (c : Char) : Reader Progress := do
  let push (t : Tree) : Progress := { p with current := { p.current with items := t :: p.current.items } }
  match c with
  | '(' => openGroup p
  | ')' => closeGroup p
  | '|' => nextBranch p
  | '[' => return push (← bracket)
  | '?' | '*' | '+' | '\x7b' =>
    let items ← repetition p.current.items
    return { p with current := { p.current with items } }
  | _ => return push (← primitive c).toTree

/-- Reads items to the end of the pattern; `limit` bounds their number. -/
def items : Nat → Progress → Reader Progress
  | 0, p => return p
  | limit + 1, p => do
    skip
    match ← peek with
    | none => return p
    | some c => items limit (← item p c)

/-- Reads a pattern to its end. -/
def whole : Reader Tree := do
  let limit := (← get).rest.length + 1
  let p ← items limit ⟨[], ⟨0, []⟩, []⟩
  match p.close (← pos) with
  | (t, []) => return t
  | (_, .group _ span _ _ :: _) => fail span .groupUnclosed
  | (t, .alternation _ _ :: _) => return t

end Reader

/-! ## Depth -/

/-- The greatest depth to which sets, groups, repetitions, branches and sequences may be nested. -/
def nestLimit : Nat := 250

mutual

/-- The first node of a set, in reading order, that is nested too deeply when the set itself stands
inside `depth` nodes. -/
def SetTree.tooDeep : SetTree → Nat → Option Stretch
  | .bracket span _ set, depth =>
    if nestLimit < depth + 1 then some span else set.tooDeep (depth + 1)
  | .union span items, depth =>
    if nestLimit < depth + 1 then some span else SetTree.anyTooDeep items (depth + 1)
  | .op span _ lhs rhs, depth =>
    if nestLimit < depth + 1 then some span
    else (lhs.tooDeep (depth + 1)).or (rhs.tooDeep (depth + 1))
  | _, _ => none

/-- The first node in a list of sets that is nested too deeply. -/
def SetTree.anyTooDeep : List SetTree → Nat → Option Stretch
  | [], _ => none
  | t :: ts, depth => (t.tooDeep depth).or (SetTree.anyTooDeep ts depth)

end

mutual

/-- The first node of a pattern, in reading order, that is nested too deeply when the pattern itself
stands inside `depth` nodes. -/
def Tree.tooDeep : Tree → Nat → Option Stretch
  | .bracket span _ set, depth =>
    if nestLimit < depth + 1 then some span else set.tooDeep (depth + 1)
  | .repetition span _ _ sub, depth | .group span _ sub, depth =>
    if nestLimit < depth + 1 then some span else sub.tooDeep (depth + 1)
  | .alternation span ts, depth | .concat span ts, depth =>
    if nestLimit < depth + 1 then some span else Tree.anyTooDeep ts (depth + 1)
  | _, _ => none

/-- The first node in a list of patterns that is nested too deeply. -/
def Tree.anyTooDeep : List Tree → Nat → Option Stretch
  | [], _ => none
  | t :: ts, depth => (t.tooDeep depth).or (Tree.anyTooDeep ts depth)

end

/-- Reads a pattern. -/
def Tree.read (pattern : String) : Except Fault Tree := do
  let (t, _) ← Reader.whole.run ⟨pattern.toList, 0, false⟩
  match t.tooDeep 0 with
  | some span => throw { cause := .nestLimitExceeded nestLimit, span }
  | none => return t

end FileSearch.Regex
