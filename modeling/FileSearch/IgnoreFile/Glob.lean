import FileSearch.Regex.Program

/-!
# Globs of ignore files

A glob is matched with paths byte by byte.  `?` stands for a byte that is no slash and `*` for any
number of them; `**` between slashes, or at an end, stands for any number of names.  There are
classes in brackets, alternatives in braces, and a backslash takes the meaning from the next
character.

`Glob.read` reads a glob and `Token.expr` gives the expression for the paths it matches.
-/

namespace FileSearch.IgnoreFile

open Unicode (Interval IntervalSet Alphabet)

namespace Glob

/-- Why a text is no glob. -/
inductive ReadError where
  | invalidRange (lo hi : Char)
  | unopenedAlternates
  | unclosedAlternates
  | danglingEscape
  deriving DecidableEq, Repr

/-- The wording of a read error. -/
def ReadError.message : ReadError → String
  | .invalidRange lo hi => "invalid range; " ++ lo.toString ++ " > " ++ hi.toString
  | .unopenedAlternates =>
    "unopened alternate group; missing '\x7b' (maybe escape '\x7d' with '[\x7d]'?)"
  | .unclosedAlternates =>
    "unclosed alternate group; missing '\x7d' (maybe escape '\x7b' with '[\x7b]'?)"
  | .danglingEscape => "dangling '\\'"

/-- A part of a glob. -/
inductive Token where
  | literal (c : Char)
  /-- A byte of a name. -/
  | any
  /-- Any number of bytes of a name. -/
  | anyName
  /-- Any number of names at the front. -/
  | leadingPath
  /-- At least a slash at the end. -/
  | trailingPath
  /-- Any number of names between two slashes. -/
  | innerPath
  /-- A byte that is, or is not, in one of some ranges. -/
  | oneOf (negated : Bool) (ranges : List (Char × Char))
  /-- One of several globs. -/
  | alternates (branches : List (List Token))
  deriving Inhabited

namespace Token

/-- The bytes of a character. -/
def bytesOf (c : Char) : List Nat := (Utf8.encode c).map UInt8.toNat

/-- The bytes that a range of characters stands for: those of its ends, and what is between the
last byte of the first and the first byte of the last. -/
def rangeBytes (r : Char × Char) : List Interval :=
  let single (b : Nat) : Interval := ⟨b, b⟩
  if r.1 = r.2 then (bytesOf r.1).map single
  else
    let lo := bytesOf r.1
    let hi := bytesOf r.2
    (lo.dropLast.map single) ++ [⟨lo.getLast?.getD 0, hi.head?.getD 0⟩] ++ hi.tail.map single

/-- All bytes but the slash. -/
def notSlash : IntervalSet := ⟨[⟨0, 0x2E⟩, ⟨0x30, 0xFF⟩]⟩

/-- All bytes. -/
def everyByte : IntervalSet := ⟨[⟨0, 0xFF⟩]⟩

/-- Any number of members of a set of bytes. -/
def many (s : IntervalSet) : Regex.Expr := .rep 0 none true (.member (.bytes s))

/-- A slash. -/
def slash : Regex.Expr := .lit [0x2F]

/-- Anything that ends with a slash. -/
def upToSlash : Regex.Expr := .seq [many everyByte, slash]

mutual

/-- The expression of a token. -/
def expr : Token → Regex.Expr
  | .literal c => .lit (Utf8.encode c)
  | .any => .member (.bytes notSlash)
  | .anyName => many notSlash
  | .leadingPath => .alt [.rep 0 (some 1) true slash, upToSlash]
  | .trailingPath => .seq [slash, many everyByte]
  | .innerPath => .alt [slash, .seq [slash, many everyByte, slash]]
  | .oneOf negated ranges =>
    let s := IntervalSet.ofIntervals (ranges.flatMap rangeBytes)
    .member (.bytes (if negated then s.compl .bytes else s))
  | .alternates branches =>
    match branchExprs branches with
    | [] => .empty
    | es => .alt es

/-- The expressions of alternatives; empty ones are left out. -/
def branchExprs : List (List Token) → List Regex.Expr
  | [] => []
  | ts :: rest =>
    match Regex.Expr.seq (exprs ts) with
    | .empty => branchExprs rest
    | e => e :: branchExprs rest

/-- The expressions of some tokens. -/
def exprs : List Token → List Regex.Expr
  | [] => []
  | t :: ts => expr t :: exprs ts

end

end Token

/-- The expression for all paths that tokens match. -/
def pathExpr (tokens : List Token) : Regex.Expr :=
  let body := match tokens with
    | [.leadingPath] => [Token.many Token.everyByte]
    | ts => Token.exprs ts
  .seq ([Regex.Expr.look .textStart] ++ body ++ [Regex.Expr.look .textEnd])

/-! ## Reading -/

/-- The state of a reader: the tokens of the innermost open group, in reverse order; the finished
branches of each open group and the tokens before it, from the inside out; and whether an opening
bracket has been found that is not closed. -/
structure Draft where
  tokens : List Token := []
  groups : List (List (List Token) × List Token) := []
  noClasses : Bool := false
  deriving Inhabited

namespace Draft

/-- Adds a token. -/
def push (d : Draft) (t : Token) : Draft := { d with tokens := t :: d.tokens }

/-- Opens a group. -/
def openGroup (d : Draft) : Draft := { d with tokens := [], groups := ([], d.tokens) :: d.groups }

/-- Ends a branch of the innermost group; outside of groups a comma stands for itself. -/
def comma (d : Draft) : Draft :=
  match d.groups with
  | [] => d.push (.literal ',')
  | (branches, before) :: rest =>
    { d with tokens := [], groups := (branches ++ [d.tokens.reverse], before) :: rest }

/-- Closes the innermost group. -/
def closeGroup (d : Draft) : Except ReadError Draft :=
  match d.groups with
  | [] => .error .unopenedAlternates
  | (branches, before) :: rest =>
    .ok { d with
      tokens := .alternates (branches ++ [d.tokens.reverse]) :: before
      groups := rest }

/-- Adds what two stars stand for that are no name of their own. -/
def pushStars (d : Draft) : Draft := (d.push .anyName).push .anyName

/-- Puts what two stars stand for in the place of the slash before them. -/
def pushPath (d : Draft) (atEnd : Bool) : Draft :=
  match d.tokens with
  | .leadingPath :: _ | .trailingPath :: _ => d
  | _ :: rest => { d with tokens := (if atEnd then .trailingPath else .innerPath) :: rest }
  | [] => d

end Draft

/-- What has been read of a class: its ranges in reverse order, and whether a range is open. -/
structure ClassDraft where
  ranges : List (Char × Char) := []
  inRange : Bool := false

/-- Adds a character to a class. -/
def ClassDraft.add (d : ClassDraft) (c : Char) : Except ReadError ClassDraft :=
  match d.inRange, d.ranges with
  | true, (lo, _) :: rest =>
    if c < lo then .error (.invalidRange lo c) else .ok ⟨(lo, c) :: rest, false⟩
  | _, ranges => .ok ⟨(c, c) :: ranges, false⟩

/-- Reads a class after its opening bracket and mark; there is none if it is not closed. -/
def readClass (first : Bool) (d : ClassDraft) : List Char →
    Except ReadError (Option (List (Char × Char) × List Char))
  | [] => .ok none
  | c :: rest =>
    if c = ']' ∧ !first then
      let ranges := if d.inRange then ('-', '-') :: d.ranges else d.ranges
      .ok (some (ranges.reverse, rest))
    else if c = '-' ∧ !first ∧ !d.inRange then readClass false { d with inRange := true } rest
    else
      match d.add c with
      | .error e => .error e
      | .ok d => readClass false d rest

/-- Reads on after the character `prev`; `fuel` bounds the number of steps. -/
def readFrom : Nat → Option Char → List Char → Draft → Except ReadError Draft
  | 0, _, _, d => .ok d
  | _ + 1, _, [], d => .ok d
  | fuel + 1, prev, c :: rest, d =>
    match c, rest with
    | '?', _ => readFrom fuel (some c) rest (d.push .any)
    | '*', '*' :: rest =>
      if d.tokens.isEmpty then
        match rest with
        | [] => .ok (d.push .leadingPath)
        | '/' :: rest => readFrom fuel (some '/') rest (d.push .leadingPath)
        | rest => readFrom fuel (some '*') rest d.pushStars
      else if prev ≠ some '/' then readFrom fuel (some '*') rest d.pushStars
      else
        match rest with
        | [] => .ok (d.pushPath true)
        | '/' :: rest => readFrom fuel (some '/') rest (d.pushPath false)
        | c :: _ =>
          if (c = ',' ∨ c = '\x7d') ∧ !d.groups.isEmpty then
            readFrom fuel (some '*') rest (d.pushPath true)
          else readFrom fuel (some '*') rest d.pushStars
    | '*', rest => readFrom fuel (some c) rest (d.push .anyName)
    | '[', _ =>
      if d.noClasses then readFrom fuel (some c) rest (d.push (.literal c))
      else
        let negated := rest.head? == some '!' || rest.head? == some '^'
        match readClass true {} (if negated then rest.tail else rest) with
        | .error e => .error e
        | .ok none => readFrom fuel (some c) rest ({ d with noClasses := true }.push (.literal c))
        | .ok (some (ranges, rest)) => readFrom fuel (some ']') rest (d.push (.oneOf negated ranges))
    | '\x7b', _ => readFrom fuel (some c) rest d.openGroup
    | '\x7d', _ =>
      match d.closeGroup with
      | .error e => .error e
      | .ok d => readFrom fuel (some c) rest d
    | ',', _ => readFrom fuel (some c) rest d.comma
    | '\\', [] => .error .danglingEscape
    | '\\', c :: rest => readFrom fuel (some c) rest (d.push (.literal c))
    | c, rest => readFrom fuel (some c) rest (d.push (.literal c))

/-- Reads a glob. -/
def read (glob : List Char) : Except ReadError (List Token) :=
  match readFrom (glob.length + 1) none glob {} with
  | .error e => .error e
  | .ok d => if d.groups.isEmpty then .ok d.tokens.reverse else .error .unclosedAlternates

end Glob

end FileSearch.IgnoreFile
