/-!
# Patterns as written

`Tree` is a regular expression as its author wrote it: every node carries the stretch of the
pattern it was read from, groups keep their kind, and flags are directives that stand among the
other items.  What a tree matches is said by
`FileSearch.Regex.Meaning`.
-/

namespace FileSearch.Regex

/-- A stretch of a pattern, from the character number `start` up to but excluding `stop`. -/
structure Stretch where
  start : Nat
  stop : Nat
  deriving DecidableEq, Repr, Inhabited

/-- The stretch of one character. -/
def Stretch.char (i : Nat) : Stretch := ⟨i, i + 1⟩

/-- The place before a character, as an empty stretch. -/
def Stretch.point (i : Nat) : Stretch := ⟨i, i⟩

/-- The switches that a pattern can turn on and off. -/
inductive Flag where
  | caseInsensitive
  | multiLine
  | dotMatchesNewline
  | swapGreed
  | unicode
  | crlf
  | verbose
  deriving DecidableEq, Repr

/-- One character of a flag group: a flag, or the sign after which flags are turned off. -/
inductive FlagItem where
  | flag (f : Flag)
  | negation
  deriving DecidableEq, Repr

/-- A flag group: its items with their places. -/
abbrev FlagGroup := List (FlagItem × Stretch)

/-- What a flag group does to a flag: turn it on, turn it off, or nothing. -/
def FlagGroup.setting (items : FlagGroup) (f : Flag) : Option Bool := go items false
where
  /-- Reads the items, knowing whether the negation has been passed. -/
  go : FlagGroup → Bool → Option Bool
    | [], _ => none
    | (.negation, _) :: rest, _ => go rest true
    | (.flag g, _) :: rest, negated => if g = f then some (!negated) else go rest negated

/-- Conditions on a place of the text as a pattern can spell them. -/
inductive Assertion where
  | lineStart
  | lineEnd
  | textStart
  | textEnd
  | wordBoundary
  | notWordBoundary
  | wordStart
  | wordEnd
  | wordStartHalf
  | wordEndHalf
  deriving DecidableEq, Repr

/-- The three classes with a one-letter escape. -/
inductive Shorthand where
  | digit
  | space
  | word
  deriving DecidableEq, Repr

/-- The named ASCII classes that can stand in brackets. -/
inductive PosixClass where
  | alnum
  | alpha
  | ascii
  | blank
  | cntrl
  | digit
  | graph
  | lower
  | print
  | punct
  | space
  | upper
  | word
  | xdigit
  deriving DecidableEq, Repr

/-- The name of a Unicode class: one name, or a property with a value. -/
inductive PropertyQuery where
  | name (n : String)
  | value (property value : String)
  deriving DecidableEq, Repr

/-- A literal character; `byteEscape` marks one written as `\x` with two digits, which stands for a
byte where the pattern is about bytes. -/
structure Literal where
  char : Char
  byteEscape : Bool
  span : Stretch
  deriving DecidableEq, Repr

/-- The operations on sets in brackets. -/
inductive SetOp where
  | inter
  | diff
  | symmDiff
  deriving DecidableEq, Repr

/-- What stands in brackets. -/
inductive SetTree where
  | empty (span : Stretch)
  | literal (lit : Literal)
  | range (span : Stretch) (first last : Literal)
  | posix (span : Stretch) (negated : Bool) (kind : PosixClass)
  | property (span : Stretch) (negated : Bool) (query : PropertyQuery)
  | shorthand (span : Stretch) (negated : Bool) (kind : Shorthand)
  | bracket (span : Stretch) (negated : Bool) (set : SetTree)
  | union (span : Stretch) (items : List SetTree)
  | op (span : Stretch) (kind : SetOp) (lhs rhs : SetTree)
  deriving Inhabited

/-- Where a set in brackets was written. -/
def SetTree.span : SetTree → Stretch
  | .empty s | .range s _ _ | .posix s _ _ | .property s _ _ | .shorthand s _ _ | .bracket s _ _
  | .union s _ | .op s _ _ _ => s
  | .literal l => l.span

/-- The three kinds of groups. -/
inductive GroupKind where
  | numbered
  | named (name : String)
  | plain (flags : FlagGroup)

/-- The flags that a group sets for its own inside. -/
def GroupKind.flags : GroupKind → FlagGroup
  | .plain flags => flags
  | _ => []

/-- How often a repetition may run. -/
structure Count where
  min : Nat
  max : Option Nat
  deriving DecidableEq, Repr

/-- Whether the least count is within the greatest. -/
def Count.valid (c : Count) : Bool :=
  match c.max with
  | some m => c.min ≤ m
  | none => true

/-- A regular expression as written. -/
inductive Tree where
  | empty (span : Stretch)
  | flags (span : Stretch) (items : FlagGroup)
  | literal (lit : Literal)
  | dot (span : Stretch)
  | assertion (span : Stretch) (kind : Assertion)
  | property (span : Stretch) (negated : Bool) (query : PropertyQuery)
  | shorthand (span : Stretch) (negated : Bool) (kind : Shorthand)
  | bracket (span : Stretch) (negated : Bool) (set : SetTree)
  | repetition (span : Stretch) (count : Count) (greedy : Bool) (sub : Tree)
  | group (span : Stretch) (kind : GroupKind) (sub : Tree)
  | alternation (span : Stretch) (branches : List Tree)
  | concat (span : Stretch) (items : List Tree)
  deriving Inhabited

/-- Where a tree was written. -/
def Tree.span : Tree → Stretch
  | .empty s | .flags s _ | .dot s | .assertion s _ | .property s _ _ | .shorthand s _ _
  | .bracket s _ _ | .repetition s _ _ _ | .group s _ _ | .alternation s _ | .concat s _ => s
  | .literal l => l.span

/-- Items read one after another as one tree. -/
def Tree.ofItems (span : Stretch) : List Tree → Tree
  | [] => .empty span
  | [t] => t
  | ts => .concat span ts

/-- Items of a set read one after another as one set. -/
def SetTree.ofItems (span : Stretch) : List SetTree → SetTree
  | [] => .empty span
  | [t] => t
  | ts => .union span ts

end FileSearch.Regex
