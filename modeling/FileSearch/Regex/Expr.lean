import FileSearch.Text.Utf8
import FileSearch.Unicode.IntervalSet

/-!
# Patterns in normal form

`Expr` is what a pattern means: flags are resolved, sets are intervals and literals are bytes.  The
constructors `Expr.lit`, `Expr.set`, `Expr.rep`, `Expr.seq` and `Expr.alt` keep expressions in
normal form: neighbouring literals are joined, sequences and alternatives are flat, alternatives of
single characters are one set, and a sequence that all alternatives begin with is written once, in
front of them.
-/

namespace FileSearch.Regex

open Unicode (Interval IntervalSet Alphabet)

/-- A set of which one member is to be matched: a character in UTF-8 or a single byte. -/
inductive MemberSet where
  | chars (s : IntervalSet)
  | bytes (s : IntervalSet)
  deriving DecidableEq, Repr, Inhabited

/-- Whether a set has ASCII members only. -/
def MemberSet.isAscii : MemberSet → Bool
  | .chars s | .bytes s => s.last?.all (· ≤ 0x7F)

/-- The intervals of a set. -/
def MemberSet.intervals : MemberSet → IntervalSet
  | .chars s | .bytes s => s

/-- The conditions on words that a place can be asked for. -/
inductive WordLook where
  | boundary
  | inside
  | start
  | stop
  | startHalf
  | stopHalf
  deriving DecidableEq, Repr

/-- Conditions on a place of the text. -/
inductive Look where
  | textStart
  | textEnd
  | lineStart
  | lineEnd
  | crlfStart
  | crlfEnd
  | word (kind : WordLook) (unicode : Bool)
  deriving DecidableEq, Repr

/-- A regular expression in normal form. -/
inductive Expr where
  | empty
  | literal (bytes : List UInt8)
  | set (s : MemberSet)
  | look (l : Look)
  | repetition (min : Nat) (max : Option Nat) (greedy : Bool) (sub : Expr)
  | capture (id : Nat) (sub : Expr)
  | concat (items : List Expr)
  | alternation (branches : List Expr)
  deriving Inhabited

mutual

/-- Whether two expressions are the same. -/
def Expr.same : Expr → Expr → Bool
  | .empty, .empty => true
  | .literal a, .literal b => a == b
  | .set a, .set b => a == b
  | .look a, .look b => a == b
  | .repetition m x g a, .repetition n y k b => m == n && x == y && g == k && a.same b
  | .capture i a, .capture j b => i == j && a.same b
  | .concat as, .concat bs => Expr.sameAll as bs
  | .alternation as, .alternation bs => Expr.sameAll as bs
  | _, _ => false

/-- Whether two lists hold the same expressions. -/
def Expr.sameAll : List Expr → List Expr → Bool
  | [], [] => true
  | a :: as, b :: bs => a.same b && Expr.sameAll as bs
  | _, _ => false

end

mutual

/-- The number of nodes of an expression. -/
def Expr.nodes : Expr → Nat
  | .repetition _ _ _ e | .capture _ e => e.nodes + 1
  | .concat es | .alternation es => Expr.nodesAll es + 1
  | _ => 1

/-- The number of nodes of a list of expressions. -/
def Expr.nodesAll : List Expr → Nat
  | [] => 0
  | e :: es => e.nodes + Expr.nodesAll es

end

/-! ## Lengths of matches -/

/-- The least number of bytes a member of a set takes, if there is one. -/
def MemberSet.minLength? : MemberSet → Option Nat
  | .chars s => s.first?.map Utf8.encodedLength
  | .bytes s => s.first?.map fun _ => 1

/-- The greatest number of bytes a member of a set takes, if there is one. -/
def MemberSet.maxLength? : MemberSet → Option Nat
  | .chars s => s.last?.map Utf8.encodedLength
  | .bytes s => s.first?.map fun _ => 1

mutual

/-- The least number of bytes an expression takes, unless a part of it matches nothing. -/
def Expr.minLength? : Expr → Option Nat
  | .empty | .look _ => some 0
  | .literal bs => some bs.length
  | .set s => s.minLength?
  | .repetition min _ _ e => e.minLength?.map (· * min)
  | .capture _ e => e.minLength?
  | .concat es => Expr.minLengthAll es
  | .alternation es => Expr.minLengthAny es

/-- The least number of bytes a sequence takes. -/
def Expr.minLengthAll : List Expr → Option Nat
  | [] => some 0
  | e :: es => return (← e.minLength?) + (← Expr.minLengthAll es)

/-- The least number of bytes one of several expressions takes. -/
def Expr.minLengthAny : List Expr → Option Nat
  | [] => none
  | [e] => e.minLength?
  | e :: es => return min (← e.minLength?) (← Expr.minLengthAny es)

end

mutual

/-- The greatest number of bytes an expression takes, if there is a bound. -/
def Expr.maxLength? : Expr → Option Nat
  | .empty | .look _ => some 0
  | .literal bs => some bs.length
  | .set s => s.maxLength?
  | .repetition _ max _ e => return (← max) * (← e.maxLength?)
  | .capture _ e => e.maxLength?
  | .concat es => Expr.maxLengthAll es
  | .alternation es => Expr.maxLengthAny es

/-- The greatest number of bytes a sequence takes. -/
def Expr.maxLengthAll : List Expr → Option Nat
  | [] => some 0
  | e :: es => return (← e.maxLength?) + (← Expr.maxLengthAll es)

/-- The greatest number of bytes one of several expressions takes. -/
def Expr.maxLengthAny : List Expr → Option Nat
  | [] => none
  | [e] => e.maxLength?
  | e :: es => return max (← e.maxLength?) (← Expr.maxLengthAny es)

end

/-! ## Constructors -/

namespace Expr

/-- Matches nothing. -/
def never : Expr := .set (.bytes .empty)

/-- Matches the given bytes. -/
def lit (bytes : List UInt8) : Expr := if bytes.isEmpty then .empty else .literal bytes

/-- Matches one member of a set; a set of one member is a literal. -/
def member (s : MemberSet) : Expr :=
  if s.intervals.isEmpty then never
  else
    match s, s.intervals.single? with
    | .chars _, some c => .literal (Utf8.encodeCode c)
    | .bytes _, some b => .literal [b.toUInt8]
    | s, none => .set s

/-- Repeats an expression.  What matches the empty text alone is repeated at most once. -/
def rep (min : Nat) (max : Option Nat) (greedy : Bool) (sub : Expr) : Expr :=
  let once := sub.maxLength? = some 0
  let min := if once then Nat.min min 1 else min
  let max := if once then some ((max.map (Nat.min 1)).getD 1) else max
  if min = 0 ∧ max = some 0 then .empty
  else if min = 1 ∧ max = some 1 then sub
  else .repetition min max greedy sub

/-- Joins neighbouring literals. -/
def joinLiterals : List Expr → List Expr
  | [] => []
  | e :: es =>
    match e, joinLiterals es with
    | .literal a, .literal b :: rest => .literal (a ++ b) :: rest
    | e, rest => e :: rest

/-- Matches the items one after another. -/
def seq (items : List Expr) : Expr :=
  let flat := items.flatMap fun e =>
    match e with
    | .concat es => es
    | .empty => []
    | e => [e]
  match joinLiterals flat with
  | [] => .empty
  | [e] => e
  | es => .concat es

/-- The code point a literal spells, if it spells exactly one. -/
def charOf? : Expr → Option Nat
  | .literal (b :: rest) =>
    match Utf8.frontOf b rest with
    | .char c n => if n = rest.length + 1 then some c else none
    | _ => none
  | _ => none

/-- The byte of a literal of one byte. -/
def byteOf? : Expr → Option Nat
  | .literal [b] => some b.toNat
  | _ => none

/-- The set of characters an expression stands for, if it is one of characters or of ASCII. -/
def charSet? : Expr → Option IntervalSet
  | .set (.chars s) => some s
  | .set (.bytes s) => if (MemberSet.bytes s).isAscii then some s else none
  | _ => none

/-- The set of bytes an expression stands for, if it is one of bytes or of ASCII. -/
def byteSet? : Expr → Option IntervalSet
  | .set (.bytes s) => some s
  | .set (.chars s) => if (MemberSet.chars s).isAscii then some s else none
  | _ => none

/-- The number of leading items that two sequences share. -/
def sharedLength : List Expr → List Expr → Nat
  | a :: as, b :: bs => if a.same b then sharedLength as bs + 1 else 0
  | _, _ => 0

/-- The items of a sequence. -/
def items? : Expr → Option (List Expr)
  | .concat es => some es
  | _ => none

/-- Matches one of several expressions, the first one that leads to a match; `depth` bounds how
often a shared beginning is taken out. -/
def altWithin : Nat → List Expr → Expr
  | depth, branches =>
    let flat := branches.flatMap fun e =>
      match e with
      | .alternation es => es
      | e => [e]
    match flat with
    | [] => never
    | [e] => e
    | first :: others =>
      let points (ns : List Nat) : IntervalSet := .ofIntervals (ns.map fun n => ⟨n, n⟩)
      match flat.mapM charOf?, flat.mapM byteOf?, flat.mapM charSet?, flat.mapM byteSet? with
      | some cs, _, _, _ => member (.chars (points cs))
      | _, some bs, _, _ => member (.bytes (points bs))
      | _, _, some ss, _ => member (.chars (.unions ss))
      | _, _, _, some ss => member (.bytes (.unions ss))
      | _, _, _, _ =>
        match depth, first.items?, others.mapM items? with
        | depth + 1, some head, some rest =>
          let shared := rest.foldl (fun n es => min n (sharedLength head es)) head.length
          if shared = 0 then .alternation flat
          else
            let tails := (head :: rest).map fun es => seq (es.drop shared)
            seq (head.take shared ++ [altWithin depth tails])
        | _, _, _ => .alternation flat

/-- Matches one of several expressions, the first one that leads to a match. -/
def alt (branches : List Expr) : Expr := altWithin (nodesAll branches) branches

end Expr

end FileSearch.Regex
