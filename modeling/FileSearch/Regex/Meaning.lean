import FileSearch.Regex.Expr
import FileSearch.Regex.Error
import FileSearch.Unicode.CaseOrbit
import FileSearch.Unicode.Property

/-!
# What a pattern means

`Tree.meaning` resolves a tree to an `Expr` under given `Modes`.  A directive changes the modes for
everything that follows it in its group, further branches included.  Refused are Unicode classes
that do not exist and, where a pattern is about bytes, whatever is about characters.
-/

namespace FileSearch.Regex

open Unicode (Interval IntervalSet Alphabet)

/-- The flags in force. -/
structure Modes where
  caseInsensitive : Bool := false
  multiLine : Bool := false
  dotMatchesNewline : Bool := false
  swapGreed : Bool := false
  unicode : Bool := true
  crlf : Bool := false

/-- The flags in force after a flag group. -/
def Modes.apply (m : Modes) (items : FlagGroup) : Modes where
  caseInsensitive := (items.setting .caseInsensitive).getD m.caseInsensitive
  multiLine := (items.setting .multiLine).getD m.multiLine
  dotMatchesNewline := (items.setting .dotMatchesNewline).getD m.dotMatchesNewline
  swapGreed := (items.setting .swapGreed).getD m.swapGreed
  unicode := (items.setting .unicode).getD m.unicode
  crlf := (items.setting .crlf).getD m.crlf

/-- The alphabet of sets under the modes. -/
def Modes.alphabet (m : Modes) : Alphabet := if m.unicode then .scalars else .bytes

/-- A set of the kind that the modes ask for. -/
def Modes.memberSet (m : Modes) (s : IntervalSet) : MemberSet :=
  if m.unicode then .chars s else .bytes s

/-- Closes a set under case folding, if the modes ask for it. -/
def Modes.fold (m : Modes) (s : IntervalSet) : IntervalSet :=
  if m.caseInsensitive then
    if m.unicode then s.foldCase else s.foldAsciiCase
  else s

/-- Folds a set and then takes its complement, if `negated`. -/
def Modes.finish (m : Modes) (negated : Bool) (s : IntervalSet) : IntervalSet :=
  if negated then (m.fold s).compl m.alphabet else m.fold s

/-! ## Classes -/

/-- The members of a named ASCII class. -/
def PosixClass.members : PosixClass → IntervalSet
  | .alnum => .ofText "30-39 41-5A 61-7A"
  | .alpha => .ofText "41-5A 61-7A"
  | .ascii => .ofText "0-7F"
  | .blank => .ofText "9 20"
  | .cntrl => .ofText "0-1F 7F"
  | .digit => .ofText "30-39"
  | .graph => .ofText "21-7E"
  | .lower => .ofText "61-7A"
  | .print => .ofText "20-7E"
  | .punct => .ofText "21-2F 3A-40 5B-60 7B-7E"
  | .space => .ofText "9-D 20"
  | .upper => .ofText "41-5A"
  | .word => .ofText "30-39 41-5A 5F 61-7A"
  | .xdigit => .ofText "30-39 41-46 61-66"

/-- The members of a class with a one-letter escape. -/
def Shorthand.members (unicode : Bool) : Shorthand → IntervalSet
  | .digit => if unicode then Unicode.digits else PosixClass.digit.members
  | .space => if unicode then Unicode.blanks else PosixClass.space.members
  | .word => if unicode then Unicode.wordChars else PosixClass.word.members

/-- The members of a class with a one-letter escape, or of its complement. -/
def Modes.shorthand (m : Modes) (negated : Bool) (kind : Shorthand) : IntervalSet :=
  let s := kind.members m.unicode
  if negated then s.compl m.alphabet else s

/-- The members of a Unicode class. -/
def Modes.property (m : Modes) (span : Stretch) (negated : Bool) (query : PropertyQuery) :
    Except Fault IntervalSet :=
  if !m.unicode then .error { cause := .unicodeNotAllowed, span }
  else
    let found := match query with
      | .name n => Unicode.lookup n
      | .value p v => Unicode.lookupValue p v
    match found with
    | .ok s => .ok (m.finish negated s)
    | .error .unknownProperty => .error { cause := .propertyNotFound, span }
    | .error .unknownValue => .error { cause := .propertyValueNotFound, span }

/-- What a literal stands for: a code point or, where the pattern is about bytes, possibly a byte
beyond ASCII. -/
def Modes.byteOf? (m : Modes) (l : Literal) : Option UInt8 :=
  if m.unicode then none
  else if l.byteEscape && 0x7F < l.char.toNat then some l.char.toNat.toUInt8
  else none

/-- The number a literal contributes to a set. -/
def Modes.setMember (m : Modes) (l : Literal) : Except Fault Nat :=
  if m.unicode then .ok l.char.toNat
  else
    match m.byteOf? l with
    | some b => .ok b.toNat
    | none =>
      if l.char.toNat ≤ 0x7F then .ok l.char.toNat
      else .error { cause := .unicodeNotAllowed, span := l.span }

mutual

/-- The members of a set in brackets. -/
def SetTree.members (m : Modes) : SetTree → Except Fault IntervalSet
  | .empty _ => .ok .empty
  | .literal l => return .singleton (← m.setMember l)
  | .range _ first last => return .ofIntervals [.between (← m.setMember first) (← m.setMember last)]
  | .posix _ negated kind => .ok (m.finish negated kind.members)
  | .property span negated query => m.property span negated query
  | .shorthand _ negated kind => .ok (m.shorthand negated kind)
  | .bracket _ negated set => return m.finish negated (← set.members m)
  | .union _ items => return .unions (← SetTree.membersAll m items)
  | .op _ kind lhs rhs => do
    let lhs := m.fold (← lhs.members m)
    let rhs := m.fold (← rhs.members m)
    return match kind with
      | .inter => lhs.inter rhs
      | .diff => lhs.diff m.alphabet rhs
      | .symmDiff => lhs.symmDiff m.alphabet rhs

/-- The members of each of several sets. -/
def SetTree.membersAll (m : Modes) : List SetTree → Except Fault (List IntervalSet)
  | [] => .ok []
  | t :: ts => return (← t.members m) :: (← SetTree.membersAll m ts)

end

/-! ## Expressions -/

/-- What a literal matches. -/
def Modes.literal (m : Modes) (l : Literal) : Expr :=
  match m.byteOf? l with
  | some b => .literal [b]
  | none =>
    let c := l.char.toNat
    let folds := m.caseInsensitive && (if m.unicode then Unicode.hasCaseVariant c else l.char.isAlpha)
    if folds then .member (m.memberSet (m.fold (.singleton c))) else .literal (Utf8.encodeCode c)

/-- What a dot matches. -/
def Modes.dot (m : Modes) : Expr :=
  let lineEnds : IntervalSet :=
    if m.dotMatchesNewline then .empty
    else if m.crlf then .ofText "A D"
    else .ofText "A"
  .member (m.memberSet (lineEnds.compl m.alphabet))

/-- The condition an assertion makes. -/
def Modes.look (m : Modes) : Assertion → Look
  | .lineStart => if m.multiLine then (if m.crlf then .crlfStart else .lineStart) else .textStart
  | .lineEnd => if m.multiLine then (if m.crlf then .crlfEnd else .lineEnd) else .textEnd
  | .textStart => .textStart
  | .textEnd => .textEnd
  | .wordBoundary => .word .boundary m.unicode
  | .notWordBoundary => .word .inside m.unicode
  | .wordStart => .word .start m.unicode
  | .wordEnd => .word .stop m.unicode
  | .wordStartHalf => .word .startHalf m.unicode
  | .wordEndHalf => .word .stopHalf m.unicode

mutual

/-- What a tree matches under the given modes, and the modes for what follows it. -/
def Tree.meaning (m : Modes) : Tree → Except Fault (Expr × Modes)
  | .empty _ => .ok (.empty, m)
  | .flags _ items => .ok (.empty, m.apply items)
  | .literal l => .ok (m.literal l, m)
  | .dot _ => .ok (m.dot, m)
  | .assertion _ kind => .ok (.look (m.look kind), m)
  | .shorthand _ negated kind => .ok (.member (m.memberSet (m.shorthand negated kind)), m)
  | .property span negated query => return (.member (.chars (← m.property span negated query)), m)
  | .bracket _ negated set =>
    return (.member (m.memberSet (m.finish negated (← set.members m))), m)
  | .repetition _ count greedy sub => do
    let (e, m) ← sub.meaning m
    return (.rep count.min count.max (greedy != m.swapGreed) e, m)
  | .group span kind sub => do
    let (e, _) ← sub.meaning (m.apply kind.flags)
    return match kind with
      | .plain _ => (e, m)
      | _ => (.capture span.start e, m)
  | .alternation _ branches => do
    let (es, m) ← Tree.meanings m branches
    return (.alt es, m)
  | .concat _ items => do
    let (es, m) ← Tree.meanings m items
    return (.seq es, m)

/-- What several trees match one after another, and the modes for what follows them. -/
def Tree.meanings (m : Modes) : List Tree → Except Fault (List Expr × Modes)
  | [] => .ok ([], m)
  | t :: ts => do
    let (e, m) ← t.meaning m
    let (es, m) ← Tree.meanings m ts
    return (e :: es, m)

end

end FileSearch.Regex
