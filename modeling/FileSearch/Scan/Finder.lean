import FileSearch.Text.Span
import FileSearch.Text.Utf8

/-!
# All matches of a text

A `Finder` answers where the next match of a text is.  `Finder.spans` walks through a text with it:
matches do not overlap, and after an empty match the search goes on one byte further.
`Finder.scan` reports all matches, `Finder.scanLimited` the first ones and whether there are more.
-/

namespace FileSearch

/-- A way to search: `find h p` is the match of the text `h` that begins first at or after the place
`p`.  `maxLength` bounds the length of all matches, if a bound is known. -/
structure Finder where
  find : ByteArray → Nat → Option Span
  maxLength : Option Nat

/-- A match: where it begins in the content, the place after its last byte, and its bytes. -/
structure Match where
  start : Nat
  stop : Nat
  text : ByteArray
  deriving DecidableEq

namespace Match

/-- The match of some bytes at a place. -/
def new (start : Nat) (text : ByteArray) : Match := ⟨start, start + text.size, text⟩

/-- The number of bytes. -/
def length (m : Match) : Nat := m.stop - m.start

/-- Whether the match has no bytes. -/
def isEmpty (m : Match) : Bool := m.start == m.stop

/-- The matched bytes as text. -/
def display (m : Match) : String := Utf8.decodeLossy m.text

/-- The match of a span of a text whose first byte is at `offset` of the content. -/
def ofSpan (h : ByteArray) (offset : Nat) (s : Span) : Match := .new (offset + s.start) (s.of h)

end Match

/-- Where a walk through a text stands: the place to search from and the end of the match before. -/
structure Resume where
  pos : Nat
  lastEnd : Option Nat
  deriving DecidableEq, Repr

/-- Where a walk stands after a match: behind it, and a byte further if it is empty. -/
def Resume.after (s : Span) : Resume := ⟨if s.isEmpty then s.stop + 1 else s.stop, some s.stop⟩

namespace Finder

/-- The next match of a walk.  An empty match at the end of the match before is passed over. -/
def next (f : Finder) (h : ByteArray) (r : Resume) : Option Span :=
  match f.find h r.pos with
  | none => none
  | some s => if s.isEmpty && r.lastEnd == some s.stop then f.find h (s.stop + 1) else some s

/-- Adds the next `room` matches of a walk to those found. -/
def collect (f : Finder) (h : ByteArray) : Nat → Resume → Array Span → Array Span
  | 0, _, found => found
  | room + 1, r, found =>
    match f.next h r with
    | none => found
    | some s => collect f h room (.after s) (found.push s)

/-- The first `room` matches of a text, of which there are at most one more than bytes. -/
def firstSpans (f : Finder) (h : ByteArray) (room : Nat) : Array Span :=
  f.collect h (min room (h.size + 1)) ⟨0, none⟩ #[]

/-- All matches of a text. -/
def spans (f : Finder) (h : ByteArray) : Array Span := f.firstSpans h (h.size + 1)

/-- All matches of a text with their bytes. -/
def scan (f : Finder) (h : ByteArray) : Array Match := (f.spans h).map (Match.ofSpan h 0)

/-- The matches of a text up to a limit, and whether there are more. -/
def scanLimited (f : Finder) (h : ByteArray) (limit : Option Nat) : Array Match × Bool :=
  match limit with
  | none => (f.scan h, false)
  | some n =>
    let found := f.firstSpans h (n + 1)
    ((found.take n).map (Match.ofSpan h 0), n < found.size)

end Finder

end FileSearch
