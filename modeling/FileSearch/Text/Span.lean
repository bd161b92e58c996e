import FileSearch.Text.Bytes

/-!
# Spans

A `Span` is a stretch of a byte sequence, given by its first place and the place after its last
byte.
-/

namespace FileSearch

/-- The bytes from `start` up to but excluding `stop`. -/
structure Span where
  start : Nat
  stop : Nat
  deriving DecidableEq, Repr, Inhabited

namespace Span

/-- The number of bytes. -/
def length (s : Span) : Nat := s.stop - s.start

/-- Whether there are no bytes in the span. -/
def isEmpty (s : Span) : Bool := s.start == s.stop

/-- The span moved by `n` places. -/
def shift (s : Span) (n : Nat) : Span := ⟨s.start + n, s.stop + n⟩

/-- The bytes of a text in the span. -/
def of (s : Span) (text : ByteArray) : ByteArray := text.extract s.start s.stop

end Span

end FileSearch
