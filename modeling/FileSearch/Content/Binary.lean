import FileSearch.Text.Utf8

/-!
# Binary content

`looksBinary` decides whether content is binary from its first bytes.  It is if they hold a NUL, if
they begin with `pdfSignature`, or if too many of them are suspicious: control characters that text
does not use, and bytes that belong to no character.
-/

namespace FileSearch.Content

/-- The number of bytes at the front of a file that are looked at. -/
def sampleSize : Nat := 8192

/-- The share of suspicious bytes, in hundredths, above which content is binary. -/
def suspiciousShare : Nat := 30

/-- The bytes that PDF files begin with. -/
def pdfSignature : List UInt8 := [0x25, 0x50, 0x44, 0x46, 0x2D]

/-- Whether a byte is a control character that text does not use. -/
def isSuspiciousControl (b : UInt8) : Bool :=
  (b < 0x20 && !([0x08, 0x09, 0x0A, 0x0C, 0x0D, 0x1B].contains b)) || b == 0x7F

/-- The number of bytes of a piece that belong to no character.  The bytes of a character that is cut
off belong to it. -/
def strayBytes : Utf8.Front → Nat
  | .invalid n => n
  | .char _ _ | .cut _ => 0

/-- The number of suspicious bytes. -/
def suspicious (bs : List UInt8) : Nat :=
  bs.countP isSuspiciousControl + ((Utf8.fronts bs).map strayBytes).foldr (· + ·) 0

/-- Whether content that begins with the given bytes is binary. -/
def looksBinary (bs : List UInt8) : Bool :=
  bs.contains 0 || pdfSignature.isPrefixOf bs || bs.length * suspiciousShare < suspicious bs * 100

/-- The bytes at the front of content that are looked at. -/
def sample (content : ByteArray) : List UInt8 := (content.extract 0 sampleSize).data.toList

end FileSearch.Content
