/-!
# Machine words and powers

The ranges of machine words, and powers of the two bases in which numbers are written.
-/

namespace FileSearch

/-- Whether 64 bits with a sign hold a number. -/
def fitsSigned (n : Int) : Bool := -9223372036854775808 ≤ n && n ≤ 9223372036854775807

/-- A power of two. -/
def twoTo (n : Nat) : Nat := Nat.pow 2 n

/-- A power of ten. -/
def tenTo (n : Nat) : Nat := Nat.pow 10 n

end FileSearch
