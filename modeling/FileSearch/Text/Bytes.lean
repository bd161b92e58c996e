/-!
# Byte strings
-/

namespace FileSearch

/-- Byte strings are equal if they have the same bytes. -/
instance decidableEqByteArray : DecidableEq ByteArray := fun a b =>
  if h : a.data = b.data then .isTrue (ByteArray.ext h) else .isFalse fun e => h (e ▸ rfl)

/-- Byte strings are compared by their bytes. -/
instance lawfulBEqByteArray : LawfulBEq ByteArray where
  eq_of_beq {a b} same := by
    have bytes : (a.data == b.data) = true := same
    exact ByteArray.ext (eq_of_beq bytes)
  rfl {a} := by
    have bytes : (a.data == a.data) = true := BEq.rfl
    exact bytes

end FileSearch
