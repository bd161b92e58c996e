import FileSearch.Text.Bytes

/-!
# What stands in a text

`bytesFrom` gives the bytes of a text from a place on, so that bytes stand there if they are the
first ones of it (`prefix_bytesFrom_iff`).
-/

namespace FileSearch

variable {h : ByteArray} {i : Nat}

theorem append_prefix_iff {α : Type} {a b l : List α} :
    a ++ b <+: l ↔ a <+: l ∧ b <+: l.drop a.length := by
  constructor
  · rintro ⟨rest, rfl⟩
    refine ⟨⟨b ++ rest, (List.append_assoc a b rest).symm⟩, rest, ?_⟩
    rw [List.append_assoc, List.drop_left]
  · rintro ⟨⟨rest, rfl⟩, front⟩
    rw [List.drop_left] at front
    exact (List.prefix_append_right_inj a).2 front

/-- The bytes of a text from a place on. -/
def bytesFrom (h : ByteArray) (i : Nat) : List UInt8 := h.data.toList.drop i

theorem drop_bytesFrom (h : ByteArray) (i n : Nat) :
    (bytesFrom h i).drop n = bytesFrom h (i + n) := List.drop_drop

theorem getElem?_bytesFrom (h : ByteArray) (i k : Nat) : (bytesFrom h i)[k]? = h[i + k]? := by
  rw [bytesFrom, List.getElem?_drop]
  by_cases inside : i + k < h.size
  · rw [getElem?_pos h _ inside, List.getElem?_eq_getElem inside]
    rfl
  · rw [getElem?_neg h _ inside, List.getElem?_eq_none (Nat.le_of_not_lt inside)]

theorem bytesFrom_of_lt (inside : i < h.size) : bytesFrom h i = h[i] :: bytesFrom h (i + 1) :=
  List.drop_eq_getElem_cons (l := h.data.toList) inside

theorem bytesFrom_of_le (beyond : h.size ≤ i) : bytesFrom h i = [] := List.drop_eq_nil_of_le beyond

theorem cons_prefix_bytesFrom {b : UInt8} {bs : List UInt8} :
    b :: bs <+: bytesFrom h i ↔ h[i]? = some b ∧ bs <+: bytesFrom h (i + 1) := by
  by_cases inside : i < h.size
  · rw [bytesFrom_of_lt inside, List.cons_prefix_cons, getElem?_pos h i inside, Option.some.injEq,
      eq_comm]
  · rw [bytesFrom_of_le (Nat.le_of_not_lt inside), List.prefix_nil, getElem?_neg h i inside]
    simp

/-- Bytes stand at a place if the part of the text there is made of them. -/
theorem prefix_bytesFrom_iff {needle : ByteArray} :
    needle.data.toList <+: bytesFrom h i ↔ h.extract i (i + needle.size) = needle := by
  rw [List.prefix_iff_eq_take, ByteArray.ext_iff, ByteArray.data_extract, ← Array.toList_inj,
    Array.toList_extract, List.extract_eq_take_drop, Nat.add_sub_cancel_left]
  exact eq_comm

end FileSearch
