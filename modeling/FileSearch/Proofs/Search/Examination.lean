import Mathlib.Algebra.Group.Defs
import FileSearch.Search.Examiner

/-!
# What an examination adds to an output

Counters are added one by one, and each examination and each warning adds its own share to them
(`Examination.count_eq`, `Stats.addWarning_eq`), so that the order of the shares does not matter.
The result of an examination, if there is one, has a match (`Examination.result?_eq_some`).
-/

namespace FileSearch

/-! ## Counters -/

namespace Stats

instance : Zero Stats := ⟨{}⟩

instance : Add Stats where
  add s t :=
    { bytes := s.bytes + t.bytes
      files := s.files + t.files
      matchCount := s.matchCount + t.matchCount
      matchedFiles := s.matchedFiles + t.matchedFiles
      binarySkipped := s.binarySkipped + t.binarySkipped
      warnings := s.warnings + t.warnings }

theorem add_def (s t : Stats) :
    s + t = ⟨s.bytes + t.bytes, s.files + t.files, s.matchCount + t.matchCount,
      s.matchedFiles + t.matchedFiles, s.binarySkipped + t.binarySkipped,
      s.warnings + t.warnings⟩ := rfl

theorem zero_def : (0 : Stats) = ⟨0, 0, 0, 0, 0, 0⟩ := rfl

instance : AddCommMonoid Stats where
  add_assoc s t u := by simp only [add_def, UInt64.add_assoc]
  zero_add s := by simp only [add_def, zero_def, UInt64.zero_add]
  add_zero s := by simp only [add_def, zero_def, UInt64.add_zero]
  add_comm s t := by
    simp only [add_def, mk.injEq]
    exact ⟨UInt64.add_comm _ _, UInt64.add_comm _ _, UInt64.add_comm _ _, UInt64.add_comm _ _,
      UInt64.add_comm _ _, UInt64.add_comm _ _⟩
  nsmul := nsmulRec

theorem addWarning_eq (s : Stats) : s.addWarning = s + addWarning 0 := by
  simp [addWarning, add_def, zero_def]

end Stats

/-! ## Examinations -/

namespace Examination

/-- An examination adds its own share to the counters. -/
theorem count_eq (e : Examination) (s : Stats) : e.count s = s + e.count 0 := by
  cases e with
  | leftOut => simp [count, Stats.addBinarySkipped, Stats.add_def, Stats.zero_def]
  | searched isBinary scan =>
    by_cases none : scan.found.size = 0
    · simp [count, Stats.addFile, Stats.addMatches, Stats.add_def, Stats.zero_def, none]
    · simp [count, Stats.addFile, Stats.addMatches, Stats.add_def, Stats.zero_def, none]

/-- A result bears the path of the file and the number of bytes read, and holds what has been found,
which is not nothing. -/
theorem result?_eq_some {e : Examination} {path : Path} {r : FileResult}
    (result : e.result? path = some r) : ∃ isBinary scan, e = .searched isBinary scan ∧
      r.file = ⟨path, isBinary, scan.bytesRead⟩ ∧ r.found = scan.found.toList ∧ r.found ≠ [] := by
  cases e with
  | leftOut => cases result
  | searched isBinary scan =>
    simp only [result?] at result
    split at result
    · cases result
    · rename_i found
      obtain rfl := Option.some.inj result
      exact ⟨isBinary, scan, rfl, rfl, rfl, by simpa using found⟩

end Examination

end FileSearch
