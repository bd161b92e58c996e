import Mathlib
import FileSearch.Proofs.Pattern.Local
import FileSearch.Proofs.Scan.Reads
import FileSearch.Proofs.Search.Examination

/-!
# The report on a file

In whatever way the content of a file is taken in, a text that is searched for byte by byte has the
same matches in it (`Examiner.scan_of_literal`).  So neither the size of the file nor the thresholds
show in its report: there is none if the file is left out or the text does not occur in it
(`Pattern.scan_eq_empty_iff`), and else it holds the first matches up to the limit, with flags that
say what kind of file it is and whether there are more matches (`Examiner.examine_literal`).
-/

namespace FileSearch

/-! ## Texts without a match -/

theorem Finder.FindsFirst.allSpans_eq_nil_iff {f : Finder}
    {stopAt : ByteArray → Nat → Option Nat} (hf : f.FindsFirst stopAt) {h : ByteArray} :
    f.allSpans h = [] ↔ ∀ i, stopAt h i = none := by
  have fresh (i : Nat) : freshStop stopAt h none i = stopAt h i := by
    rcases here : stopAt h i with _ | e <;> simp [freshStop, here]
  have none_iff := hf.next_eq_none_iff (h := h) (r := ⟨0, none⟩)
  simp only [fresh, Nat.zero_le, true_imp_iff] at none_iff
  rw [← none_iff]
  unfold allSpans onward
  rcases next : f.next h ⟨0, none⟩ with _ | s
  · simp [walk_of_none next]
  · simp [walk_succ_of_some next]

namespace Pattern

variable {text : String} {options : PatternOptions} {p : Pattern} {needle : ByteArray}

/-- A text has no match of a literal just if the literal does not stand in it. -/
theorem scan_eq_empty_iff (hp : p.strategy = .literal needle) (nonempty : needle.size ≠ 0)
    (content : ByteArray) :
    (p.finder.scan content).toList = [] ↔ ∀ i, content.extract i (i + needle.size) ≠ needle := by
  rw [Finder.toList_scan, List.map_eq_nil_iff,
    (isLocal_of_literal hp).findsFirst.allSpans_eq_nil_iff]
  simp only [Option.eq_none_iff_forall_ne_some, ne_eq, stopWithin_literal, occursAt_iff_extract_eq]
  constructor
  · intro nowhere i same
    have fits := congrArg ByteArray.size same
    rw [ByteArray.size_extract] at fits
    exact nowhere i _ ⟨by omega, rfl, same⟩
  · intro nowhere i e here
    exact nowhere i here.2.2

end Pattern

/-! ## Reports -/

theorem Examination.flags_eq (isBinary truncated : Bool) :
    flags isBinary truncated =
      (if isBinary then Flags.binaryFile else .textFile).union
        (if truncated then .truncated else .empty) := by
  cases isBinary <;> cases truncated <;> decide

namespace Examiner

variable {x : Examiner} {p : Pattern} {needle content : ByteArray}

/-- In whatever way a content is taken in, the matches of a literal in it are the same. -/
theorem scan_of_literal (hp : p.strategy = .literal needle) (finder : x.finder = p.finder)
    (roomy : 0 < x.chunkSize) (content : ByteArray) (strategy : ReadStrategy) :
    ∃ scan, x.scan content strategy = .ok scan ∧
      (scan.found, scan.truncated) = p.finder.scanLimited content x.maxMatches := by
  cases strategy with
  | whole | mapped =>
    refine ⟨⟨(x.finder.scanLimited content x.maxMatches).1,
      (x.finder.scanLimited content x.maxMatches).2, content.size⟩, rfl, ?_⟩
    rw [finder]
  | chunked =>
    obtain ⟨ok, all⟩ := Schedule.content_events_full roomy content
    have carried := Pattern.overlap_of_literal hp x.overlap
    obtain ⟨scan, scanned, found, -⟩ := Finder.scanStream_of_isLocal (Pattern.isLocal_of_literal hp)
      (Nat.le_succ_of_le carried) x.maxMatches ok
    rw [all] at found
    rw [← finder] at scanned
    exact ⟨scan, scanned, found⟩

/-- The matches that a limit leaves. -/
def firstUpTo (limit : Option Nat) (all : List Match) : List Match :=
  match limit with
  | none => all
  | some n => all.take n

/-- Whether a limit leaves out any matches. -/
def cutsOff (limit : Option Nat) (all : List Match) : Bool :=
  match limit with
  | none => false
  | some n => n < all.length

theorem firstUpTo_eq_nil_iff {limit : Option Nat} (positive : limit ≠ some 0) (all : List Match) :
    firstUpTo limit all = [] ↔ all = [] := by
  cases limit with
  | none => rfl
  | some n =>
    have : n ≠ 0 := fun zero => positive (congrArg some zero)
    simp [firstUpTo, this]

theorem scanLimited_eq_firstUpTo (f : Finder) (content : ByteArray) (limit : Option Nat) :
    (f.scanLimited content limit).1.toList = firstUpTo limit (f.scan content).toList ∧
      (f.scanLimited content limit).2 = cutsOff limit (f.scan content).toList := by
  rw [Finder.scanLimited_eq, Finder.toList_scan]
  cases limit with
  | none => exact ⟨rfl, rfl⟩
  | some n => exact ⟨rfl, rfl⟩

/-- The examination of a file in which a literal is searched for.  There is no report if the file is
left out or the literal does not stand in it.  Else the report holds the first matches up to the
limit, and its flags tell text from binary files and whether there are more matches. -/
theorem examine_literal {text : String} {options : PatternOptions}
    (compiled : Pattern.compile text options = .ok p) (literal : p.isLiteral)
    (finder : x.finder = p.finder) (roomy : 0 < x.chunkSize) (positive : x.maxMatches ≠ some 0)
    {fs : FileSystem} {path : Path} (read : fs.read path = .ok content) :
    let isBinary := Content.looksBinary (Content.sample content)
    let all := (p.finder.scan content).toList
    ∃ e, x.examine fs path = .ok e ∧
      (e.result? path = none ↔
        isBinary = true ∧ x.searchBinaryFiles = false ∨
          ∀ i, content.extract i (i + text.toUTF8.size) ≠ text.toUTF8) ∧
      ∀ r, e.result? path = some r →
        r.found = firstUpTo x.maxMatches all ∧
        r.flags = (if isBinary then Flags.binaryFile else .textFile).union
          (if cutsOff x.maxMatches all then .truncated else .empty) := by
  intro isBinary all
  obtain ⟨nonempty, hp⟩ := Pattern.strategy_of_isLiteral compiled literal
  have size_ne : text.toUTF8.size ≠ 0 := mt String.utf8ByteSize_eq_zero_iff.1 nonempty
  have nowhere : all = [] ↔ ∀ i, content.extract i (i + text.toUTF8.size) ≠ text.toUTF8 :=
    Pattern.scan_eq_empty_iff hp size_ne content
  obtain ⟨scan, scanned, found⟩ := scan_of_literal hp finder roomy content (x.strategy content.size)
  obtain ⟨first, more⟩ := scanLimited_eq_firstUpTo p.finder content x.maxMatches
  rw [← found] at first more
  by_cases eligible : isEligible x.searchBinaryFiles (classifyContent path content)
  · refine ⟨.searched isBinary scan, ?_, ?_, fun r result => ?_⟩
    · simp only [examine, read, examineContent, eligible, if_true, scanned]
      rfl
    · have kept : ¬ (isBinary = true ∧ x.searchBinaryFiles = false) := by
        rintro ⟨binary, off⟩
        have : classifyContent path content = ⟨path, true, content.size⟩ := by rw [← binary]; rfl
        simp [isEligible, this, off] at eligible
      have empty_iff : scan.found.isEmpty ↔ all = [] := by
        rw [← firstUpTo_eq_nil_iff positive all, ← first]
        simp
      simp only [Examination.result?, kept, false_or, ← nowhere, ← empty_iff]
      split <;> simp_all
    · simp only [Examination.result?] at result
      split at result
      · cases result
      · obtain rfl := Option.some.inj result
        rw [← more]
        exact ⟨first, Examination.flags_eq isBinary scan.truncated⟩
  · refine ⟨.leftOut, ?_, ?_, fun r result => by cases result⟩
    · simp only [examine, read, examineContent, eligible, Bool.false_eq_true, if_false]
    · have out : isBinary = true ∧ x.searchBinaryFiles = false := by
        rw [Bool.not_eq_true, isEligible, Bool.or_eq_false_iff, Bool.not_eq_false'] at eligible
        exact eligible
      exact ⟨fun _ => .inl out, fun _ => rfl⟩

/-- The text `ab` in a binary file that is read as a stream in pieces of two bytes, with one match
more than are wanted. -/
theorem examine_literal_binary :
    let p : Pattern := ⟨"ab", .literal "ab".toUTF8⟩
    let x : Examiner := {
      finder := p.finder, searchBinaryFiles := true, maxMatches := some 1, overlap := 1
      smallBelow := 0, largeFrom := 0, chunkSize := 2 }
    let path : Path := "/f".toUTF8
    let content : ByteArray := ⟨#[0x61, 0x62, 0x00, 0x61, 0x62]⟩
    let fs : FileSystem := { root := .dir [("f".toUTF8.data.toList, .file content)] }
    Pattern.compile "ab" {} = .ok p ∧ p.isLiteral ∧ 0 < x.chunkSize ∧ x.maxMatches ≠ some 0 ∧
      fs.read path = .ok content ∧
      ∃ e r, x.examine fs path = .ok e ∧ e.result? path = some r ∧
        r.found = [.new 0 "ab".toUTF8] ∧ r.flags = Flags.binaryFile.union .truncated := by
  intro p x path content fs
  have compiled : Pattern.compile "ab" {} = .ok p := rfl
  have roomy : 0 < x.chunkSize := by decide
  have positive : x.maxMatches ≠ some 0 := by decide
  have read : fs.read path = .ok content := by cbv
  have isBinary : Content.looksBinary (Content.sample content) = true := by decide
  have all : (p.finder.scan content).toList = [.new 0 "ab".toUTF8, .new 3 "ab".toUTF8] := by
    decide +kernel
  have occurs : content.extract 0 (0 + "ab".toUTF8.size) = "ab".toUTF8 := by decide
  obtain ⟨e, examined, none_iff, report⟩ :=
    examine_literal compiled rfl rfl roomy positive read
  rcases result : e.result? path with _ | r
  · rcases none_iff.1 result with ⟨-, off⟩ | nowhere
    · cases off
    · exact absurd occurs (nowhere 0)
  · obtain ⟨found, flags⟩ := report r result
    rw [all] at found flags
    rw [isBinary] at flags
    exact ⟨compiled, rfl, roomy, positive, read, e, r, examined, result, found, flags⟩

end Examiner

end FileSearch
