import Mathlib
import FileSearch.Proofs.Scan.Taken
import FileSearch.Proofs.Search.Matches
import FileSearch.Proofs.Search.Report

/-!
# The size reported of a file

The size in a result is the number of bytes that were read of the file.  That is the size of the file,
unless it is read as a stream and the limit is reached: then the scan ends with the read that decides
on the first match beyond the limit, and the bytes behind it are not counted (`Examiner.size_taken`).
-/

namespace FileSearch

theorem Examination.contains_flags (isBinary truncated : Bool) :
    (flags isBinary truncated).contains .truncated = truncated := by
  cases isBinary <;> cases truncated <;> decide

theorem getElem?_replicate (n : Nat) (b : UInt8) (i : Nat) (lt : i < n) :
    (ByteArray.mk (Array.replicate n b))[i]? = some b := by
  have inside : i < (ByteArray.mk (Array.replicate n b)).size := by
    rwa [ByteArray.size, Array.size_replicate]
  rw [getElem?_pos _ i inside]
  exact congrArg some (Array.getElem_replicate _)

/-- A literal that stands where a walk goes on is the next match of the walk. -/
theorem Pattern.next_of_occursAt {p : Pattern} {h needle : ByteArray}
    (hp : p.strategy = .literal needle) (nonempty : needle.size ≠ 0) {r : Resume}
    (inside : r.pos ≤ h.size) (here : occursAt needle h needle.size r.pos 0) :
    p.finder.next h r = some ⟨r.pos, r.pos + needle.size⟩ := by
  have find : p.finder.find h r.pos = some ⟨r.pos, r.pos + needle.size⟩ := by
    change p.findAt h r.pos = _
    simp only [findAt, if_neg (Nat.not_lt.2 inside), hp]
    exact findLiteral_eq_some_iff.2 ⟨Nat.le_refl _, stopWithin_literal.2 ⟨inside, rfl, here⟩,
      fun q le lt => absurd lt (Nat.not_lt.2 le)⟩
  have bytes : Span.isEmpty ⟨r.pos, r.pos + needle.size⟩ = false := by
    simp only [Span.isEmpty, beq_eq_false_iff_ne]
    omega
  simp only [Finder.next, find, bytes, Bool.false_and, Bool.false_eq_true, if_false]

namespace Examiner

variable {x : Examiner} {fs : FileSystem} {path : Path} {content : ByteArray} {e : Examination}
  {r : FileResult} {scan : StreamScan}

/-- The number of bytes of a stream that have been read when a match is decided on, or of all bytes
if there is no match to be decided on. -/
def taken (x : Examiner) (content : ByteArray) (beyond : Option Match) : Nat :=
  (beyond.map fun m => min content.size
    (x.chunkSize * ((m.start + x.finder.overlap x.overlap) / x.chunkSize + 1))).getD content.size

/-- A result bears the number of bytes that the scan has read, and tells whether it was cut off. -/
theorem scan_of_result (read : fs.read path = .ok content) (examined : x.examine fs path = .ok e)
    (result : e.result? path = some r) : ∃ scan,
      x.scan content (x.strategy content.size) = .ok scan ∧ r.file.size = scan.bytesRead ∧
        r.isTruncated = scan.truncated := by
  cases e with
  | leftOut => cases result
  | searched isBinary scan =>
    obtain ⟨content', read', scanned⟩ := scan_of_examine examined
    obtain rfl := Except.ok.inj (read.symm.trans read')
    refine ⟨scan, scanned, ?_⟩
    rw [Examination.result?] at result
    split at result
    · cases result
    · obtain rfl := Option.some.inj result
      exact ⟨rfl, Examination.contains_flags isBinary scan.truncated⟩

/-- A scan that does not read a stream reads the whole content. -/
theorem bytesRead_of_ne_chunked {strategy : ReadStrategy} (other : strategy ≠ .chunked)
    (scanned : x.scan content strategy = .ok scan) : scan.bytesRead = content.size := by
  cases strategy with
  | whole | mapped =>
    obtain rfl := Except.ok.inj scanned
    rfl
  | chunked => exact absurd rfl other

/-- A scan of a stream reads up to the match that is the first one beyond the limit. -/
theorem bytesRead_of_chunked (inBounds : x.finder.InBounds) (roomy : 0 < x.chunkSize)
    (scanned : x.scan content .chunked = .ok scan) : ∃ all,
      x.finder.scanStream x.overlap none
          (Schedule.events { chunks := [] } x.chunkSize content) = .ok all ∧
        scan.truncated = (x.maxMatches.bind (all.found[·]?)).isSome ∧
        scan.bytesRead = x.taken content (x.maxMatches.bind (all.found[·]?)) := by
  have fills := Schedule.fills_events roomy content
  obtain ⟨all, cut, runs, cuts, truncated, read⟩ :=
    Finder.bytesRead_scanStream inBounds x.overlap x.maxMatches fills.content_eq.1
  obtain rfl := Except.ok.inj (cuts.symm.trans scanned)
  refine ⟨all, runs, truncated, ?_⟩
  rw [read, fills.bytesUntil_eq roomy fun p _ => Nat.zero_le p, Option.map_map, taken]
  simp only [Function.comp_def, Nat.zero_add, Nat.sub_zero]

/-- Without a limit, what is found of a literal in a stream is what is found in the content. -/
theorem found_of_literal {p : Pattern} {needle : ByteArray} (hp : p.strategy = .literal needle)
    (finder : x.finder = p.finder) (roomy : 0 < x.chunkSize) {all : StreamScan}
    (runs : x.finder.scanStream x.overlap none
      (Schedule.events { chunks := [] } x.chunkSize content) = .ok all) :
    all.found = p.finder.scan content := by
  obtain ⟨scan, scanned, found⟩ :=
    scan_of_literal (x := { x with maxMatches := none }) hp finder roomy content .chunked
  obtain rfl := Except.ok.inj (scanned.symm.trans runs)
  exact congrArg Prod.fst found

/-- The size reported of a file is its size, unless the file is read as a stream and there is a match
beyond the limit.  Then it is the number of bytes in the pieces up to the one that shows more than
the overlap behind the beginning of this match. -/
theorem size_taken (inBounds : x.finder.InBounds) (roomy : 0 < x.chunkSize)
    (read : fs.read path = .ok content) (examined : x.examine fs path = .ok e)
    (result : e.result? path = some r) :
    (x.strategy content.size ≠ .chunked ∨ r.isTruncated = false → r.file.size = content.size) ∧
      (x.strategy content.size = .chunked → ∃ all,
        x.finder.scanStream x.overlap none
            (Schedule.events { chunks := [] } x.chunkSize content) = .ok all ∧
          r.isTruncated = (x.maxMatches.bind (all.found[·]?)).isSome ∧
          r.file.size = x.taken content (x.maxMatches.bind (all.found[·]?))) := by
  obtain ⟨scan, scanned, size, truncated⟩ := scan_of_result read examined result
  rw [size, truncated]
  by_cases chunked : x.strategy content.size = .chunked
  · rw [chunked] at scanned
    obtain ⟨all, runs, more, taken⟩ := bytesRead_of_chunked inBounds roomy scanned
    refine ⟨fun whole => ?_, fun _ => ⟨all, runs, more, taken⟩⟩
    have within : x.maxMatches.bind (all.found[·]?) = none := by
      rw [← Option.isNone_iff_eq_none, ← Option.isSome_eq_false_iff, ← more]
      exact whole.resolve_left (not_not_intro chunked)
    rw [taken, within]
    rfl
  · exact ⟨fun _ => bytesRead_of_ne_chunked chunked scanned, fun stream => absurd stream chunked⟩

/-- Three times `ab` in a file that is read in pieces of two bytes: three of its four pieces show
that the second match is beyond the limit. -/
theorem size_taken_three :
    let p : Pattern := ⟨"ab", .literal "ab".toUTF8⟩
    let x : Examiner := { finder := p.finder, maxMatches := some 1, overlap := 1, smallBelow := 0
                          largeFrom := 0, chunkSize := 2 }
    let path : Path := "/f".toUTF8
    let content : ByteArray := "ab ab ab".toUTF8
    let fs : FileSystem := { root := .dir [("f".toUTF8.data.toList, .file content)] }
    let e : Examination := .searched false ⟨#[.new 0 "ab".toUTF8], true, 6⟩
    let r : FileResult := { file := ⟨path, false, 6⟩, found := [.new 0 "ab".toUTF8]
                            flags := Flags.textFile.union .truncated }
    x.finder.InBounds ∧ 0 < x.chunkSize ∧ fs.read path = .ok content ∧ x.examine fs path = .ok e ∧
      e.result? path = some r ∧ x.strategy content.size = .chunked ∧
      r.file.size = x.taken content (some (.new 3 "ab".toUTF8)) := by
  intro p x path content fs e r
  have inBounds : x.finder.InBounds := p.inBounds
  have roomy : 0 < x.chunkSize := by decide
  have read : fs.read path = .ok content := by cbv
  have examined : x.examine fs path = .ok e := by cbv
  have result : e.result? path = some r := by cbv
  have chunked : x.strategy content.size = .chunked := by decide
  obtain ⟨all, runs, -, taken⟩ := (size_taken inBounds roomy read examined result).2 chunked
  have second : (x.finder.scanStream x.overlap none
      (Schedule.events { chunks := [] } x.chunkSize content)).toOption.bind (·.found[1]?) =
        some (.new 3 "ab".toUTF8) := by
    decide +kernel
  rw [runs] at second
  rw [Option.bind_some, show all.found[1]? = some (.new 3 "ab".toUTF8) from second] at taken
  exact ⟨inBounds, roomy, read, examined, result, chunked, taken⟩

/-- In a content that begins with two letters `a`, these are the first two matches of `a`. -/
theorem exists_scan_letters {content : ByteArray} (size : 2 ≤ content.size)
    (letters : ∀ i < 2, content[i]? = some 0x61) :
    ∃ rest, ((Pattern.finder ⟨"a", .literal "a".toUTF8⟩).scan content).toList =
      .ofSpan content 0 ⟨0, 1⟩ :: .ofSpan content 0 ⟨1, 2⟩ :: rest := by
  let p : Pattern := ⟨"a", .literal "a".toUTF8⟩
  have advances := p.inBounds.advances
  have next (i : Nat) (lt : i < 2) (last : Option Nat) :
      p.finder.next content ⟨i, last⟩ = some ⟨i, i + 1⟩ := by
    have inside : i ≤ content.size := by omega
    refine Pattern.next_of_occursAt (show p.strategy = .literal "a".toUTF8 from rfl) (by decide)
      inside ?_
    rw [Pattern.occursAt_iff]
    intro k lt'
    obtain rfl : k = 0 := Nat.lt_one_iff.1 lt'
    exact letters i lt
  have second : p.finder.onward content (.after ⟨0, 1⟩) =
      ⟨1, 2⟩ :: p.finder.onward content (.after ⟨1, 2⟩) :=
    advances.onward_of_some (next 1 (by decide) (some 1))
  rw [Finder.toList_scan, Finder.allSpans, advances.onward_of_some (next 0 (by decide) none), second]
  exact ⟨_, rfl⟩

/-- Ten mebibytes of the letter `a`, of which one match is wanted: the second one is found in the
first of the pieces, whose size is reported. -/
theorem not_forall_size_eq :
    ¬ ∀ (p : Pattern) (x : Examiner) (fs : FileSystem) (path : Path) (content : ByteArray)
      (e : Examination) (r : FileResult), x.finder = p.finder → x.maxMatches ≠ some 0 →
      1 ≤ x.overlap → x.chunkSize = 1024 * 1024 → fs.read path = .ok content →
      x.examine fs path = .ok e → e.result? path = some r → r.file.size = content.size := by
  intro all
  let p : Pattern := ⟨"a", .literal "a".toUTF8⟩
  let x : Examiner := { finder := p.finder, searchBinaryFiles := true, maxMatches := some 1 }
  let path : Path := "/f".toUTF8
  obtain ⟨content, size, letters⟩ : ∃ content : ByteArray, content.size = 10485760 ∧
      ∀ i < 10485760, content[i]? = some 0x61 :=
    ⟨⟨Array.replicate 10485760 0x61⟩, Array.size_replicate, getElem?_replicate _ _⟩
  obtain ⟨rest, two⟩ := exists_scan_letters (show 2 ≤ content.size by omega)
    fun i lt => letters i (by omega)
  let fs : FileSystem := { root := .dir [("f".toUTF8.data.toList, .file content)] }
  have read : fs.read path = .ok content := by cbv
  have roomy : 0 < x.chunkSize := by decide
  have strategy : x.strategy content.size = .chunked := by
    rw [size]
    decide
  obtain ⟨scan, scanned, found⟩ := scan_of_literal (x := x) (p := p) rfl rfl roomy content .chunked
  obtain ⟨stream, runs, -, taken⟩ := bytesRead_of_chunked p.inBounds roomy scanned
  have first : scan.found = (p.finder.scan content).take 1 :=
    congrArg Prod.fst (found.trans (Finder.scanLimited_some _ _ _))
  have first : scan.found = #[.ofSpan content 0 ⟨0, 1⟩] := by
    rw [first, ← Array.toList_inj, toList_take, two]
    rfl
  have beyond : stream.found[1]? = some (.ofSpan content 0 ⟨1, 2⟩) := by
    rw [found_of_literal rfl rfl roomy runs, ← Array.getElem?_toList, two]
    rfl
  have bytesRead : scan.bytesRead = 1048576 := by
    have overlap : x.finder.overlap x.overlap = 1 := by decide
    rw [taken, Option.bind_some, beyond, Examiner.taken, Option.map_some, Option.getD_some, size,
      overlap]
    show min 10485760 (1048576 * (2 / 1048576 + 1)) = 1048576
    norm_num
  generalize binary : Content.looksBinary (Content.sample content) = isBinary
  have examined : x.examine fs path = .ok (.searched isBinary scan) := by
    have eligible : isEligible x.searchBinaryFiles (classifyContent path content) := Bool.or_true _
    simp only [examine, read, examineContent, eligible, if_true, strategy, scanned]
    rw [classifyContent, binary]
  obtain ⟨r, result, reported⟩ : ∃ r, (Examination.searched isBinary scan).result? path = some r ∧
      r.file.size = scan.bytesRead := by
    rw [Examination.result?, first]
    exact ⟨_, rfl, rfl⟩
  have same := all p x fs path content _ r rfl (by decide) (by decide) rfl read examined result
  rw [reported, bytesRead, size] at same
  contradiction

end Examiner

end FileSearch
