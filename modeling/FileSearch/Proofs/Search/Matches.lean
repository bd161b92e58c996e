import Mathlib
import FileSearch.Proofs.Pattern.Bounds
import FileSearch.Proofs.Scan.Order
import FileSearch.Proofs.Scan.Reads
import FileSearch.Proofs.Search.Examination

/-!
# The matches of a file

In whatever way a content is taken in, the matches reported of it stand in the bytes that were read,
one behind the other (`Examiner.orderly_scan`), and the size reported of the file is the number of
these bytes.
-/

namespace FileSearch

namespace Examiner

variable {x : Examiner} {fs : FileSystem} {path : Path} {content : ByteArray} {isBinary : Bool}
  {scan : StreamScan}

/-- A file that has been searched has been read and scanned. -/
theorem scan_of_examine (examined : x.examine fs path = .ok (.searched isBinary scan)) :
    ∃ content, fs.read path = .ok content ∧
      x.scan content (x.strategy content.size) = .ok scan := by
  unfold examine at examined
  split at examined
  · rename_i content read
    refine ⟨content, read, ?_⟩
    simp only [examineContent] at examined
    split at examined
    · split at examined
      · rename_i scan' scanned
        cases examined
        exact scanned
      · cases examined
    · cases examined
  · cases examined

theorem orderly_scan (inBounds : x.finder.InBounds) {strategy : ReadStrategy}
    (scanned : x.scan content strategy = .ok scan) :
    scan.bytesRead ≤ content.size ∧ Orderly content scan.bytesRead scan.found.toList := by
  cases strategy with
  | whole | mapped =>
    obtain rfl := Except.ok.inj scanned
    exact ⟨Nat.le_refl _, inBounds.orderly_scanLimited _ _⟩
  | chunked =>
    obtain ⟨le, orderly⟩ := inBounds.orderly_scanStream scanned
    obtain ⟨stop, front⟩ := Schedule.content_events { chunks := [] } x.chunkSize content
    rw [front, ByteArray.size_extract] at le
    rw [front] at orderly
    exact ⟨by omega, orderly.of_front (by omega)⟩

/-- In whatever way and in whatever pieces a content is taken in, the matches reported of it are in
order; the size of a result is the number of bytes read. -/
theorem orderly_of_inBounds (x : Examiner) (inBounds : x.finder.InBounds) :
    (∀ content strategy scan, x.scan content strategy = .ok scan →
      scan.bytesRead ≤ content.size ∧ Orderly content scan.bytesRead scan.found.toList) ∧
    (∀ events scan, x.finder.scanStream x.overlap x.maxMatches events = .ok scan →
      scan.bytesRead ≤ (ReadEvent.content events).size ∧
        Orderly (ReadEvent.content events) scan.bytesRead scan.found.toList) ∧
    ∀ fs path e r, x.examine fs path = .ok e → e.result? path = some r →
      ∃ content, fs.read path = .ok content ∧ r.file.size ≤ content.size ∧
        Orderly content r.file.size r.found := by
  refine ⟨fun _ _ _ => orderly_scan inBounds, fun _ _ => inBounds.orderly_scanStream, ?_⟩
  intro fs path e r examined result
  obtain ⟨isBinary, scan, rfl, file, found, -⟩ := Examination.result?_eq_some result
  obtain ⟨content, read, scanned⟩ := scan_of_examine examined
  rw [found, file]
  exact ⟨content, read, orderly_scan inBounds scanned⟩

/-- The pattern `b+`. -/
def plusB : Pattern := ⟨"b+", .regex ⟨#[.byte 0x62 1, .split [0, 2], .accept]⟩⟩

set_option maxRecDepth 100000 in
theorem compile_plusB : Pattern.compile "b+" {} = .ok plusB := rfl

/-- The pattern `b+` in `abbb`, which is read in two pieces: its match is cut at the end of the
first one. -/
theorem orderly_of_inBounds_plusB :
    let x : Examiner := { finder := plusB.finder, overlap := 1 }
    let reads : List ReadEvent := [.bytes "abb".toUTF8, .bytes "b".toUTF8]
    Pattern.compile "b+" {} = .ok plusB ∧ x.finder.InBounds ∧
      ∃ scan, x.finder.scanStream x.overlap x.maxMatches reads = .ok scan ∧
        scan.found.toList = [.new 1 "bb".toUTF8, .new 3 "b".toUTF8] ∧
        scan.bytesRead ≤ (ReadEvent.content reads).size ∧
        Orderly (ReadEvent.content reads) scan.bytesRead scan.found.toList := by
  intro x reads
  have inBounds : x.finder.InBounds := plusB.inBounds
  have scanned : x.finder.scanStream x.overlap x.maxMatches reads =
      .ok ⟨#[.new 1 "bb".toUTF8, .new 3 "b".toUTF8], false, 4⟩ := by
    cbv
  exact ⟨compile_plusB, inBounds, _, scanned, rfl,
    (orderly_of_inBounds x inBounds).2.1 reads _ scanned⟩

end Examiner

end FileSearch
