import FileSearch.Proofs.Pattern.Short
import FileSearch.Proofs.Scan.Bounded

/-!
# The windows of a search for a pattern

A scan of a stream for a pattern carries over as many bytes as the pattern has if it is a literal,
else the overlap it is given (`overlap_of_compile`).  This bounds the windows that it searches,
whatever the pattern, the limit and the reads are (`windows_bounded`).
-/

namespace FileSearch.Pattern

/-- A literal is not empty, so that its length is what is carried over. -/
theorem overlap_of_compile {text : String} {options : PatternOptions} {p : Pattern}
    (compiled : compile text options = .ok p) (overlap : Nat) :
    p.finder.overlap overlap = p.maxLength.getD (max overlap 1) := by
  rcases hp : p.strategy with needle | program
  · have literal : p.isLiteral := by rw [isLiteral, hp]
    obtain ⟨nonempty, strategy⟩ := strategy_of_isLiteral compiled literal
    obtain rfl := Strategy.literal.inj (hp.symm.trans strategy)
    have : text.toUTF8.size ≠ 0 := mt String.utf8ByteSize_eq_zero_iff.1 nonempty
    simp only [Finder.overlap, finder, maxLength, hp, Option.getD_some]
    omega
  · simp only [Finder.overlap, finder, maxLength, hp, Option.getD_none]

/-- Each window that a scan of a stream searches is the content from the window's place up to the
last byte read, and is no longer than a read, what is carried over and what is kept for conditions
that look back.  The place from which the scan looks on lies in the window, at least `lookBehind`
bytes behind its front unless the window begins with the content, so that what stands before it in
the window is what stands before it in the content; and it does not go back from one window to a
later one. -/
theorem windows_bounded {text : String} {options : PatternOptions} {p : Pattern}
    (compiled : compile text options = .ok p) (overlap : Nat) (limit : Option Nat) {chunk : Nat}
    {reads : List ReadEvent} (fits : ReadEvent.FitIn chunk reads) :
    let content := ReadEvent.content reads
    let carried := p.maxLength.getD (max overlap 1)
    (∀ n w, p.finder.ComesTo overlap limit reads n w →
        w.bytes = content.extract w.offset w.bytesRead ∧
          w.bytesRead = (ReadEvent.content (reads.take (n + 1))).size ∧
          w.bytesRead ≤ content.size ∧
          w.bytes.size ≤ chunk + carried + lookBehind ∧
          w.offset ≤ w.nextStart ∧ w.nextStart ≤ w.bytesRead ∧
          (w.offset = 0 ∨ w.offset + lookBehind ≤ w.nextStart) ∧
          w.bytes.extract (w.resume.pos - lookBehind) w.resume.pos =
            content.extract (w.nextStart - lookBehind) w.nextStart) ∧
      ∀ n n' w w', p.finder.ComesTo overlap limit reads n w →
        p.finder.ComesTo overlap limit reads n' w' → n ≤ n' → w.nextStart ≤ w'.nextStart := by
  intro content carried
  refine ⟨fun n w comes => ?_, fun n n' w w' comes later le => ?_⟩
  · obtain ⟨holds, read⟩ := comes.holds p.inBounds fits
    have size_le : w.bytes.size ≤ chunk + carried + lookBehind := by
      have := holds.size_le
      rwa [overlap_of_compile compiled, ← Nat.add_assoc] at this
    exact ⟨holds.bytes_eq, read, holds.read_le, size_le, holds.offset_le_nextStart,
      holds.nextStart_le, holds.context, holds.lookBehind_eq⟩
  · exact comes.nextStart_le p.inBounds later le

/-- Reads of `xxxxxxa a` that give seven bytes and two, each after an interruption. -/
def wordReads : List ReadEvent :=
  Schedule.events { chunks := [7, 2], interrupts := true } 8 "xxxxxxa a".toUTF8

/-- The second window has lost the first two bytes, and is searched behind the four after them. -/
theorem windows_bounded_wordA :
    let content := "xxxxxxa a".toUTF8
    compile "a\\b" {} = .ok wordA ∧ ReadEvent.FitIn 8 wordReads ∧
      ∃ w w', wordA.finder.ComesTo 0 none wordReads 1 w ∧
        wordA.finder.ComesTo 0 none wordReads 3 w' ∧ w.nextStart ≤ w'.nextStart ∧
          w'.offset = 2 ∧ w'.nextStart = 6 ∧ w'.bytes = content.extract 2 9 ∧
            w'.bytes.size ≤ 8 + 1 + lookBehind ∧ w'.bytes.extract 0 4 = content.extract 2 6 := by
  intro content
  have fits : ReadEvent.FitIn 8 wordReads := Schedule.fitIn_events _ _ _
  obtain ⟨bounded, onward⟩ := windows_bounded compile_wordA 0 none fits
  let front := "xxxxxxa".toUTF8
  let w : Window := ({} : Window).extend front
  let slid : Window := (w.search wordA.finder (w.boundary 1) none).1.slide (w.boundary 1)
  have begun : Window.Reached wordA.finder 1 none [.interrupted] {} := .next .first rfl
  have goes : ({} : Window).step wordA.finder 1 none (.bytes front) = .window slid :=
    Window.step_none {} wordA.finder 1 (by decide)
  have reached : Window.Reached wordA.finder 1 none
      [.interrupted, .bytes front, .interrupted] slid := .next (.next begun goes) rfl
  have first : wordA.finder.ComesTo 0 none wordReads 1 w := .read rfl begun
  have second : wordA.finder.ComesTo 0 none wordReads 3 (slid.extend " a".toUTF8) :=
    .read rfl reached
  generalize last : slid.extend " a".toUTF8 = w' at second
  have offset : w'.offset = 2 := by
    rw [← last]
    decide +kernel
  have nextStart : w'.nextStart = 6 := by
    rw [← last]
    decide +kernel
  have bytesRead : w'.bytesRead = 9 := by
    rw [← last]
    decide +kernel
  have given : ReadEvent.content wordReads = content := by decide +kernel
  have pos : w'.resume.pos = 4 := by
    change w'.nextStart - w'.offset = 4
    rw [nextStart, offset]
  obtain ⟨bytes_eq, -, -, size_le, -, -, -, lookBehind_eq⟩ := bounded 3 w' second
  rw [given, offset, bytesRead] at bytes_eq
  rw [given, pos, nextStart] at lookBehind_eq
  have le : w.nextStart ≤ w'.nextStart := onward 1 3 w w' first second (by decide)
  exact ⟨compile_wordA, fits, w, w', first, second, le, offset, nextStart, bytes_eq, size_le,
    lookBehind_eq⟩

end FileSearch.Pattern
