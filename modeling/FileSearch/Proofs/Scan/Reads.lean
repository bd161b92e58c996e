import FileSearch.Scan.Stream

/-!
# What a reader gives

However a schedule cuts a content into reads, they give the bytes of the content in their order,
from the first one on (`Schedule.content_events`).  A reader that fills its buffer as far as it can
gives all of them and never fails (`Schedule.content_events_full`).
-/

namespace FileSearch

/-- None of the reads gives more bytes than a buffer of the given size holds. -/
def ReadEvent.FitIn (buffer : Nat) (reads : List ReadEvent) : Prop :=
  ∀ b, .bytes b ∈ reads → b.size ≤ buffer

theorem ReadEvent.FitIn.push {buffer : Nat} {reads : Array ReadEvent}
    (fits : FitIn buffer reads.toList) {event : ReadEvent}
    (le : ∀ b, event = .bytes b → b.size ≤ buffer) : FitIn buffer (reads.push event).toList := by
  intro b mem
  rw [Array.toList_push, List.mem_append, List.mem_singleton] at mem
  exact mem.elim (fits b) fun same => le b same.symm

/-- Reads give the content from one place up to another one. -/
def Gives (content : ByteArray) (served : Nat) (reads : List ReadEvent) : Prop :=
  ∃ stop, served ≤ stop ∧ ReadEvent.content reads = content.extract served stop

namespace Gives

variable {content : ByteArray} {served n : Nat} {reads : List ReadEvent}

theorem nothing (nothing : ReadEvent.content reads = .empty) : Gives content served reads :=
  ⟨served, Nat.le_refl _, nothing.trans ByteArray.extract_same.symm⟩

theorem interrupted (hr : Gives content served reads) :
    Gives content served (.interrupted :: reads) := hr

theorem failed (err : IoError) : Gives content served (.failed err :: reads) := nothing rfl

theorem ended : Gives content served [.bytes (content.extract served (served + 0))] := by
  refine nothing ?_
  rw [Nat.add_zero, ByteArray.extract_same]
  rfl

theorem bytes (le : served + n ≤ content.size) (some : n ≠ 0)
    (hr : Gives content (served + n) reads) :
    Gives content served (.bytes (content.extract served (served + n)) :: reads) := by
  obtain ⟨stop, stop_le, content_eq⟩ := hr
  refine ⟨stop, by omega, ?_⟩
  have nonempty : (content.extract served (served + n)).isEmpty = false := by
    simp only [ByteArray.isEmpty, ByteArray.size_extract, beq_eq_false_iff_ne]
    omega
  simp only [ReadEvent.content, nonempty, Bool.false_eq_true, if_false, content_eq]
  rw [← ByteArray.extract_eq_extract_append_extract _ (Nat.le_add_right _ _) stop_le]

end Gives

/-- The reads from a place of a content on, each of which gives as many bytes as a buffer holds, or
those that are left. -/
inductive Fills (content : ByteArray) (buffer : Nat) : Nat → List ReadEvent → Prop where
  | ended : Fills content buffer content.size [.bytes .empty]
  | read {served n : Nat} {reads : List ReadEvent} : min buffer (content.size - served) = n → n ≠ 0 →
    Fills content buffer (served + n) reads →
      Fills content buffer served (.bytes (content.extract served (served + n)) :: reads)

namespace Fills

variable {content : ByteArray} {buffer served n : Nat} {reads : List ReadEvent}

theorem isEmpty_extract (same : min buffer (content.size - served) = n) (some : n ≠ 0) :
    (content.extract served (served + n)).isEmpty = false := by
  simp only [ByteArray.isEmpty, ByteArray.size_extract, beq_eq_false_iff_ne]
  omega

/-- Reads that fill a buffer come to the end of the content. -/
theorem content_eq (fills : Fills content buffer served reads) :
    ReadEvent.neverFails reads ∧ ReadEvent.content reads = content.extract served content.size := by
  induction fills with
  | ended =>
    rw [ByteArray.extract_same]
    exact ⟨rfl, rfl⟩
  | read same some _ ih =>
    have nonempty := isEmpty_extract same some
    refine ⟨?_, ?_⟩
    · simpa only [ReadEvent.neverFails, nonempty, Bool.false_or] using ih.1
    · simp only [ReadEvent.content, nonempty, Bool.false_eq_true, if_false, ih.2]
      rw [← ByteArray.extract_eq_extract_append_extract _ (by omega) (by omega)]

end Fills

namespace Schedule

variable (s : Schedule) (buffer : Nat) (content : ByteArray)

theorem gives_go (fuel served : Nat) (cycle : List Nat) (acc : Array ReadEvent) :
    ∃ reads, (events.go s buffer content fuel served cycle acc).toList = acc.toList ++ reads ∧
      Gives content served reads := by
  induction fuel generalizing served cycle acc with
  | zero => exact ⟨[], (List.append_nil _).symm, .nothing rfl⟩
  | succ fuel ih =>
    -- What follows a pause, if there is one.
    have pause (reads : List ReadEvent) (hr : Gives content served reads) :
        ∃ reads', (if s.interrupts then acc.push .interrupted else acc).toList ++ reads =
          acc.toList ++ reads' ∧ Gives content served reads' := by
      by_cases interrupts : s.interrupts
      · exact ⟨.interrupted :: reads, by simp [interrupts], hr.interrupted⟩
      · exact ⟨reads, by simp [interrupts], hr⟩
    have read (most : Nat) (cycle : List Nat) (acc : Array ReadEvent) :
        ∃ reads,
          (let n := min most (content.size - served)
            let acc := acc.push (.bytes (content.extract served (served + n)))
            if n = 0 then acc else events.go s buffer content fuel (served + n) cycle acc).toList =
              acc.toList ++ reads ∧
          Gives content served reads := by
      extract_lets n acc'
      by_cases ends : n = 0
      · refine ⟨[.bytes (content.extract served (served + n))], ?_, ends ▸ .ended⟩
        rw [if_pos ends, Array.toList_push]
      · obtain ⟨reads, reads_eq, hr⟩ := ih (served + n) cycle acc'
        refine ⟨.bytes (content.extract served (served + n)) :: reads, ?_, .bytes ?_ ends hr⟩
        · rw [if_neg ends, reads_eq, Array.toList_push, List.append_assoc]
          rfl
        · omega
    unfold events.go
    extract_lets acc'
    split
    · rw [Array.toList_push]
      exact pause _ (.failed _)
    · obtain ⟨reads, reads_eq, hr⟩ := read _ _ acc'
      obtain ⟨reads', reads_eq', hr'⟩ := pause reads hr
      exact ⟨reads', reads_eq.trans reads_eq', hr'⟩

/-- The reads of a content give its bytes in their order, from the first one on. -/
theorem content_events :
    ∃ stop, ReadEvent.content (s.events buffer content) = content.extract 0 stop := by
  obtain ⟨reads, reads_eq, stop, -, content_eq⟩ :=
    s.gives_go buffer content (content.size + 1) 0 s.chunks #[]
  refine ⟨stop, ?_⟩
  unfold events
  rw [reads_eq, ← content_eq]
  rfl

theorem fitIn_go (fuel served : Nat) (cycle : List Nat) (acc : Array ReadEvent)
    (fits : ReadEvent.FitIn buffer acc.toList) :
    ReadEvent.FitIn buffer (events.go s buffer content fuel served cycle acc).toList := by
  induction fuel generalizing served cycle acc with
  | zero => exact fits
  | succ fuel ih =>
    have read (most : Nat) (cycle : List Nat) (acc : Array ReadEvent) (le : most ≤ buffer)
        (fits : ReadEvent.FitIn buffer acc.toList) :
        ReadEvent.FitIn buffer
          (let n := min most (content.size - served)
            let acc := acc.push (.bytes (content.extract served (served + n)))
            if n = 0 then acc
            else events.go s buffer content fuel (served + n) cycle acc).toList := by
      extract_lets n acc'
      have fits' : ReadEvent.FitIn buffer acc'.toList := by
        refine fits.push fun b same => ?_
        rw [← ReadEvent.bytes.inj same, ByteArray.size_extract]
        omega
      by_cases ends : n = 0
      · rwa [if_pos ends]
      · rw [if_neg ends]
        exact ih _ _ _ fits'
    unfold events.go
    extract_lets acc'
    have paused : ReadEvent.FitIn buffer acc'.toList := by
      by_cases interrupts : s.interrupts
      · simp only [acc', interrupts, if_true]
        exact fits.push (by simp)
      · simpa only [acc', interrupts, Bool.false_eq_true, if_false] using fits
    split
    · exact paused.push (by simp)
    · refine read _ _ _ ?_ paused
      split
      · exact Nat.min_le_right _ _
      · exact Nat.min_le_right _ _
      · exact Nat.le_refl _

/-- A reader never gives more bytes than its buffer holds. -/
theorem fitIn_events : ReadEvent.FitIn buffer (s.events buffer content) :=
  s.fitIn_go buffer content _ _ _ _ fun _ mem => absurd mem List.not_mem_nil

/-- Reads that fill a buffer as far as they can. -/
theorem fills_go {buffer : Nat} (roomy : 0 < buffer) (content : ByteArray) (fuel served : Nat)
    (le : served ≤ content.size) (enough : content.size - served < fuel) (acc : Array ReadEvent) :
    ∃ reads,
      (events.go { chunks := [] } buffer content fuel served [] acc).toList = acc.toList ++ reads ∧
        Fills content buffer served reads := by
  induction fuel generalizing served acc with
  | zero => omega
  | succ fuel ih =>
    unfold events.go
    simp only [Bool.false_eq_true, if_false, Option.any_none]
    by_cases ends : min buffer (content.size - served) = 0
    · obtain rfl : served = content.size := by omega
      rw [if_pos ends, ends, Nat.add_zero, ByteArray.extract_same]
      exact ⟨[.bytes .empty], by simp, .ended⟩
    · rw [if_neg ends]
      generalize same : min buffer (content.size - served) = n at ends
      obtain ⟨reads, reads_eq, fills⟩ := ih (served + n) (by omega) (by omega)
        (acc.push (.bytes (content.extract served (served + n))))
      refine ⟨.bytes (content.extract served (served + n)) :: reads, ?_, .read same ends fills⟩
      rw [reads_eq, Array.toList_push, List.append_assoc]
      rfl

theorem fills_events {buffer : Nat} (roomy : 0 < buffer) (content : ByteArray) :
    Fills content buffer 0 (events { chunks := [] } buffer content) := by
  obtain ⟨reads, reads_eq, fills⟩ := fills_go roomy content (content.size + 1) 0 (Nat.zero_le _)
    (by omega) #[]
  unfold events
  rw [reads_eq]
  exact fills

/-- Reads that fill a buffer as far as they can give the whole content. -/
theorem content_events_full {buffer : Nat} (roomy : 0 < buffer) (content : ByteArray) :
    ReadEvent.neverFails (events { chunks := [] } buffer content) ∧
      ReadEvent.content (events { chunks := [] } buffer content) = content := by
  obtain ⟨ok, all⟩ := (fills_events roomy content).content_eq
  rw [ByteArray.extract_zero_size] at all
  exact ⟨ok, all⟩

end Schedule

end FileSearch
