import FileSearch.Proofs.Regex.Sight
import FileSearch.Proofs.Unicode.IntervalSet

/-!
# Patterns with short matches

A regular expression whose matches are no longer than `longest` is local, since the bytes up to
there and the few that a condition looks at behind them decide about each match
(`isLocal_of_short`).  So windows find in a stream what there is in the whole content if they carry
over `longest + margin` bytes (`scanStream_of_short`).  The margin is needed: `wordA` has matches of
one byte, yet windows that carry over one byte report one that is none
(`not_forall_scanStream_of_longest`).
-/

namespace FileSearch

theorem Finder.scan_of_find_eq_none {f : Finder} {h : ByteArray} (missing : f.find h 0 = none) :
    f.scan h = #[] := by
  have next : f.next h ⟨0, none⟩ = none := by simp only [Finder.next, missing]
  rw [scan, spans, firstSpans, Nat.min_self, collect, next, Array.map_empty]

namespace Regex

theorem extract_min (h : ByteArray) (i j : Nat) : h.extract i (min j h.size) = h.extract i j := by
  refine ByteArray.ext_getElem ?_ fun k _ _ => ?_
  · rw [ByteArray.size_extract, ByteArray.size_extract, Nat.min_assoc, Nat.min_self]
  · rw [ByteArray.getElem_extract, ByteArray.getElem_extract]

/-- There is a word boundary between two characters just if one of them belongs to words. -/
theorem holds_boundary_of_chars {h : ByteArray} {i b c : Nat} (inside : i < h.size)
    (before : charBefore? h i = some b) (after : charFrom? h i h.size = some c) :
    (Look.word .boundary true).holds h i = (isWordCode b != isWordCode c) := by
  have positive : i ≠ 0 := by
    rintro rfl
    cases before
  simp only [Look.holds, WordLook.holds, Regex.before, Regex.after, if_neg positive,
    if_neg (Nat.not_le.2 inside), before, after, if_true]

/-- Whether an instruction asks for the character behind its place. -/
def Inst.asksForCharacter : Inst → Bool
  | .look (.word _ true) _ => true
  | _ => false

namespace Program

/-- How many bytes more than the one behind a place the conditions of a program look at there. -/
def margin (p : Program) : Nat := if p.insts.any Inst.asksForCharacter then 3 else 0

theorem looksAhead_margin (p : Program) : p.LooksAhead p.margin := by
  intro pc next l found
  cases l with
  | word kind unicode =>
    cases unicode with
    | false => exact Nat.le_add_left 1 _
    | true =>
      have asks : p.insts.any Inst.asksForCharacter = true := by
        rw [Array.any_eq_true]
        obtain ⟨inside, here⟩ := Array.getElem?_eq_some_iff.1 found
        exact ⟨pc, inside, by rw [here]; rfl⟩
      rw [margin, if_pos asks]
      exact Nat.le_refl 4
  | textStart | lineStart => exact Nat.zero_le _
  | textEnd | lineEnd | crlfStart | crlfEnd => exact Nat.le_add_left 1 _

/-- The end of the match that begins at a place. -/
def stopAt (p : Program) (h : ByteArray) (i : Nat) : Option Nat :=
  if i ≤ h.size then p.attempt h i else none

/-- The length of the match that begins behind the bytes `before`. -/
def lengthOf (p : Program) (before after : ByteArray) : Option Nat :=
  (p.attempt (before ++ after) before.size).map (· - before.size)

/-- No match of a program is longer than `longest`. -/
def Short (p : Program) (longest : Nat) : Prop :=
  ∀ h start s, start ≤ h.size → p.search h start = some s → s.length ≤ longest

variable {p : Program} {h : ByteArray} {longest : Nat}

theorem le_of_attempt {i e : Nat} (inside : i ≤ h.size) (ends : p.attempt h i = some e) :
    i ≤ e ∧ e ≤ h.size :=
  explore_within (.singleton (Nat.le_refl i) inside) ends

section

variable (laid : p.WellLaid)

include laid

/-- A search finds the attempt that succeeds at the place where it begins. -/
theorem search_of_attempt {i e : Nat} (inside : i ≤ h.size) (ends : p.attempt h i = some e) :
    p.search h i = some ⟨i, e⟩ := by
  rw [search_eq laid inside, Finder.firstFrom_eq_some_iff]
  exact ⟨Nat.le_refl i, by show i < _; omega, ends,
    fun q le lt => absurd le (Nat.not_le.2 lt)⟩

theorem Short.attempt_le (short : p.Short longest) {i e : Nat} (inside : i ≤ h.size)
    (ends : p.attempt h i = some e) : e ≤ i + longest := by
  have length : e - i ≤ longest := short h i _ inside (search_of_attempt laid inside ends)
  omega

/-- A few bytes before and behind a place decide about the match there. -/
theorem Short.stopWithin_eq (short : p.Short longest) {i : Nat} (inside : i ≤ h.size) :
    Finder.stopWithin (longest + 1 + p.margin) p.lengthOf h i = p.attempt h i := by
  have four : lookBehind = 4 := rfl
  let stop := min (i + (longest + 1 + p.margin)) h.size
  have within : stop ≤ h.size := Nat.min_le_right _ _
  have whole : h.extract (i - lookBehind) i ++ h.extract i (i + (longest + 1 + p.margin)) =
      h.extract (i - lookBehind) stop := by
    rw [← extract_min h i (i + (longest + 1 + p.margin)),
      ← ByteArray.extract_eq_extract_append_extract i (by omega) (by omega)]
  have view : Regex.View h (h.extract (i - lookBehind) stop) (i - lookBehind) i stop :=
    ⟨rfl, by omega, by omega, within⟩
  have size := view.size_eq
  have before : (h.extract (i - lookBehind) i).size = i - (i - lookBehind) := by
    rw [ByteArray.size_extract, Nat.min_eq_left inside]
  have ends := attempt_eq laid p.looksAhead_margin view (Nat.sub_le _ _) (by omega)
    (Nat.le_add_right i longest) (by omega) (fun e => short.attempt_le laid inside)
    (fun e ends => by
      have := short.attempt_le laid (by omega) ends
      omega)
  unfold Finder.stopWithin lengthOf
  rw [if_pos inside, whole, before, ends, Option.map_map]
  cases found : p.attempt (h.extract (i - lookBehind) stop) (i - (i - lookBehind)) with
  | none => rfl
  | some e =>
    have later := (le_of_attempt (by omega) found).1
    show some (i + (e - (i - (i - lookBehind)))) = some (e + (i - lookBehind))
    congr 1
    omega

end

end Program

end Regex

namespace Pattern

variable {p : Pattern} {program : Regex.Program}

/-- A regular expression finds the match that begins first. -/
theorem findsFirst_of_regex (hp : p.strategy = .regex program) (laid : program.WellLaid) :
    p.finder.FindsFirst program.stopAt := by
  intro h start s
  change p.findAt h start = some s ↔ _
  simp only [findAt, hp]
  by_cases beyond : h.size < start
  · rw [if_pos beyond]
    constructor
    · intro none
      cases none
    · rintro ⟨le, stop, -⟩
      have := (Option.ite_none_right_eq_some.1 stop).1
      omega
  · have inside : start ≤ h.size := Nat.le_of_not_lt beyond
    rw [if_neg beyond, program.search_eq laid inside, Finder.firstFrom_eq_some_iff]
    constructor
    · rintro ⟨le, lt, stop, first⟩
      refine ⟨le, ?_, fun q hq hqs => ?_⟩
      · rwa [Regex.Program.stopAt, if_pos (by omega)]
      · rw [Regex.Program.stopAt, if_pos (by omega)]
        exact first q hq hqs
    · rintro ⟨le, stop, first⟩
      obtain ⟨here, stop⟩ := Option.ite_none_right_eq_some.1 stop
      refine ⟨le, by omega, stop, fun q hq hqs => ?_⟩
      have none_here := first q hq hqs
      rwa [Regex.Program.stopAt, if_pos (by omega)] at none_here

/-- A regular expression with short matches is local. -/
theorem isLocal_of_short (hp : p.strategy = .regex program) (laid : program.WellLaid)
    {longest : Nat} (short : program.Short longest) :
    p.finder.IsLocal (longest + 1 + program.margin) program.lengthOf where
  findsFirst := by
    have same : Finder.stopWithin (longest + 1 + program.margin) program.lengthOf =
        program.stopAt := by
      funext h i
      by_cases inside : i ≤ h.size
      · rw [short.stopWithin_eq laid inside, Regex.Program.stopAt, if_pos inside]
      · rw [Finder.stopWithin, Regex.Program.stopAt, if_neg inside, if_neg inside]
    rw [same]
    exact findsFirst_of_regex hp laid
  length_le := by
    intro before after n hn
    unfold Regex.Program.lengthOf at hn
    obtain ⟨e, ends, rfl⟩ := Option.map_eq_some_iff.1 hn
    have inside : before.size ≤ (before ++ after).size := by
      rw [ByteArray.size_append]
      exact Nat.le_add_right _ _
    have := short.attempt_le laid inside ends
    omega

/-- The conditions of a pattern look at most so many bytes beyond the one behind their place. -/
def margin (p : Pattern) : Nat :=
  match p.strategy with
  | .literal _ => 0
  | .regex program => program.margin

/-- What a pattern is compiled to is laid out well. -/
theorem wellLaid_of_compile {text : String} {options : PatternOptions}
    (compiled : compile text options = .ok p) (hp : p.strategy = .regex program) :
    program.WellLaid := by
  unfold compile at compiled
  split at compiled
  · cases compiled
  · split at compiled
    · obtain rfl := Except.ok.inj compiled
      cases hp
    · simp only at compiled
      split at compiled
      · rename_i program' found
        obtain rfl := Except.ok.inj compiled
        obtain rfl := Strategy.regex.inj hp
        unfold Regex.compile at found
        cases meant : Regex.meaning (modes options) _ with
        | error e => rw [meant] at found; cases found
        | ok e =>
          rw [meant] at found
          obtain rfl := Except.ok.inj found
          exact Regex.Program.wellLaid_ofExpr e
      · cases compiled

/-- However a stream is cut into reads, windows find in it what there is in the whole content if
they carry over as many bytes as the longest match has, and those that the conditions of the pattern
look at beyond the byte behind it. -/
theorem scanStream_of_short {text : String} {options : PatternOptions}
    (compiled : compile text options = .ok p) {longest overlap : Nat}
    (short : ∀ h start s, p.findAt h start = some s → s.length ≤ longest)
    (room : longest + p.margin ≤ overlap) {events : List ReadEvent}
    (ok : ReadEvent.neverFails events) :
    ∃ scan, p.finder.scanStream overlap none events = .ok scan ∧
      scan.found = p.finder.scan (ReadEvent.content events) := by
  have scans {reach : Nat} {lengthOf : ByteArray → ByteArray → Option Nat}
      (isLocal : p.finder.IsLocal reach lengthOf) (carried : reach ≤ p.finder.overlap overlap + 1) :
      ∃ scan, p.finder.scanStream overlap none events = .ok scan ∧
        scan.found = p.finder.scan (ReadEvent.content events) := by
    obtain ⟨scan, runs, found, -⟩ := Finder.scanStream_of_isLocal isLocal carried none ok
    exact ⟨scan, runs, congrArg Prod.fst found⟩
  rcases hp : p.strategy with needle | program
  · exact scans (isLocal_of_literal hp) (Nat.le_succ_of_le (overlap_of_literal hp overlap))
  · have laid := wellLaid_of_compile compiled hp
    have short : program.Short longest := by
      intro h start s inside found
      refine short h start s ?_
      simp only [findAt, hp, if_neg (Nat.not_lt.2 inside)]
      exact found
    refine scans (isLocal_of_short hp laid short) ?_
    have carried : overlap ≤ p.finder.overlap overlap := by
      simp only [Finder.overlap, finder, maxLength, hp, Option.getD_none]
      exact Nat.le_max_left _ _
    have margin : p.margin = program.margin := by simp only [Pattern.margin, hp]
    omega

/-! ## A pattern that looks at the character behind its match -/

/-- The pattern `a\b`. -/
def wordA : Pattern :=
  ⟨"a\\b", .regex ⟨#[.byte 0x61 1, .look (.word .boundary true) 2, .accept]⟩⟩

set_option maxRecDepth 100000 in
theorem compile_wordA : compile "a\\b" {} = .ok wordA := rfl

/-- The end of the match of `a\b` at a place. -/
def wordAStop (h : ByteArray) (i : Nat) : Option Nat :=
  if h[i]? == some 0x61 && (Regex.Look.word .boundary true).holds h (i + 1) then some (i + 1)
  else none

theorem explore_wordA (h : ByteArray) {fuel : Nat} (enough : 4 ≤ fuel) (i : Nat)
    (tried : Regex.Tried) :
    Regex.Program.explore ⟨#[.byte 0x61 1, .look (.word .boundary true) 2, .accept]⟩ h fuel
      [(0, i)] tried = (wordAStop h i, tried) := by
  obtain ⟨fuel, rfl⟩ := Nat.exists_eq_add_of_le' enough
  by_cases byte : h[i]? = some 0x61
  · by_cases look : (Regex.Look.word .boundary true).holds h (i + 1)
    · simp [Regex.Program.explore, wordAStop, look, byte]
    · simp [Regex.Program.explore, wordAStop, look, byte]
  · simp [Regex.Program.explore, wordAStop, byte]

theorem findAt_wordA {h : ByteArray} {start : Nat} (inside : start ≤ h.size) :
    wordA.findAt h start = Finder.firstFrom (wordAStop h) (h.size + 1 - start) start := by
  rw [findAt, if_neg (Nat.not_lt.2 inside)]
  refine searchFrom_eq_firstFrom (explore_wordA h ?_) _ _ _
  unfold Regex.Program.stepBound
  simp only [List.size_toArray, List.length_cons, List.length_nil]
  omega

theorem length_wordA (h : ByteArray) (start : Nat) (s : Span)
    (found : wordA.findAt h start = some s) : s.length ≤ 1 := by
  by_cases inside : start ≤ h.size
  · rw [findAt_wordA inside, Finder.firstFrom_eq_some_iff] at found
    obtain ⟨-, -, stop, -⟩ := found
    have here : s.start + 1 = s.stop :=
      Option.some.inj (Option.ite_none_right_eq_some.1 stop).2
    unfold Span.length
    omega
  · rw [findAt, if_pos (Nat.lt_of_not_le inside)] at found
    cases found

/-- The word `xa‿`, whose last character connects words. -/
def tie : ByteArray := ⟨#[0x78, 0x61, 0xE2, 0x80, 0xBF]⟩

/-- Reads of the word, the first of which ends within its last character. -/
def tieReads : List ReadEvent := [.bytes ⟨#[0x78, 0x61, 0xE2]⟩, .bytes ⟨#[0x80, 0xBF]⟩]

theorem wordChars_tie : Unicode.wordChars.contains 0x203F = true := by
  have connector : (Unicode.category "pc").contains 0x203F = true := by decide +kernel
  refine Unicode.IntervalSet.contains_unions ?_ connector
  exact List.mem_cons_of_mem _ (List.mem_cons_of_mem _ (List.mem_cons_of_mem _ List.mem_cons_self))

theorem isWordCode_tie : Regex.isWordCode 0x203F = true := by
  rw [Regex.isWordCode, if_neg (by decide), wordChars_tie]

theorem holds_tie : (Regex.Look.word .boundary true).holds tie 2 = false := by
  have letter : Regex.charBefore? tie 2 = some 0x61 := by decide
  have connector : Regex.charFrom? tie 2 tie.size = some 0x203F := by decide
  have word : Regex.isWordCode 0x61 = true := by decide
  rw [Regex.holds_boundary_of_chars (by decide) letter connector, word, isWordCode_tie]
  decide

theorem findAt_tie : wordA.findAt tie 0 = none := by
  rw [findAt_wordA (Nat.zero_le _)]
  cases found : Finder.firstFrom (wordAStop tie) (tie.size + 1 - 0) 0 with
  | none => rfl
  | some s =>
    obtain ⟨-, lt, stop, -⟩ := Finder.firstFrom_eq_some_iff.1 found
    obtain ⟨here, boundary⟩ :=
      Bool.and_eq_true_iff.1 (Option.ite_none_right_eq_some.1 stop).1
    have only : ∀ i < 6, tie[i]? = some 0x61 → i = 1 := by decide
    rw [only s.start lt (beq_iff_eq.1 here), holds_tie] at boundary
    cases boundary

theorem scan_tie : wordA.finder.scan tie = #[] := Finder.scan_of_find_eq_none findAt_tie

theorem scanStream_of_short_tie :
    compile "a\\b" {} = .ok wordA ∧
      (∀ h start s, wordA.findAt h start = some s → s.length ≤ 1) ∧ 1 + wordA.margin ≤ 4 ∧
        ReadEvent.neverFails tieReads ∧
          ∃ scan, wordA.finder.scanStream 4 none tieReads = .ok scan ∧ scan.found = #[] := by
  have margin : 1 + wordA.margin ≤ 4 := by decide +kernel
  obtain ⟨scan, runs, found⟩ := scanStream_of_short compile_wordA length_wordA margin
    (show ReadEvent.neverFails tieReads by decide)
  exact ⟨compile_wordA, length_wordA, margin, by decide, scan, runs, found.trans scan_tie⟩

/-- An overlap of the length of the longest match is not enough: where a window ends within the
character behind a match, the place there looks like the end of a word. -/
theorem not_forall_scanStream_of_longest :
    ¬ ∀ (text : String) (options : PatternOptions) (p : Pattern) (overlap : Nat),
      compile text options = .ok p → 1 ≤ overlap →
        (∀ h start s, p.findAt h start = some s → s.length ≤ overlap) →
          ∀ events, ReadEvent.neverFails events →
            ∃ scan, p.finder.scanStream overlap none events = .ok scan ∧
              scan.found = p.finder.scan (ReadEvent.content events) := by
  intro all
  obtain ⟨scan, runs, found⟩ := all "a\\b" {} wordA 1 compile_wordA (Nat.le_refl 1) length_wordA
    tieReads (by decide)
  have reported : (wordA.finder.scanStream 1 none tieReads).map (·.found) =
      .ok #[.new 1 ⟨#[0x61]⟩] := by decide +kernel
  rw [runs] at reported
  have content : ReadEvent.content tieReads = tie := by decide
  rw [content, scan_tie] at found
  cases found.symm.trans (Except.ok.inj reported)

end Pattern

end FileSearch
