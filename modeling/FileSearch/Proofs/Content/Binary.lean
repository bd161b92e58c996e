import FileSearch.Content.Binary
import FileSearch.Proofs.Text.Decoding
import FileSearch.Search.Examiner

/-!
# What counts as suspicious

The number of suspicious bytes is that of the control characters and the stray bytes, in the sense
of `Utf8.Marked`, and no byte is both (`suspicious_counts_once`).  A text has no stray bytes, and
neither have its first bytes, even if they end within a character, so that looking at the front of a
text only does not make it binary (`suspicious_take_text`).
-/

namespace FileSearch.Content

open Utf8

variable {b : UInt8} {bs rest : List UInt8} {marks : List Mark}

/-! ## Control characters and stray bytes -/

theorem toNat_lt_of_isSuspiciousControl (control : isSuspiciousControl b = true) :
    b.toNat < 0x80 := by
  rw [isSuspiciousControl, Bool.or_eq_true, Bool.and_eq_true, decide_eq_true_iff,
    beq_iff_eq] at control
  rcases control with ⟨low, -⟩ | rfl
  · exact Nat.lt_trans (UInt8.lt_iff_toNat_lt.1 low) (by decide)
  · decide

/-- Stray bytes are none of the low ones, each of which is a character. -/
theorem le_toNat_of_stray (marked : Marked bs marks) :
    ∀ p ∈ bs.zip marks, p.2 = .stray → 0x80 ≤ p.1.toNat := by
  have other {m : Mark} {as : List UInt8} {k : Nat} (differs : m ≠ .stray) (p : UInt8 × Mark)
      (mem : p ∈ as.zip (List.replicate k m)) : p.2 ≠ .stray :=
    List.eq_of_mem_replicate (List.of_mem_zip mem).2 ▸ differs
  induction marked with
  | nil => simp
  | character d _ ih =>
    intro p mem stray
    rw [List.zip_append List.length_replicate.symm, List.mem_append] at mem
    rcases mem with mem | mem
    · exact absurd stray (other (by decide) p mem)
    · exact ih p mem stray
  | cutOff cut => exact fun p mem stray => absurd stray (other (by decide) p mem)
  | stray none full _ ih =>
    rw [List.zip_cons_cons, List.forall_mem_cons]
    refine ⟨fun _ => Nat.le_of_not_lt fun low => ?_, ih⟩
    obtain ⟨d, -, encoded⟩ := (CharBytes.one low).exists_encode
    exact none d (encoded ▸ ⟨_, rfl⟩)

/-- No byte is suspicious for two reasons. -/
theorem not_control_and_stray (marked : Marked bs marks) :
    ∀ p ∈ bs.zip marks, ¬ (isSuspiciousControl p.1 = true ∧ p.2 = .stray) := by
  rintro p mem ⟨control, stray⟩
  have low := toNat_lt_of_isSuspiciousControl control
  have high := le_toNat_of_stray marked p mem stray
  omega

theorem suspicious_eq (bs : List UInt8) :
    suspicious bs = bs.countP isSuspiciousControl + (Utf8.marks bs).count .stray := by
  have piece (f : Front) : f.marks.count .stray = strayBytes f := by
    cases f with
    | invalid n => exact List.count_replicate_self
    | char c n => exact List.count_replicate.trans (if_neg (by decide))
    | cut n => exact List.count_replicate.trans (if_neg (by decide))
  have pieces : (List.count Mark.stray ∘ Front.marks) = strayBytes := funext piece
  rw [suspicious, Utf8.marks, List.count_flatMap, pieces]
  rfl

/-! ## Counting -/

/-- The number of bytes that are suspicious control characters or stray, by their marks. -/
def badBytes (bs : List UInt8) (marks : List Mark) : Nat :=
  (bs.zip marks).countP fun p => isSuspiciousControl p.1 || p.2 == .stray

theorem countP_or_of_disjoint {α : Type} {p q : α → Bool} {l : List α}
    (disjoint : ∀ a ∈ l, p a = true → q a = false) :
    (l.countP fun a => p a || q a) = l.countP p + l.countP q := by
  induction l with
  | nil => rfl
  | cons a l ih =>
    rw [List.forall_mem_cons] at disjoint
    have head := disjoint.1
    rw [List.countP_cons, List.countP_cons, List.countP_cons, ih disjoint.2]
    by_cases both : p a = true
    · simp [both, head both]
      omega
    · simp [both]
      omega

theorem badBytes_eq (marked : Marked bs marks) :
    badBytes bs marks = bs.countP isSuspiciousControl + marks.count .stray := by
  have length := marked.length_eq
  have disjoint : ∀ p ∈ bs.zip marks, isSuspiciousControl p.1 = true → (p.2 == .stray) = false := by
    intro p mem control
    rw [beq_eq_false_iff_ne]
    exact fun stray => not_control_and_stray marked p mem ⟨control, stray⟩
  have bytes : (bs.zip marks).map Prod.fst = bs := List.map_fst_zip (Nat.le_of_eq length.symm)
  have kinds : (bs.zip marks).map Prod.snd = marks := List.map_snd_zip (Nat.le_of_eq length)
  calc badBytes bs marks
      = (bs.zip marks).countP (isSuspiciousControl ∘ Prod.fst) +
          (bs.zip marks).countP ((· == Mark.stray) ∘ Prod.snd) := countP_or_of_disjoint disjoint
    _ = bs.countP isSuspiciousControl + marks.count .stray := by
        rw [← List.countP_map, ← List.countP_map, bytes, kinds]
        rfl

/-- What is suspicious of bytes.  Some marks are those of reading the bytes from left to right, and
no others are.  The suspicious bytes are the control characters and the stray bytes by these marks;
none is both, so that each is counted once.  Checking the bytes for being a text, again behind each
fault, ends and finds as many stray bytes. -/
structure CountsOnce (bs : List UInt8) (marks : List Mark) : Prop where
  marked : Marked bs marks
  unique : ∀ others, Marked bs others → others = marks
  length : marks.length = bs.length
  sum : suspicious bs = bs.countP isSuspiciousControl + marks.count .stray
  disjoint : ∀ p ∈ bs.zip marks, ¬ (isSuspiciousControl p.1 = true ∧ p.2 = .stray)
  once : suspicious bs = badBytes bs marks
  le : suspicious bs ≤ bs.length
  ends : ∃ n, Rechecked bs n
  rechecked : ∀ n, Rechecked bs n → suspicious bs = bs.countP isSuspiciousControl + n

theorem countsOnce (bs : List UInt8) : CountsOnce bs (Utf8.marks bs) := by
  have marked := marked_marks bs
  have once : suspicious bs = badBytes bs (Utf8.marks bs) := by
    rw [suspicious_eq, badBytes_eq marked]
  refine {
    marked, once
    unique := fun _ => Marked.eq_marks
    length := marked.length_eq
    sum := suspicious_eq bs
    disjoint := not_control_and_stray marked
    le := ?_
    ends := exists_rechecked bs
    rechecked := fun n checked => by rw [suspicious_eq, ← checked.eq_count] }
  calc suspicious bs = badBytes bs (Utf8.marks bs) := once
    _ ≤ (bs.zip (Utf8.marks bs)).length := List.countP_le_length
    _ ≤ bs.length := by rw [List.length_zip]; exact Nat.min_le_left _ _

theorem suspicious_encodeAll_append (t : List Char) (rest : List UInt8) :
    suspicious (encodeAll t ++ rest) =
      (encodeAll t).countP isSuspiciousControl + suspicious rest := by
  rw [suspicious_eq, suspicious_eq, count_marks_encodeAll, List.countP_append, Nat.add_assoc]

theorem looksBinary_iff (bs : List UInt8) :
    looksBinary bs = true ↔
      0 ∈ bs ∨ pdfSignature <+: bs ∨ 30 * bs.length < 100 * suspicious bs := by
  rw [looksBinary, Bool.or_eq_true, Bool.or_eq_true, List.contains_iff_mem,
    List.isPrefixOf_iff_prefix, decide_eq_true_iff, or_assoc, suspiciousShare, Nat.mul_comm 30,
    Nat.mul_comm 100]

/-- Each suspicious byte is counted once.  Bytes are binary if one of them is zero, if they begin
like a PDF file, or if more than 30 in a hundred of them are so counted.  A text in front of bytes
adds its control characters to what is suspicious of them. -/
theorem suspicious_counts_once (bs : List UInt8) :
    (∃ marks, CountsOnce bs marks ∧
      (looksBinary bs = true ↔
        0 ∈ bs ∨ pdfSignature <+: bs ∨ 30 * bs.length < 100 * badBytes bs marks)) ∧
      ∀ (t : List Char) (rest : List UInt8), suspicious (encodeAll t ++ rest) =
        (encodeAll t).countP isSuspiciousControl + suspicious rest := by
  have counts := countsOnce bs
  refine ⟨⟨_, counts, ?_⟩, suspicious_encodeAll_append⟩
  rw [← counts.once]
  exact looksBinary_iff bs

/-! ## The beginning of a text -/

theorem suspicious_take (t : List Char) (k : Nat) :
    suspicious ((encodeAll t).take k) = ((encodeAll t).take k).countP isSuspiciousControl := by
  rw [suspicious_eq, count_marks_take, Nat.add_zero]

theorem toList_extract_zero (content : ByteArray) (k : Nat) :
    (content.extract 0 k).data.toList = content.data.toList.take k := by
  rw [ByteArray.data_extract, Array.toList_extract, List.extract_eq_take_drop, List.drop_zero,
    Nat.sub_zero]

theorem looksBinary_take {t : List Char} (noZero : 0 ∉ encodeAll t)
    (noSignature : ¬ pdfSignature <+: encodeAll t)
    (noControl : ∀ b ∈ encodeAll t, isSuspiciousControl b = false) (k : Nat) :
    looksBinary ((encodeAll t).take k) = false := by
  have clean : suspicious ((encodeAll t).take k) = 0 := by
    rw [suspicious_take, List.countP_eq_zero]
    intro b mem
    rw [noControl b (List.mem_of_mem_take mem)]
    exact Bool.false_ne_true
  rw [← Bool.not_eq_true, looksBinary_iff, clean]
  rintro (zero | signature | many)
  · exact noZero (List.mem_of_mem_take zero)
  · exact noSignature (signature.trans (List.take_prefix _ _))
  · omega

theorem isBinary_extract {content : ByteArray} {t : List Char}
    (encoded : content.data.toList = encodeAll t) (noZero : 0 ∉ encodeAll t)
    (noSignature : ¬ pdfSignature <+: encodeAll t)
    (noControl : ∀ b ∈ encodeAll t, isSuspiciousControl b = false) (path : Path) (k : Nat) :
    (Examiner.classifyContent path (content.extract 0 k)).isBinary = false := by
  rw [Examiner.classifyContent, sample, toList_extract_zero, toList_extract_zero, List.take_take,
    encoded]
  exact looksBinary_take noZero noSignature noControl _

/-- Of the first bytes of a text only control characters are suspicious, wherever they end.  So a
text without such characters that does not begin like a PDF file is not taken for binary, nor is
what a file holds that ends within the text. -/
theorem suspicious_take_text (text : String) (k : Nat) :
    let bytes := text.toUTF8.data.toList
    suspicious (bytes.take k) = (bytes.take k).countP isSuspiciousControl ∧
      (0 ∉ bytes → ¬ pdfSignature <+: bytes → (∀ b ∈ bytes, isSuspiciousControl b = false) →
        looksBinary (bytes.take k) = false ∧
          ∀ path, (Examiner.classifyContent path (text.toUTF8.extract 0 k)).isBinary = false) := by
  have encoded := toList_toUTF8 text
  intro bytes
  have same : bytes = encodeAll text.toList := encoded
  constructor
  · rw [same]
    exact suspicious_take _ k
  · intro noZero noSignature noControl
    rw [same] at noZero noSignature noControl
    constructor
    · rw [same]
      exact looksBinary_take noZero noSignature noControl k
    · exact fun path => isBinary_extract encoded noZero noSignature noControl path k

/-- The text `a日` without its last byte, which stands within the character. -/
theorem suspicious_take_text_within :
    let bytes := "a日".toUTF8.data.toList
    (0 ∉ bytes ∧ ¬ pdfSignature <+: bytes ∧ ∀ b ∈ bytes, isSuspiciousControl b = false) ∧
      bytes.take 3 = [0x61, 0xE6, 0x97] ∧ looksBinary (bytes.take 3) = false := by
  intro bytes
  have value : bytes = [0x61, 0xE6, 0x97, 0xA5] := by decide
  have noZero : 0 ∉ bytes := by rw [value]; decide
  have noSignature : ¬ pdfSignature <+: bytes := by rw [value]; decide
  have noControl : ∀ b ∈ bytes, isSuspiciousControl b = false := by
    have all : bytes.all (isSuspiciousControl · == false) = true := by rw [value]; decide
    exact fun b mem => eq_of_beq (List.all_eq_true.1 all b mem)
  obtain ⟨-, front⟩ := suspicious_take_text "a日" 3
  exact ⟨⟨noZero, noSignature, noControl⟩, by rw [value]; rfl,
    (front noZero noSignature noControl).1⟩

end FileSearch.Content
