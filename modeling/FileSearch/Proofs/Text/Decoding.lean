import FileSearch.Proofs.Text.Front

/-!
# Decoding from left to right

`Marked` reads bytes from left to right and says of each of them whether it belongs to a character,
to one that the end cuts off, or to none.  It speaks of `encode` only and takes bytes that begin no
character one by one.  The pieces that `fronts` cuts bytes into come to the same marks
(`Marked.eq_marks`, `marked_marks`), although a piece that is no character may have up to three
bytes: those behind the first one continue characters and begin none.

`Rechecked` counts the bytes that belong to nothing in another way: check how far the bytes are
text, pass over what is at fault there and check what is left, over and over.  That count is the
number of stray marks (`Rechecked.eq_count`), and there always is one (`exists_rechecked`).
-/

namespace FileSearch.Utf8

variable {b : UInt8} {bs seen rest : List UInt8} {n : Nat}

/-! ## The pieces from left to right -/

theorem frontsFrom_eq (n : Nat) (bs : List UInt8) (acc : Array Front) :
    (frontsFrom n bs acc).toList = acc.toList ++ fronts (bs.drop n) := by
  induction bs generalizing n acc with
  | nil => simp [fronts, frontsFrom]
  | cons b rest ih =>
    cases n with
    | zero => simp [fronts, frontsFrom, ih]
    | succ n => exact ih n acc

theorem fronts_cons (b : UInt8) (rest : List UInt8) :
    fronts (b :: rest) = frontOf b rest :: fronts (rest.drop ((frontOf b rest).length - 1)) := by
  rw [fronts, frontsFrom, frontsFrom_eq]
  rfl

/-! ## Marks -/

/-- What a byte belongs to. -/
inductive Mark where
  | character
  | cutOff
  | stray
  deriving DecidableEq, Repr

/-- The marks of bytes that are read from left to right.  A byte at which no character begins,
although there are bytes enough, is stray, and reading goes on with the next one. -/
inductive Marked : List UInt8 → List Mark → Prop where
  | nil : Marked [] []
  | character (d : Char) {rest : List UInt8} {marks : List Mark} : Marked rest marks →
    Marked (encode d ++ rest) (List.replicate (encode d).length .character ++ marks)
  | cutOff {bs : List UInt8} : CutOff bs → Marked bs (List.replicate bs.length .cutOff)
  | stray {b : UInt8} {rest : List UInt8} {marks : List Mark} :
    (∀ d, ¬ encode d <+: b :: rest) → ¬ CutOff (b :: rest) → Marked rest marks →
      Marked (b :: rest) (.stray :: marks)

/-- The marks of the bytes of a piece. -/
def Front.marks : Front → List Mark
  | .char _ n => List.replicate n .character
  | .invalid n => List.replicate n .stray
  | .cut n => List.replicate n .cutOff

/-- The marks of bytes by their pieces. -/
def marks (bs : List UInt8) : List Mark := (fronts bs).flatMap Front.marks

theorem marks_cons (b : UInt8) (rest : List UInt8) :
    marks (b :: rest) =
      (frontOf b rest).marks ++ marks (rest.drop ((frontOf b rest).length - 1)) := by
  rw [marks, fronts_cons, List.flatMap_cons]
  rfl

theorem marks_encode (d : Char) (rest : List UInt8) :
    marks (encode d ++ rest) = List.replicate (encode d).length .character ++ marks rest := by
  obtain ⟨b, bs, encoded, read⟩ := encode_cons d rest
  rw [encoded, List.cons_append, marks_cons, read]
  show _ ++ marks ((bs ++ rest).drop bs.length) = _
  rw [List.drop_left]
  rfl

theorem marks_of_cutOff (cut : CutOff bs) : marks bs = List.replicate bs.length .cutOff := by
  obtain ⟨b, rest, rfl⟩ := List.exists_cons_of_ne_nil cut.1
  rw [marks_cons, frontOf_eq_cut_iff.2 ⟨cut, rfl⟩]
  show _ ++ marks (rest.drop rest.length) = _
  rw [List.drop_length]
  exact List.append_nil _

/-- Bytes that continue characters belong to nothing if none stands before them. -/
theorem marks_continuation (continues : isContinuation b.toNat = true) :
    marks (b :: rest) = .stray :: marks rest := by
  rw [marks_cons, (Shows.stray (width_of_isContinuation continues)).frontOf_eq]
  rfl

theorem marks_continuations (continues : ∀ x ∈ seen, isContinuation x.toNat = true) :
    marks (seen ++ rest) = List.replicate seen.length .stray ++ marks rest := by
  induction seen with
  | nil => rfl
  | cons x seen ih =>
    rw [List.forall_mem_cons] at continues
    rw [List.cons_append, marks_continuation continues.1, ih continues.2]
    rfl

/-- What is no character is passed over byte by byte. -/
theorem marks_stray (none : ∀ d, ¬ encode d <+: b :: rest) (full : ¬ CutOff (b :: rest)) :
    marks (b :: rest) = .stray :: marks rest := by
  cases read : frontOf b rest with
  | char c n =>
    obtain ⟨d, -, -, front⟩ := frontOf_eq_char_iff.1 read
    exact absurd front (none d)
  | cut n => exact absurd (frontOf_eq_cut_iff.1 read).1 full
  | invalid n =>
    have seen := shows_frontOf b rest
    rw [marks_cons, read]
    rw [read] at seen
    cases seen with
    | stray => rfl
    | @broken seen more x open_ next =>
      show _ ++ marks ((seen ++ x :: more).drop seen.length) = _
      rw [List.drop_left, marks_continuations open_.continues]
      rfl

theorem Marked.eq_marks {ms : List Mark} (marked : Marked bs ms) : ms = marks bs := by
  induction marked with
  | nil => rfl
  | character d _ ih => rw [marks_encode, ih]
  | cutOff cut => rw [marks_of_cutOff cut]
  | stray none full _ ih => rw [marks_stray none full, ih]

theorem encode_ne_nil (d : Char) : encode d ≠ [] := by
  obtain ⟨b, bs, encoded, -⟩ := encode_cons d []
  rw [encoded]
  exact List.cons_ne_nil b bs

theorem marked_marks : ∀ bs : List UInt8, Marked bs (marks bs)
  | [] => .nil
  | b :: rest => by
    by_cases char : ∃ d, encode d <+: b :: rest
    · obtain ⟨d, tail, all⟩ := char
      have shorter : tail.length < (b :: rest).length := by
        have := List.length_pos_iff.2 (encode_ne_nil d)
        rw [← all, List.length_append]
        omega
      rw [← all, marks_encode]
      exact .character d (marked_marks tail)
    · have none := not_exists.1 char
      by_cases cut : CutOff (b :: rest)
      · rw [marks_of_cutOff cut]
        exact .cutOff cut
      · rw [marks_stray none cut]
        exact .stray none cut (marked_marks rest)
termination_by bs => bs.length
decreasing_by
  · exact shorter
  · exact Nat.lt_succ_self _

theorem Marked.length_eq {ms : List Mark} (marked : Marked bs ms) : ms.length = bs.length := by
  induction marked with
  | nil => rfl
  | character d _ ih => rw [List.length_append, List.length_replicate, ih, List.length_append]
  | cutOff cut => exact List.length_replicate
  | stray _ _ _ ih => rw [List.length_cons, ih, List.length_cons]

theorem encodeAll_cons (d : Char) (t : List Char) : encodeAll (d :: t) = encode d ++ encodeAll t :=
  List.flatMap_cons

theorem marks_encodeAll (t : List Char) (rest : List UInt8) :
    marks (encodeAll t ++ rest) =
      List.replicate (encodeAll t).length .character ++ marks rest := by
  induction t with
  | nil => rfl
  | cons d t ih =>
    rw [encodeAll_cons, List.append_assoc, marks_encode, ih, List.length_append,
      ← List.replicate_append_replicate, List.append_assoc]

/-! ## Checking again behind each fault -/

/-- Bytes that go on after a text, but not with a character, are at fault as far as they are the
first ones of a character, and at least the first one is. -/
structure Fault (rest : List UInt8) (n : Nat) : Prop where
  pos : 0 < n
  le : n ≤ rest.length
  noCharacter : ∀ d, ¬ encode d <+: rest
  opens : n = 1 ∨ CutOff (rest.take n)
  ends : ∀ d, ¬ rest.take (n + 1) <+: encode d

/-- Bytes are checked for being a text, then what follows the first fault, and so on until they are,
or are cut off by the end; `n` bytes are at fault in all. -/
inductive Rechecked : List UInt8 → Nat → Prop where
  | text (t : List Char) : Rechecked (encodeAll t) 0
  | cutOff (t : List Char) {rest : List UInt8} : CutOff rest → Rechecked (encodeAll t ++ rest) 0
  | fault (t : List Char) {rest : List UInt8} {n m : Nat} : Fault rest n →
    Rechecked (rest.drop n) m → Rechecked (encodeAll t ++ rest) (n + m)

theorem front_ne_invalid {d : Char} (front : b :: rest <+: encode d) :
    frontOf b rest ≠ .invalid n := by
  by_cases all : b :: rest = encode d
  · rw [frontOf_eq_char_iff.2 ⟨d, rfl, rfl, all ▸ List.prefix_rfl⟩]
    exact Front.noConfusion
  · rw [frontOf_eq_cut_iff.2 ⟨⟨List.cons_ne_nil _ _, d, front, all⟩, rfl⟩]
    exact Front.noConfusion

theorem fault_of_front (read : frontOf b rest = .invalid n) : Fault (b :: rest) n := by
  have noCharacter (d : Char) (front : encode d <+: b :: rest) : False := by
    rw [frontOf_eq_char_iff.2 ⟨d, rfl, rfl, front⟩] at read
    cases read
  have seen := shows_frontOf b rest
  rw [read] at seen
  cases seen with
  | stray none =>
    refine ⟨Nat.one_pos, by simp, noCharacter, .inl rfl, fun d front => ?_⟩
    exact front_ne_invalid front (Shows.stray none).frontOf_eq
  | @broken seen more x open_ next =>
    have broken : frontOf b (seen ++ [x]) = .invalid (seen.length + 1) :=
      (Shows.broken seen open_ next).frontOf_eq
    refine ⟨by omega, by simp, noCharacter, .inr ?_, fun d front => ?_⟩
    · rw [List.take_succ_cons, List.take_left]
      exact open_.cutOff
    · have shown : (b :: (seen ++ x :: more)).take (seen.length + 1 + 1) = b :: (seen ++ [x]) := by
        rw [List.take_succ_cons, List.take_length_add_append]
        rfl
      rw [shown] at front
      exact front_ne_invalid front broken

theorem Fault.front_eq (fault : Fault (b :: rest) n) : frontOf b rest = .invalid n := by
  have pos := fault.pos
  have seen := shows_frontOf b rest
  generalize frontOf b rest = f at seen
  -- Bytes that open a character are answered with a cut.
  have notCut {t : List UInt8} {m : Nat} (shown : Shows b t (.invalid m)) : ¬ CutOff (b :: t) := by
    intro cut
    have read := frontOf_eq_cut_iff.2 ⟨cut, rfl⟩
    rw [shown.frontOf_eq] at read
    cases read
  cases seen with
  | char bytes front =>
    obtain ⟨d, -, encoded⟩ := bytes.exists_encode
    exact absurd (encoded ▸ front) (fault.noCharacter d)
  | cut open_ =>
    obtain ⟨-, d, front, -⟩ := open_.cutOff
    exact absurd ((List.take_prefix _ _).trans front) (fault.ends d)
  | stray none =>
    rcases fault.opens with rfl | cut
    · rfl
    · rw [← Nat.sub_add_cancel pos, List.take_succ_cons] at cut
      exact absurd cut (notCut (.stray none))
  | @broken seen more x open_ next =>
    rcases Nat.lt_trichotomy n (seen.length + 1) with less | rfl | greater
    · -- One byte more than `n` would still open a character.
      obtain ⟨-, d, front, -⟩ := open_.cutOff
      refine absurd (List.IsPrefix.trans ?_ front) (fault.ends d)
      rw [← List.cons_append, List.take_append_of_le_length less]
      exact List.take_prefix _ _
    · rfl
    · rcases fault.opens with rfl | cut
      · omega
      · rw [← List.cons_append, List.take_append, List.take_of_length_le (Nat.le_of_lt greater),
          List.length_cons, ← Nat.sub_add_cancel (Nat.sub_pos_of_lt greater),
          List.take_succ_cons] at cut
        exact absurd cut (notCut (.broken seen open_ next))

theorem Fault.marks_eq (fault : Fault rest n) :
    marks rest = List.replicate n .stray ++ marks (rest.drop n) := by
  have pos := fault.pos
  rcases rest with _ | ⟨b, rest⟩
  · exact absurd fault.le (Nat.not_le_of_lt pos)
  · rw [marks_cons, fault.front_eq, ← Nat.sub_add_cancel pos, List.drop_succ_cons,
      Nat.sub_add_cancel pos]
    rfl

theorem count_marks_encodeAll (t : List Char) (rest : List UInt8) :
    (marks (encodeAll t ++ rest)).count .stray = (marks rest).count .stray := by
  rw [marks_encodeAll, List.count_append, List.count_replicate, if_neg (by decide), Nat.zero_add]

theorem count_marks_of_cutOff (cut : CutOff bs) : (marks bs).count .stray = 0 := by
  rw [marks_of_cutOff cut, List.count_replicate, if_neg (by decide)]

theorem Rechecked.eq_count (checked : Rechecked bs n) : n = (marks bs).count .stray := by
  induction checked with
  | text t =>
    rw [← List.append_nil (encodeAll t), count_marks_encodeAll]
    rfl
  | cutOff t cut => rw [count_marks_encodeAll, count_marks_of_cutOff cut]
  | fault t fault _ ih =>
    rw [count_marks_encodeAll, fault.marks_eq, List.count_append, List.count_replicate_self, ih]

theorem exists_text (bs : List UInt8) :
    ∃ t rest, bs = encodeAll t ++ rest ∧ ∀ d, ¬ encode d <+: rest := by
  have marked := marked_marks bs
  generalize marks bs = ms at marked
  induction marked with
  | nil => exact ⟨[], [], rfl, fun d front => encode_ne_nil d (List.prefix_nil.1 front)⟩
  | @character d rest ms marked ih =>
    obtain ⟨t, rest', rfl, none⟩ := ih
    exact ⟨d :: t, rest', by rw [encodeAll_cons, List.append_assoc], none⟩
  | @cutOff bs cut =>
    refine ⟨[], bs, rfl, fun d front => ?_⟩
    obtain ⟨b, rest, rfl⟩ := List.exists_cons_of_ne_nil cut.1
    have read := frontOf_eq_cut_iff.2 ⟨cut, rfl⟩
    rw [frontOf_eq_char_iff.2 ⟨d, rfl, rfl, front⟩] at read
    cases read
  | stray none => exact ⟨[], _, rfl, none⟩

/-- Checking again ends: each fault has a byte at least. -/
theorem exists_rechecked (bs : List UInt8) : ∃ n, Rechecked bs n := by
  obtain ⟨t, rest, all, none⟩ := exists_text bs
  rcases rest with _ | ⟨b, rest⟩
  · exact ⟨0, by rw [all, List.append_nil]; exact .text t⟩
  · cases read : frontOf b rest with
    | char c n =>
      obtain ⟨d, -, -, front⟩ := frontOf_eq_char_iff.1 read
      exact absurd front (none d)
    | cut n => exact ⟨0, all ▸ .cutOff t (frontOf_eq_cut_iff.1 read).1⟩
    | invalid n =>
      have fault := fault_of_front read
      have shorter : ((b :: rest).drop n).length < bs.length := by
        have pos := fault.pos
        have le := fault.le
        rw [all, List.length_append, List.length_drop]
        omega
      obtain ⟨m, checked⟩ := exists_rechecked ((b :: rest).drop n)
      exact ⟨n + m, all ▸ .fault t fault checked⟩
termination_by bs.length
decreasing_by exact shorter

/-! ## The beginning of a text -/

/-- The first bytes of a text are a text, and perhaps a character that is cut off. -/
theorem take_encodeAll (t : List Char) (k : Nat) :
    ∃ t' rest, (encodeAll t).take k = encodeAll t' ++ rest ∧ (rest = [] ∨ CutOff rest) := by
  induction t generalizing k with
  | nil => exact ⟨[], [], by simp [encodeAll], .inl rfl⟩
  | cons d t ih =>
    rw [encodeAll_cons, List.take_append]
    by_cases whole : (encode d).length ≤ k
    · obtain ⟨t', rest, split, ends⟩ := ih (k - (encode d).length)
      refine ⟨d :: t', rest, ?_, ends⟩
      rw [List.take_of_length_le whole, split, encodeAll_cons, List.append_assoc]
    · refine ⟨[], (encode d).take k, ?_, ?_⟩
      · rw [Nat.sub_eq_zero_of_le (Nat.le_of_not_le whole), List.take_zero, List.append_nil]
        rfl
      · rcases Nat.eq_zero_or_pos k with rfl | pos
        · exact .inl List.take_zero
        · refine .inr (cutOff_iff_opening.2 ?_)
          exact (charBytes_encode d).opening_take pos (Nat.lt_of_not_le whole)

theorem count_marks_take (t : List Char) (k : Nat) :
    (marks ((encodeAll t).take k)).count .stray = 0 := by
  obtain ⟨t', rest, split, rfl | cut⟩ := take_encodeAll t k
  · rw [split, count_marks_encodeAll]
    rfl
  · rw [split, count_marks_encodeAll, count_marks_of_cutOff cut]

end FileSearch.Utf8
