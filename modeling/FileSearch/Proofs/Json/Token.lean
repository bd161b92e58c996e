import FileSearch.Json.Read
import FileSearch.Proofs.Text.Utf8

/-!
# Strings and numbers of JSON texts are read back

`Takes r bytes rest a` says that a reader takes `bytes` off the front of a text and gives `a`, and
`Takes.bind` puts two such readers together.  A character is written as an escape or as itself
(`escapeChar_cases`), and both are read as the character, so a text in quotes is read as the text
(`takes_string`).  A number is read back as long as it fits in 64 bits and its digits end where the
number does (`takes_number`).
-/

namespace FileSearch.Json.Reader

/-- The reader takes the given bytes off the front and gives `a`. -/
def Takes {α : Type} (r : Reader α) (bytes rest : List UInt8) (a : α) : Prop :=
  ∀ offset, ∃ offset', r.run ⟨bytes ++ rest, offset⟩ = .ok (a, ⟨rest, offset'⟩)

section

variable {α β : Type} {r : Reader α} {f : α → Reader β} {bytes more rest : List UInt8} {a : α}
  {b : β}

theorem takes_pure (a : α) (rest : List UInt8) : Takes (pure a) [] rest a :=
  fun offset => ⟨offset, rfl⟩

theorem Takes.bind (first : Takes r bytes (more ++ rest) a) (second : Takes (f a) more rest b) :
    Takes (r >>= f) (bytes ++ more) rest b := by
  intro offset
  obtain ⟨place, taken⟩ := first offset
  obtain ⟨place', taken'⟩ := second place
  refine ⟨place', ?_⟩
  rw [List.append_assoc, StateT.run_bind, taken]
  exact taken'

theorem Takes.seq {r : Reader Unit} {r' : Reader β} (first : Takes r bytes (more ++ rest) ())
    (second : Takes r' more rest b) : Takes (do r; r') (bytes ++ more) rest b :=
  Takes.bind (f := fun _ => r') first second

theorem Takes.map (first : Takes r bytes rest a) (g : α → β) :
    Takes (do return g (← r)) bytes rest (g a) := by
  rw [← List.append_nil bytes]
  exact Takes.bind (f := fun a => pure (g a)) first (takes_pure (g a) rest)

/-- A reader that does in one step what another does from the place behind the next byte. -/
theorem Takes.after {b : UInt8} {r' : Reader α} (next : Takes r bytes rest a)
    (step : ∀ offset, r'.run ⟨b :: (bytes ++ rest), offset⟩ = r.run ⟨bytes ++ rest, offset + 1⟩) :
    Takes r' (b :: bytes) rest a := by
  intro offset
  obtain ⟨place, taken⟩ := next (offset + 1)
  exact ⟨place, (step offset).trans taken⟩

end

/-! ## Strings -/

theorem takes_plainByte {b : UInt8} (plain : 0x20 ≤ b ∧ b ≠ 0x22 ∧ b ≠ 0x5C) {limit : Nat}
    {read a : ByteArray} {bytes rest : List UInt8}
    (next : Takes (stringFrom limit (read.push b)) bytes rest a) :
    Takes (stringFrom (limit + 1) read) (b :: bytes) rest a := by
  apply next.after
  intro offset
  have notQuote : (b == 0x22) = false := beq_eq_false_iff_ne.2 plain.2.1
  have notSlash : (b == 0x5C) = false := beq_eq_false_iff_ne.2 plain.2.2
  have noControl : ¬ b < 0x20 := UInt8.not_lt.2 plain.1
  show (if (b == 0x22) = true then _ else if (b == 0x5C) = true then _ else
    if b < 0x20 then _ else stringFrom limit (read.push b) : Reader ByteArray).run _ = _
  rw [if_neg (by rw [notQuote]; decide), if_neg (by rw [notSlash]; decide), if_neg noControl]

theorem takes_quote (limit : Nat) (read : ByteArray) (rest : List UInt8) :
    Takes (stringFrom (limit + 1) read) [0x22] rest read :=
  fun offset => ⟨offset + 1, rfl⟩

theorem takes_escaped {limit : Nat} {read a : ByteArray} {bytes more rest bs : List UInt8}
    (first : Takes escape bytes (more ++ rest) bs)
    (next : Takes (stringFrom limit (bs.foldl ByteArray.push read)) more rest a) :
    Takes (stringFrom (limit + 1) read) (0x5C :: (bytes ++ more)) rest a := by
  apply (Takes.bind (f := fun bs => stringFrom limit (bs.foldl ByteArray.push read)) first
    next).after
  intro offset
  rfl

theorem hexValue_hexDigit {n : Nat} (small : n < 16) :
    ∃ b, Utf8.encode (hexDigit n) = [b] ∧ hexValue? b = some n := by
  have each : ∀ n < 16, Utf8.encode (hexDigit n) = [(hexDigit n).toNat.toUInt8] ∧
      hexValue? (hexDigit n).toNat.toUInt8 = some n := by decide
  exact ⟨_, each n small⟩

theorem takes_unicode {n : Nat} (small : n < 0x20) (rest : List UInt8) :
    Takes escape (0x75 :: Utf8.encodeAll ['0', '0', hexDigit (n / 16), hexDigit (n % 16)]) rest
      (Utf8.encodeCode n) := by
  obtain ⟨b, high, highValue⟩ := hexValue_hexDigit (show n / 16 < 16 by omega)
  obtain ⟨c, low, lowValue⟩ := hexValue_hexDigit (show n % 16 < 16 by omega)
  have bytes : Utf8.encodeAll ['0', '0', hexDigit (n / 16), hexDigit (n % 16)] =
      [0x30, 0x30, b, c] := by
    simp only [Utf8.encodeAll, List.flatMap_cons, List.flatMap_nil, high, low]
    rfl
  rw [bytes]
  have digits : Takes hex4 [0x30, 0x30, b, c] rest n := by
    intro offset
    refine ⟨offset + 4, ?_⟩
    have sum : ((0 * 16 + 0) * 16 + n / 16) * 16 + n % 16 = n := by omega
    have zero : hexValue? 0x30 = some 0 := by decide
    rw [hex4, StateT.run_bind, StateT.run_get, pure_bind]
    simp only [List.cons_append, List.nil_append, zero, highValue, lowValue, sum]
    rfl
  have read : Takes unicodeEscape [0x30, 0x30, b, c] rest n := by
    intro offset
    obtain ⟨place, taken⟩ := digits offset
    refine ⟨place, ?_⟩
    rw [unicodeEscape, StateT.run_bind, taken]
    show (if 0xDC00 ≤ n ∧ n ≤ 0xDFFF then _ else _ : Reader Nat).run _ = _
    rw [if_neg (by omega)]
    show (if n < 0xD800 ∨ 0xDBFF < n then _ else _ : Reader Nat).run _ = _
    rw [if_pos (by omega)]
    rfl
  apply (read.map Utf8.encodeCode).after
  intro offset
  rfl

/-- A character is written as an escape or as itself. -/
theorem escapeChar_cases (c : Char) :
    (∃ bytes, Utf8.encodeAll (escapeChar c) = 0x5C :: bytes ∧
        ∀ rest, Takes escape bytes rest (Utf8.encode c)) ∨
      escapeChar c = [c] ∧ c ≠ '"' ∧ c ≠ '\\' ∧ 0x20 ≤ c.toNat := by
  unfold escapeChar
  split
  case isTrue quote =>
    subst quote
    exact .inl ⟨[0x22], rfl, fun rest offset => ⟨offset + 1, rfl⟩⟩
  rename_i quote
  split
  case isTrue slash =>
    subst slash
    exact .inl ⟨[0x5C], rfl, fun rest offset => ⟨offset + 1, rfl⟩⟩
  rename_i slash
  split
  case isTrue back =>
    subst back
    exact .inl ⟨[0x62], rfl, fun rest offset => ⟨offset + 1, rfl⟩⟩
  split
  case isTrue feed =>
    subst feed
    exact .inl ⟨[0x66], rfl, fun rest offset => ⟨offset + 1, rfl⟩⟩
  split
  case isTrue line =>
    subst line
    exact .inl ⟨[0x6E], rfl, fun rest offset => ⟨offset + 1, rfl⟩⟩
  split
  case isTrue carriage =>
    subst carriage
    exact .inl ⟨[0x72], rfl, fun rest offset => ⟨offset + 1, rfl⟩⟩
  split
  case isTrue tab =>
    subst tab
    exact .inl ⟨[0x74], rfl, fun rest offset => ⟨offset + 1, rfl⟩⟩
  split
  case isTrue control => exact .inl ⟨_, rfl, takes_unicode control⟩
  case isFalse control => exact .inr ⟨rfl, quote, slash, Nat.le_of_not_lt control⟩

theorem plain_of_mem_encode {c : Char} (quote : c ≠ '"') (slash : c ≠ '\\')
    (control : 0x20 ≤ c.toNat) : ∀ b ∈ Utf8.encode c, 0x20 ≤ b ∧ b ≠ 0x22 ∧ b ≠ 0x5C := by
  have bound := Utf8.toNat_lt c
  have large : ∀ n, 0x80 ≤ n → n < 256 →
      0x20 ≤ n.toUInt8 ∧ n.toUInt8 ≠ 0x22 ∧ n.toUInt8 ≠ 0x5C := by
    intro n least most
    have value := Utf8.toNat_toUInt8 most
    refine ⟨?_, ?_, ?_⟩
    · rw [UInt8.le_iff_toNat_le, value]
      exact Nat.le_trans (by decide) least
    · intro same
      rw [same] at value
      exact absurd value (by show 34 ≠ n; omega)
    · intro same
      rw [same] at value
      exact absurd value (by show 92 ≠ n; omega)
  unfold Utf8.encode Utf8.encodeCode
  split
  case isTrue one =>
    intro b mem
    rw [List.mem_singleton.1 mem]
    have value : c.toNat.toUInt8.toNat = c.toNat := Utf8.toNat_toUInt8 (by omega)
    refine ⟨?_, ?_, ?_⟩
    · rw [UInt8.le_iff_toNat_le, value]
      exact control
    · intro same
      rw [same] at value
      apply quote
      rw [← Char.ofNat_toNat c, ← value]
      rfl
    · intro same
      rw [same] at value
      apply slash
      rw [← Char.ofNat_toNat c, ← value]
      rfl
  case isFalse one =>
    -- All bytes of a longer character are large.
    split
    case isTrue two =>
      simp only [List.forall_mem_cons]
      exact ⟨large _ (by omega) (by omega), large _ (by omega) (by omega),
        fun b mem => absurd mem List.not_mem_nil⟩
    case isFalse two =>
      split
      case isTrue three =>
        simp only [List.forall_mem_cons]
        exact ⟨large _ (by omega) (by omega), large _ (by omega) (by omega),
          large _ (by omega) (by omega), fun b mem => absurd mem List.not_mem_nil⟩
      case isFalse three =>
        simp only [List.forall_mem_cons]
        exact ⟨large _ (by omega) (by omega), large _ (by omega) (by omega),
          large _ (by omega) (by omega), large _ (by omega) (by omega),
          fun b mem => absurd mem List.not_mem_nil⟩

theorem toList_pushed (bs : List UInt8) (read : ByteArray) :
    (bs.foldl ByteArray.push read).data.toList = read.data.toList ++ bs := by
  induction bs generalizing read with
  | nil => rw [List.append_nil]; rfl
  | cons b bs ih =>
    rw [List.foldl_cons, ih]
    show (read.data.push b).toList ++ bs = _
    rw [Array.toList_push, List.append_assoc]
    rfl

theorem takes_char (c : Char) {limit : Nat} {read a : ByteArray} {more rest : List UInt8}
    (room : (Utf8.encodeAll (escapeChar c) ++ more).length < limit)
    (next : ∀ limit', more.length < limit' →
      Takes (stringFrom limit' ((Utf8.encode c).foldl ByteArray.push read)) more rest a) :
    Takes (stringFrom limit read) (Utf8.encodeAll (escapeChar c) ++ more) rest a := by
  rcases escapeChar_cases c with ⟨bytes, spelt, escaped⟩ | ⟨spelt, quote, slash, control⟩
  · rw [spelt] at room ⊢
    rw [List.cons_append, List.length_cons, List.length_append] at room
    obtain ⟨limit', rfl⟩ : ∃ limit', limit = limit' + 1 := ⟨limit - 1, by omega⟩
    exact takes_escaped (escaped (more ++ rest)) (next limit' (by omega))
  · have alone : Utf8.encodeAll [c] = Utf8.encode c := by
      rw [Utf8.encodeAll, List.flatMap_cons, List.flatMap_nil, List.append_nil]
    rw [spelt, alone] at room ⊢
    have plain := plain_of_mem_encode quote slash control
    generalize Utf8.encode c = bytes at room next plain
    induction bytes generalizing limit read with
    | nil => exact next limit room
    | cons b bytes ih =>
      rw [List.cons_append, List.length_cons] at room
      obtain ⟨limit', rfl⟩ : ∃ limit', limit = limit' + 1 := ⟨limit - 1, by omega⟩
      refine takes_plainByte (plain b List.mem_cons_self) (ih (by omega) next ?_)
      exact fun b' mem => plain b' (List.mem_cons_of_mem _ mem)

theorem takes_chars (cs : List Char) {limit : Nat} {read : ByteArray} {rest : List UInt8}
    (room : (Utf8.encodeAll (cs.flatMap escapeChar) ++ [0x22]).length < limit) :
    Takes (stringFrom limit read) (Utf8.encodeAll (cs.flatMap escapeChar) ++ [0x22]) rest
      ((Utf8.encodeAll cs).foldl ByteArray.push read) := by
  induction cs generalizing limit read with
  | nil =>
    obtain ⟨limit', rfl⟩ : ∃ limit', limit = limit' + 1 := ⟨limit - 1, by omega⟩
    exact takes_quote limit' read rest
  | cons c cs ih =>
    have split : Utf8.encodeAll ((c :: cs).flatMap escapeChar) =
        Utf8.encodeAll (escapeChar c) ++ Utf8.encodeAll (cs.flatMap escapeChar) := by
      rw [List.flatMap_cons, Utf8.encodeAll, List.flatMap_append]
      rfl
    have whole : Utf8.encodeAll (c :: cs) = Utf8.encode c ++ Utf8.encodeAll cs := List.flatMap_cons
    rw [split, List.append_assoc] at room ⊢
    rw [whole, List.foldl_append]
    exact takes_char c room fun limit' room' => ih room'

/-- A text in quotes is read back, the opening quote being passed. -/
theorem takes_string (s : String) (rest : List UInt8) :
    Takes string (Utf8.encodeAll (s.toList.flatMap escapeChar) ++ [0x22]) rest s := by
  intro offset
  generalize written : Utf8.encodeAll (s.toList.flatMap escapeChar) ++ [0x22] = bytes
  have room : bytes.length < (bytes ++ rest).length + 1 := by
    rw [List.length_append]
    omega
  have all : Takes (stringFrom ((bytes ++ rest).length + 1) .empty) bytes rest
      ((Utf8.encodeAll s.toList).foldl ByteArray.push .empty) := by
    rw [← written] at room ⊢
    exact takes_chars s.toList room
  obtain ⟨place, taken⟩ := all offset
  refine ⟨place, ?_⟩
  show ((stringFrom ((bytes ++ rest).length + 1) .empty).run ⟨bytes ++ rest, offset⟩ >>= _) = _
  rw [taken]
  show Except.ok (Utf8.decodeLossy _, _) = _
  rw [Utf8.decodeLossy_of_toList (toList_pushed _ _), String.ofList_toList]

/-! ## Numbers -/

/-- Whether what follows a value ends it: a comma, a closing bracket or the end of the text. -/
def Ends (rest : List UInt8) : Prop := ∀ b ∈ rest.head?, b = 0x2C ∨ b = 0x5D ∨ b = 0x7D

theorem le_foldl_digits (ds : List Nat) (n : Nat) : n ≤ ds.foldl (fun n d => n * 10 + d) n := by
  induction ds generalizing n with
  | nil => exact Nat.le_refl n
  | cons d ds ih =>
    have rest := ih (n * 10 + d)
    rw [List.foldl_cons]
    omega

theorem gather_eq (ds : List Nat) (n : Nat)
    (fits : ds.foldl (fun n d => n * 10 + d) n < UInt64.size) :
    gather n ds = (ds.foldl (fun n d => n * 10 + d) n, 0) := by
  induction ds generalizing n with
  | nil => rfl
  | cons d ds ih =>
    rw [List.foldl_cons] at fits ⊢
    have small := Nat.lt_of_le_of_lt (le_foldl_digits ds (n * 10 + d)) fits
    rw [gather, if_pos small, ih _ fits]

/-- The digits of a number; only zero begins with a zero. -/
theorem exists_digits (n : Nat) :
    ∃ d ds, Nat.toDigits 10 n = Nat.digitChar d :: ds.map Nat.digitChar ∧
      (d < 10 ∧ ∀ e ∈ ds, e < 10) ∧ ds.foldl (fun n d => n * 10 + d) d = n ∧ (d = 0 → ds = []) := by
  induction n using Nat.strongRecOn with
  | ind n ih =>
    by_cases single : n < 10
    · refine ⟨n, [], Nat.toDigits_of_lt_base single, ⟨single, ?_⟩, rfl, fun _ => rfl⟩
      intro e mem
      exact absurd mem List.not_mem_nil
    · obtain ⟨d, ds, written, ⟨small, rest⟩, value, zero⟩ := ih (n / 10) (by omega)
      refine ⟨d, ds ++ [n % 10], ?_, ⟨small, ?_⟩, ?_, ?_⟩
      · rw [Nat.toDigits_of_base_le (by decide) (by omega), written, List.map_append]
        rfl
      · intro e mem
        rcases List.mem_append.1 mem with old | new
        · exact rest e old
        · rw [List.mem_singleton.1 new]
          omega
      · rw [List.foldl_append, value]
        show n / 10 * 10 + n % 10 = n
        omega
      · intro none
        have empty := zero none
        rw [none, empty] at value
        have : 0 = n / 10 := value
        omega

/-- The byte of a digit. -/
def digitByte (d : Nat) : UInt8 := (48 + d).toUInt8

theorem encode_digitChar {d : Nat} (small : d < 10) :
    Utf8.encode (Nat.digitChar d) = [digitByte d] := by
  rw [Utf8.encode, Nat.toNat_digitChar_of_lt_ten small, Utf8.encodeCode, if_pos (by omega)]
  rfl

theorem toNat_digitByte {d : Nat} (small : d < 10) : (digitByte d).toNat = 48 + d :=
  Utf8.toNat_toUInt8 (by omega)

theorem isDigit_digitByte {d : Nat} (small : d < 10) : isDigit (digitByte d) = true := by
  rw [isDigit, Bool.and_eq_true, decide_eq_true_iff, decide_eq_true_iff, UInt8.le_iff_toNat_le,
    UInt8.le_iff_toNat_le, toNat_digitByte small]
  exact ⟨Nat.le_add_right 48 d, by show 48 + d ≤ 57; omega⟩

theorem encodeAll_digits (ds : List Nat) (small : ∀ d ∈ ds, d < 10) :
    Utf8.encodeAll (ds.map Nat.digitChar) = ds.map digitByte := by
  induction ds with
  | nil => rfl
  | cons d ds ih =>
    have first := encode_digitChar (small d List.mem_cons_self)
    have others := ih fun e mem => small e (List.mem_cons_of_mem _ mem)
    rw [List.map_cons, Utf8.encodeAll, List.flatMap_cons, first, ← Utf8.encodeAll, others]
    rfl

theorem takeWhile_digits (ds : List Nat) (small : ∀ d ∈ ds, d < 10) {rest : List UInt8}
    (ends : ∀ b ∈ rest.head?, isDigit b = false) :
    (ds.map digitByte ++ rest).takeWhile isDigit = ds.map digitByte := by
  induction ds with
  | nil =>
    cases rest with
    | nil => rfl
    | cons b rest => exact List.takeWhile_cons_of_neg (by rw [ends b rfl]; decide)
  | cons d ds ih =>
    rw [List.map_cons, List.cons_append,
      List.takeWhile_cons_of_pos (isDigit_digitByte (small d List.mem_cons_self)),
      ih fun e mem => small e (List.mem_cons_of_mem _ mem)]

theorem takes_takeDigits (ds : List Nat) (small : ∀ d ∈ ds, d < 10) {rest : List UInt8}
    (ends : ∀ b ∈ rest.head?, isDigit b = false) :
    Takes takeDigits (ds.map digitByte) rest ds := by
  intro offset
  refine ⟨offset + (ds.map digitByte).length, ?_⟩
  have back : ds.map (fun d => (digitByte d).toNat - 48) = ds := by
    rw [List.map_congr_left fun d mem => by
      show _ = id d
      rw [toNat_digitByte (small d mem), Nat.add_sub_cancel_left]
      rfl]
    exact List.map_id ds
  have all := takeWhile_digits ds small ends
  show Except.ok (((ds.map digitByte ++ rest).takeWhile isDigit).map fun b => b.toNat - 48,
    (⟨(ds.map digitByte ++ rest).drop ((ds.map digitByte ++ rest).takeWhile isDigit).length,
      offset + ((ds.map digitByte ++ rest).takeWhile isDigit).length⟩ : Cursor)) = _
  rw [all, List.drop_left, List.map_map]
  exact congrArg Except.ok (congrArg (·, _) back)

theorem not_isDigit_of_ends {rest : List UInt8} (ends : Ends rest) :
    ∀ b ∈ rest.head?, isDigit b = false := by
  intro b mem
  rcases ends b mem with rfl | rfl | rfl <;> decide

/-- A number below the bound of 64 bits is read back as it is. -/
theorem takes_number {n : Nat} (fits : n < UInt64.size) {rest : List UInt8} (ends : Ends rest) :
    Takes (number false) (Utf8.encodeAll (Nat.toDigits 10 n)) rest (.nat n) := by
  obtain ⟨d, ds, written, ⟨small, smalls⟩, value, zero⟩ := exists_digits n
  have bytes : Utf8.encodeAll (Nat.toDigits 10 n) = digitByte d :: ds.map digitByte := by
    rw [written]
    exact encodeAll_digits (d :: ds) (List.forall_mem_cons.2 ⟨small, smalls⟩)
  rw [bytes]
  intro offset
  have gathered : gather ((digitByte d).toNat - 48) ds = (n, 0) := by
    rw [toNat_digitByte small, Nat.add_sub_cancel_left, gather_eq ds d (by rw [value]; exact fits),
      value]
  show ∃ place, (if isDigit (digitByte d) = true then _ else _ : Reader Number).run
    ⟨ds.map digitByte ++ rest, offset + 1⟩ = .ok (_, ⟨_, place⟩)
  rw [if_pos (isDigit_digitByte small)]
  show ∃ place, (if (digitByte d == 0x30) = true then _ else _ : Reader Number).run _ =
    .ok (_, ⟨_, place⟩)
  by_cases none : d = 0
  · have empty := zero none
    subst none empty
    refine ⟨offset + 1, ?_⟩
    rw [← value]
    cases rest with
    | nil => rfl
    | cons b rest => rcases ends b rfl with rfl | rfl | rfl <;> rfl
  · have other : (digitByte d == 0x30) = false := by
      apply beq_eq_false_iff_ne.2
      intro same
      have number := toNat_digitByte small
      rw [same] at number
      have : 48 = 48 + d := number
      omega
    obtain ⟨place, taken⟩ := takes_takeDigits ds smalls (not_isDigit_of_ends ends) (offset + 1)
    refine ⟨place, ?_⟩
    rw [if_neg (by rw [other]; decide), StateT.run_bind, taken]
    dsimp only [bind, Except.bind]
    simp only [gathered]
    cases rest with
    | nil => rfl
    | cons b rest => rcases ends b rfl with rfl | rfl | rfl <;> rfl

end FileSearch.Json.Reader
