import FileSearch.Proofs.Text.Bytes
import FileSearch.Text.Utf8

/-!
# Encoded texts

`encode` writes a character as the strings of the language keep it, so that the bytes of a string
are those of its characters (`toList_toUTF8`).  What stands at the front of an encoded character is
the character (`encode_cons`), so the bytes of a text are read as the text
(`decodeLossy_of_toList`).
-/

namespace FileSearch.Utf8

theorem toNat_lt (c : Char) : c.toNat < 0x110000 := by
  rcases c.valid with low | ⟨-, high⟩
  · exact Nat.lt_trans low (by decide)
  · exact high

theorem encode_eq (c : Char) : encode c = String.utf8EncodeChar c := by
  have bound := toNat_lt c
  have value : c.val.toNat = c.toNat := rfl
  have one : c.toNat ≤ 0x7f ↔ c.toNat < 0x80 := Nat.lt_succ_iff.symm
  have two : c.toNat ≤ 0x7ff ↔ c.toNat < 0x800 := Nat.lt_succ_iff.symm
  have three : c.toNat ≤ 0xffff ↔ c.toNat < 0x10000 := Nat.lt_succ_iff.symm
  unfold encode encodeCode String.utf8EncodeChar
  simp only [value, one, two, three, Nat.toUInt8_eq, Nat.add_comm (_ % 64) 0x80]
  -- The first byte has room for what is left of the number.
  split
  · rfl
  · split
    · rw [show c.toNat / 64 % 0x20 + 0xc0 = 0xC0 + c.toNat / 64 by omega]
    · split
      · rw [show c.toNat / 4096 % 0x10 + 0xe0 = 0xE0 + c.toNat / 4096 by omega]
      · rw [show c.toNat / 262144 % 0x08 + 0xf0 = 0xF0 + c.toNat / 262144 by omega]

theorem toList_toUTF8 (text : String) : text.toUTF8.data.toList = encodeAll text.toList := by
  have bytes : text.toUTF8 = (text.toList.flatMap String.utf8EncodeChar).toByteArray := by
    rw [String.toUTF8_eq_toByteArray, ← List.utf8Encode, ← String.toByteArray_ofList,
      String.ofList_toList]
  rw [bytes, List.data_toByteArray, encodeAll, funext encode_eq]

/-! ## Reading encoded texts -/

theorem isContinuation_low {low : Nat} (small : low < 64) : isContinuation (0x80 + low) = true := by
  rw [isContinuation, Bool.and_eq_true, decide_eq_true_iff, decide_eq_true_iff]
  omega

theorem front_one {n : Nat} (small : n < 0x80) (b₁ b₂ b₃ : Option Nat) :
    front n b₁ b₂ b₃ = .char n 1 := by
  have w : width n = 1 := by rw [width, if_pos small]
  simp only [front, w]
  simp

theorem front_two (high low : Nat) (least : 2 ≤ high) (most : high < 32) (small : low < 64)
    (b₂ b₃ : Option Nat) :
    front (0xC0 + high) (some (0x80 + low)) b₂ b₃ = .char (high * 64 + low) 2 := by
  have w : width (0xC0 + high) = 2 := by
    rw [width, if_neg (by omega), if_pos (by omega)]
  have second : isSecond (0xC0 + high) (0x80 + low) = true := by
    rw [isSecond, if_neg (by omega), if_neg (by omega), if_neg (by omega), if_neg (by omega)]
    exact isContinuation_low small
  simp only [front, w, second]
  simp

theorem front_three (high mid low : Nat) (most : high < 16) (middle : mid < 64) (small : low < 64)
    (least : 0x800 ≤ (high * 64 + mid) * 64 + low)
    (valid : (high * 64 + mid) * 64 + low < 0xD800 ∨ 0xDFFF < (high * 64 + mid) * 64 + low)
    (b₃ : Option Nat) :
    front (0xE0 + high) (some (0x80 + mid)) (some (0x80 + low)) b₃ =
      .char ((high * 64 + mid) * 64 + low) 3 := by
  have w : width (0xE0 + high) = 3 := by
    rw [width, if_neg (by omega), if_neg (by omega), if_pos (by omega)]
  have second : isSecond (0xE0 + high) (0x80 + mid) = true := by
    unfold isSecond
    split
    · simp only [Bool.and_eq_true, decide_eq_true_iff]
      omega
    · split
      · simp only [Bool.and_eq_true, decide_eq_true_iff]
        omega
      · rw [if_neg (by omega), if_neg (by omega)]
        exact isContinuation_low middle
  simp only [front, w, second, isContinuation_low small]
  simp

theorem front_four (high mid₁ mid₂ low : Nat) (middle₁ : mid₁ < 64)
    (middle₂ : mid₂ < 64) (small : low < 64)
    (least : 0x10000 ≤ ((high * 64 + mid₁) * 64 + mid₂) * 64 + low)
    (most : ((high * 64 + mid₁) * 64 + mid₂) * 64 + low < 0x110000) :
    front (0xF0 + high) (some (0x80 + mid₁)) (some (0x80 + mid₂)) (some (0x80 + low)) =
      .char (((high * 64 + mid₁) * 64 + mid₂) * 64 + low) 4 := by
  have w : width (0xF0 + high) = 4 := by
    rw [width, if_neg (by omega), if_neg (by omega), if_neg (by omega), if_pos (by omega)]
  have second : isSecond (0xF0 + high) (0x80 + mid₁) = true := by
    unfold isSecond
    rw [if_neg (by omega), if_neg (by omega)]
    split
    · simp only [Bool.and_eq_true, decide_eq_true_iff]
      omega
    · split
      · simp only [Bool.and_eq_true, decide_eq_true_iff]
        omega
      · exact isContinuation_low middle₁
  simp only [front, w, second, isContinuation_low middle₂, isContinuation_low small]
  simp

theorem toNat_toUInt8 {n : Nat} (small : n < 256) : n.toUInt8.toNat = n := by
  rw [Nat.toUInt8_eq, UInt8.toNat_ofNat']
  exact Nat.mod_eq_of_lt small

/-- The first byte of a character and the bytes after it. -/
theorem encode_cons (c : Char) (rest : List UInt8) :
    ∃ b bs, encode c = b :: bs ∧ frontOf b (bs ++ rest) = .char c.toNat (bs.length + 1) := by
  have bound := toNat_lt c
  have valid : c.toNat < 0xD800 ∨ 0xDFFF < c.toNat := by
    rcases c.valid with low | ⟨high, -⟩
    · exact .inl low
    · exact .inr high
  unfold encode encodeCode
  generalize c.toNat = n at bound valid
  split
  case isTrue one =>
    refine ⟨_, [], rfl, ?_⟩
    rw [frontOf, toNat_toUInt8 (by omega)]
    exact front_one one _ _ _
  case isFalse one =>
    split
    case isTrue two =>
      refine ⟨_, [_], rfl, ?_⟩
      have read := front_two (n / 64) (n % 64) (by omega) (by omega) (by omega)
        (rest[0]?.map UInt8.toNat) (rest[1]?.map UInt8.toNat)
      rw [show n / 64 * 64 + n % 64 = n by omega] at read
      rw [frontOf, toNat_toUInt8 (by omega)]
      simp only [List.cons_append, List.nil_append, List.getElem?_cons_zero,
        List.getElem?_cons_succ, Option.map_some]
      rw [toNat_toUInt8 (by omega)]
      exact read
    case isFalse two =>
      split
      case isTrue three =>
        refine ⟨_, [_, _], rfl, ?_⟩
        have number : (n / 4096 * 64 + n / 64 % 64) * 64 + n % 64 = n := by omega
        have read := front_three (n / 4096) (n / 64 % 64) (n % 64) (by omega)
          (by omega) (by omega) (by omega) (by omega) (rest[0]?.map UInt8.toNat)
        rw [number] at read
        rw [frontOf, toNat_toUInt8 (by omega)]
        simp only [List.cons_append, List.nil_append, List.getElem?_cons_zero,
          List.getElem?_cons_succ, Option.map_some]
        rw [toNat_toUInt8 (by omega), toNat_toUInt8 (by omega)]
        exact read
      case isFalse three =>
        refine ⟨_, [_, _, _], rfl, ?_⟩
        have number : ((n / 262144 * 64 + n / 4096 % 64) * 64 + n / 64 % 64) * 64 + n % 64 = n := by
          omega
        have read := front_four (n / 262144) (n / 4096 % 64) (n / 64 % 64) (n % 64) (by omega)
          (by omega) (by omega) (by omega) (by omega)
        rw [number] at read
        rw [frontOf, toNat_toUInt8 (by omega)]
        simp only [List.cons_append, List.nil_append, List.getElem?_cons_zero,
          List.getElem?_cons_succ, Option.map_some]
        rw [toNat_toUInt8 (by omega), toNat_toUInt8 (by omega), toNat_toUInt8 (by omega)]
        exact read

theorem frontsFrom_skip (bs rest : List UInt8) (acc : Array Front) :
    frontsFrom bs.length (bs ++ rest) acc = frontsFrom 0 rest acc := by
  induction bs with
  | nil => rfl
  | cons b bs ih => exact ih

theorem frontsFrom_encodeAll (cs : List Char) (acc : Array Front) :
    (frontsFrom 0 (encodeAll cs) acc).toList.map Front.toChar =
      acc.toList.map Front.toChar ++ cs := by
  induction cs generalizing acc with
  | nil => simp [encodeAll, frontsFrom]
  | cons c cs ih =>
    obtain ⟨b, bs, bytes, front⟩ := encode_cons c (encodeAll cs)
    have split : encodeAll (c :: cs) = b :: (bs ++ encodeAll cs) := by
      rw [encodeAll, List.flatMap_cons, bytes]
      rfl
    rw [split, frontsFrom, front]
    show ((frontsFrom bs.length (bs ++ encodeAll cs) _).toList.map _) = _
    rw [frontsFrom_skip, ih]
    simp [Front.toChar]

/-- The bytes of a text are read as the text. -/
theorem decodeLossy_of_toList {b : ByteArray} {cs : List Char}
    (bytes : b.data.toList = encodeAll cs) : decodeLossy b = String.ofList cs := by
  rw [decodeLossy, fronts, bytes, frontsFrom_encodeAll]
  rfl

/-! ## Characters in bytes -/

theorem toUInt8_of_toNat {n : Nat} {b : UInt8} (same : n = b.toNat) : n.toUInt8 = b := by
  rw [same, Nat.toUInt8_eq, UInt8.ofNat_toNat]

theorem encodeCode_two {b₀ b₁ : UInt8} (least : 0xC2 ≤ b₀.toNat) (most : b₀.toNat ≤ 0xDF)
    (low : 0x80 ≤ b₁.toNat) (high : b₁.toNat ≤ 0xBF) :
    encodeCode ((b₀.toNat - 0xC0) * 64 + (b₁.toNat - 0x80)) = [b₀, b₁] := by
  unfold encodeCode
  rw [if_neg (by omega), if_pos (by omega), toUInt8_of_toNat (b := b₀) (by omega),
    toUInt8_of_toNat (b := b₁) (by omega)]

theorem encodeCode_three {b₀ b₁ b₂ : UInt8} (least : 0xE0 ≤ b₀.toNat) (most : b₀.toNat ≤ 0xEF)
    (low₁ : 0x80 ≤ b₁.toNat) (high₁ : b₁.toNat ≤ 0xBF) (low₂ : 0x80 ≤ b₂.toNat)
    (high₂ : b₂.toNat ≤ 0xBF) (second : b₀.toNat = 0xE0 → 0xA0 ≤ b₁.toNat) :
    encodeCode (((b₀.toNat - 0xE0) * 64 + (b₁.toNat - 0x80)) * 64 + (b₂.toNat - 0x80)) =
      [b₀, b₁, b₂] := by
  unfold encodeCode
  rw [if_neg (by omega), if_neg (by omega), if_pos (by omega),
    toUInt8_of_toNat (b := b₀) (by omega), toUInt8_of_toNat (b := b₁) (by omega),
    toUInt8_of_toNat (b := b₂) (by omega)]

theorem encodeCode_four {b₀ b₁ b₂ b₃ : UInt8} (least : 0xF0 ≤ b₀.toNat) (most : b₀.toNat ≤ 0xF4)
    (low₁ : 0x80 ≤ b₁.toNat) (high₁ : b₁.toNat ≤ 0xBF) (low₂ : 0x80 ≤ b₂.toNat)
    (high₂ : b₂.toNat ≤ 0xBF) (low₃ : 0x80 ≤ b₃.toNat) (high₃ : b₃.toNat ≤ 0xBF)
    (second : b₀.toNat = 0xF0 → 0x90 ≤ b₁.toNat) :
    encodeCode ((((b₀.toNat - 0xF0) * 64 + (b₁.toNat - 0x80)) * 64 + (b₂.toNat - 0x80)) * 64 +
      (b₃.toNat - 0x80)) = [b₀, b₁, b₂, b₃] := by
  unfold encodeCode
  rw [if_neg (by omega), if_neg (by omega), if_neg (by omega),
    toUInt8_of_toNat (b := b₀) (by omega), toUInt8_of_toNat (b := b₁) (by omega),
    toUInt8_of_toNat (b := b₂) (by omega), toUInt8_of_toNat (b := b₃) (by omega)]

theorem isContinuation_iff {b : Nat} : isContinuation b = true ↔ 0x80 ≤ b ∧ b ≤ 0xBF := by
  rw [isContinuation, Bool.and_eq_true, decide_eq_true_iff, decide_eq_true_iff]

/-- What the second byte of a character is, by the first one. -/
theorem bounds_of_isSecond {lead b : Nat} (second : isSecond lead b = true) :
    (0x80 ≤ b ∧ b ≤ 0xBF) ∧ (lead = 0xE0 → 0xA0 ≤ b) ∧ (lead = 0xED → b ≤ 0x9F) ∧
      (lead = 0xF0 → 0x90 ≤ b) ∧ (lead = 0xF4 → b ≤ 0x8F) := by
  simp only [isSecond, isContinuation, ← Bool.decide_and] at second
  split at second
  · have := of_decide_eq_true second
    omega
  · split at second
    · have := of_decide_eq_true second
      omega
    · split at second
      · have := of_decide_eq_true second
        omega
      · split at second
        · have := of_decide_eq_true second
          omega
        · have := of_decide_eq_true second
          omega

/-- The bytes of a character, by their number. -/
inductive CharBytes : List UInt8 → Nat → Prop where
  | one {b : UInt8} : b.toNat < 0x80 → CharBytes [b] b.toNat
  | two {b₀ b₁ : UInt8} : 0xC2 ≤ b₀.toNat → b₀.toNat ≤ 0xDF → isSecond b₀.toNat b₁.toNat →
    CharBytes [b₀, b₁] ((b₀.toNat - 0xC0) * 64 + (b₁.toNat - 0x80))
  | three {b₀ b₁ b₂ : UInt8} : 0xE0 ≤ b₀.toNat → b₀.toNat ≤ 0xEF → isSecond b₀.toNat b₁.toNat →
    isContinuation b₂.toNat →
      CharBytes [b₀, b₁, b₂] (((b₀.toNat - 0xE0) * 64 + (b₁.toNat - 0x80)) * 64 + (b₂.toNat - 0x80))
  | four {b₀ b₁ b₂ b₃ : UInt8} : 0xF0 ≤ b₀.toNat → b₀.toNat ≤ 0xF4 → isSecond b₀.toNat b₁.toNat →
    isContinuation b₂.toNat → isContinuation b₃.toNat →
      CharBytes [b₀, b₁, b₂, b₃] ((((b₀.toNat - 0xF0) * 64 + (b₁.toNat - 0x80)) * 64 +
        (b₂.toNat - 0x80)) * 64 + (b₃.toNat - 0x80))

namespace CharBytes

variable {bs : List UInt8} {c : Nat}

theorem valid (bytes : CharBytes bs c) : c < 0xD800 ∨ 0xDFFF < c ∧ c < 0x110000 := by
  cases bytes with
  | one small => omega
  | two least most second =>
    have := bounds_of_isSecond second
    omega
  | three least most second third =>
    have := bounds_of_isSecond second
    have := isContinuation_iff.1 third
    omega
  | four least most second third fourth =>
    have := bounds_of_isSecond second
    have := isContinuation_iff.1 third
    have := isContinuation_iff.1 fourth
    omega

theorem encodeCode_eq (bytes : CharBytes bs c) : encodeCode c = bs := by
  cases bytes with
  | one small => rw [encodeCode, if_pos small, toUInt8_of_toNat rfl]
  | two least most second =>
    have := bounds_of_isSecond second
    exact encodeCode_two least most (by omega) (by omega)
  | three least most second third =>
    have := bounds_of_isSecond second
    have := isContinuation_iff.1 third
    exact encodeCode_three least most (by omega) (by omega) (by omega) (by omega) (by omega)
  | four least most second third fourth =>
    have := bounds_of_isSecond second
    have := isContinuation_iff.1 third
    have := isContinuation_iff.1 fourth
    exact encodeCode_four least most (by omega) (by omega) (by omega) (by omega) (by omega)
      (by omega) (by omega)

/-- They are what `encode` writes for a character. -/
theorem exists_encode (bytes : CharBytes bs c) : ∃ d : Char, d.toNat = c ∧ encode d = bs :=
  ⟨.ofNatAux c bytes.valid, rfl, bytes.encodeCode_eq⟩

end CharBytes

theorem width_eq {b : Nat} : (width b = 1 → b < 0x80) ∧ (width b = 2 → 0xC2 ≤ b ∧ b ≤ 0xDF) ∧
    (width b = 3 → 0xE0 ≤ b ∧ b ≤ 0xEF) ∧ (width b = 4 → 0xF0 ≤ b ∧ b ≤ 0xF4) ∧ width b ≤ 4 := by
  unfold width
  grind

/-- A character that is read stands in the bytes. -/
theorem charBytes_of_front {b : UInt8} {rest : List UInt8} {c n : Nat}
    (read : frontOf b rest = .char c n) :
    ∃ bs, CharBytes bs c ∧ bs.length = n ∧ bs <+: b :: rest := by
  obtain ⟨one, two, three, four, le⟩ := width_eq (b := b.toNat)
  unfold frontOf front at read
  generalize width b.toNat = w at one two three four le read
  simp only at read
  split at read
  · cases read
  · split at read
    · cases read
      exact ⟨[b], .one (one (by assumption)), rfl, rest, rfl⟩
    · rcases rest with _ | ⟨b₁, rest⟩
      · cases read
      · by_cases second : isSecond b.toNat b₁.toNat
        · simp only [List.getElem?_cons_zero, List.getElem?_cons_succ, Option.map_some, second,
            Bool.not_true, Bool.false_eq_true, if_false] at read
          by_cases short : w = 2
          · obtain ⟨least, most⟩ := two short
            rw [if_pos short, Front.char.injEq] at read
            obtain ⟨rfl, rfl⟩ := read
            exact ⟨[b, b₁], .two least most second, rfl, rest, rfl⟩
          · rw [if_neg short] at read
            rcases rest with _ | ⟨b₂, rest⟩
            · cases read
            · by_cases third : isContinuation b₂.toNat
              · simp only [List.getElem?_cons_zero, List.getElem?_cons_succ, Option.map_some, third,
                  Bool.not_true, Bool.false_eq_true, if_false] at read
                by_cases middle : w = 3
                · obtain ⟨least, most⟩ := three middle
                  rw [if_pos middle, Front.char.injEq] at read
                  obtain ⟨rfl, rfl⟩ := read
                  exact ⟨[b, b₁, b₂], .three least most second third, rfl, rest, rfl⟩
                · rw [if_neg middle] at read
                  rcases rest with _ | ⟨b₃, rest⟩
                  · cases read
                  · by_cases fourth : isContinuation b₃.toNat
                    · obtain ⟨least, most⟩ := four (by omega)
                      simp only [List.getElem?_cons_zero, Option.map_some, fourth, Bool.not_true,
                        Bool.false_eq_true, if_false, Front.char.injEq] at read
                      obtain ⟨rfl, rfl⟩ := read
                      exact ⟨[b, b₁, b₂, b₃], .four least most second third fourth, rfl, rest, rfl⟩
                    · simp [fourth] at read
              · simp [third] at read
        · simp [second] at read

/-- The character at the front of bytes stands there as `encode` writes it. -/
theorem frontOf_eq_char_iff {b : UInt8} {rest : List UInt8} {c n : Nat} :
    frontOf b rest = .char c n ↔
      ∃ d : Char, d.toNat = c ∧ (encode d).length = n ∧ encode d <+: b :: rest := by
  constructor
  · intro read
    obtain ⟨bs, bytes, length, front⟩ := charBytes_of_front read
    obtain ⟨d, value, encoded⟩ := bytes.exists_encode
    rw [← encoded] at length front
    exact ⟨d, value, length, front⟩
  · rintro ⟨d, rfl, rfl, tail, split⟩
    obtain ⟨b', bs, encoded, read⟩ := encode_cons d tail
    rw [encoded, List.cons_append, List.cons.injEq] at split
    obtain ⟨rfl, rfl⟩ := split
    rw [read, encoded, List.length_cons]

/-- The character at a place of a text stands there as `encode` writes it. -/
theorem frontAt_eq_char_iff {h : ByteArray} {i c n : Nat} :
    frontAt h i h.size = some (.char c n) ↔
      ∃ d : Char, d.toNat = c ∧ (encode d).length = n ∧ encode d <+: bytesFrom h i := by
  by_cases inside : i < h.size
  · have byte (j : Nat) : (if j < h.size then h[j]?.map UInt8.toNat else none) =
        h[j]?.map UInt8.toNat := by
      by_cases lt : j < h.size
      · rw [if_pos lt]
      · rw [if_neg lt, getElem?_neg h j lt]
        rfl
    have front : frontAt h i h.size = some (frontOf h[i] (bytesFrom h (i + 1))) := by
      simp only [frontAt, byte]
      rw [getElem?_pos h i inside, frontOf, getElem?_bytesFrom, getElem?_bytesFrom,
        getElem?_bytesFrom]
      rfl
    rw [front, Option.some.injEq, frontOf_eq_char_iff, bytesFrom_of_lt inside]
  · have front : frontAt h i h.size = none := by
      simp only [frontAt, if_neg inside]
    rw [front, bytesFrom_of_le (Nat.le_of_not_lt inside)]
    constructor
    · intro char
      cases char
    · rintro ⟨d, -, -, front⟩
      obtain ⟨b, bs, encoded, -⟩ := encode_cons d []
      rw [encoded, List.prefix_nil] at front
      cases front

end FileSearch.Utf8
