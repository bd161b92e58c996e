import FileSearch.Proofs.Text.Utf8

/-!
# Characters that are not complete

Bytes are cut off if they are the first ones of a character, but not all of them (`CutOff`).
`Opening` says the same byte by byte (`cutOff_iff_opening`), so that each answer of `frontOf` is
told by the bytes it has looked at (`Shows`): a character, bytes that open one and are all there
is, or bytes that open one and the next byte, which does not follow.
-/

namespace FileSearch.Utf8

variable {b x : UInt8} {bs seen rest : List UInt8} {c k n : Nat}

/-- The bytes are the first ones of a character, but not all of them. -/
def CutOff (bs : List UInt8) : Prop := bs ≠ [] ∧ ∃ d, bs <+: encode d ∧ bs ≠ encode d

/-! ## Characters that are not complete -/

theorem width_of_bounds {b : Nat} : (0xC2 ≤ b → b ≤ 0xDF → width b = 2) ∧
    (0xE0 ≤ b → b ≤ 0xEF → width b = 3) ∧ (0xF0 ≤ b → b ≤ 0xF4 → width b = 4) := by
  unfold width
  grind

theorem width_of_isContinuation {b : Nat} (continues : isContinuation b = true) : width b = 0 := by
  have := isContinuation_iff.1 continues
  unfold width
  grind

theorem exists_isSecond (lead : Nat) : ∃ x : UInt8, isSecond lead x.toNat := by
  by_cases three : lead = 0xE0
  · exact ⟨0xA0, by rw [three]; rfl⟩
  · by_cases four : lead = 0xF0
    · exact ⟨0x90, by rw [four]; rfl⟩
    · refine ⟨0x80, ?_⟩
      unfold isSecond
      rw [if_neg three, if_neg four]
      split
      · rfl
      · split
        · rfl
        · rfl

/-- The first bytes of a character that has more of them. -/
inductive Opening : List UInt8 → Prop where
  | one {b : UInt8} : 2 ≤ width b.toNat → Opening [b]
  | two {b b₁ : UInt8} : 3 ≤ width b.toNat → isSecond b.toNat b₁.toNat → Opening [b, b₁]
  | three {b b₁ b₂ : UInt8} : 4 ≤ width b.toNat → isSecond b.toNat b₁.toNat →
    isContinuation b₂.toNat → Opening [b, b₁, b₂]

/-- Whether a byte can follow the first bytes of a character. -/
def canFollow : List UInt8 → UInt8 → Bool
  | [b], x => isSecond b.toNat x.toNat
  | _, x => isContinuation x.toNat

theorem CharBytes.opening_take (bytes : CharBytes bs c) (pos : 0 < k) (lt : k < bs.length) :
    Opening (bs.take k) := by
  have widths (b : Nat) := width_of_bounds (b := b)
  cases bytes with
  | one =>
    rw [List.length_singleton] at lt
    omega
  | two least most second =>
    obtain rfl : k = 1 := by grind
    exact .one (by grind)
  | three least most second third =>
    obtain rfl | rfl : k = 1 ∨ k = 2 := by grind
    · exact .one (by grind)
    · exact .two (by grind) second
  | four least most second third fourth =>
    obtain rfl | rfl | rfl : k = 1 ∨ k = 2 ∨ k = 3 := by grind
    · exact .one (by grind)
    · exact .two (by grind) second
    · exact .three (by grind) second third

theorem CharBytes.cutOff (bytes : CharBytes bs c) (front : seen <+: bs) (some : seen ≠ [])
    (less : seen.length < bs.length) : CutOff seen := by
  obtain ⟨d, -, encoded⟩ := bytes.exists_encode
  refine ⟨some, d, encoded ▸ front, ?_⟩
  rintro rfl
  rw [encoded] at less
  exact Nat.lt_irrefl _ less

theorem CutOff.of_front (cut : CutOff bs) (front : seen <+: bs) (some : seen ≠ []) :
    CutOff seen := by
  obtain ⟨-, d, within, differs⟩ := cut
  refine ⟨some, d, front.trans within, ?_⟩
  rintro rfl
  exact differs (within.eq_of_length_le front.length_le)

/-- The first bytes of a character can be completed. -/
theorem Opening.cutOff (open_ : Opening bs) : CutOff bs := by
  have widths (b : Nat) := width_eq (b := b)
  have three {b b₁ b₂ : UInt8} (wide : 4 ≤ width b.toNat) (second : isSecond b.toNat b₁.toNat)
      (third : isContinuation b₂.toNat) : CutOff [b, b₁, b₂] := by
    have bytes : CharBytes [b, b₁, b₂, 0x80] _ := .four (by grind) (by grind) second third rfl
    exact bytes.cutOff ⟨[0x80], rfl⟩ (List.cons_ne_nil _ _) (Nat.lt_succ_self 3)
  have two {b b₁ : UInt8} (wide : 3 ≤ width b.toNat) (second : isSecond b.toNat b₁.toNat) :
      CutOff [b, b₁] := by
    by_cases last : width b.toNat = 3
    · have bytes : CharBytes [b, b₁, 0x80] _ := .three (by grind) (by grind) second rfl
      exact bytes.cutOff ⟨[0x80], rfl⟩ (List.cons_ne_nil _ _) (Nat.lt_succ_self 2)
    · have longer : CutOff [b, b₁, 0x80] := three (by omega) second rfl
      exact longer.of_front ⟨[0x80], rfl⟩ (List.cons_ne_nil _ _)
  cases open_ with
  | @one b wide =>
    obtain ⟨x, second⟩ := exists_isSecond b.toNat
    by_cases last : width b.toNat = 2
    · have bytes : CharBytes [b, x] _ := .two (by grind) (by grind) second
      exact bytes.cutOff ⟨[x], rfl⟩ (List.cons_ne_nil _ _) (Nat.lt_succ_self 1)
    · exact (two (by omega) second).of_front ⟨[x], rfl⟩ (List.cons_ne_nil _ _)
  | two wide second => exact two wide second
  | three wide second third => exact three wide second third

theorem charBytes_encode (d : Char) : CharBytes (encode d) d.toNat := by
  obtain ⟨b, bs, encoded, read⟩ := encode_cons d []
  obtain ⟨bs', bytes, length, front⟩ := charBytes_of_front read
  rw [List.append_nil, ← encoded] at front
  have same : bs'.length = (encode d).length := by rw [length, encoded, List.length_cons]
  rwa [← front.eq_of_length same]

theorem cutOff_iff_opening : CutOff bs ↔ Opening bs := by
  constructor
  · rintro ⟨some, d, front, differs⟩
    rw [List.prefix_iff_eq_take] at front
    rw [front]
    refine (charBytes_encode d).opening_take (List.length_pos_iff.2 some) ?_
    refine Nat.lt_of_not_le fun beyond => differs ?_
    rwa [List.take_of_length_le beyond] at front
  · exact Opening.cutOff

/-! ## What stands at the front -/

/-- What `frontOf` says, by the bytes that it has looked at. -/
inductive Shows (b : UInt8) : List UInt8 → Front → Prop where
  | char {bs rest : List UInt8} {c : Nat} : CharBytes bs c → bs <+: b :: rest →
    Shows b rest (.char c bs.length)
  | stray {rest : List UInt8} : width b.toNat = 0 → Shows b rest (.invalid 1)
  | cut {rest : List UInt8} : Opening (b :: rest) → Shows b rest (.cut (rest.length + 1))
  | broken (seen : List UInt8) {rest : List UInt8} {x : UInt8} : Opening (b :: seen) →
    canFollow (b :: seen) x = false → Shows b (seen ++ x :: rest) (.invalid (seen.length + 1))

theorem frontOf_nil (b : UInt8) : frontOf b [] = front b.toNat none none none := rfl

theorem frontOf_second (b b₁ : UInt8) (rest : List UInt8) :
    frontOf b (b₁ :: rest) = front b.toNat (some b₁.toNat) (rest[0]?.map UInt8.toNat)
      (rest[1]?.map UInt8.toNat) := rfl

theorem frontOf_third (b b₁ b₂ : UInt8) (rest : List UInt8) :
    frontOf b (b₁ :: b₂ :: rest) = front b.toNat (some b₁.toNat) (some b₂.toNat)
      (rest[0]?.map UInt8.toNat) := rfl

theorem frontOf_fourth (b b₁ b₂ b₃ : UInt8) (rest : List UInt8) :
    frontOf b (b₁ :: b₂ :: b₃ :: rest) =
      front b.toNat (some b₁.toNat) (some b₂.toNat) (some b₃.toNat) := rfl

theorem Shows.frontOf_eq {f : Front} (seen : Shows b rest f) : frontOf b rest = f := by
  cases seen with
  | char bytes front =>
    obtain ⟨d, value, encoded⟩ := bytes.exists_encode
    exact frontOf_eq_char_iff.2 ⟨d, value, congrArg List.length encoded, encoded ▸ front⟩
  | stray none => exact if_pos none
  | cut open_ =>
    cases open_ with
    | one wide => grind [frontOf_nil, front]
    | two wide second => grind [frontOf_second, front]
    | three wide second third => grind [frontOf_third, front]
  | broken seen open_ next =>
    cases open_ with
    | one wide => grind [frontOf_second, front, canFollow]
    | two wide second => grind [frontOf_third, front, canFollow]
    | three wide second third => grind [frontOf_fourth, front, canFollow]

theorem exists_shows (b : UInt8) (rest : List UInt8) : ∃ f, Shows b rest f := by
  obtain ⟨one, two, three, four, le⟩ := width_eq (b := b.toNat)
  by_cases none : width b.toNat = 0
  · exact ⟨_, .stray none⟩
  by_cases lone : width b.toNat = 1
  · exact ⟨_, .char (.one (one lone)) ⟨rest, rfl⟩⟩
  rcases rest with _ | ⟨b₁, rest⟩
  · exact ⟨_, .cut (.one (by omega))⟩
  by_cases second : isSecond b.toNat b₁.toNat
  case neg => exact ⟨_, .broken [] (.one (by omega)) (eq_false_of_ne_true second)⟩
  by_cases short : width b.toNat = 2
  · obtain ⟨least, most⟩ := two short
    exact ⟨_, .char (.two least most second) ⟨rest, rfl⟩⟩
  rcases rest with _ | ⟨b₂, rest⟩
  · exact ⟨_, .cut (.two (by omega) second)⟩
  by_cases third : isContinuation b₂.toNat
  case neg =>
    exact ⟨_, .broken [b₁] (.two (by omega) second) (eq_false_of_ne_true third)⟩
  by_cases middle : width b.toNat = 3
  · obtain ⟨least, most⟩ := three middle
    exact ⟨_, .char (.three least most second third) ⟨rest, rfl⟩⟩
  rcases rest with _ | ⟨b₃, rest⟩
  · exact ⟨_, .cut (.three (by omega) second third)⟩
  by_cases fourth : isContinuation b₃.toNat
  case neg =>
    exact ⟨_, .broken [b₁, b₂] (.three (by omega) second third)
      (eq_false_of_ne_true fourth)⟩
  obtain ⟨least, most⟩ := four (by omega)
  exact ⟨_, .char (.four least most second third fourth) ⟨rest, rfl⟩⟩

theorem shows_frontOf (b : UInt8) (rest : List UInt8) : Shows b rest (frontOf b rest) := by
  obtain ⟨f, seen⟩ := exists_shows b rest
  rwa [seen.frontOf_eq]

theorem frontOf_eq_cut_iff :
    frontOf b rest = .cut n ↔ CutOff (b :: rest) ∧ n = rest.length + 1 := by
  rw [cutOff_iff_opening]
  constructor
  · intro read
    have seen := shows_frontOf b rest
    rw [read] at seen
    cases seen with
    | cut open_ => exact ⟨open_, rfl⟩
  · rintro ⟨open_, rfl⟩
    exact (Shows.cut open_).frontOf_eq

/-- Bytes that open a character continue it after the first one. -/
theorem Opening.continues (open_ : Opening (b :: seen)) :
    ∀ x ∈ seen, isContinuation x.toNat := by
  cases open_ with
  | one => simp
  | two wide second => simp [isContinuation_iff.2 (bounds_of_isSecond second).1]
  | three wide second third => simp [isContinuation_iff.2 (bounds_of_isSecond second).1, third]

end FileSearch.Utf8
