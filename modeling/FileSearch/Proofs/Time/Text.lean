import FileSearch.Time.Read

/-!
# The text of a duration says how long it is

A `Part` is a number of units as `Duration.text` writes it.  `readItems_parts` says that reading
the parts of a text one after another adds them up as long as they fit, and `total_seconds_parts` and
`total_nanos_parts` that the parts of a duration come to the duration again.  So the text of every
duration is read back as the same duration (`read_text`).
-/

namespace FileSearch.Duration

/-- A number of units with the name by which the unit is written. -/
structure Part where
  count : Nat
  name : String
  unit : Unit

/-- The characters of a part. -/
def Part.chars (p : Part) : List Char := Nat.toDigits 10 p.count ++ p.name.toList

/-- Whether a character can only be read as one of the name of a unit. -/
def isLetter (c : Char) : Bool := isUnitChar c && !c.isDigit && !Unicode.isBlank c

theorem isLetter_iff {c : Char} :
    isLetter c = true ↔ (isUnitChar c = true ∧ c.isDigit = false) ∧ Unicode.isBlank c = false := by
  simp only [isLetter, Bool.and_eq_true, Bool.not_eq_true']

/-- What holds of a text that is read as the name of a unit. -/
structure Unit.Named (unit : Unit) (name : String) : Prop where
  ofName : ofName? name = some unit
  ne_nil : name.toList ≠ []
  letters : name.toList.all isLetter = true

theorem Unit.Named.letter {unit : Unit} {name : String} (named : unit.Named name) :
    ∀ c ∈ name.toList, isLetter c = true :=
  List.all_eq_true.1 named.letters

/-! ## Reading numbers and names -/

theorem le_ofDigitChars (ds : List Char) (n : Nat) : n ≤ Nat.ofDigitChars 10 ds n := by
  induction ds generalizing n with
  | nil => exact Nat.le_refl n
  | cons d ds ih =>
    have rest := ih (10 * n + (d.toNat - '0'.toNat))
    rw [Nat.ofDigitChars] at rest ⊢
    rw [List.foldl_cons]
    omega

theorem number_of_digits {ds : List Char} (digits : ∀ c ∈ ds, c.isDigit = true) {n : Nat}
    (fits : Nat.ofDigitChars 10 ds n < UInt64.size) {u : Char}
    (letter : isLetter u = true) (us : List Char) (place : Nat) :
    ∃ place', number n (ds ++ u :: us) place =
      .ok (Nat.ofDigitChars 10 ds n, none, ⟨u :: us, place'⟩) := by
  induction ds generalizing n place with
  | nil => exact ⟨place, by simp [number, isLetter_iff.1 letter, Nat.ofDigitChars]⟩
  | cons d ds ih =>
    have digit := digits d List.mem_cons_self
    have step : Nat.ofDigitChars 10 (d :: ds) n = Nat.ofDigitChars 10 ds (n * 10 + digitValue d) := by
      rw [Nat.mul_comm n 10]
      rfl
    rw [step] at fits ⊢
    have small := Nat.lt_of_le_of_lt (le_ofDigitChars ds _) fits
    obtain ⟨place', rest⟩ := ih (fun c hc => digits c (List.mem_cons_of_mem _ hc)) fits
      (after d (ds ++ u :: us) place).place
    refine ⟨place', ?_⟩
    have ten : checked (n * 10) = .ok (n * 10) := if_pos (by omega)
    have next : checked (n * 10 + digitValue d) = .ok (n * 10 + digitValue d) := if_pos small
    rw [List.cons_append, number, if_pos digit, ten]
    simp only [bind, Except.bind, next]
    exact rest

theorem unitName_of_letters (name cs rest : List Char)
    (letters : ∀ c ∈ cs, isUnitChar c = true)
    (ends : ∀ c ∈ rest.head?, isUnitChar c = false ∧ Unicode.isBlank c = true) (place : Nat) :
    ∃ place', unitName name (cs ++ rest) place =
      .ok (String.ofList (name.reverse ++ cs), ⟨rest, place'⟩) := by
  induction cs generalizing name place with
  | nil =>
    refine ⟨place, ?_⟩
    cases rest with
    | nil => simp [unitName]
    | cons c rest =>
      have blank := ends c rfl
      simp [unitName, blank]
  | cons c cs ih =>
    have letter := letters c List.mem_cons_self
    obtain ⟨place', read⟩ := ih (c :: name) (fun d hd => letters d (List.mem_cons_of_mem _ hd))
      (after c (cs ++ rest) place).place
    refine ⟨place', ?_⟩
    rw [List.cons_append, unitName, if_pos letter, read]
    simp

/-! ## Adding up parts -/

/-- What parts come to, where `per` is what one unit comes to: its seconds or its nanoseconds. -/
def total (per : Unit → Nat) : List Part → Nat
  | [] => 0
  | p :: ps => p.count * per p.unit + total per ps

/-- Seconds and nanoseconds as a duration. -/
def ofNats (seconds nanos : Nat) (small : nanos < 1000000000) : Duration :=
  ⟨seconds.toUInt64, nanos, small⟩

section

variable {s n : Nat} (hn : n < 1000000000)

theorem plusUnits_eq (hs : s < UInt64.size) {count : Nat} {unit : Unit}
    (seconds : s + count * unit.seconds < UInt64.size)
    (nanos : n + count * unit.nanos < 1000000000) :
    (ofNats s n hn).plusUnits count none unit =
      .ok (ofNats (s + count * unit.seconds) (n + count * unit.nanos) nanos) := by
  have own : (ofNats s n hn).seconds.toNat = s := by
    rw [ofNats, Nat.toUInt64_eq, UInt64.toNat_ofNat']
    exact Nat.mod_eq_of_lt hs
  have large : (1000000000 : Nat) < UInt64.size := by decide
  have secondsFit : checked (count * unit.seconds) = .ok (count * unit.seconds) :=
    if_pos (by omega)
  have nanosFit : checked (count * unit.nanos) = .ok (count * unit.nanos) := if_pos (by omega)
  have sumFits : checked (n + count * unit.nanos) = .ok (n + count * unit.nanos) :=
    if_pos (by omega)
  have carry : (n + count * unit.nanos) / 1000000000 = 0 := Nat.div_eq_of_lt nanos
  have parts : ofParts? (s + count * unit.seconds) (n + count * unit.nanos) =
      some (ofNats (s + count * unit.seconds) (n + count * unit.nanos) nanos) := by
    simp only [ofParts?, carry, Nat.add_zero, seconds, if_true, Nat.mod_eq_of_lt nanos, ofNats]
  simp only [plusUnits, secondsFit, nanosFit, plus, bind, Except.bind, own]
  rw [show (ofNats s n hn).nanos = n from rfl, sumFits]
  simp only [parts]
  rfl

theorem Part.count_lt (p : Part) (seconds : p.count * p.unit.seconds < UInt64.size)
    (nanos : p.count * p.unit.nanos < 1000000000) : p.count < UInt64.size := by
  have large : (1000000000 : Nat) < UInt64.size := by decide
  have unit : 0 < p.unit.seconds ∨ 0 < p.unit.nanos := by
    cases p.unit <;> decide
  rcases unit with positive | positive
  · exact Nat.lt_of_le_of_lt (Nat.le_mul_of_pos_right p.count positive) seconds
  · have small := Nat.lt_of_le_of_lt (Nat.le_mul_of_pos_right p.count positive) nanos
    omega

/-- The characters of parts with blanks between them. -/
def partsChars (ps : List Part) : List Char := [' '].intercalate (ps.map Part.chars)

theorem partsChars_cons (p : Part) (ps : List Part) :
    partsChars (p :: ps) = p.chars ++ if ps = [] then [] else ' ' :: partsChars ps := by
  cases ps <;> simp [partsChars, List.intercalate]

/-- Reads the parts that are left after a blank. -/
def readOn (fuel : Nat) (d : Duration) (start : Nat) (cs : List Char) (place : Nat) :
    Except ReadError Duration := do
  match ← firstDigit start cs place with
  | none => return d
  | some (n, rest) => readItems fuel d n rest

/-- A part is read and added, and then the part after the blank. -/
theorem readItems_part {p : Part} (named : p.unit.Named p.name) (hs : s < UInt64.size)
    (seconds : s + p.count * p.unit.seconds < UInt64.size)
    (nanos : n + p.count * p.unit.nanos < 1000000000) (rest : List Char)
    (ends : ∀ c ∈ rest.head?, c = ' ') (fuel start place : Nat) :
    ∃ c r start' place', firstDigit start (p.chars ++ rest) place = .ok (some (digitValue c, r)) ∧
      readItems (fuel + 1) (ofNats s n hn) (digitValue c) r =
        readOn fuel (ofNats (s + p.count * p.unit.seconds) (n + p.count * p.unit.nanos) nanos)
          start' rest.tail place' := by
  obtain ⟨c, ds, digits⟩ := List.exists_cons_of_ne_nil (Nat.toDigits_ne_nil (n := p.count) (b := 10))
  obtain ⟨u, us, name⟩ := List.exists_cons_of_ne_nil named.ne_nil
  have isDigit : ∀ d ∈ c :: ds, d.isDigit = true := fun d hd =>
    Nat.isDigit_of_mem_toDigits (by decide) (by decide) (digits ▸ hd)
  have chars : p.chars ++ rest = c :: (ds ++ u :: (us ++ rest)) := by
    rw [Part.chars, digits, name]
    simp
  have value : Nat.ofDigitChars 10 ds (digitValue c) = p.count := by
    have whole := Nat.ofDigitChars_toDigits (b := 10) (n := p.count) (by decide) (by decide)
    rw [digits, Nat.ofDigitChars, List.foldl_cons, Nat.mul_zero, Nat.zero_add] at whole
    exact whole
  have fits : Nat.ofDigitChars 10 ds (digitValue c) < UInt64.size := by
    rw [value]
    exact p.count_lt (by omega) (by omega)
  have first : firstDigit start (p.chars ++ rest) place =
      .ok (some (digitValue c, after c (ds ++ u :: (us ++ rest)) place)) := by
    rw [chars, firstDigit, if_pos (isDigit c List.mem_cons_self)]
  obtain ⟨place₁, number⟩ := number_of_digits
    (fun d hd => isDigit d (List.mem_cons_of_mem _ hd)) fits
    (named.letter u (name ▸ List.mem_cons_self)) (us ++ rest)
    (after c (ds ++ u :: (us ++ rest)) place).place
  obtain ⟨place₂, unitName⟩ := unitName_of_letters [] (u :: us) rest
    (fun d hd => (isLetter_iff.1 (named.letter d (name ▸ hd))).1.1)
    (fun d hd => by rw [ends d hd]; decide) place₁
  have added := plusUnits_eq hn hs seconds nanos
  rw [value, after] at number
  rw [List.cons_append] at unitName
  rw [List.reverse_nil, List.nil_append, ← name, String.ofList_toList] at unitName
  cases rest with
  | nil =>
    refine ⟨c, _, place₂, place₂, first, ?_⟩
    simp only [readItems, after, number, unitName, named.ofName, added, bind, Except.bind]
    rfl
  | cons b rest =>
    obtain rfl : b = ' ' := ends b rfl
    refine ⟨c, _, (after ' ' rest place₂).place, (after ' ' rest place₂).place, first, ?_⟩
    simp only [readItems, after, number, unitName, named.ofName, added, bind, Except.bind]
    rfl

/-- Reading parts one after another adds them up. -/
theorem readItems_parts {p : Part} {ps : List Part} (named : ∀ q ∈ p :: ps, q.unit.Named q.name)
    {fuel : Nat} (enough : ps.length < fuel) (hs : s < UInt64.size)
    (seconds : s + total Unit.seconds (p :: ps) < UInt64.size)
    (nanos : n + total Unit.nanos (p :: ps) < 1000000000) (start place : Nat) :
    ∃ c rest, firstDigit start (partsChars (p :: ps)) place = .ok (some (digitValue c, rest)) ∧
      readItems fuel (ofNats s n hn) (digitValue c) rest =
        .ok (ofNats (s + total Unit.seconds (p :: ps)) (n + total Unit.nanos (p :: ps)) nanos) := by
  induction ps generalizing p s n fuel start place with
  | nil =>
    obtain ⟨fuel, rfl⟩ := Nat.exists_eq_add_of_lt enough
    obtain ⟨c, rest, start', place', first, read⟩ :=
      readItems_part hn (named p List.mem_cons_self) hs seconds nanos [] nofun (0 + fuel) start place
    rw [partsChars_cons, if_pos rfl]
    exact ⟨c, rest, first, read⟩
  | cons q ps ih =>
    obtain ⟨fuel, rfl⟩ := Nat.exists_eq_add_of_lt enough
    have seconds' := seconds
    have nanos' := nanos
    rw [total] at seconds'
    rw [total] at nanos'
    obtain ⟨c, rest, start', place', first, read⟩ :=
      readItems_part hn (named p List.mem_cons_self) hs (by omega) (by omega)
        (' ' :: partsChars (q :: ps)) (by simp) ((q :: ps).length + fuel) start place
    have later : ∀ r ∈ q :: ps, r.unit.Named r.name := fun r hr =>
      named r (List.mem_cons_of_mem _ hr)
    have enough' : ps.length < (q :: ps).length + fuel := by
      rw [List.length_cons]
      omega
    have hs' : s + p.count * p.unit.seconds < UInt64.size := by omega
    have hn' : n + p.count * p.unit.nanos < 1000000000 := by omega
    obtain ⟨c', rest', first', read'⟩ :=
      ih hn' later enough' hs' (by omega) (by omega) start' place'
    rw [partsChars_cons, if_neg (List.cons_ne_nil q ps)]
    refine ⟨c, rest, first, read.trans ?_⟩
    rw [readOn, List.tail_cons, first']
    refine read'.trans ?_
    simp only [total, Nat.add_assoc]

end

/-! ## The parts of a duration -/

/-- A number of units, nothing if there are none. -/
def units (count : Nat) (name : String) (unit : Unit) : List Part :=
  if count = 0 then [] else [⟨count, name, unit⟩]

/-- A number of units whose name has a plural. -/
def unitsPlural (count : Nat) (name : String) (unit : Unit) : List Part :=
  units count (if count = 1 then name else name ++ "s") unit

/-- The parts of a duration, the longest units first. -/
def parts (d : Duration) : List Part :=
  let secs := d.seconds.toNat
  let rest := secs % secondsPerYear % secondsPerMonth
  unitsPlural (secs / secondsPerYear) "year" .year ++
    unitsPlural (secs % secondsPerYear / secondsPerMonth) "month" .month ++
    unitsPlural (rest / secondsPerDay) "day" .day ++
    units (rest % secondsPerDay / 3600) "h" .hour ++ units (rest % 3600 / 60) "m" .minute ++
    units (rest % 60) "s" .second ++ units (d.nanos / 1000000) "ms" .millisecond ++
    units (d.nanos / 1000 % 1000) "us" .microsecond ++ units (d.nanos % 1000) "ns" .nanosecond

/-- What is written of a part. -/
def Part.text (p : Part) : String := toString p.count ++ p.name

theorem map_text_units (count : Nat) (name : String) (unit : Unit) :
    (units count name unit).map Part.text = item count name := by
  unfold units item
  split <;> rfl

theorem map_text_parts (d : Duration) : d.parts.map Part.text = d.items := by
  simp only [parts, items, itemPlural, unitsPlural, List.map_append, map_text_units]

theorem total_append (per : Unit → Nat) (ps qs : List Part) :
    total per (ps ++ qs) = total per ps + total per qs := by
  induction ps with
  | nil => simp [total]
  | cons p ps ih => rw [List.cons_append, total, total, ih, Nat.add_assoc]

theorem total_units (per : Unit → Nat) (count : Nat) (name : String) (unit : Unit) :
    total per (units count name unit) = count * per unit := by
  unfold units
  split
  · rename_i none
    simp [total, none]
  · simp [total]

theorem total_seconds_parts (d : Duration) : total Unit.seconds d.parts = d.seconds.toNat := by
  simp only [parts, unitsPlural, total_append, total_units, Unit.seconds, secondsPerYear,
    secondsPerMonth, secondsPerDay]
  omega

theorem total_nanos_parts (d : Duration) : total Unit.nanos d.parts = d.nanos := by
  simp only [parts, unitsPlural, total_append, total_units, Unit.nanos]
  omega

theorem named_of_mem_units {p : Part} {count : Nat} {name : String} {unit : Unit}
    (mem : p ∈ units count name unit) (named : unit.Named name) : p.unit.Named p.name := by
  unfold units at mem
  split at mem
  · cases mem
  · obtain rfl := List.mem_singleton.1 mem
    exact named

theorem named_of_mem_unitsPlural {p : Part} {count : Nat} {name : String} {unit : Unit}
    (mem : p ∈ unitsPlural count name unit) (one : unit.Named name)
    (more : unit.Named (name ++ "s")) : p.unit.Named p.name := by
  unfold unitsPlural at mem
  split at mem
  · exact named_of_mem_units mem one
  · exact named_of_mem_units mem more

theorem named_of_mem_parts {d : Duration} {p : Part} (mem : p ∈ d.parts) : p.unit.Named p.name := by
  simp only [parts, List.mem_append] at mem
  obtain (((((((years | months) | days) | hours) | minutes) | seconds) | millis) | micros) | nanos := mem
  · exact named_of_mem_unitsPlural years ⟨by decide, by decide, by decide⟩
      ⟨by decide, by decide, by decide⟩
  · exact named_of_mem_unitsPlural months ⟨by decide, by decide, by decide⟩
      ⟨by decide, by decide, by decide⟩
  · exact named_of_mem_unitsPlural days ⟨by decide, by decide, by decide⟩
      ⟨by decide, by decide, by decide⟩
  · exact named_of_mem_units hours ⟨by decide, by decide, by decide⟩
  · exact named_of_mem_units minutes ⟨by decide, by decide, by decide⟩
  · exact named_of_mem_units seconds ⟨by decide, by decide, by decide⟩
  · exact named_of_mem_units millis ⟨by decide, by decide, by decide⟩
  · exact named_of_mem_units micros ⟨by decide, by decide, by decide⟩
  · exact named_of_mem_units nanos ⟨by decide, by decide, by decide⟩

theorem Part.two_le_length {p : Part} (named : p.unit.Named p.name) : 2 ≤ p.chars.length := by
  have digits := List.length_pos_iff.2 (Nat.toDigits_ne_nil (n := p.count) (b := 10))
  have letters := List.length_pos_iff.2 named.ne_nil
  rw [Part.chars, List.length_append]
  omega

theorem length_le_partsChars {ps : List Part} (named : ∀ p ∈ ps, p.unit.Named p.name) :
    2 * ps.length ≤ (partsChars ps).length := by
  induction ps with
  | nil => exact Nat.zero_le _
  | cons p ps ih =>
    have own := Part.two_le_length (named p List.mem_cons_self)
    have rest := ih fun q hq => named q (List.mem_cons_of_mem _ hq)
    rw [partsChars_cons, List.length_append, List.length_cons]
    split
    · rename_i none
      subst none
      simpa using own
    · rw [List.length_cons]
      omega

theorem toList_text {d : Duration} (some : ¬ (d.seconds = 0 ∧ d.nanos = 0)) :
    d.text.toList = partsChars d.parts := by
  have chars : String.toList ∘ Part.text = Part.chars := by
    funext p
    rw [Function.comp_apply, Part.text, Part.chars, String.toList_append, Nat.toString_eq_repr,
      Nat.toList_repr]
  rw [text, if_neg some, String.toList_intercalate, ← map_text_parts, List.map_map, chars]
  rfl

/-- A text of parts is read as what they come to. -/
theorem read_of_toList {text : String} {p : Part} {ps : List Part}
    (chars : text.toList = partsChars (p :: ps)) (named : ∀ q ∈ p :: ps, q.unit.Named q.name)
    (seconds : total Unit.seconds (p :: ps) < UInt64.size) (nanos : total Unit.nanos (p :: ps) < 1000000000) :
    read text = .ok (ofNats (total Unit.seconds (p :: ps)) (total Unit.nanos (p :: ps)) nanos) := by
  have long := length_le_partsChars named
  rw [← chars, String.length_toList, List.length_cons] at long
  have other : text ≠ "0" := by
    rintro rfl
    have : "0".length = 1 := rfl
    omega
  have fits : 0 + total Unit.seconds (p :: ps) < UInt64.size := by rwa [Nat.zero_add]
  have small : 0 + total Unit.nanos (p :: ps) < 1000000000 := by rwa [Nat.zero_add]
  have enough : ps.length < text.length + 1 := by omega
  obtain ⟨c, rest, first, items⟩ :=
    readItems_parts (by decide) named enough (by decide) fits small 0 0
  rw [← chars] at first
  rw [show ofNats 0 0 (by decide) = zero from rfl] at items
  simp only [read, if_neg other, first, bind, Except.bind, items, Nat.zero_add]

/-- The text of a duration is read as this duration. -/
theorem read_text (d : Duration) : read d.text = .ok d := by
  by_cases none : d.seconds = 0 ∧ d.nanos = 0
  · obtain ⟨seconds, nanos, small⟩ := d
    obtain ⟨rfl, rfl⟩ := none
    have named : ∀ p ∈ [(⟨0, "s", .second⟩ : Part)], p.unit.Named p.name := fun p hp => by
      rw [List.mem_singleton.1 hp]
      exact ⟨by decide, by decide, by decide⟩
    have chars : text ⟨0, 0, small⟩ = "0s" := if_pos ⟨rfl, rfl⟩
    rw [chars]
    exact read_of_toList (by decide) named (by decide) (by decide)
  · obtain ⟨p, ps, parts⟩ : ∃ p ps, d.parts = p :: ps := by
      refine List.exists_cons_of_ne_nil fun empty => none ?_
      have seconds := d.total_seconds_parts
      have nanos := d.total_nanos_parts
      rw [empty, total] at seconds
      rw [empty, total] at nanos
      exact ⟨UInt64.toNat_inj.1 seconds.symm, nanos.symm⟩
    have chars := toList_text none
    have seconds := d.total_seconds_parts
    have nanos := d.total_nanos_parts
    rw [parts] at chars seconds nanos
    have fits : total Unit.seconds (p :: ps) < UInt64.size := seconds ▸ d.seconds.toNat_lt_size
    have small : total Unit.nanos (p :: ps) < 1000000000 := nanos ▸ d.nanos_lt
    rw [read_of_toList chars (fun q hq => named_of_mem_parts (d := d) (parts ▸ hq)) fits small]
    simp [ofNats, seconds, nanos]

end FileSearch.Duration
