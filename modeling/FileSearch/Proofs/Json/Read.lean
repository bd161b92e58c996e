import FileSearch.Proofs.Json.Token

/-!
# JSON values are read back from their text

`bytes_str`, `bytes_arr` and `bytes_obj` say how a value is written.  An array and an object are
read by one kind of loop (`Listed`), which reads everything that stands before the closing bracket
(`Listed.takes`), so that a value is read back from its text by induction on how it is built
(`Readable.takes`, `read_render`).
-/

namespace FileSearch.Json

/-- The bytes of the text of a value. -/
def bytes (v : Json) : List UInt8 := Utf8.encodeAll v.render.toList

/-- Byte sequences with commas between them. -/
def commas : List (List UInt8) → List UInt8
  | [] => []
  | first :: others => first ++ others.flatMap (0x2C :: ·)

theorem encodeAll_append (cs ds : List Char) :
    Utf8.encodeAll (cs ++ ds) = Utf8.encodeAll cs ++ Utf8.encodeAll ds :=
  List.flatMap_append

theorem encodeAll_intercalate (texts : List (List Char)) :
    Utf8.encodeAll ([','].intercalate texts) = commas (texts.map Utf8.encodeAll) := by
  induction texts with
  | nil => rfl
  | cons text texts ih =>
    cases texts with
    | nil => rw [List.intercalate_singleton]; exact (List.append_nil _).symm
    | cons next texts =>
      rw [List.intercalate_cons_cons, encodeAll_append, encodeAll_append, ih, List.append_assoc]
      rfl

theorem encodeAll_quote (s : String) :
    Utf8.encodeAll (quote s).toList =
      0x22 :: (Utf8.encodeAll (s.toList.flatMap escapeChar) ++ [0x22]) := by
  rw [quote, String.toList_ofList, List.cons_append]
  show 0x22 :: Utf8.encodeAll (s.toList.flatMap escapeChar ++ ['"']) = _
  rw [encodeAll_append]
  rfl

theorem renderItems_eq (items : List Json) : renderItems items = items.map render := by
  induction items with
  | nil => rfl
  | cons v items ih => rw [renderItems, ih]; rfl

theorem renderMembers_eq (members : List (String × Json)) :
    renderMembers members = members.map fun m => quote m.1 ++ ":" ++ render m.2 := by
  induction members with
  | nil => rfl
  | cons m members ih => rw [renderMembers, ih]; rfl

/-- The bytes of a member of an object. -/
def memberBytes (m : String × Json) : List UInt8 :=
  0x22 :: (Utf8.encodeAll (m.1.toList.flatMap escapeChar) ++ [0x22] ++ 0x3A :: bytes m.2)

theorem encodeAll_member (m : String × Json) :
    Utf8.encodeAll (quote m.1 ++ ":" ++ render m.2).toList = memberBytes m := by
  have colon : Utf8.encodeAll ":".toList = [0x3A] := rfl
  rw [String.toList_append, String.toList_append, encodeAll_append, encodeAll_append,
    encodeAll_quote, colon, memberBytes, bytes]
  simp only [List.cons_append, List.append_assoc, List.nil_append]

theorem bytes_nat (n : Nat) : bytes (.nat n) = Utf8.encodeAll (Nat.toDigits 10 n) := by
  show Utf8.encodeAll (String.ofList (Nat.toDigits 10 n)).toList = _
  rw [String.toList_ofList]

theorem bytes_str (s : String) :
    bytes (.str s) = 0x22 :: (Utf8.encodeAll (s.toList.flatMap escapeChar) ++ [0x22]) := by
  rw [bytes, render, encodeAll_quote]

theorem bytes_arr (items : List Json) :
    bytes (.arr items) = 0x5B :: (commas (items.map bytes) ++ [0x5D]) := by
  rw [bytes, render, renderItems_eq, String.toList_append, String.toList_append,
    String.toList_intercalate, encodeAll_append, encodeAll_append]
  show 0x5B :: (Utf8.encodeAll ([','].intercalate _) ++ [0x5D]) = _
  rw [encodeAll_intercalate, List.map_map, List.map_map]
  rfl

theorem bytes_obj (members : List (String × Json)) :
    bytes (.obj members) = 0x7B :: (commas (members.map memberBytes) ++ [0x7D]) := by
  rw [bytes, render, renderMembers_eq, String.toList_append, String.toList_append,
    String.toList_intercalate, encodeAll_append, encodeAll_append]
  show 0x7B :: (Utf8.encodeAll ([','].intercalate _) ++ [0x7D]) = _
  rw [encodeAll_intercalate, List.map_map, List.map_map]
  simp only [Function.comp_def, encodeAll_member]

/-- The values that are read back from their text: numbers are natural and fit in 64 bits, and
arrays and objects are nested less than `depth` deep. -/
inductive Readable : Nat → Json → Prop
  | null (depth : Nat) : Readable (depth + 1) .null
  | bool (depth : Nat) (b : Bool) : Readable (depth + 1) (.bool b)
  | nat (depth : Nat) {n : Nat} : n < UInt64.size → Readable (depth + 1) (.nat n)
  | str (depth : Nat) (s : String) : Readable (depth + 1) (.str s)
  | arr {depth : Nat} {items : List Json} :
      (∀ v ∈ items, Readable (depth + 1) v) → Readable (depth + 2) (.arr items)
  | obj {depth : Nat} {members : List (String × Json)} :
      (∀ m ∈ members, Readable (depth + 1) m.2) → Readable (depth + 2) (.obj members)

open Reader

/-- A value begins neither with a blank nor with a closing bracket. -/
theorem Readable.begins {depth : Nat} {v : Json} (readable : Readable depth v) :
    ∃ b bs, bytes v = b :: bs ∧ b ≠ 0x20 ∧ b ≠ 0x0A ∧ b ≠ 0x09 ∧ b ≠ 0x0D ∧ b ≠ 0x5D := by
  cases readable with
  | null => exact ⟨0x6E, _, rfl, by decide⟩
  | bool _ b => cases b <;> exact ⟨_, _, rfl, by decide⟩
  | @nat _ n _ =>
    obtain ⟨d, ds, written, ⟨small, -⟩, -⟩ := exists_digits n
    rw [bytes_nat, written]
    refine ⟨digitByte d, Utf8.encodeAll (ds.map Nat.digitChar), ?_, ?_⟩
    · rw [Utf8.encodeAll, List.flatMap_cons, encode_digitChar small]
      rfl
    · have value := toNat_digitByte small
      refine ⟨?_, ?_, ?_, ?_, ?_⟩ <;> intro same <;> rw [same] at value <;> simp at value <;> omega
  | str => exact ⟨0x22, _, bytes_str _, by decide⟩
  | arr => exact ⟨0x5B, _, bytes_arr _, by decide⟩
  | obj => exact ⟨0x7B, _, bytes_obj _, by decide⟩

section

variable {b : UInt8} (rest : List UInt8)

theorem takes_blank (blank : b ≠ 0x20 ∧ b ≠ 0x0A ∧ b ≠ 0x09 ∧ b ≠ 0x0D) :
    Takes Reader.blank [] (b :: rest) (some b) := by
  intro offset
  have none : (b == 0x20 || b == 0x0A || b == 0x09 || b == 0x0D) = false := by simp [blank]
  refine ⟨offset, ?_⟩
  show Except.ok ((((b :: rest).drop ((b :: rest).takeWhile _).length).head?,
    (⟨(b :: rest).drop ((b :: rest).takeWhile _).length,
      offset + ((b :: rest).takeWhile _).length⟩ : Cursor))) = _
  rw [List.takeWhile_cons_of_neg (by rw [none]; decide)]
  rfl

theorem takes_moreItems_first (blank : b ≠ 0x20 ∧ b ≠ 0x0A ∧ b ≠ 0x09 ∧ b ≠ 0x0D)
    (close : b ≠ 0x5D) : Takes (moreItems true) [] (b :: rest) true := by
  intro offset
  obtain ⟨place, taken⟩ := takes_blank rest blank offset
  refine ⟨place, ?_⟩
  rw [moreItems, StateT.run_bind, taken]
  show (if (b == 0x5D) = true then _ else return true : Reader Bool).run _ = _
  rw [if_neg (by rw [beq_iff_eq]; exact close)]
  rfl

theorem takes_moreItems_next (blank : b ≠ 0x20 ∧ b ≠ 0x0A ∧ b ≠ 0x09 ∧ b ≠ 0x0D)
    (close : b ≠ 0x5D) : Takes (moreItems false) [0x2C] (b :: rest) true := by
  have comma : Takes Reader.blank [] (0x2C :: b :: rest) (some 0x2C) := takes_blank _ (by decide)
  have passed : Takes eat [0x2C] (b :: rest) () := fun offset => ⟨offset + 1, rfl⟩
  rw [show [(0x2C : UInt8)] = [] ++ ([0x2C] ++ ([] ++ [])) from rfl]
  refine comma.bind (passed.seq (Takes.bind (takes_blank rest blank) ?_))
  split
  case h_1 same => exact absurd (Option.some.inj same) close
  case h_2 => exact takes_pure true _
  case h_3 none => exact absurd none (by simp)

theorem takes_moreItems_end (first : Bool) :
    Takes (moreItems first) [] (0x5D :: rest) false :=
  fun offset => ⟨offset, rfl⟩

theorem takes_moreMembers_first : Takes (moreMembers true) [] (0x22 :: rest) true :=
  fun offset => ⟨offset, rfl⟩

theorem takes_moreMembers_next : Takes (moreMembers false) [0x2C] (0x22 :: rest) true :=
  fun offset => ⟨offset + 1, rfl⟩

theorem takes_moreMembers_end (first : Bool) :
    Takes (moreMembers first) [] (0x7D :: rest) false :=
  fun offset => ⟨offset, rfl⟩

theorem takes_colon : Takes colon [0x3A] rest () :=
  fun offset => ⟨offset + 1, rfl⟩

end

/-! ## Arrays and objects -/

/-- What a loop over the items of an array or the members of an object does, `more` looking for
another one and `item` reading it, when they are written as `text` and `close` follows them. -/
structure Listed {α : Type} (more : Bool → Reader Bool) (item : Reader α)
    (loop : Nat → List α → Reader (List α)) (text : α → List UInt8) (close : UInt8)
    (as : List α) : Prop where
  step : ∀ limit read, loop (limit + 1) read =
    more read.isEmpty >>= fun another =>
      if another = true then item >>= fun a => loop limit (a :: read) else pure read
  closes : close = 0x5D ∨ close = 0x7D
  first : ∀ a ∈ as, ∀ rest, Takes (more true) [] (text a ++ rest) true
  next : ∀ a ∈ as, ∀ rest, Takes (more false) [0x2C] (text a ++ rest) true
  ends : ∀ isFirst rest, Takes (more isFirst) [] (close :: rest) false
  reads : ∀ a ∈ as, ∀ rest, Ends rest → Takes item (text a) rest a

section

variable {α : Type} {more : Bool → Reader Bool} {item : Reader α}
  {loop : Nat → List α → Reader (List α)} {text : α → List UInt8} {close : UInt8}

theorem Listed.tail {a : α} {as : List α} (listed : Listed more item loop text close (a :: as)) :
    Listed more item loop text close as :=
  ⟨listed.step, listed.closes, fun b mem => listed.first b (List.mem_cons_of_mem _ mem),
    fun b mem => listed.next b (List.mem_cons_of_mem _ mem), listed.ends,
    fun b mem => listed.reads b (List.mem_cons_of_mem _ mem)⟩

/-- What stands after an item ends it. -/
theorem Listed.ends_tail {as : List α} (listed : Listed more item loop text close as)
    (rest : List UInt8) : Ends (as.flatMap (fun a => 0x2C :: text a) ++ close :: rest) := by
  intro b mem
  cases as with
  | nil =>
    have same : close = b := Option.some.inj mem
    rw [← same]
    exact .inr listed.closes
  | cons a as =>
    have same : 0x2C = b := Option.some.inj mem
    exact .inl same.symm

theorem Listed.takes_item {a : α} {read as : List α}
    (listed : Listed more item loop text close (a :: as)) {limit : Nat}
    {front bytes rest : List UInt8} {b : List α}
    (another : Takes (more read.isEmpty) front (text a ++ (bytes ++ rest)) true)
    (ends : Ends (bytes ++ rest)) (go : Takes (loop limit (a :: read)) bytes rest b) :
    Takes (loop (limit + 1) read) (front ++ (text a ++ bytes)) rest b := by
  rw [listed.step]
  rw [← List.append_assoc] at another
  refine Takes.bind another ?_
  rw [if_pos rfl]
  exact Takes.bind (listed.reads a List.mem_cons_self _ ends) go

theorem Listed.takes_others {as : List α} (listed : Listed more item loop text close as)
    {read : List α} (some : read ≠ []) {limit : Nat} (room : as.length < limit)
    (rest : List UInt8) :
    Takes (loop limit read) (as.flatMap fun a => 0x2C :: text a) (close :: rest)
      (as.reverse ++ read) := by
  induction as generalizing read limit with
  | nil =>
    obtain ⟨limit, rfl⟩ : ∃ n, limit = n + 1 := ⟨limit - 1, by omega⟩
    rw [listed.step]
    show Takes _ ([] ++ []) _ _
    exact Takes.bind (listed.ends _ _) (takes_pure read _)
  | cons a as ih =>
    obtain ⟨limit, rfl⟩ : ∃ n, limit = n + 1 := ⟨limit - 1, by omega⟩
    have empty : read.isEmpty = false := List.isEmpty_eq_false_iff.2 some
    have go := ih listed.tail (List.cons_ne_nil a read) (Nat.lt_of_succ_lt_succ room)
    have another := listed.next a List.mem_cons_self
      (as.flatMap (fun a => 0x2C :: text a) ++ close :: rest)
    rw [← empty] at another
    rw [List.reverse_cons, List.append_assoc, List.singleton_append]
    exact listed.takes_item another (listed.tail.ends_tail rest) go

/-- A loop reads everything that stands before the closing bracket. -/
theorem Listed.takes {as : List α} (listed : Listed more item loop text close as) {limit : Nat}
    (room : as.length < limit) (rest : List UInt8) :
    Takes (loop limit []) (commas (as.map text)) (close :: rest) as.reverse := by
  obtain ⟨limit, rfl⟩ : ∃ n, limit = n + 1 := ⟨limit - 1, by omega⟩
  cases as with
  | nil =>
    rw [listed.step]
    show Takes _ ([] ++ []) _ _
    exact Takes.bind (listed.ends _ _) (takes_pure [] _)
  | cons a as =>
    have go := listed.tail.takes_others (List.cons_ne_nil a []) (Nat.lt_of_succ_lt_succ room) rest
    have another : Takes (more (List.isEmpty ([] : List α))) [] _ true :=
      listed.first a List.mem_cons_self (as.flatMap (fun a => 0x2C :: text a) ++ close :: rest)
    rw [List.reverse_cons]
    show Takes _ (text a ++ (as.map text).flatMap (0x2C :: ·)) _ _
    rw [List.flatMap_map]
    exact listed.takes_item another (listed.tail.ends_tail rest) go

end

/-- Reads a member of an object. -/
def memberWith (value : Reader Json) : Reader (String × Json) := do
  eat
  let key ← Reader.string
  colon
  return (key, ← value)

theorem memberWith_quote (value : Reader Json) (bytes : List UInt8) (offset : Nat) :
    (memberWith value).run ⟨0x22 :: bytes, offset⟩ = (do
      let key ← Reader.string
      colon
      return (key, ← value) : Reader (String × Json)).run ⟨bytes, offset + 1⟩ := rfl

theorem takes_member {value : Reader Json} {m : String × Json} {rest : List UInt8}
    (reads : Takes value (bytes m.2) rest m.2) :
    Takes (memberWith value) (memberBytes m) rest m := by
  have last : Takes (do return (m.1, ← value)) (bytes m.2) rest m := reads.map fun v => (m.1, v)
  have behind : Takes (do colon; return (m.1, ← value)) (0x3A :: bytes m.2) rest m :=
    (takes_colon _).seq last
  have all : Takes (do
      let key ← Reader.string
      colon
      return (key, ← value)) (Utf8.encodeAll (m.1.toList.flatMap escapeChar) ++ [0x22] ++
        0x3A :: bytes m.2) rest m := (takes_string m.1 _).bind behind
  exact all.after fun offset => memberWith_quote value _ offset

theorem length_le_commas {texts : List (List UInt8)} (some : ∀ text ∈ texts, text ≠ []) :
    texts.length ≤ (commas texts).length := by
  cases texts with
  | nil => exact Nat.le_refl 0
  | cons first others =>
    have one : 0 < first.length := List.length_pos_iff.2 (some first List.mem_cons_self)
    have each : ∀ texts : List (List UInt8),
        texts.length ≤ (texts.flatMap (0x2C :: ·)).length := by
      intro texts
      induction texts with
      | nil => exact Nat.le_refl 0
      | cons text texts ih =>
        rw [List.flatMap_cons, List.length_append, List.length_cons, List.length_cons]
        omega
    have others := each others
    rw [commas, List.length_append, List.length_cons]
    omega

theorem Readable.bytes_ne_nil {depth : Nat} {v : Json} (readable : Readable depth v) :
    bytes v ≠ [] := by
  obtain ⟨b, bs, written, -⟩ := readable.begins
  rw [written]
  exact List.cons_ne_nil b bs

theorem listed_items {depth : Nat} {items : List Json} (readable : ∀ v ∈ items, Readable depth v)
    (reads : ∀ v ∈ items, ∀ rest, Ends rest → Takes (value depth) (bytes v) rest v) :
    Listed moreItems (value depth) (itemsWith (value depth)) bytes 0x5D items where
  step _ _ := rfl
  closes := .inl rfl
  first v mem rest := by
    obtain ⟨b, bs, written, space, line, tab, carriage, close⟩ := (readable v mem).begins
    rw [written]
    exact takes_moreItems_first (bs ++ rest) ⟨space, line, tab, carriage⟩ close
  next v mem rest := by
    obtain ⟨b, bs, written, space, line, tab, carriage, close⟩ := (readable v mem).begins
    rw [written]
    exact takes_moreItems_next (bs ++ rest) ⟨space, line, tab, carriage⟩ close
  ends first rest := takes_moreItems_end rest first
  reads := reads

theorem listed_members {depth : Nat} {members : List (String × Json)}
    (reads : ∀ m ∈ members, ∀ rest, Ends rest → Takes (value depth) (bytes m.2) rest m.2) :
    Listed moreMembers (memberWith (value depth)) (membersWith (value depth)) memberBytes 0x7D
      members where
  step limit read := by
    simp only [membersWith, memberWith, bind_assoc, pure_bind]
  closes := .inr rfl
  first m mem rest := takes_moreMembers_first _
  next m mem rest := takes_moreMembers_next _
  ends first rest := takes_moreMembers_end rest first
  reads m mem rest ends := takes_member (reads m mem rest ends)

/-- An array or an object is read when its loop reads what is between its brackets. -/
theorem Listed.takes_value {α : Type} {more : Bool → Reader Bool} {item : Reader α}
    {loop : Nat → List α → Reader (List α)} {text : α → List UInt8} {close : UInt8} {as : List α}
    (listed : Listed more item loop text close as)
    (short : (as.map text).length ≤ (commas (as.map text)).length) {b : UInt8}
    {r : Reader Json} {build : List α → Json}
    (step : ∀ bytes offset, r.run ⟨b :: bytes, offset⟩ = (do
      let as ← loop (bytes.length + 1) []
      eat
      return build as.reverse : Reader Json).run ⟨bytes, offset + 1⟩) (rest : List UInt8) :
    Takes r (b :: (commas (as.map text) ++ [close])) rest (build as) := by
  intro offset
  have room : as.length < (commas (as.map text) ++ [close] ++ rest).length + 1 := by
    rw [List.length_map] at short
    rw [List.length_append, List.length_append]
    omega
  have closing : Takes (do eat; return build as.reverse.reverse) [close] rest (build as) := by
    rw [List.reverse_reverse]
    exact fun offset => ⟨offset + 1, rfl⟩
  obtain ⟨place, taken⟩ := Takes.bind (f := fun as : List α => do eat; return build as.reverse)
    (listed.takes room rest) closing (offset + 1)
  exact ⟨place, (step _ offset).trans taken⟩

theorem takes_nat (depth : Nat) {n : Nat} (fits : n < UInt64.size) {rest : List UInt8}
    (ends : Ends rest) : Takes (value (depth + 1)) (bytes (.nat n)) rest (.nat n) := by
  rw [bytes_nat]
  have number := (takes_number fits ends).map Json.num
  obtain ⟨d, ds, written, ⟨small, -⟩, -⟩ := exists_digits n
  have first : Utf8.encodeAll (Nat.toDigits 10 n) =
      digitByte d :: Utf8.encodeAll (ds.map Nat.digitChar) := by
    rw [written, Utf8.encodeAll, List.flatMap_cons, encode_digitChar small]
    rfl
  rw [first] at number ⊢
  intro offset
  obtain ⟨place, taken⟩ := number offset
  refine ⟨place, Eq.trans ?_ taken⟩
  have ten : d = 0 ∨ d = 1 ∨ d = 2 ∨ d = 3 ∨ d = 4 ∨ d = 5 ∨ d = 6 ∨ d = 7 ∨ d = 8 ∨ d = 9 := by
    omega
  rcases ten with rfl | rfl | rfl | rfl | rfl | rfl | rfl | rfl | rfl | rfl <;> rfl

theorem value_quote (depth : Nat) (bytes : List UInt8) (offset : Nat) :
    (value (depth + 1)).run ⟨0x22 :: bytes, offset⟩ =
      (do return Json.str (← Reader.string) : Reader Json).run ⟨bytes, offset + 1⟩ := rfl

/-- A readable value is read back from its text. -/
theorem Readable.takes {depth : Nat} {v : Json} (readable : Readable depth v) :
    ∀ rest, Ends rest → Takes (value depth) (bytes v) rest v := by
  induction readable with
  | null => exact fun rest _ offset => ⟨offset + 4, rfl⟩
  | bool _ b => cases b <;> exact fun rest _ offset => ⟨_, rfl⟩
  | nat depth fits => exact fun rest ends => takes_nat depth fits ends
  | str depth s =>
    intro rest _
    rw [bytes_str]
    exact ((takes_string s rest).map Json.str).after fun offset => value_quote depth _ offset
  | arr readable ih =>
    intro rest _
    rw [bytes_arr]
    refine (listed_items readable ih).takes_value (length_le_commas ?_) (fun bytes offset => ?_) rest
    · exact List.forall_mem_map.2 fun v mem => (readable v mem).bytes_ne_nil
    · rfl
  | obj readable ih =>
    intro rest _
    rw [bytes_obj]
    refine (listed_members ih).takes_value (length_le_commas ?_) (fun bytes offset => ?_) rest
    · exact List.forall_mem_map.2 fun m _ => List.cons_ne_nil _ _
    · rfl

/-- A readable value is read back from its text. -/
theorem read_render {v : Json} (readable : Readable depthLimit v) :
    read v.render.toUTF8.data.toList = .ok v := by
  have ends : Ends [] := fun b mem => nomatch mem
  obtain ⟨place, taken⟩ := readable.takes [] ends 0
  rw [read, Utf8.toList_toUTF8]
  rw [List.append_nil] at taken
  show Except.map _ ((value depthLimit).run ⟨bytes v, 0⟩ >>= _) = _
  rw [taken]
  rfl

end FileSearch.Json
