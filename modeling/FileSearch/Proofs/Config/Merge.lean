import Mathlib.Data.List.Induction
import Mathlib.Data.List.Nodup
import Mathlib.Data.List.TakeDrop
import Mathlib.Data.List.TakeWhile
import FileSearch.Config.KeyPath

/-!
# Layers of a configuration

A plain key leads nowhere into tables or lists, so a layer with plain keys is laid over a table member
by member (`Value.overlay_eq`).  What the layers make of a key is `valueIn`, which looks at the values
of this key alone: each of them is laid over what the layers before it have made of the key
(`get?_overlaid`).  So the last value counts if it is no table (`valueIn_last`), and a table is
laid over the members that are there already (`get?_valueIn_table`).
-/

namespace FileSearch.Config

/-- Whether a key leads nowhere into tables or lists. -/
def isPlainKey (key : String) : Bool := key.toList.all KeyPath.isNameChar

theorem KeyPath.ofText_plain {key : String} (plain : isPlainKey key = true) :
    ofText key = ⟨key, []⟩ := by
  have whole : key.toList.takeWhile isNameChar = key.toList :=
    List.takeWhile_eq_self_iff.2 (List.all_eq_true.1 plain)
  simp only [ofText, whole, List.drop_length, String.ofList_toList]
  cases key.toList <;> rfl

/-! ## Values -/

mutual

/-- Decides whether two values are the same. -/
def Value.decEq : (a b : Value) → Decidable (a = b)
  | .scalar o s, .scalar o' s' => decidable_of_iff (o = o' ∧ s = s') (by simp)
  | .list o items, .list o' items' =>
    have := Value.decEqItems items items'
    decidable_of_iff (o = o' ∧ items = items') (by simp)
  | .table o members, .table o' members' =>
    have := Value.decEqMembers members members'
    decidable_of_iff (o = o' ∧ members = members') (by simp)
  | .scalar _ _, .list _ _ | .scalar _ _, .table _ _ | .list _ _, .scalar _ _
  | .list _ _, .table _ _ | .table _ _, .scalar _ _ | .table _ _, .list _ _ => isFalse nofun

/-- Decides whether the items of two lists are the same. -/
def Value.decEqItems : (as bs : List Value) → Decidable (as = bs)
  | [], [] => isTrue rfl
  | a :: as, b :: bs =>
    have := Value.decEq a b
    have := Value.decEqItems as bs
    decidable_of_iff (a = b ∧ as = bs) (by simp)
  | [], _ :: _ | _ :: _, [] => isFalse nofun

/-- Decides whether the members of two tables are the same. -/
def Value.decEqMembers : (as bs : List (String × Value)) → Decidable (as = bs)
  | [], [] => isTrue rfl
  | (key, a) :: as, (key', b) :: bs =>
    have := Value.decEq a b
    have := Value.decEqMembers as bs
    decidable_of_iff ((key = key' ∧ a = b) ∧ as = bs) (by simp)
  | [], _ :: _ | _ :: _, [] => isFalse nofun

end

instance : DecidableEq Value := Value.decEq

/-! ## Tables -/

namespace Table

/-- A table with one value for each key, in which all keys are plain. -/
structure Plain (t : Table) : Prop where
  distinct : (t.map (·.1)).Nodup
  plain : ∀ m ∈ t, isPlainKey m.1 = true

variable {t : Table} {key : String} {v : Value}

theorem get?_cons (m : String × Value) (t : Table) (key : String) :
    get? (m :: t) key = if m.1 = key then some m.2 else t.get? key := by
  by_cases same : m.1 = key <;> simp [get?, same]

theorem get?_isSome : (t.get? key).isSome = t.any (·.1 == key) := by
  rw [get?, Option.isSome_map, List.isSome_find?]
  rfl

theorem get?_eq_none (other : key ∉ t.map (·.1)) : t.get? key = none := by
  rw [← Option.not_isSome_iff_eq_none, get?_isSome, List.any_eq_true]
  rintro ⟨m, mem, same⟩
  exact other (eq_of_beq same ▸ List.mem_map_of_mem mem)

theorem mem_of_get? (has : t.get? key = some v) : (key, v) ∈ t := by
  induction t with
  | nil => cases has
  | cons m t ih =>
    rw [get?_cons] at has
    split at has
    next same =>
      obtain ⟨rfl, rfl⟩ := And.intro same (Option.some.inj has)
      exact List.mem_cons_self
    next => exact List.mem_cons_of_mem _ (ih has)

theorem get?_of_mem (distinct : (t.map (·.1)).Nodup) (mem : (key, v) ∈ t) :
    t.get? key = some v := by
  induction t with
  | nil => cases mem
  | cons m t ih =>
    rw [List.map_cons, List.nodup_cons] at distinct
    rw [get?_cons]
    rcases List.mem_cons.1 mem with rfl | later
    · exact if_pos rfl
    · rw [if_neg, ih distinct.2 later]
      rintro rfl
      exact distinct.1 (List.mem_map.2 ⟨_, later, rfl⟩)

theorem map_fst_put (t : Table) (key : String) (v : Value) : (t.put key v).map (·.1) =
    if key ∈ t.map (·.1) then t.map (·.1) else t.map (·.1) ++ [key] := by
  induction t with
  | nil => rfl
  | cons m t ih =>
    rw [put]
    by_cases same : m.1 = key
    · simp [same]
    · simp only [same, if_false, List.map_cons, ih, List.mem_cons, Ne.symm same, false_or]
      split <;> rfl

theorem nodup_put (distinct : (t.map (·.1)).Nodup) (key : String) (v : Value) :
    ((t.put key v).map (·.1)).Nodup := by
  rw [map_fst_put]
  split
  · exact distinct
  · rename_i new
    exact List.nodup_append.2 ⟨distinct, List.nodup_singleton key, by grind⟩

theorem Plain.put (plain : t.Plain) (ofKey : isPlainKey key = true) (v : Value) :
    (t.put key v).Plain where
  distinct := nodup_put plain.distinct key v
  plain m mem := by
    have keys : m.1 ∈ (t.put key v).map (·.1) := List.mem_map_of_mem mem
    rw [map_fst_put] at keys
    have : m.1 = key ∨ m.1 ∈ t.map (·.1) := by grind
    rcases this with same | old
    · rw [same]
      exact ofKey
    · obtain ⟨n, mem', same⟩ := List.mem_map.1 old
      rw [← same]
      exact plain.plain n mem'

/-- What a layer makes of a key that has a value before, or none. -/
def layOver (layer : Table) (key : String) (old : Option Value) : Option Value :=
  match layer.get? key with
  | some v => some (.merge old v)
  | none => old

theorem layOver_of_get? (has : t.get? key = some v) (old : Option Value) :
    t.layOver key old = some (.merge old v) := by
  rw [layOver, has]

theorem layOver_of_none (hasNot : t.get? key = none) (old : Option Value) :
    t.layOver key old = old := by
  rw [layOver, hasNot]

end Table

/-! ## Layers -/

namespace Value

/-- Whether a value has members. -/
def isTable : Value → Bool
  | .table _ _ => true
  | _ => false

theorem merge_of_not_isTable {v : Value} (noTable : v.isTable = false) (old : Option Value) :
    merge old v = v := by
  cases v with
  | table => cases noTable
  | scalar | list => rw [merge]

/-- Members with distinct keys are laid over those of a value one by one. -/
theorem get?_mergeMembers (old : Value) {members : Table} (distinct : (members.map (·.1)).Nodup)
    (key : String) : (mergeMembers old members).members.get? key =
      members.layOver key (old.members.get? key) := by
  induction members generalizing old with
  | nil =>
    rw [mergeMembers]
    rfl
  | cons m rest ih =>
    rw [List.map_cons, List.nodup_cons] at distinct
    rw [mergeMembers, ih _ distinct.2]
    by_cases same : m.1 = key
    · have hasNot : Table.get? rest key = none := Table.get?_eq_none (same ▸ distinct.1)
      have has : Table.get? (m :: rest) key = some m.2 := by
        rw [Table.get?_cons, if_pos same]
      rw [Table.layOver_of_none hasNot, Table.layOver_of_get? has, ← same]
      exact Table.get?_put_self _ _ _
    · have later : Table.get? (m :: rest) key = Table.get? rest key := by
        rw [Table.get?_cons, if_neg same]
      have before (member : Value) :
          (old.withMember m.1 member).members.get? key = old.members.get? key :=
        Table.get?_put_of_ne _ _ same
      rw [before, Table.layOver, Table.layOver, later]

theorem nodup_mergeMembers (old : Value) (members : Table)
    (distinct : (old.members.map (·.1)).Nodup) :
    ((mergeMembers old members).members.map (·.1)).Nodup := by
  induction members generalizing old with
  | nil =>
    rw [mergeMembers]
    exact distinct
  | cons m rest ih =>
    rw [mergeMembers]
    exact ih _ (Table.nodup_put distinct _ _)

/-- A layer with plain keys is laid over a table member by member. -/
theorem overlay_eq (t : Value) {layer : Table} (plain : ∀ m ∈ layer, isPlainKey m.1 = true) :
    t.overlay layer = mergeMembers t layer := by
  induction layer generalizing t with
  | nil =>
    rw [mergeMembers]
    rfl
  | cons m rest ih =>
    have first := KeyPath.ofText_plain (plain m List.mem_cons_self)
    rw [mergeMembers, ← ih _ fun n mem => plain n (List.mem_cons_of_mem _ mem)]
    rw [overlay, List.foldl_cons, first]
    rfl

end Value

/-- What layers make of a key, the first one first. -/
def valueIn (layers : List Table) (key : String) : Option Value :=
  layers.foldl (fun old layer => layer.layOver key old) none

theorem valueIn_concat (layers : List Table) (layer : Table) (key : String) :
    valueIn (layers ++ [layer]) key = layer.layOver key (valueIn layers key) := by
  rw [valueIn, List.foldl_append]
  rfl

/-- Layers laid over one another, the first one at the bottom. -/
def overlaid (layers : List Table) : Value := layers.foldl .overlay (.table none [])

theorem overlaid_concat (layers : List Table) {layer : Table} (plain : layer.Plain) :
    overlaid (layers ++ [layer]) = (overlaid layers).mergeMembers layer := by
  rw [overlaid, List.foldl_concat, Value.overlay_eq _ plain.plain]
  rfl

theorem nodup_overlaid {layers : List Table} (plain : ∀ layer ∈ layers, layer.Plain) :
    ((overlaid layers).members.map (·.1)).Nodup := by
  induction layers using List.reverseRecOn with
  | nil => exact List.nodup_nil
  | append_singleton layers layer ih =>
    rw [overlaid_concat _ (plain layer (List.mem_append_right _ List.mem_cons_self))]
    exact Value.nodup_mergeMembers _ layer (ih fun l mem => plain l (List.mem_append_left _ mem))

/-- Laid over one another, plain layers hold for each key what they make of it. -/
theorem get?_overlaid {layers : List Table} (plain : ∀ layer ∈ layers, layer.Plain) :
    (overlaid layers).members.get? = valueIn layers := by
  funext key
  induction layers using List.reverseRecOn with
  | nil => rfl
  | append_singleton layers layer ih =>
    have last := plain layer (List.mem_append_right _ List.mem_cons_self)
    rw [overlaid_concat _ last, valueIn_concat, Value.get?_mergeMembers _ last.distinct,
      ih fun l mem => plain l (List.mem_append_left _ mem)]

/-- The last value of a key counts if it is no table, whatever earlier layers hold. -/
theorem valueIn_last (earlier : List Table) {layer : Table} {later : List Table} {key : String}
    {v : Value} (has : layer.get? key = some v) (noTable : v.isTable = false)
    (last : ∀ l ∈ later, Table.get? l key = none) : valueIn (earlier ++ layer :: later) key = some v := by
  induction later using List.reverseRecOn with
  | nil =>
    rw [valueIn_concat, Table.layOver_of_get? has, Value.merge_of_not_isTable noTable]
  | append_singleton later l ih =>
    have hasNot := last l (List.mem_append_right _ List.mem_cons_self)
    rw [← List.cons_append, ← List.append_assoc, valueIn_concat, Table.layOver_of_none hasNot]
    exact ih fun l mem => last l (List.mem_append_left _ mem)

/-- A table is laid over the members that earlier layers have made. -/
theorem get?_valueIn_table (earlier : List Table) {layer members : Table} {key : String}
    {origin : Option String} (has : layer.get? key = some (.table origin members))
    (distinct : (members.map (·.1)).Nodup) :
    ∃ v, valueIn (earlier ++ [layer]) key = some v ∧ ∀ name, v.members.get? name =
      members.layOver name ((valueIn earlier key).bind (·.members.get? name)) := by
  refine ⟨_, by rw [valueIn_concat, Table.layOver_of_get? has], fun name => ?_⟩
  rw [Value.merge, Value.get?_mergeMembers _ distinct]
  cases valueIn earlier key <;> rfl

end FileSearch.Config
