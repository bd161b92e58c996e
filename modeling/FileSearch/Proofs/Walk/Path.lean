import FileSearch.Walk.Selection

/-!
# Paths made of names

Names below a place are written one after another with slashes between them (`bytes_pathBelow`), so
that different names make different paths (`pathBelow_inj`), and the path relative to the place is
what follows it (`relativePath_append`).
-/

namespace FileSearch

instance (name : Name) : Decidable (Name.IsProper name) :=
  inferInstanceAs (Decidable (_ ∧ _ ∧ _ ∧ _ ∧ _))

namespace Name.IsProper

variable {name : Name}

theorem ne_nil (h : Name.IsProper name) : name ≠ [] := h.1

theorem slash_notMem (h : Name.IsProper name) : Path.slash ∉ name := h.2.2.2.1

theorem head?_ne_slash (h : Name.IsProper name) : name.head? ≠ some Path.slash := by
  intro head
  exact h.slash_notMem (List.mem_of_head? head)

theorem getLast?_ne_slash (h : Name.IsProper name) : name.getLast? ≠ some Path.slash := by
  intro last
  exact h.slash_notMem (List.mem_of_getLast? last)

end Name.IsProper

namespace Path

/-- What stands in front of a name by which a path is extended. -/
def lead (p : Path) : List UInt8 :=
  if p.isEmpty then []
  else if p.data.toList.getLast? == some slash then p.data.toList
  else p.data.toList ++ [slash]

/-- A path is extended as it is or behind a slash. -/
theorem lead_eq (p : Path) : p.lead = [] ∨ ∃ front, p.lead = front ++ [slash] := by
  rw [lead]
  split
  · exact .inl rfl
  · split
    next last =>
      obtain ⟨front, split⟩ := List.getLast?_eq_some_iff.1 (beq_iff_eq.1 last)
      exact .inr ⟨front, split⟩
    · exact .inr ⟨_, rfl⟩

theorem split_eq (bytes : List UInt8) : split bytes = bytes.splitOn slash := by
  have go (cur : List UInt8) : split.go bytes cur = bytes.splitOnPPrepend (· == slash) cur := by
    induction bytes generalizing cur with
    | nil => rfl
    | cons b rest ih => rw [split.go, List.splitOnPPrepend, ih, ih]
  exact go []

theorem isEmpty_iff {p : Path} : p.isEmpty ↔ p.data.toList = [] := by
  rw [ByteArray.isEmpty, beq_iff_eq, ← ByteArray.size_data, ← Array.length_toList,
    List.length_eq_zero_iff]

end Path

namespace Walk

variable {p : Path} {name : Name} {names front : List Name}

theorem bytes_entryPath (proper : Name.IsProper name) :
    (entryPath p name).data.toList = p.lead ++ name := by
  have relative : Path.isAbsolute ⟨name.toArray⟩ = false := by
    simpa [Path.isAbsolute] using proper.head?_ne_slash
  rw [entryPath, Path.join, Path.lead, relative, Bool.false_or]
  split
  · rfl
  · split
    · simp
    · simp

theorem lead_entryPath (proper : Name.IsProper name) :
    (entryPath p name).lead = p.lead ++ name ++ [Path.slash] := by
  have bytes := bytes_entryPath (p := p) proper
  have full : ¬(entryPath p name).isEmpty := by
    rw [Path.isEmpty_iff, bytes]
    simp [proper.ne_nil]
  have last : ¬((entryPath p name).data.toList.getLast? == some Path.slash) = true := by
    rw [bytes, beq_iff_eq, List.getLast?_append]
    have some := List.getLast?_eq_some_getLast proper.ne_nil
    rw [some, Option.some_or, ← some]
    exact proper.getLast?_ne_slash
  rw [Path.lead, if_neg full, if_neg last, bytes]

theorem entryPath_empty (name : Name) : entryPath .empty name = ⟨name.toArray⟩ := by
  have empty : ByteArray.empty.isEmpty = true := rfl
  rw [entryPath, Path.join, empty, Bool.or_true, if_pos rfl]

/-- The last name of the path of an entry is that of the entry. -/
theorem fileName?_entryPath (p : Path) (proper : Name.IsProper name) :
    (entryPath p name).fileName? = some ⟨name.toArray⟩ := by
  have alone : name.splitOn Path.slash = [name] := List.splitOn_eq_singleton proper.slash_notMem
  have last : ∃ front, Path.split (entryPath p name).data.toList = front ++ [name] := by
    rw [bytes_entryPath proper, Path.split_eq]
    rcases p.lead_eq with empty | ⟨front, behind⟩
    · exact ⟨[], by rw [empty, List.nil_append, alone, List.nil_append]⟩
    · refine ⟨front.splitOn Path.slash, ?_⟩
      rw [behind, List.append_assoc, List.singleton_append, List.splitOn_append_cons_self, alone]
  obtain ⟨front, split⟩ := last
  obtain ⟨some, here, up, -⟩ : name ≠ [] ∧ name ≠ [0x2E] ∧ name ≠ [0x2E, 0x2E] ∧ _ := proper
  have kept : [name].filter (fun n => !n.isEmpty && n != [0x2E]) = [name] := by
    simp [some, here]
  have names : (entryPath p name).names.getLast? = .some name := by
    rw [Path.names, split, List.filter_append, kept, List.getLast?_concat]
  rw [Path.fileName?, names]
  exact if_neg (mt beq_iff_eq.1 up)

/-- Names are written after the path of a place with slashes between them. -/
theorem bytes_pathBelow (proper : ∀ n ∈ names, Name.IsProper n) (some : names ≠ []) :
    (pathBelow p names).data.toList = p.lead ++ [Path.slash].intercalate names := by
  induction names generalizing p with
  | nil => exact absurd rfl some
  | cons name rest ih =>
    rw [List.forall_mem_cons] at proper
    rcases rest with _ | ⟨next, rest⟩
    · rw [List.intercalate_singleton]
      exact bytes_entryPath proper.1
    · rw [List.intercalate_cons_cons]
      refine (ih proper.2 (List.cons_ne_nil _ _)).trans ?_
      rw [lead_entryPath proper.1, List.append_assoc, List.append_assoc, List.append_assoc]

/-- Different names lead to different paths. -/
theorem pathBelow_inj {names' : List Name} (proper : ∀ n ∈ names, Name.IsProper n)
    (proper' : ∀ n ∈ names', Name.IsProper n) (some : names ≠ []) (some' : names' ≠ [])
    (same : pathBelow p names = pathBelow p names') : names = names' := by
  have joined : [Path.slash].intercalate names = [Path.slash].intercalate names' := by
    have bytes := bytes_pathBelow (p := p) proper some
    rw [same, bytes_pathBelow proper' some'] at bytes
    exact (List.append_cancel_left bytes).symm
  -- Splitting at the slashes gives the names back.
  calc names = ([Path.slash].intercalate names).splitOn Path.slash :=
        (List.splitOn_intercalate _ (fun n hn => (proper n hn).slash_notMem) some).symm
    _ = ([Path.slash].intercalate names').splitOn Path.slash := by rw [joined]
    _ = names' := List.splitOn_intercalate _ (fun n hn => (proper' n hn).slash_notMem) some'

theorem pathBelow_empty (proper : ∀ n ∈ names, Name.IsProper n) :
    pathBelow .empty names = relativePath names := by
  rcases names with _ | ⟨name, rest⟩
  · rfl
  · refine ByteArray.ext (Array.toList_inj.1 ?_)
    rw [bytes_pathBelow proper (List.cons_ne_nil _ _)]
    rfl

/-- The relative path of an entry extends that of its directory. -/
theorem relativePath_append (proper : ∀ n ∈ front ++ [name], Name.IsProper n) :
    relativePath (front ++ [name]) = entryPath (relativePath front) name := by
  have above : ∀ n ∈ front, Name.IsProper n := fun n hn => proper n (List.mem_append_left _ hn)
  rw [← pathBelow_empty proper, ← pathBelow_empty above, pathBelow, List.foldl_append]
  rfl

end Walk

end FileSearch
