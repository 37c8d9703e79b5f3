/-! # Finite maps on names

A `NameMap` is a list of entries whose names ascend strictly, by code point, which for text in
UTF-8 is also the order of its bytes.  Two maps with the same entries are therefore equal, and
`toList` is the order in which entries are written.  `get?_insert` says all there is to say about
insertion. -/

namespace SceneScript

/-- Entries whose names ascend strictly. -/
abbrev Ascending {α : Type u} (entries : List (String × α)) : Prop :=
  entries.Pairwise fun a b => a.1 < b.1

/-- A finite map from names. -/
structure NameMap (α : Type u) where
  toList : List (String × α)
  ascending : Ascending toList

namespace NameMap

variable {α : Type u}

/-- Put an entry where it belongs among ascending entries, replacing the one of the same name. -/
def insertEntry (name : String) (v : α) : List (String × α) → List (String × α)
  | [] => [(name, v)]
  | e :: entries =>
    if name < e.1 then (name, v) :: e :: entries
    else if name = e.1 then (name, v) :: entries
    else e :: insertEntry name v entries

theorem eq_or_mem_of_mem_insertEntry {name : String} {v : α} {e : String × α} :
    ∀ {entries : List (String × α)}, e ∈ insertEntry name v entries →
      e = (name, v) ∨ e ∈ entries
  | [], h => by simpa [insertEntry] using h
  | d :: entries, h => by
    unfold insertEntry at h
    split at h
    · simpa using h
    · split at h
      · rcases List.mem_cons.mp h with h | h
        · exact .inl h
        · exact .inr (List.mem_cons_of_mem _ h)
      · rcases List.mem_cons.mp h with h | h
        · exact .inr (h ▸ List.mem_cons_self)
        · exact (eq_or_mem_of_mem_insertEntry h).imp_right (List.mem_cons_of_mem _)

theorem ascending_insertEntry (name : String) (v : α) :
    ∀ {entries : List (String × α)}, Ascending entries → Ascending (insertEntry name v entries)
  | [], _ => by simp [insertEntry]
  | e :: entries, h => by
    have ⟨head, tail⟩ := List.pairwise_cons.mp h
    unfold insertEntry
    split
    · next lt =>
      refine List.pairwise_cons.mpr ⟨fun d hd => ?_, h⟩
      rcases List.mem_cons.mp hd with rfl | hd
      · exact lt
      · exact String.lt_trans lt (head d hd)
    · split
      · next eq => exact List.pairwise_cons.mpr ⟨fun d hd => eq ▸ head d hd, tail⟩
      · next nlt ne =>
        refine List.pairwise_cons.mpr ⟨fun d hd => ?_, ascending_insertEntry name v tail⟩
        rcases eq_or_mem_of_mem_insertEntry hd with rfl | hd
        · have le : e.1 ≤ name := String.not_lt.mp nlt
          by_cases lt : e.1 < name
          · exact lt
          · exact absurd (String.le_antisymm (String.not_lt.mp lt) le) ne
        · exact head d hd

/-- The map without entries. -/
def empty : NameMap α := ⟨[], .nil⟩

instance : EmptyCollection (NameMap α) := ⟨empty⟩

instance : Inhabited (NameMap α) := ⟨empty⟩

/-- The value of a name. -/
def get? (m : NameMap α) (name : String) : Option α := m.toList.lookup name

/-- Give a name a value. -/
def insert (m : NameMap α) (name : String) (v : α) : NameMap α :=
  ⟨insertEntry name v m.toList, ascending_insertEntry name v m.ascending⟩

/-- The name has a value. -/
def contains (m : NameMap α) (name : String) : Bool := (m.get? name).isSome

/-- The number of entries. -/
def size (m : NameMap α) : Nat := m.toList.length

/-- There are no entries. -/
def isEmpty (m : NameMap α) : Bool := m.toList.isEmpty

/-- The map with the given entries; of several with one name the last counts. -/
def ofList (entries : List (String × α)) : NameMap α :=
  entries.foldl (fun m e => m.insert e.1 e.2) empty

/-- Apply a function to every value. -/
def map {β : Type v} (f : α → β) (m : NameMap α) : NameMap β :=
  ⟨m.toList.map fun e => (e.1, f e.2), List.pairwise_map.mpr m.ascending⟩

instance [BEq α] : BEq (NameMap α) := ⟨fun a b => a.toList == b.toList⟩

instance [Repr α] : Repr (NameMap α) := ⟨fun m => reprPrec m.toList⟩

instance [DecidableEq α] : DecidableEq (NameMap α) := fun a b =>
  decidable_of_iff (a.toList = b.toList)
    ⟨fun h => by cases a; cases b; cases h; rfl, fun h => h ▸ rfl⟩

/-! ### Laws -/

@[ext] theorem ext {a b : NameMap α} (h : a.toList = b.toList) : a = b := by
  cases a; cases b; cases h; rfl

@[simp] theorem get?_empty (name : String) : (empty : NameMap α).get? name = none := rfl

theorem lookup_cons_of_eq {name : String} {e : String × α} {entries : List (String × α)}
    (h : name = e.1) : (e :: entries).lookup name = some e.2 := by
  rw [h]; exact List.lookup_cons_self

theorem lookup_cons_of_ne {name : String} {e : String × α} {entries : List (String × α)}
    (h : name ≠ e.1) : (e :: entries).lookup name = entries.lookup name := by
  rw [List.lookup_cons, beq_eq_false_iff_ne.mpr h]

theorem lookup_insertEntry (name : String) (v : α) (n : String) :
    ∀ (entries : List (String × α)),
      (insertEntry name v entries).lookup n = if n = name then some v else entries.lookup n
  | [] => by
    unfold insertEntry
    split
    · next h => exact lookup_cons_of_eq h
    · next h => exact lookup_cons_of_ne h
  | e :: entries => by
    have ih := lookup_insertEntry name v n entries
    unfold insertEntry
    split
    · split
      · next h => exact lookup_cons_of_eq h
      · next h => exact lookup_cons_of_ne h
    · split
      · next same =>
        split
        · next h => exact lookup_cons_of_eq h
        · next h => rw [lookup_cons_of_ne h, lookup_cons_of_ne (same ▸ h)]
      · next other =>
        by_cases h : n = e.1
        · have : n ≠ name := fun hn => other (hn ▸ h)
          rw [lookup_cons_of_eq h, lookup_cons_of_eq h, if_neg this]
        · rw [lookup_cons_of_ne h, ih, lookup_cons_of_ne h]

@[simp] theorem get?_insert (m : NameMap α) (name : String) (v : α) (n : String) :
    (m.insert name v).get? n = if n = name then some v else m.get? n :=
  lookup_insertEntry name v n m.toList

theorem mem_iff_lookup_eq_some {e : String × α} :
    ∀ {entries : List (String × α)}, Ascending entries →
      (e ∈ entries ↔ entries.lookup e.1 = some e.2)
  | [], _ => by simp
  | d :: entries, h => by
    have ⟨head, tail⟩ := List.pairwise_cons.mp h
    have ih := mem_iff_lookup_eq_some (e := e) tail
    by_cases same : e.1 = d.1
    · rw [lookup_cons_of_eq same, List.mem_cons]
      constructor
      · rintro (rfl | later)
        · rfl
        · exact absurd (same ▸ head e later) (String.lt_irrefl _)
      · intro value
        exact .inl (Prod.ext same (Option.some.inj value).symm)
    · rw [lookup_cons_of_ne same, ← ih, List.mem_cons]
      constructor
      · rintro (rfl | later)
        · exact absurd rfl same
        · exact later
      · exact .inr

/-- The entries of a map are what it gives its names. -/
theorem mem_toList_iff (m : NameMap α) (e : String × α) :
    e ∈ m.toList ↔ m.get? e.1 = some e.2 :=
  mem_iff_lookup_eq_some m.ascending

end NameMap

end SceneScript
