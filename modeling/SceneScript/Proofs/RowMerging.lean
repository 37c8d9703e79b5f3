import Mathlib.Data.List.Sort
import SceneScript.Proofs.ActionLaws
import SceneScript.Render

/-! # Merging the knob values of a frame

What a row of a knob table makes of the symbols, name by name.  `Render.writeRow_eq_ok_iff` says
all there is to say about a success: the row is there, none of its names is a set of constants, and
afterwards the names of the row are knobs with the values of the row and every other name stands
for what it stood for before.  So merging neither changes nor makes a set of constants
(`Render.constants?_of_writeRow`) and forgets no name.  If a row cannot be written, the fault names
a set of constants among its names (`Render.fault_of_writeRow`). -/

namespace SceneScript

namespace NameMap

variable {α : Type}

/-- Two maps that give every name the same value are the same map. -/
theorem ext_get? {a b : NameMap α} (h : ∀ name, a.get? name = b.get? name) : a = b := by
  have hirrefl : Std.Irrefl fun c d : String × α => c.1 < d.1 :=
    ⟨fun c => String.lt_irrefl c.1⟩
  have hantisymm : Std.Antisymm fun c d : String × α => c.1 < d.1 :=
    ⟨fun c d hcd hdc => absurd (String.lt_trans hcd hdc) (String.lt_irrefl c.1)⟩
  apply NameMap.ext
  apply a.ascending.eq_of_mem_iff b.ascending
  intro e
  rw [mem_toList_iff, mem_toList_iff, h]

end NameMap

namespace SymbolTable

theorem constants?_eq_some_iff {t : SymbolTable} {name : String} {r : Reflectance} :
    constants? t name = some r ↔ t.get? name = some (.constants r) := by
  unfold constants?
  split <;> simp_all

/-- A knob takes the place of a knob or of nothing, so the constants stay as they are. -/
theorem constants?_insert_knob {t : SymbolTable} {name : String} (h : constants? t name = none)
    (v : Float) (n : String) : constants? (t.insert name (.knob v)) n = constants? t n := by
  by_cases hn : n = name
  · rw [hn, h]
    simp [constants?]
  · simp [constants?, hn]

theorem run_assign_of_free {t : SymbolTable} {name : String} (h : constants? t name = none)
    (v : Float) : (assign name v).run t = (.ok (), t.insert name (.knob v)) := by
  unfold constants? at h
  rw [assign, Action.run_bind, Action.run_inspect]
  split at h
  · cases h
  · rename_i hne
    dsimp only
    split
    · rename_i r hr
      exact absurd hr (hne r)
    · rfl

theorem run_assign_of_constants {t : SymbolTable} {name : String} {r : Reflectance}
    (h : constants? t name = some r) (v : Float) :
    (assign name v).run t = (.error (.notKnob name), t) := by
  have hr := constants?_eq_some_iff.mp h
  rw [assign, Action.run_bind, Action.run_inspect]
  dsimp only
  rw [hr]
  rfl

theorem assign_eq_ok_iff {t u : SymbolTable} {name : String} {v : Float} :
    (assign name v).run t = (.ok (), u) ↔
      constants? t name = none ∧ u = t.insert name (.knob v) := by
  cases h : constants? t name with
  | none => simp [run_assign_of_free h, eq_comm]
  | some r => simp [run_assign_of_constants h]

/-- As names ascend, what is behind an entry does not write to its name again. -/
theorem get?_assigned_cons {e : String × Float} {entries : List (String × Float)}
    (hasc : Ascending (e :: entries)) (t : SymbolTable) (name : String) :
    ((entries.lookup name).map Symbol.knob).or ((t.insert e.1 (.knob e.2)).get? name) =
      (((e :: entries).lookup name).map Symbol.knob).or (t.get? name) := by
  rw [NameMap.get?_insert]
  by_cases h : name = e.1
  · have hlater : entries.lookup e.1 = none := by
      rw [List.lookup_eq_none_iff]
      intro d hd
      have hlt := (List.pairwise_cons.mp hasc).1 d hd
      simp only [bne_iff_ne, ne_eq]
      intro heq
      rw [heq] at hlt
      exact String.lt_irrefl _ hlt
    rw [NameMap.lookup_cons_of_eq h, h, hlater, if_pos rfl]
    rfl
  · rw [NameMap.lookup_cons_of_ne h, if_neg h]

/-- Entries can be assigned if and only if none of their names is a set of constants, and then each
name stands for the knob of its entry. -/
theorem forM_assign_eq_ok_iff {entries : List (String × Float)} (hasc : Ascending entries)
    {t u : SymbolTable} :
    (entries.forM fun e => assign e.1 e.2).run t = (.ok (), u) ↔
      (∀ e ∈ entries, constants? t e.1 = none) ∧
        ∀ name, u.get? name = ((entries.lookup name).map Symbol.knob).or (t.get? name) := by
  induction entries generalizing t with
  | nil =>
      change (pure () : Action SymbolTable Unit).run t = (.ok (), u) ↔ _
      rw [Action.pure_eq_ok_iff]
      constructor
      · rintro ⟨_, rfl⟩
        exact ⟨fun e he => absurd he List.not_mem_nil, fun name => rfl⟩
      · rintro ⟨_, hnames⟩
        exact ⟨rfl, NameMap.ext_get? fun name => (hnames name).symm⟩
  | cons e entries ih =>
      have ih := fun t => ih (t := t) (List.pairwise_cons.mp hasc).2
      rw [Action.forM_cons_eq_ok_iff, List.forall_mem_cons]
      constructor
      · rintro ⟨_, hassign, hrest⟩
        obtain ⟨hfree, rfl⟩ := assign_eq_ok_iff.mp hassign
        obtain ⟨hothers, hnames⟩ := (ih _).mp hrest
        refine ⟨⟨hfree, ?_⟩, ?_⟩
        · intro d hd
          rw [← constants?_insert_knob hfree]
          exact hothers d hd
        · intro name
          rw [hnames, get?_assigned_cons hasc]
      · rintro ⟨⟨hfree, hothers⟩, hnames⟩
        refine ⟨_, assign_eq_ok_iff.mpr ⟨hfree, rfl⟩, (ih _).mpr ⟨?_, ?_⟩⟩
        · intro d hd
          rw [constants?_insert_knob hfree]
          exact hothers d hd
        · intro name
          rw [hnames, get?_assigned_cons hasc]

/-- If entries cannot be assigned, the fault names one of them that is a set of constants. -/
theorem fault_of_forM_assign {entries : List (String × Float)} {t u : SymbolTable} {e : Fault}
    (h : (entries.forM fun e => assign e.1 e.2).run t = (.error e, u)) :
    ∃ entry ∈ entries, constants? t entry.1 ≠ none ∧ e = .notKnob entry.1 := by
  induction entries generalizing t with
  | nil => cases h
  | cons entry entries ih =>
      change (assign entry.1 entry.2 >>= fun _ => entries.forM fun e => assign e.1 e.2).run t =
        (.error e, u) at h
      cases hbound : constants? t entry.1 with
      | some r =>
          rw [Action.run_bind, run_assign_of_constants hbound] at h
          refine ⟨entry, List.mem_cons_self, ?_, ?_⟩
          · rw [hbound]
            exact Option.some_ne_none r
          · exact (Except.error.inj (Prod.mk.inj h).1).symm
      | none =>
          rw [Action.run_bind, run_assign_of_free hbound] at h
          obtain ⟨later, hlater, hconstants, rfl⟩ := ih h
          rw [constants?_insert_knob hbound] at hconstants
          exact ⟨later, List.mem_cons_of_mem entry hlater, hconstants, rfl⟩

/-- A row can be merged if and only if none of its names is a set of constants, and then the names
of the row are knobs with its values and all others are left alone. -/
theorem mergeRow_eq_ok_iff {row : NameMap Float} {t u : SymbolTable} :
    (mergeRow row).run t = (.ok (), u) ↔
      (∀ name, (row.get? name).isSome → constants? t name = none) ∧
        ∀ name, u.get? name = ((row.get? name).map Symbol.knob).or (t.get? name) := by
  rw [mergeRow, forM_assign_eq_ok_iff row.ascending]
  apply and_congr_left'
  constructor
  · intro hfree name hname
    obtain ⟨v, hv⟩ := Option.isSome_iff_exists.mp hname
    exact hfree (name, v) ((row.mem_toList_iff (name, v)).mpr hv)
  · intro hfree e he
    apply hfree
    rw [(row.mem_toList_iff e).mp he]
    rfl

end SymbolTable

namespace Render

open SymbolTable

variable {table : KnobTable} {number : Nat} {t u : SymbolTable}

theorem value?_of_row? {row : NameMap Float} (h : table.row? number = some row) (name : String) :
    table.value? number name = row.get? name := by
  rw [KnobTable.value?, h]
  rfl

/-- **Merging a row.**  A row can be written if it is there and none of its names is a set of
constants, and then its names are knobs with its values and all others are left alone. -/
theorem writeRow_eq_ok_iff :
    (writeRow table number).run t = (.ok (), u) ↔
      number < table.size ∧
        (∀ name, (table.value? number name).isSome → constants? t name = none) ∧
        ∀ name, u.get? name = ((table.value? number name).map Symbol.knob).or (t.get? name) := by
  have hsize : number < table.size ↔ ∃ row, table.row? number = some row := by
    rw [← Option.isSome_iff_exists, KnobTable.row?, isSome_getElem?, KnobTable.size]
  rw [hsize, writeRow]
  cases hrow : table.row? number with
  | none => simp
  | some row => simp [mergeRow_eq_ok_iff, value?_of_row? hrow]

/-- If a row that is there cannot be written, one of its names is a set of constants, and the fault
names it. -/
theorem fault_of_writeRow {e : Fault} (hnumber : number < table.size)
    (h : (writeRow table number).run t = (.error e, u)) :
    ∃ name, (table.value? number name).isSome ∧ constants? t name ≠ none ∧ e = .notKnob name := by
  have hrow : table.row? number = some (table.rows.get ⟨number, hnumber⟩) :=
    List.getElem?_eq_getElem hnumber
  rw [writeRow, hrow] at h
  obtain ⟨entry, hentry, hconstants, rfl⟩ := fault_of_forM_assign h
  refine ⟨entry.1, ?_, hconstants, rfl⟩
  rw [value?_of_row? hrow, (NameMap.mem_toList_iff _ entry).mp hentry]
  rfl

/-- Merging neither changes nor makes nor forgets a set of constants. -/
theorem constants?_of_writeRow (h : (writeRow table number).run t = (.ok (), u)) (name : String) :
    constants? u name = constants? t name := by
  obtain ⟨_, hfree, hnames⟩ := writeRow_eq_ok_iff.mp h
  cases hv : table.value? number name with
  | none =>
      unfold constants?
      rw [hnames, hv]
      rfl
  | some v =>
      have hnone := hfree name (by rw [hv]; rfl)
      rw [hnone]
      unfold constants?
      rw [hnames, hv]
      rfl

/-- After merging a name is a knob if the row varies it or it was one before. -/
theorem knob?_of_writeRow (h : (writeRow table number).run t = (.ok (), u)) (name : String) :
    knob? u name = (table.value? number name).or (knob? t name) := by
  obtain ⟨_, _, hnames⟩ := writeRow_eq_ok_iff.mp h
  unfold knob?
  rw [hnames]
  cases table.value? number name <;> rfl

end Render
end SceneScript
