import Mathlib.Data.List.Nodup
import SceneScript.Json.Record

/-! # Reading what was written

Numbers, lists and values that may be absent are read back as they were written; a float is if it is
finite (`Json.float?_ofFloat`).

A record is read back field by field.  `Record.Reads r fields v` says that `r` has exactly the names
of `fields` and answers `v` wherever these fields are found.  It holds of a single field that is
read back (`Record.reads_fieldOr`), and of records put together (`Record.Reads.map`,
`Record.Reads.seq`); so it follows the way in which a record is built, and for names that differ it
says that the object of the fields is read as `v` (`Record.Reads.read`). -/

namespace SceneScript.Json

variable {α β : Type}

/-! ### Scalars -/

theorem bool?_bool (b : Bool) : bool? (.bool b) = some b := rfl

theorem string?_string (s : String) : string? (.string s) = some s := rfl

theorem float?_ofFloat {x : Float} (h : x.isFinite) : float? (ofFloat x) = some x := by
  rw [ofFloat, if_pos h]
  rfl

theorem natural?_ofNat {bound n : Nat} (h : n < bound) : natural? bound (ofNat n) = some n := by
  have hrange : 0 ≤ (n : Int) ∧ (n : Int) < bound := by omega
  rw [ofNat, natural?, if_pos hrange, Int.toNat_natCast]

theorem uint8?_ofNat (n : UInt8) : uint8? (ofNat n.toNat) = some n := by
  rw [uint8?, natural?_ofNat n.toNat_lt_size, Option.map_some, UInt8.ofNat_toNat]

theorem uint32?_ofNat (n : UInt32) : uint32? (ofNat n.toNat) = some n := by
  rw [uint32?, natural?_ofNat n.toNat_lt_size, Option.map_some, UInt32.ofNat_toNat]

theorem uint64?_ofNat (n : UInt64) : uint64? (ofNat n.toNat) = some n := by
  rw [uint64?, natural?_ofNat n.toNat_lt_size, Option.map_some, UInt64.ofNat_toNat]

theorem int64?_integer (n : Int64) : int64? (.integer n.toInt) = some n := by
  have hrange : Int64.minValue.toInt ≤ n.toInt ∧ n.toInt ≤ Int64.maxValue.toInt :=
    ⟨n.minValue_le_toInt, n.toInt_le⟩
  rw [int64?, if_pos hrange, Int64.ofInt_toInt]

/-! ### Lists and absent values -/

theorem mapM_map_eq_some {read : β → Option α} {write : α → β} {xs : List α}
    (h : ∀ x ∈ xs, read (write x) = some x) : (xs.map write).mapM read = some xs := by
  induction xs with
  | nil => rfl
  | cons x xs ih =>
      obtain ⟨hx, hxs⟩ := List.forall_mem_cons.mp h
      rw [List.map_cons, List.mapM_cons, hx, ih hxs]
      rfl

section

variable {read : Json → Option α} {write : α → Json}

theorem list?_ofList {xs : List α} (h : ∀ x ∈ xs, read (write x) = some x) :
    list? read (ofList write xs) = some xs := mapM_map_eq_some h

theorem optional?_of_ne_null {v : Json} (h : v ≠ .null) :
    optional? read v = (read v).map some := by
  cases v with
  | null => exact absurd rfl h
  | _ => rfl

theorem optional?_ofOption {o : Option α} (hnull : ∀ x, write x ≠ .null)
    (h : ∀ x, read (write x) = some x) : optional? read (ofOption write o) = some o := by
  cases o with
  | none => rfl
  | some x => rw [ofOption, optional?_of_ne_null (hnull x), h, Option.map_some]

end

/-! ### Records -/

namespace Record

/-- The record has the names of the fields, and answers the value wherever they are found. -/
structure Reads (r : Record α) (fields : List (String × Json)) (v : α) : Prop where
  names : r.names = fields.map Prod.fst
  ofFields : ∀ all : List (String × Json),
    (∀ f ∈ fields, all.lookup f.1 = some f.2) → r.ofFields all = some v

variable {fields more : List (String × Json)} {v : α} {g : α → β}

theorem reads_fieldOr {read : Json → Option α} {name : String} {absent missing : Option α}
    {w : Json} (h : read w = some v) : (fieldOr name read absent missing).Reads [(name, w)] v where
  names := rfl
  ofFields all hall := by
    have hlookup : all.lookup name = some w := hall _ List.mem_cons_self
    rw [fieldOr]
    simp only [hlookup, h]

theorem Reads.seq {f : Record (α → β)} {r : Record α} (hf : f.Reads fields g)
    (hr : r.Reads more v) : (f <*> r).Reads (fields ++ more) (g v) where
  names := by
    change f.names ++ r.names = _
    rw [hf.names, hr.names, List.map_append]
  ofFields all hall := by
    obtain ⟨hfields, hmore⟩ := List.forall_mem_append.mp hall
    change (f.ofFields all).bind (fun g => (r.ofFields all).map g) = _
    rw [hf.ofFields all hfields, hr.ofFields all hmore]
    rfl

theorem Reads.map {r : Record α} (h : r.Reads fields v) (g : α → β) :
    (g <$> r).Reads fields (g v) where
  names := h.names
  ofFields all hall := by
    change ((r.ofFields all).map g) = _
    rw [h.ofFields all hall, Option.map_some]

theorem lookup_of_nodup (hnames : (fields.map Prod.fst).Nodup) :
    ∀ f ∈ fields, fields.lookup f.1 = some f.2 := by
  intro f hf
  obtain ⟨front, back, rfl⟩ := List.append_of_mem hf
  refine List.lookup_eq_some_iff.mpr ⟨front, back, rfl, fun e he => ?_⟩
  rw [List.map_append, List.nodup_append] at hnames
  have hne := hnames.2.2 e.1 (List.mem_map_of_mem he) f.1 (by simp)
  exact bne_iff_ne.mpr hne.symm

theorem Reads.object? {r : Record α} (h : r.Reads fields v) (hnames : r.names.Nodup) :
    r.object? fields = some v := by
  rw [h.names] at hnames
  have honce : r.unrepeated fields = true := by
    refine List.all_eq_true.mpr fun name _ => decide_eq_true ?_
    have hcount := List.nodup_iff_count_le_one.mp hnames name
    rwa [List.count, List.countP_map] at hcount
  rw [Record.object?, if_pos honce, h.ofFields fields (lookup_of_nodup hnames)]

theorem Reads.read {r : Record α} (h : r.Reads fields v) (hnames : r.names.Nodup) :
    r.read (.object fields) = some v :=
  h.object? hnames

end Record

end SceneScript.Json
