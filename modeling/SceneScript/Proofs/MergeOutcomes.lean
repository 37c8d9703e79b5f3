import Mathlib.Data.List.Lex
import SceneScript.Proofs.RowMerging
import SceneScript.Proofs.WorkerOutcomes

/-! # The outcome of merging a row

`SymbolTable.merge_outcome` says what merging a row makes of any table of symbols, also when it
fails: it stops at the least name that is a set of constants, and the names before it have been
written by then (`SymbolTable.run_forM_assign_of_clash`).  Names come in the order of the bytes they
are written with, which is the order of names in a `NameMap` (`Text.lt_iff_utf8_lt`).

So no write can do anything to a set of constants or make a name disappear, which carries over from
one assignment (`SymbolTable.keeps_assign`) to any `Write`s, failing or not. -/

namespace SceneScript

/-! ### The order of bytes -/

namespace Text

/-- The bytes of a text. -/
def utf8 (s : String) : List UInt8 := s.toUTF8.data.toList

theorem utf8_eq_flatMap (s : String) : utf8 s = s.toList.flatMap String.utf8EncodeChar := by
  rw [utf8, String.toUTF8_eq_toByteArray, ← String.utf8Encode_toList, List.utf8Encode,
    List.data_toByteArray]

/-- The bytes of a lesser character are lesser, whatever comes after them. -/
theorem utf8EncodeChar_append_lt {c d : Char} (h : c < d) (rest rest' : List UInt8) :
    String.utf8EncodeChar c ++ rest < String.utf8EncodeChar d ++ rest' := by
  have hlt : c.val.toNat < d.val.toNat := h
  have hd : d.val.toNat < 1114112 := by
    rcases d.valid with h | ⟨_, h⟩ <;> omega
  unfold String.utf8EncodeChar
  generalize c.val.toNat = v at hlt
  generalize d.val.toNat = w at hlt hd
  dsimp only
  -- A longer code begins with a greater byte; codes of one length are digits to the base 64.
  split_ifs <;>
    simp only [List.cons_append, List.nil_append, List.cons_lt_cons_iff, UInt8.lt_iff_toNat_lt,
      ← UInt8.toNat_inj, UInt8.toNat_ofNat'] <;>
    simp (disch := omega) only [Nat.mod_eq_of_lt] <;>
    omega

theorem flatMap_utf8EncodeChar_lt {cs ds : List Char} (h : cs < ds) :
    cs.flatMap String.utf8EncodeChar < ds.flatMap String.utf8EncodeChar := by
  induction h with
  | @nil d ds =>
      rw [List.flatMap_nil, List.flatMap_cons]
      obtain ⟨b, bs, hbytes⟩ := List.exists_cons_of_ne_nil (String.utf8EncodeChar_ne_nil (c := d))
      rw [hbytes]
      exact List.nil_lt_cons _ _
  | rel h =>
      rw [List.flatMap_cons, List.flatMap_cons]
      exact utf8EncodeChar_append_lt h _ _
  | cons _ ih =>
      rw [List.flatMap_cons, List.flatMap_cons]
      exact List.append_left_lt ih

/-- Texts are in the order of their bytes. -/
theorem lt_iff_utf8_lt {s t : String} : s < t ↔ utf8 s < utf8 t := by
  have hmono : ∀ {s t : String}, s < t → utf8 s < utf8 t := by
    intro s t h
    rw [utf8_eq_flatMap, utf8_eq_flatMap]
    exact flatMap_utf8EncodeChar_lt h
  refine ⟨hmono, fun h => ?_⟩
  by_contra hle
  have hle : t ≤ s := String.not_lt.mp hle
  by_cases hlt : t < s
  · exact List.lt_asymm h (hmono hlt)
  · obtain rfl := String.le_antisymm hle (String.not_lt.mp hlt)
    exact List.lt_irrefl _ h

end Text

namespace SymbolTable

open SceneScript.Action

variable {t u : SymbolTable} {row : NameMap Float}

/-! ### A clash -/

/-- The name has an entry in a row and stands for a set of constants. -/
def Clashes (t : SymbolTable) (row : NameMap Float) (name : String) : Prop :=
  (row.get? name).isSome ∧ (constants? t name).isSome

/-- Among ascending entries, those before a name are the entries in front of it. -/
theorem lookup_front {front back : List (String × Float)} {e : String × Float}
    (hasc : Ascending (front ++ e :: back)) (name : String) :
    front.lookup name = if name < e.1 then (front ++ e :: back).lookup name else none := by
  obtain ⟨_, hback, hbefore⟩ := List.pairwise_append.mp hasc
  split
  case isTrue h =>
      have hlater : (e :: back).lookup name = none := by
        rw [List.lookup_eq_none_iff]
        intro d hd
        rcases List.mem_cons.mp hd with rfl | hd
        · simpa using String.ne_of_lt h
        · simpa using String.ne_of_lt (String.lt_trans h ((List.pairwise_cons.mp hback).1 d hd))
      rw [List.lookup_append, hlater, Option.or_none]
  case isFalse h =>
      rw [List.lookup_eq_none_iff]
      intro d hd
      have hlt : d.1 < e.1 := hbefore d hd e List.mem_cons_self
      simp only [bne_iff_ne, ne_eq]
      intro heq
      exact h (heq ▸ hlt)

/-- The entries in front of a clash are assigned, and the fault names the clash. -/
theorem run_forM_assign_of_clash {front back : List (String × Float)} {e : String × Float}
    (hasc : Ascending (front ++ e :: back)) (hfree : ∀ d ∈ front, constants? t d.1 = none)
    (hclash : (constants? t e.1).isSome) :
    ∃ u, ((front ++ e :: back).forM fun e => assign e.1 e.2).run t = (.error (.notKnob e.1), u) ∧
      ∀ name, u.get? name = ((front.lookup name).map Symbol.knob).or (t.get? name) := by
  obtain ⟨hfront, _, _⟩ := List.pairwise_append.mp hasc
  rcases hrun : (front.forM fun e => assign e.1 e.2).run t with ⟨f | ⟨⟩, u⟩
  · obtain ⟨d, hd, hconstants, _⟩ := fault_of_forM_assign hrun
    exact absurd (hfree d hd) hconstants
  · have hnames := ((forM_assign_eq_ok_iff hfront).mp hrun).2
    refine ⟨u, ?_, hnames⟩
    have hself : front.lookup e.1 = none := by
      rw [lookup_front hasc, if_neg (String.lt_irrefl _)]
    obtain ⟨r, hr⟩ := Option.isSome_iff_exists.mp hclash
    have hstill : constants? u e.1 = some r := by
      rw [constants?_eq_some_iff, hnames, hself]
      exact constants?_eq_some_iff.mp hr
    have hback : ((e :: back).forM fun e => assign e.1 e.2).run u = (.error (.notKnob e.1), u) := by
      change (assign e.1 e.2 >>= fun _ => back.forM fun e => assign e.1 e.2).run u = _
      rw [run_bind, run_assign_of_constants hstill]
    rw [List.forM_eq_forM, List.forM_append, run_bind, ← List.forM_eq_forM, hrun]
    exact hback

/-- A row with a clash has a least one, and entries without a clash in front of it. -/
theorem exists_least_clash {name : String} (h : Clashes t row name) :
    ∃ front e back, row.toList = front ++ e :: back ∧ Clashes t row e.1 ∧
      ∀ d ∈ front, constants? t d.1 = none := by
  have hsome : (row.toList.find? fun e => (constants? t e.1).isSome).isSome := by
    obtain ⟨v, hv⟩ := Option.isSome_iff_exists.mp h.1
    rw [List.find?_isSome]
    exact ⟨(name, v), (row.mem_toList_iff (name, v)).mpr hv, h.2⟩
  obtain ⟨e, he⟩ := Option.isSome_iff_exists.mp hsome
  obtain ⟨hclash, front, back, hsplit, hfront⟩ := List.find?_eq_some_iff_append.mp he
  refine ⟨front, e, back, hsplit, ⟨?_, hclash⟩, ?_⟩
  · have hmem : e ∈ row.toList := List.mem_of_find?_eq_some he
    rw [(row.mem_toList_iff e).mp hmem]
    rfl
  · intro d hd
    simpa using hfront d hd

/-- A row with a clash cannot be merged: the names before the least clash are given their values,
and the fault names the clash. -/
theorem mergeRow_of_clash {name : String} (h : Clashes t row name) :
    ∃ clash u, Clashes t row clash ∧ (∀ n, n < clash → ¬Clashes t row n) ∧
      (mergeRow row).run t = (.error (.notKnob clash), u) ∧
      ∀ n, u.get? n = ((if n < clash then row.get? n else none).map Symbol.knob).or (t.get? n) := by
  obtain ⟨front, e, back, hsplit, hclash, hfree⟩ := exists_least_clash h
  have hasc : Ascending (front ++ e :: back) := hsplit ▸ row.ascending
  have hfront : ∀ n, front.lookup n = if n < e.1 then row.get? n else none := by
    intro n
    rw [lookup_front hasc, NameMap.get?, hsplit]
  obtain ⟨u, hrun, hnames⟩ := run_forM_assign_of_clash hasc hfree hclash.2
  refine ⟨e.1, u, hclash, ?_, ?_, ?_⟩
  · rintro n hn ⟨hrow, hconstants⟩
    obtain ⟨v, hv⟩ := Option.isSome_iff_exists.mp hrow
    have hmem : (n, v) ∈ front := by
      rw [NameMap.mem_iff_lookup_eq_some (List.pairwise_append.mp hasc).1, hfront, if_pos hn, hv]
    rw [hfree (n, v) hmem] at hconstants
    cases hconstants
  · rw [mergeRow, hsplit]
    exact hrun
  · intro n
    rw [hnames, hfront]

/-! ### Writes -/

/-- Something written to a table. -/
inductive Write where
  | knob (name : String) (v : Float)
  | row (row : NameMap Float)

/-- Make a write. -/
def write : Write → Action SymbolTable Unit
  | .knob name v => assign name v
  | .row row => mergeRow row

/-- The table after writes, of which any may fail. -/
def written (t : SymbolTable) (writes : List Write) : SymbolTable :=
  writes.foldl (fun t w => ((write w).run t).2) t

/-- No set of constants was changed, made or forgotten, and no name has disappeared. -/
structure Preserves (t u : SymbolTable) : Prop where
  constants : ∀ name, constants? u name = constants? t name
  names : ∀ name, (t.get? name).isSome → (u.get? name).isSome

theorem keeps_assign (t : SymbolTable) (name : String) (v : Float) :
    Keeps (Preserves t) Unit (assign name v) := by
  intro u hu
  cases h : constants? u name with
  | some r =>
      rw [run_assign_of_constants h]
      exact hu
  | none =>
      rw [run_assign_of_free h]
      constructor
      · intro n
        rw [constants?_insert_knob h, hu.constants]
      · intro n hn
        rw [NameMap.get?_insert]
        split
        · rfl
        · exact hu.names n hn

theorem keeps_mergeRow (t : SymbolTable) (row : NameMap Float) :
    Keeps (Preserves t) Unit (mergeRow row) := by
  have hinherited := inherited_keeps (Preserves t)
  unfold mergeRow
  induction row.toList with
  | nil => exact hinherited.ofExcept Unit (.ok ())
  | cons e entries ih => exact hinherited.bind _ _ _ _ (keeps_assign t e.1 e.2) fun _ => ih

theorem keeps_write (t : SymbolTable) (w : Write) : Keeps (Preserves t) Unit (write w) := by
  cases w with
  | knob name v => exact keeps_assign t name v
  | row row => exact keeps_mergeRow t row

/-- Writes preserve what the table knows, failing or not. -/
theorem preserves_written (t : SymbolTable) (writes : List Write) :
    Preserves t (written t writes) := by
  have hkept : ∀ u, Preserves t u → Preserves t (written u writes) := by
    induction writes with
    | nil => exact fun u hu => hu
    | cons w writes ih => exact fun u hu => ih _ (keeps_write t w u hu)
  exact hkept t ⟨fun _ => rfl, fun _ h => h⟩

/-- **The outcome of merging a row.**  A row can be merged if and only if none of its names is a set
of constants, and then its names are knobs with its values and all other entries are as before.
Otherwise the fault names the first of its names, in the order of their bytes, that is a set of
constants; the names before that one have been given their values and all other entries are as
before.  So writes, whether they fail or not, leave all sets of constants alone and make no name
disappear. -/
theorem merge_outcome (t : SymbolTable) (row : NameMap Float) :
    ((∃ u, (mergeRow row).run t = (.ok (), u)) ↔ ∀ name, ¬Clashes t row name) ∧
    (∀ u, (mergeRow row).run t = (.ok (), u) →
      ∀ name, u.get? name = ((row.get? name).map Symbol.knob).or (t.get? name)) ∧
    ((∃ name, Clashes t row name) → ∃ clash e u,
      Clashes t row clash ∧ (∀ name, Text.utf8 name < Text.utf8 clash → ¬Clashes t row name) ∧
      (mergeRow row).run t = (.error e, u) ∧ e.kind = .validation ∧
      e.text = "symbol '" ++ clash ++ "' is a constants set, not a knob" ∧
      (∀ name, Text.utf8 name < Text.utf8 clash →
        u.get? name = ((row.get? name).map Symbol.knob).or (t.get? name)) ∧
      ∀ name, ¬Text.utf8 name < Text.utf8 clash → u.get? name = t.get? name) ∧
    ∀ writes, Preserves t (written t writes) := by
  refine ⟨?_, ?_, ?_, preserves_written t⟩
  · constructor
    · rintro ⟨u, h⟩ name ⟨hrow, hconstants⟩
      rw [(mergeRow_eq_ok_iff.mp h).1 name hrow] at hconstants
      cases hconstants
    · intro hnone
      rcases hrun : (mergeRow row).run t with ⟨e | ⟨⟩, u⟩
      · obtain ⟨entry, hentry, hconstants, _⟩ := fault_of_forM_assign hrun
        refine absurd ⟨?_, Option.isSome_iff_ne_none.mpr hconstants⟩ (hnone entry.1)
        rw [(row.mem_toList_iff entry).mp hentry]
        rfl
      · exact ⟨u, rfl⟩
  · intro u h
    exact (mergeRow_eq_ok_iff.mp h).2
  · rintro ⟨name, h⟩
    obtain ⟨clash, u, hclash, hleast, hrun, hnames⟩ := mergeRow_of_clash h
    simp only [← Text.lt_iff_utf8_lt]
    refine ⟨clash, _, u, hclash, hleast, hrun, rfl, rfl, ?_, ?_⟩
    · intro n hn
      rw [hnames, if_pos hn]
    · intro n hn
      rw [hnames, if_neg hn]
      rfl

/-- A row of three knobs, the second of which is taken by a set of constants. -/
def clashing : NameMap Float := .ofList [("a", 1), ("gold", 2), ("z", 3)]

theorem clashing_outcome :
    let t : SymbolTable := NameMap.empty.insert "gold" (.constants .standard)
    Clashes t clashing "gold" ∧ ∃ e u, (mergeRow clashing).run t = (.error e, u) ∧
      e.kind = .validation ∧ knob? u "a" = some 1 ∧ knob? u "z" = none ∧
      Preserves t (written t [.row clashing, .knob "z" 4, .knob "gold" 5]) := by
  intro t
  have hgold : Clashes t clashing "gold" := ⟨rfl, rfl⟩
  obtain ⟨_, _, hfails, hwrites⟩ := merge_outcome t clashing
  obtain ⟨clash, e, u, hclash, _, hrun, hkind, _, hbefore, hrest⟩ := hfails ⟨"gold", hgold⟩
  have hname : clash = "gold" := by
    by_contra hne
    have hconstants := hclash.2
    simp [constants?, t, hne] at hconstants
  rw [hname] at hbefore hrest
  refine ⟨hgold, e, u, hrun, hkind, ?_, ?_, hwrites _⟩
  · rw [knob?, hbefore "a" (Text.lt_iff_utf8_lt.mp (by decide))]
    rfl
  · rw [knob?, hrest "z" (mt Text.lt_iff_utf8_lt.mpr (by decide))]
    rfl

end SymbolTable
end SceneScript
