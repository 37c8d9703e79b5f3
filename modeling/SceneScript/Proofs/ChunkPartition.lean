import Mathlib.Data.List.Chain
import SceneScript.Render.Schedule

/-! # Chunks partition the frames

`Chunk.flatMap_frames_all`: the chunks of an animation, one after the other, have the frames
`0, 1, …, count - 1`, each once and in order, whatever the chunk size.  The sum that finds the end
of a chunk may saturate; what is used of it is only that a chunk ends behind its first frame and
not behind the last one.  `Chunk.partition_all` adds that a chunk begins where the one before it
ends, that none is empty, and that none is larger than was asked for. -/

namespace SceneScript
namespace Chunk

theorem length_frames (c : Chunk) : c.frames.length = c.length := List.length_range'

theorem toNat_stopAfter (count size first : UInt32) :
    (stopAfter count size first).toNat =
      min (min (first.toNat + size.toNat) limit) count.toNat := by
  rw [← toNat_saturatingAdd]
  unfold stopAfter
  change (if _ then _ else _ : UInt32).toNat = _
  split
  case isTrue h => exact (Nat.min_eq_left (UInt32.le_iff_toNat_le.mp h)).symm
  case isFalse h =>
      rw [UInt32.le_iff_toNat_le] at h
      omega

theorem stopAfter_le (count size first : UInt32) :
    (stopAfter count size first).toNat ≤ count.toNat := by
  rw [toNat_stopAfter]
  exact Nat.min_le_right _ _

/-- The chunk that begins at a frame. -/
def beginningAt (count size first : UInt32) : Chunk := ⟨first, stopAfter count size first⟩

theorem length_beginningAt_le (count size first : UInt32) :
    (beginningAt count size first).length ≤ size.toNat := by
  have hstop := toNat_stopAfter count size first
  change (stopAfter count size first).toNat - first.toNat ≤ size.toNat
  omega

theorem startingAt_of_lt {count first : UInt32} (size : { size : UInt32 // 0 < size })
    (h : first < count) :
    startingAt count size first =
      beginningAt count size first :: startingAt count size (stopAfter count size first) := by
  rw [startingAt, dif_pos h]
  rfl

theorem startingAt_of_not_lt {count first : UInt32} (size : { size : UInt32 // 0 < size })
    (h : ¬ first < count) : startingAt count size first = [] := by
  rw [startingAt, dif_neg h]

/-- Consecutive ranges are one range. -/
theorem range'_append_of_le {a b c : Nat} (hab : a ≤ b) (hbc : b ≤ c) :
    List.range' a (b - a) ++ List.range' b (c - b) = List.range' a (c - a) := by
  obtain ⟨m, rfl⟩ := Nat.exists_eq_add_of_le hab
  obtain ⟨n, rfl⟩ := Nat.exists_eq_add_of_le hbc
  rw [Nat.add_sub_cancel_left, Nat.add_sub_cancel_left, List.range'_append_1, Nat.add_assoc,
    Nat.add_sub_cancel_left]

/-- The chunks from a frame on have all frames from it on. -/
theorem flatMap_frames_startingAt (count : UInt32) (size : { size : UInt32 // 0 < size })
    (first : UInt32) :
    (startingAt count size first).flatMap frames =
      List.range' first.toNat (count.toNat - first.toNat) := by
  induction first using startingAt.induct count size with
  | case1 first h ih =>
      have hprogress := UInt32.lt_iff_toNat_lt.mp (lt_stopAfter size.2 h)
      have hwithin := stopAfter_le count size.1 first
      rw [startingAt_of_lt size h, List.flatMap_cons, ih]
      exact range'_append_of_le (Nat.le_of_lt hprogress) hwithin
  | case2 first h =>
      have hle : count.toNat - first.toNat = 0 := by
        rw [UInt32.lt_iff_toNat_lt] at h
        omega
      rw [startingAt_of_not_lt size h, hle]
      rfl

/-- **The chunks partition the frames.** -/
theorem flatMap_frames_all (count : UInt32) (chunkSize : UInt64) :
    (all count chunkSize).flatMap frames = List.range count.toNat := by
  rw [all, flatMap_frames_startingAt, List.range_eq_range']
  rfl

/-- The first of the numbers from zero on are such numbers themselves. -/
theorem eq_range_of_append_eq_range {xs ys : List Nat} {n : Nat} (h : xs ++ ys = List.range n) :
    xs = List.range xs.length := by
  have hlength : xs.length ≤ n := by
    have hn := congrArg List.length h
    rw [List.length_append, List.length_range] at hn
    omega
  calc
    xs = (xs ++ ys).take xs.length := List.take_left.symm
    _ = List.range xs.length := by rw [h, List.take_range, Nat.min_eq_left hlength]

/-- In front of a number from zero on stand those below it. -/
theorem front_eq_range {front back : List Nat} {number n : Nat}
    (h : List.range n = front ++ number :: back) : front = List.range number ∧ number < n := by
  have hat := congrArg (fun xs => xs[front.length]?) h
  simp only [List.getElem?_append_right (Nat.le_refl _), Nat.sub_self,
    List.getElem?_cons_zero, List.getElem?_eq_some_iff, List.getElem_range,
    List.length_range] at hat
  obtain ⟨hlt, rfl⟩ := hat
  exact ⟨eq_range_of_append_eq_range h.symm, hlt⟩

/-- The frames of an animation up to and with those of a chunk are the first ones. -/
theorem flatMap_frames_append_frames {front rest : List Chunk} {c : Chunk} {count : UInt32}
    {chunkSize : UInt64} (h : all count chunkSize = front ++ c :: rest) :
    ∃ n, front.flatMap frames ++ c.frames = List.range n := by
  have hall := flatMap_frames_all count chunkSize
  rw [h, List.flatMap_append, List.flatMap_cons, ← List.append_assoc] at hall
  exact ⟨_, eq_range_of_append_eq_range hall⟩

/-- Every chunk is the one that begins at some frame. -/
theorem exists_of_mem_startingAt {count first : UInt32} {size : { size : UInt32 // 0 < size }}
    {c : Chunk} (h : c ∈ startingAt count size first) :
    ∃ cursor < count, c = beginningAt count size cursor := by
  induction first using startingAt.induct count size with
  | case1 first hlt ih =>
      rw [startingAt_of_lt size hlt, List.mem_cons] at h
      rcases h with rfl | h
      · exact ⟨first, hlt, rfl⟩
      · exact ih h
  | case2 first hge =>
      rw [startingAt_of_not_lt size hge] at h
      cases h

theorem first_lt_stop_of_mem_startingAt {count first : UInt32}
    {size : { size : UInt32 // 0 < size }} {c : Chunk} (h : c ∈ startingAt count size first) :
    c.first < c.stop := by
  obtain ⟨cursor, hlt, rfl⟩ := exists_of_mem_startingAt h
  exact lt_stopAfter size.2 hlt

/-- Every chunk has a frame. -/
theorem length_pos_of_mem_startingAt {count : UInt32} {size : { size : UInt32 // 0 < size }}
    {first : UInt32} {c : Chunk} (h : c ∈ startingAt count size first) : 0 < c.length :=
  Nat.sub_pos_of_lt (UInt32.lt_iff_toNat_lt.mp (first_lt_stop_of_mem_startingAt h))

/-- A chunk has a frame, and its frames fit behind those of the chunks before it. -/
theorem length_le_of_split {front rest : List Chunk} {c : Chunk} {count : UInt32}
    {chunkSize : UInt64} (h : all count chunkSize = front ++ c :: rest) :
    0 < c.length ∧ (front.flatMap frames).length + c.length ≤ count.toNat := by
  have hmem : c ∈ all count chunkSize := by
    rw [h]
    exact List.mem_append_right _ List.mem_cons_self
  have hall := congrArg List.length (flatMap_frames_all count chunkSize)
  rw [h, List.flatMap_append, List.flatMap_cons, List.length_append, List.length_append,
    List.length_range, c.length_frames] at hall
  exact ⟨length_pos_of_mem_startingAt hmem, by omega⟩

/-- The chunks before a chunk have the frames before its first one, and with it those before its
end. -/
theorem flatMap_frames_before {front rest : List Chunk} {c : Chunk} {count : UInt32}
    {chunkSize : UInt64} (h : all count chunkSize = front ++ c :: rest) :
    front.flatMap frames = List.range c.first.toNat ∧
      List.range c.first.toNat ++ c.frames = List.range c.stop.toNat := by
  obtain ⟨n, hn⟩ := flatMap_frames_append_frames h
  have hfront := eq_range_of_append_eq_range hn
  have hpos : 0 < c.length := (length_le_of_split h).1
  have hlength : (front.flatMap frames).length + c.length = n := by
    have hlengths := congrArg List.length hn
    rwa [List.length_append, length_frames, List.length_range] at hlengths
  have hfirst : c.first.toNat = (front.flatMap frames).length := by
    have hat := congrArg (fun xs => xs[(front.flatMap frames).length]?) hn
    rw [List.getElem?_append_right (Nat.le_refl _), Nat.sub_self,
      List.getElem?_range (by omega)] at hat
    simpa [frames, List.getElem?_range', hpos] using hat
  have hstop : n = c.stop.toNat := by
    unfold length at hlength hpos
    omega
  rw [← hfirst] at hfront
  refine ⟨hfront, ?_⟩
  rw [← hfront, hn, hstop]

/-! ### The partition -/

/-- Chunks of at most so many frames that cut up the frames below a number: each begins where the
one before it ends, none is empty, and their frames are those frames, each once and in order. -/
structure Partition (count : UInt32) (bound : Nat) (chunks : List Chunk) : Prop where
  consecutive : chunks.IsChain fun c d => c.stop = d.first
  nonempty : ∀ c ∈ chunks, c.first < c.stop
  bounded : ∀ c ∈ chunks, c.length ≤ bound
  frames : chunks.flatMap Chunk.frames = List.range count.toNat

/-- If there are chunks from a frame on, the first of them begins there. -/
theorem first_of_mem_head?_startingAt {count first : UInt32}
    {size : { size : UInt32 // 0 < size }} {c : Chunk}
    (h : c ∈ (startingAt count size first).head?) : c.first = first := by
  by_cases hlt : first < count
  · rw [startingAt_of_lt size hlt, List.head?_cons, Option.mem_some_iff] at h
    rw [← h]
    rfl
  · rw [startingAt_of_not_lt size hlt] at h
    cases h

/-- Each chunk begins where the one before it ends. -/
theorem isChain_startingAt (count : UInt32) (size : { size : UInt32 // 0 < size })
    (first : UInt32) : (startingAt count size first).IsChain fun c d => c.stop = d.first := by
  induction first using startingAt.induct count size with
  | case1 first hlt ih =>
      rw [startingAt_of_lt size hlt, List.isChain_cons]
      exact ⟨fun d hd => (first_of_mem_head?_startingAt hd).symm, ih⟩
  | case2 first hge =>
      rw [startingAt_of_not_lt size hge]
      exact List.IsChain.nil

/-- The size that is used is at most the size asked for, unless that is zero. -/
theorem toNat_size_le (n : UInt64) : (size n).1.toNat ≤ max n.toNat 1 := by
  unfold size
  split
  case isTrue h =>
      have fits : n.toNat < UInt32.size := Nat.lt_of_le_of_lt h.2 (by decide)
      rw [UInt32.toNat_ofNat_of_lt' fits]
      exact Nat.le_max_left _ _
  case isFalse h =>
      split
      case isTrue => exact Nat.le_max_right _ _
      case isFalse hzero =>
          have hpos : n.toNat ≠ 0 := fun hn => hzero (UInt64.toNat_inj.mp hn)
          have hlimit : (UInt32.ofNat limit).toNat = limit := rfl
          rw [hlimit]
          omega

/-- The chunks of an animation partition its frames. -/
theorem partition_all (count : UInt32) (chunkSize : UInt64) :
    Partition count (max chunkSize.toNat 1) (all count chunkSize) where
  consecutive := isChain_startingAt count (size chunkSize) 0
  nonempty := fun _ hc => first_lt_stop_of_mem_startingAt hc
  bounded := by
    intro c hc
    obtain ⟨cursor, -, rfl⟩ := exists_of_mem_startingAt hc
    calc
      (beginningAt count (size chunkSize) cursor).length ≤ (size chunkSize).1.toNat :=
        length_beginningAt_le count (size chunkSize) cursor
      _ ≤ max chunkSize.toNat 1 := toNat_size_le chunkSize
  frames := flatMap_frames_all count chunkSize

end Chunk
end SceneScript
