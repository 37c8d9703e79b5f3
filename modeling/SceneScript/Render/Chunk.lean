import SceneScript.Fault

/-! # Threading and chunks

`Threading` says whether frames are rendered by several workers, and how many frames at a time.
`Chunk.all` cuts the frames of an animation into chunks: consecutive runs of frames, all of the
same size except perhaps the last.  Frame numbers have thirty-two bits, so the end of a chunk is
found by an addition that saturates; the chunks end because every step still makes progress. -/

namespace SceneScript

/-- How the frames of a run are shared out. -/
structure Threading where
  parallel : Bool
  chunkSize : UInt64
  threads : Option UInt64
deriving DecidableEq, Repr, Inhabited

namespace Threading

/-- The threading when nothing else is said. -/
def standard : Threading := ⟨false, 64, none⟩

/-- Refuse to work with no threads. -/
def validate (t : Threading) : Except Fault Unit :=
  if t.threads = some 0 then .error .zeroThreads else .ok ()

end Threading

/-- The frames from `first` up to, but not including, `stop`. -/
structure Chunk where
  first : UInt32
  stop : UInt32
deriving DecidableEq, Repr, Inhabited

namespace Chunk

/-- The largest number of thirty-two bits. -/
def limit : Nat := UInt32.size - 1

/-- The sum, or the largest number if it is too large. -/
def saturatingAdd (a b : UInt32) : UInt32 := UInt32.ofNat (min (a.toNat + b.toNat) limit)

theorem toNat_saturatingAdd (a b : UInt32) :
    (saturatingAdd a b).toNat = min (a.toNat + b.toNat) limit := by
  have h : min (a.toNat + b.toNat) limit < UInt32.size :=
    Nat.lt_of_le_of_lt (Nat.min_le_right _ _) (by decide)
  exact UInt32.toNat_ofNat_of_lt' h

/-- The number of frames in a chunk: at least one, and at most what thirty-two bits hold. -/
def size (n : UInt64) : { size : UInt32 // 0 < size } :=
  if h : 0 < n.toNat ∧ n.toNat ≤ limit then
    ⟨UInt32.ofNat n.toNat, UInt32.lt_iff_toNat_lt.mpr (by
      have fits : n.toNat < UInt32.size := Nat.lt_of_le_of_lt h.2 (by decide)
      rw [UInt32.toNat_ofNat_of_lt' fits]
      exact h.1)⟩
  else if n = 0 then ⟨1, by decide⟩
  else ⟨UInt32.ofNat limit, by decide⟩

/-- The end of the chunk that begins at a frame. -/
def stopAfter (count size first : UInt32) : UInt32 := min (saturatingAdd first size) count

theorem lt_stopAfter {count size first : UInt32} (hs : 0 < size) (h : first < count) :
    first < stopAfter count size first := by
  have hs : 0 < size.toNat := UInt32.lt_iff_toNat_lt.mp hs
  have h : first.toNat < count.toNat := UInt32.lt_iff_toNat_lt.mp h
  have hc : count.toNat < UInt32.size := count.toNat_lt
  have ha := toNat_saturatingAdd first size
  unfold stopAfter
  rw [UInt32.lt_iff_toNat_lt]
  change _ < (if _ then _ else _ : UInt32).toNat
  split
  · rw [ha]; unfold limit; omega
  · exact h

/-- The chunks of the frames from `first` up to `count`. -/
def startingAt (count : UInt32) (size : { size : UInt32 // 0 < size }) (first : UInt32) :
    List Chunk :=
  if _h : first < count then
    ⟨first, stopAfter count size.1 first⟩ :: startingAt count size (stopAfter count size.1 first)
  else []
termination_by count.toNat - first.toNat
decreasing_by
  have within := UInt32.lt_iff_toNat_lt.mp _h
  have progress := UInt32.lt_iff_toNat_lt.mp (lt_stopAfter size.2 _h)
  omega

/-- The chunks of an animation. -/
def all (count : UInt32) (chunkSize : UInt64) : List Chunk := startingAt count (size chunkSize) 0

/-- The number of frames in a chunk. -/
def length (c : Chunk) : Nat := c.stop.toNat - c.first.toNat

/-- The frames of a chunk, in order. -/
def frames (c : Chunk) : List Nat := List.range' c.first.toNat c.length

end Chunk

end SceneScript
