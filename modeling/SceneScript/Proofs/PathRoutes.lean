import Mathlib.Data.List.Basic
import SceneScript.Output.Path

/-! # Routes

Where two texts are put together, the last piece of the one and the first of the other become one
piece (`Path.split_append`), so a path inside a directory ends as it does alone
(`Path.lastPiece_join`).

Two texts can be one path.  A path is compared by its `Path.route`, in which idle pieces are left
out.  The route of a text in two parts is known from the parts: if something stands where they meet
it is a piece of the route (`Path.route_append`), and if only a point stands there it is not, unless
nothing is in front of it (`Path.route_append_point`, `Path.route_point`). -/

namespace SceneScript

namespace Path

/-! ### Texts put together -/

theorem split_ne_nil (cs : List Char) : split cs ≠ [] := by
  cases cs with
  | nil => exact List.cons_ne_nil _ _
  | cons c cs =>
      rw [split]
      split
      · exact List.cons_ne_nil _ _
      · split <;> exact List.cons_ne_nil _ _

theorem split_cons {c : Char} {cs piece : List Char} {pieces : List (List Char)} (hc : c ≠ '/')
    (h : split cs = piece :: pieces) : split (c :: cs) = (c :: piece) :: pieces := by
  rw [split, if_neg hc, h]

/-- A text has nothing in front of its first slash only if it begins with it. -/
theorem first_eq_nil_iff {cs first : List Char} {behind : List (List Char)} (hcs : cs ≠ [])
    (h : split cs = first :: behind) : first = [] ↔ cs.head? = some '/' := by
  obtain ⟨c, cs, rfl⟩ := List.exists_cons_of_ne_nil hcs
  by_cases hc : c = '/'
  · subst hc
    exact ⟨fun _ => rfl, fun _ => (List.cons.inj h).1.symm⟩
  · obtain ⟨piece, pieces, hpieces⟩ := List.exists_cons_of_ne_nil (split_ne_nil cs)
    rw [split_cons hc hpieces] at h
    rw [← (List.cons.inj h).1]
    exact ⟨fun hnil => absurd hnil (List.cons_ne_nil c piece),
      fun hhead => absurd (Option.some.inj hhead) hc⟩

theorem eq_nil_of_split {cs : List Char} (h : split cs = [[]]) : cs = [] := by
  cases cs with
  | nil => rfl
  | cons c cs =>
      have hc : c = '/' := Option.some.inj ((first_eq_nil_iff (List.cons_ne_nil c cs) h).mp rfl)
      subst hc
      exact absurd (List.cons.inj h).2 (split_ne_nil cs)

theorem split_of_not_mem {cs : List Char} (h : '/' ∉ cs) : split cs = [cs] := by
  induction cs with
  | nil => rfl
  | cons c cs ih =>
      rw [List.mem_cons, not_or] at h
      exact split_cons (Ne.symm h.1) (ih h.2)

/-- Where two texts meet, the last piece of the one and the first of the other become one. -/
theorem split_append {cs ds last first : List Char} {before behind : List (List Char)}
    (hcs : split cs = before ++ [last]) (hds : split ds = first :: behind) :
    split (cs ++ ds) = before ++ (last ++ first) :: behind := by
  induction cs generalizing before last with
  | nil =>
      have hnil : before ++ [last] = [] ++ [[]] := hcs.symm
      obtain ⟨rfl, hlast⟩ := List.append_inj' hnil rfl
      rw [(List.cons.inj hlast).1]
      exact hds
  | cons c cs ih =>
      by_cases hc : c = '/'
      · subst hc
        change [] :: split cs = before ++ [last] at hcs
        cases before with
        | nil => exact absurd (List.cons.inj hcs).2 (split_ne_nil cs)
        | cons piece before =>
            obtain ⟨rfl, hrest⟩ := List.cons.inj hcs
            exact congrArg ([] :: ·) (ih hrest)
      · obtain ⟨piece, pieces, hpieces⟩ := List.exists_cons_of_ne_nil (split_ne_nil cs)
        rw [split_cons hc hpieces] at hcs
        cases before with
        | nil =>
            obtain ⟨rfl, rfl⟩ := List.cons.inj hcs
            have hlast : split cs = [] ++ [piece] := hpieces
            exact split_cons hc (ih hlast)
        | cons _ before =>
            obtain ⟨rfl, rfl⟩ := List.cons.inj hcs
            have hlast : split cs = (piece :: before) ++ [last] := hpieces
            exact split_cons hc (ih hlast)

theorem split_append_slash (cs ds : List Char) :
    split (cs ++ '/' :: ds) = split cs ++ split ds := by
  have hcs := (List.dropLast_append_getLast (split_ne_nil cs)).symm
  rw [split_append hcs (rfl : split ('/' :: ds) = [] :: split ds), List.append_nil,
    List.append_cons, ← hcs]

theorem split_point {extension : String} {more : List Char} {behind : List (List Char)}
    (hext : split extension.toList = more :: behind) :
    split ("." ++ extension).toList = ('.' :: more) :: behind := by
  rw [String.toList_append]
  exact split_cons (by decide) hext

/-- The pieces of a number with an extension. -/
theorem split_numbered {number extension : String} {more : List Char} {behind : List (List Char)}
    (hext : split extension.toList = more :: behind) (hnumber : '/' ∉ number.toList) :
    split (number ++ ("." ++ extension)).toList = (number.toList ++ '.' :: more) :: behind := by
  have hwhole : split number.toList = [] ++ [number.toList] := split_of_not_mem hnumber
  rw [String.toList_append]
  exact split_append hwhole (split_point hext)

/-- What a text has behind its last slash. -/
def lastPiece (text : String) : List Char :=
  (split text.toList).getLast (split_ne_nil _)

theorem split_eq_concat_lastPiece (text : String) :
    split text.toList = (split text.toList).dropLast ++ [lastPiece text] :=
  (List.dropLast_append_getLast _).symm

theorem lastPiece_eq {text : String} {before : List (List Char)} {last : List Char}
    (h : split text.toList = before ++ [last]) : lastPiece text = last := by
  unfold lastPiece
  simp only [h, List.getLast_append_singleton]

theorem lastPiece_append {s t : String} (h : '/' ∉ t.toList) :
    lastPiece (s ++ t) = lastPiece s ++ t.toList := by
  apply lastPiece_eq
  rw [String.toList_append]
  exact split_append (split_eq_concat_lastPiece s) (split_of_not_mem h)

theorem lastPiece_append_of_slash {s t : String} (h : s.toList.getLast? = some '/') :
    lastPiece (s ++ t) = lastPiece t := by
  obtain ⟨cs, hcs⟩ := List.getLast?_eq_some_iff.mp h
  have hsplit : split (s ++ t).toList =
      (split cs ++ (split t.toList).dropLast) ++ [lastPiece t] := by
    rw [String.toList_append, hcs, List.append_assoc, List.append_assoc,
      ← split_eq_concat_lastPiece, ← split_append_slash]
    rfl
  exact lastPiece_eq hsplit

/-- A path inside a directory ends as it does alone. -/
theorem lastPiece_join (dir : Path) (name : String) :
    lastPiece (dir.join ⟨name⟩).text = lastPiece name := by
  unfold join
  split
  · rfl
  · split
    · next h =>
        rw [Bool.or_eq_true, String.isEmpty_iff] at h
        rcases h with h | h
        · rw [h, String.empty_append]
        · exact lastPiece_append_of_slash (beq_iff_eq.mp h)
    · apply lastPiece_append_of_slash
      rw [String.toList_append]
      exact List.getLast?_concat

/-! ### What paths are compared by -/

/-- Pieces without the idle ones behind the first. -/
def kept : List String → List String
  | [] => []
  | first :: rest => first :: rest.filter (!idle ·)

/-- What a path is compared by: two texts with one route are one path.  A piece `..` is kept, as it
need not lead back. -/
def route (p : Path) : List String := if p.text.isEmpty then [] else kept p.pieces

example : [route ⟨"/"⟩, route ⟨"//a/./b/"⟩, route ⟨"./a"⟩, route ⟨""⟩] =
    [[""], ["", "a", "b"], [".", "a"], []] := by decide

theorem kept_append {before behind : List String} {piece : String} (h : idle piece = false) :
    kept (before ++ piece :: behind) = kept before ++ piece :: behind.filter (!idle ·) := by
  cases before with
  | nil => rfl
  | cons first rest =>
      rw [List.cons_append, kept, kept, List.filter_append,
        List.filter_cons_of_pos (by rw [h]; rfl)]
      rfl

theorem kept_append_idle {before behind : List String} {piece : String} (hbefore : before ≠ [])
    (h : idle piece = true) :
    kept (before ++ piece :: behind) = kept before ++ behind.filter (!idle ·) := by
  obtain ⟨first, rest, rfl⟩ := List.exists_cons_of_ne_nil hbefore
  rw [List.cons_append, kept, kept, List.filter_append, List.filter_cons_of_neg (by rw [h]; decide)]
  rfl

/-- A piece with a point in it is idle only if it is nothing else. -/
theorem idle_point {front more : List Char} (h : front ++ more ≠ []) :
    idle (String.ofList (front ++ '.' :: more)) = false := by
  have hchars : (String.ofList (front ++ '.' :: more)).toList.length =
      (front ++ more).length + 1 := by
    rw [String.toList_ofList, List.length_append, List.length_cons, List.length_append]
    omega
  have hlength : 0 < (front ++ more).length := List.length_pos_of_ne_nil h
  rw [idle, Bool.or_eq_false_iff, beq_eq_false_iff_ne, beq_eq_false_iff_ne]
  constructor
  · intro hempty
    rw [hempty] at hchars
    exact absurd hchars (Nat.succ_ne_zero _).symm
  · intro hpoint
    rw [hpoint] at hchars
    exact absurd (Nat.succ.inj hchars) (Nat.ne_of_lt hlength)

/-- What a text gives to a route in front of its last piece. -/
def stem (text : String) : List String :=
  kept ((split text.toList).dropLast.map String.ofList)

/-- The route of a text in two parts, if something stands where they meet. -/
theorem route_append {s t : String} {first : List Char} {behind : List (List Char)}
    (ht : split t.toList = first :: behind)
    (hmeet : idle (String.ofList (lastPiece s ++ first)) = false) :
    route ⟨s ++ t⟩ = stem s ++ String.ofList (lastPiece s ++ first) ::
      (behind.map String.ofList).filter (!idle ·) := by
  have hpieces : pieces ⟨s ++ t⟩ = (split s.toList).dropLast.map String.ofList ++
      String.ofList (lastPiece s ++ first) :: behind.map String.ofList := by
    rw [pieces, String.toList_append, split_append (split_eq_concat_lastPiece s) ht,
      List.map_append, List.map_cons]
  have htext : ¬ (s ++ t).isEmpty := by
    intro hempty
    have hmem : String.ofList (lastPiece s ++ first) ∈ pieces ⟨s ++ t⟩ := by
      rw [hpieces]
      exact List.mem_append_right _ List.mem_cons_self
    rw [String.isEmpty_iff.mp hempty] at hmem
    rw [List.mem_singleton.mp hmem] at hmeet
    exact absurd hmeet (by decide)
  rw [route, if_neg htext, hpieces, kept_append hmeet]
  rfl

/-- A point in front of all slashes is on the route. -/
theorem route_point {t : String} {behind : List (List Char)}
    (ht : split t.toList = ['.'] :: behind) :
    route ⟨t⟩ = "." :: (behind.map String.ofList).filter (!idle ·) := by
  have htext : ¬ t.isEmpty := by
    rw [String.isEmpty_iff]
    rintro rfl
    cases ht
  rw [route, if_neg htext, pieces, ht]
  rfl

/-- A point behind a slash and in front of another one is not on the route. -/
theorem route_append_point {s t : String} {behind : List (List Char)} (hs : s ≠ "")
    (hopen : lastPiece s = []) (ht : split t.toList = ['.'] :: behind) :
    route ⟨s ++ t⟩ = stem s ++ (behind.map String.ofList).filter (!idle ·) := by
  have hpieces : pieces ⟨s ++ t⟩ = (split s.toList).dropLast.map String.ofList ++
      "." :: behind.map String.ofList := by
    rw [pieces, String.toList_append, split_append (split_eq_concat_lastPiece s) ht, hopen,
      List.map_append, List.map_cons]
    rfl
  have hbefore : (split s.toList).dropLast.map String.ofList ≠ [] := by
    intro hnil
    have hsplit := split_eq_concat_lastPiece s
    rw [List.map_eq_nil_iff.mp hnil, hopen] at hsplit
    exact hs (String.toList_eq_nil_iff.mp (eq_nil_of_split hsplit))
  have htext : ¬ (s ++ t).isEmpty := by
    rw [String.isEmpty_iff, ← String.toList_eq_nil_iff, String.toList_append,
      List.append_eq_nil_iff]
    exact fun h => hs (String.toList_eq_nil_iff.mp h.1)
  rw [route, if_neg htext, hpieces, kept_append_idle hbefore (by decide)]
  rfl

/-- The route of a text that ends with a number and an extension. -/
theorem route_numbered {front number extension : String} {more : List Char}
    {behind : List (List Char)} (hext : split extension.toList = more :: behind)
    (hnumber : '/' ∉ number.toList) (hmeet : lastPiece front ++ number.toList ++ more ≠ []) :
    route ⟨front ++ (number ++ ("." ++ extension))⟩ = stem front ++
      String.ofList (lastPiece front ++ number.toList ++ '.' :: more) ::
        (behind.map String.ofList).filter (!idle ·) := by
  have hidle := idle_point hmeet
  rw [List.append_assoc] at hidle ⊢
  exact route_append (split_numbered hext hnumber) hidle

end Path

end SceneScript
