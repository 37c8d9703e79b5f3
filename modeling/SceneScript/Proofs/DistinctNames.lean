import Mathlib.Data.List.Nodup
import SceneScript.Proofs.FramePatterns
import SceneScript.Proofs.PathRoutes

/-! # Names that differ

The frames of an animation and the animation itself are to have different names.  The number of a
frame is written with at least three digits, so names need not be of one length, and the base name
may itself end with digits.  But what stands in front of the number and what stands behind it is
known, and what is left are the digits of the number: `numberBetween` reads it back from a name
(`OutputPlan.numberBetween_framePath`).

The name of the animation goes on with a point where those of the frames go on with a digit.  If
both are in one directory that is where they differ as texts, whatever the extensions are.  If they
are in two, they differ so behind the last slash (`Path.lastPiece_join`), as long as the extensions
have no slash; with a slash they can be one text (`OutputPlan.names_collide`).

Two texts can be one path.  A path is compared by its `Path.route`, in which a point between two
slashes is left out.  The point in the name of the animation is such a point if the base name ends
with a slash and the extension begins with one, and then the extension can name a frame.  In all
other cases it is a part of a piece that no frame has (`OutputPlan.route_framePath_eq_iff`). -/

namespace SceneScript

open SceneScript.Pattern

/-- The number whose digits a name has between two texts. -/
def numberBetween (front back name : String) : Nat :=
  Nat.ofDigitChars 10 ((name.toList.drop front.length).take
    (name.length - front.length - back.length)) 0

theorem numberBetween_append (front digits back : String) :
    numberBetween front back (front ++ (digits ++ back)) = Nat.ofDigitChars 10 digits.toList 0 := by
  have hlength : (front ++ (digits ++ back)).length - front.length - back.length =
      digits.toList.length := by
    rw [String.length_append, String.length_append, String.length_toList]
    omega
  unfold numberBetween
  rw [hlength, String.toList_append, String.toList_append, ← String.length_toList,
    List.drop_left, List.take_left]

/-- The zeros in front do not change what is read. -/
theorem ofDigitChars_padded (width n : Nat) :
    Nat.ofDigitChars 10 (Decimal.padded width n).toList 0 = n := by
  rw [toList_padded, Nat.ofDigitChars_append, Nat.ofDigitChars_replicate_zero, Nat.mul_zero]
  exact Nat.ofDigitChars_ten_toDigits

theorem numberBetween_numberedName (basename extension : String) (n : Nat) :
    numberBetween basename ("." ++ extension) (numberedName basename n extension) = n := by
  rw [numberedName, String.append_assoc, String.append_assoc, numberBetween_append,
    ofDigitChars_padded]

/-- A number does not begin with a point. -/
theorem padded_append_ne (width n : Nat) (back more : List Char) :
    (Decimal.padded width n).toList ++ back ≠ '.' :: more := by
  intro h
  cases hdigits : (Decimal.padded width n).toList with
  | nil =>
      rw [toList_padded, List.append_eq_nil_iff] at hdigits
      exact Nat.toDigits_ne_nil hdigits.2
  | cons c cs =>
      have hc : c.isDigit = true := isDigit_of_mem_padded (hdigits ▸ List.mem_cons_self)
      rw [hdigits, List.cons_append] at h
      obtain ⟨rfl, -⟩ := List.cons.inj h
      exact absurd hc (by decide)

theorem slash_not_mem_padded (width n : Nat) : '/' ∉ (Decimal.padded width n).toList := by
  intro hslash
  exact absurd (isDigit_of_mem_padded hslash) (by decide)

namespace OutputPlan

variable (p : OutputPlan) (basename : String)

theorem numberBetween_framePath (n : Nat) :
    numberBetween (p.front basename) ("." ++ p.frameExt) (p.framePath basename n).text = n := by
  rw [text_framePath, numberBetween_append, ofDigitChars_padded]

theorem text_targetPath :
    (p.targetPath basename).text =
      (p.outDir.join ⟨basename⟩).text ++ ("." ++ p.animationExt) := by
  have hhead : ("." ++ p.animationExt).toList.head? ≠ some '/' := by
    rw [String.toList_append]
    exact fun h => absurd (Option.some.inj h) (by decide)
  rw [targetPath, String.append_assoc, Path.text_join_append _ hhead]

/-! ### Routes of frames and of the animation -/

theorem route_framePath {more : List Char} {behind : List (List Char)}
    (hext : Path.split p.frameExt.toList = more :: behind) (n : Nat) :
    (p.framePath basename n).route = Path.stem (p.front basename) ++
      String.ofList (Path.lastPiece basename ++ (Decimal.padded 3 n).toList ++ '.' :: more) ::
        (behind.map String.ofList).filter (!Path.idle ·) := by
  have hlast : Path.lastPiece (p.front basename) = Path.lastPiece basename :=
    Path.lastPiece_join p.animDir basename
  have hpath : p.framePath basename n =
      ⟨p.front basename ++ (Decimal.padded 3 n ++ ("." ++ p.frameExt))⟩ :=
    congrArg Path.mk (p.text_framePath basename n)
  rw [hpath, ← hlast]
  apply Path.route_numbered hext (slash_not_mem_padded 3 n)
  simp [toList_padded]

theorem route_targetPath {more : List Char} {behind : List (List Char)}
    (hext : Path.split p.animationExt.toList = more :: behind)
    (hmeet : Path.lastPiece basename ++ more ≠ []) :
    (p.targetPath basename).route = Path.stem (p.outDir.join ⟨basename⟩).text ++
      String.ofList (Path.lastPiece basename ++ '.' :: more) ::
        (behind.map String.ofList).filter (!Path.idle ·) := by
  have hlast : Path.lastPiece (p.outDir.join ⟨basename⟩).text = Path.lastPiece basename :=
    Path.lastPiece_join p.outDir basename
  have hpath : p.targetPath basename =
      ⟨(p.outDir.join ⟨basename⟩).text ++ ("" ++ ("." ++ p.animationExt))⟩ := by
    rw [String.empty_append]
    exact congrArg Path.mk (p.text_targetPath basename)
  rw [← hlast, ← List.append_nil (Path.lastPiece _)] at hmeet ⊢
  rw [hpath]
  exact Path.route_numbered hext List.not_mem_nil hmeet

/-- If the point of the animation is all that stands between two slashes, it is left out. -/
theorem route_targetPath_of_nil {behind : List (List Char)}
    (hext : Path.split p.animationExt.toList = [] :: behind) (hlast : Path.lastPiece basename = [])
    (hfront : (p.outDir.join ⟨basename⟩).text ≠ "") :
    (p.targetPath basename).route = Path.stem (p.outDir.join ⟨basename⟩).text ++
      (behind.map String.ofList).filter (!Path.idle ·) := by
  have hopen : Path.lastPiece (p.outDir.join ⟨basename⟩).text = [] :=
    (Path.lastPiece_join p.outDir basename).trans hlast
  have hpath : p.targetPath basename =
      ⟨(p.outDir.join ⟨basename⟩).text ++ ("." ++ p.animationExt)⟩ :=
    congrArg Path.mk (p.text_targetPath basename)
  rw [hpath]
  exact Path.route_append_point hfront hopen (Path.split_point hext)

/-- If the point of the animation is in front of all slashes, it is kept. -/
theorem route_targetPath_of_empty {behind : List (List Char)}
    (hext : Path.split p.animationExt.toList = [] :: behind)
    (hfront : (p.outDir.join ⟨basename⟩).text = "") :
    (p.targetPath basename).route = "." :: (behind.map String.ofList).filter (!Path.idle ·) := by
  have hpath : p.targetPath basename = ⟨"." ++ p.animationExt⟩ := by
    have htext := p.text_targetPath basename
    rw [hfront, String.empty_append] at htext
    exact congrArg Path.mk htext
  rw [hpath]
  exact Path.route_point (Path.split_point hext)

theorem idle_number (more : List Char) (n : Nat) :
    Path.idle (String.ofList ((Decimal.padded 3 n).toList ++ '.' :: more)) = false :=
  Path.idle_point (by simp [toList_padded])

/-- The pieces of a number with an extension, as far as they name something. -/
theorem named_numberedName {extension : String} {more : List Char} {behind : List (List Char)}
    (hext : Path.split extension.toList = more :: behind) (n : Nat) :
    (⟨numberedName "" n extension⟩ : Path).pieces.filter (!Path.idle ·) =
      String.ofList ((Decimal.padded 3 n).toList ++ '.' :: more) ::
        (behind.map String.ofList).filter (!Path.idle ·) := by
  rw [Path.pieces, numberedName, String.empty_append, String.append_assoc,
    Path.split_numbered hext (slash_not_mem_padded 3 n), List.map_cons,
    List.filter_cons_of_pos (by rw [idle_number]; rfl)]

/-- Frames with different numbers are different paths. -/
theorem route_framePath_ne_of_ne {m n : Nat} (h : m ≠ n) :
    (p.framePath basename m).route ≠ (p.framePath basename n).route := by
  obtain ⟨more, behind, hext⟩ := List.exists_cons_of_ne_nil (Path.split_ne_nil p.frameExt.toList)
  intro heq
  rw [p.route_framePath basename hext, p.route_framePath basename hext] at heq
  have hpiece := String.ofList_injective (List.cons.inj (List.append_cancel_left heq)).1
  have hdigits := List.append_cancel_left (List.append_cancel_right hpiece)
  apply h
  rw [← ofDigitChars_padded 3 m, hdigits, ofDigitChars_padded]

theorem animationExt_ne_empty (h : p.validate = .ok ()) : p.animationExt.toList ≠ [] := by
  intro hempty
  have hext : p.animationExt = "" := String.toList_eq_nil_iff.mp hempty
  have hblank : (Text.trim p.frameExt).isEmpty || (Text.trim p.animationExt).isEmpty := by
    rw [hext, Bool.or_eq_true]
    exact .inr (by decide)
  rw [validate, if_pos hblank] at h
  exact absurd h (by simp)

/-- The frames and the animation are in one directory, or their extensions have no slash. -/
def Separates : Prop :=
  p.animDir = p.outDir ∨ '/' ∉ p.frameExt.toList ∧ '/' ∉ p.animationExt.toList

/-- The point in the name of the animation is all that stands between two slashes, and behind it
stands the name that a frame has without the base name. -/
def Repeats (n : Nat) : Prop :=
  Path.lastPiece basename = [] ∧ p.front basename ≠ "" ∧
    (⟨p.animationExt⟩ : Path).absolute = true ∧
    (⟨p.animationExt⟩ : Path).pieces.filter (!Path.idle ·) =
      (⟨numberedName "" n p.frameExt⟩ : Path).pieces.filter (!Path.idle ·)

/-- What separates the texts of so many frames separates the paths, unless one is repeated. -/
def SeparatesPaths (count : Nat) : Prop :=
  p.animDir = p.outDir ∧ (∀ n < count, ¬ p.Repeats basename n) ∨
    '/' ∉ p.frameExt.toList ∧ '/' ∉ p.animationExt.toList

variable {p}

/-- No frame has the name of the animation. -/
theorem text_framePath_ne (h : p.Separates) (n : Nat) :
    (p.framePath basename n).text ≠ (p.targetPath basename).text := by
  intro heq
  have hback : ∀ front : List Char,
      front ++ (Decimal.padded 3 n ++ ("." ++ p.frameExt)).toList ≠
        front ++ ("." ++ p.animationExt).toList := by
    intro front hfront
    have hnumber := List.append_cancel_left hfront
    simp only [String.toList_append] at hnumber
    exact padded_append_ne 3 n _ _ hnumber
  rw [text_framePath, text_targetPath] at heq
  rcases h with hdir | ⟨hframe, hanimation⟩
  · rw [front, hdir] at heq
    apply hback (p.outDir.join ⟨basename⟩).text.toList
    rw [← String.toList_append, ← String.toList_append, heq]
  · -- The directories are forgotten behind the last slash.
    have hplain : '/' ∉ (Decimal.padded 3 n ++ ("." ++ p.frameExt)).toList := by
      rw [String.toList_append, String.toList_append, List.mem_append, List.mem_append]
      rintro (hslash | hslash | hslash)
      · exact slash_not_mem_padded 3 n hslash
      · exact absurd hslash (by decide)
      · exact hframe hslash
    have hplain' : '/' ∉ ("." ++ p.animationExt).toList := by
      rw [String.toList_append, List.mem_append]
      rintro (hslash | hslash)
      · exact absurd hslash (by decide)
      · exact hanimation hslash
    have hlast := congrArg Path.lastPiece heq
    rw [Path.lastPiece_append hplain, Path.lastPiece_append hplain', front, Path.lastPiece_join,
      Path.lastPiece_join] at hlast
    exact hback _ hlast

theorem framePiece_ne (front more more' : List Char) (n : Nat) :
    String.ofList (front ++ (Decimal.padded 3 n).toList ++ '.' :: more) ≠
      String.ofList (front ++ '.' :: more') := by
  intro heq
  have hchars := String.ofList_injective heq
  rw [List.append_assoc] at hchars
  exact padded_append_ne 3 n _ _ (List.append_cancel_left hchars)

/-- In one directory a frame is the path of the animation only if its name is repeated. -/
theorem route_framePath_eq_iff (hvalid : p.validate = .ok ()) (hdir : p.animDir = p.outDir)
    (n : Nat) :
    (p.framePath basename n).route = (p.targetPath basename).route ↔ p.Repeats basename n := by
  obtain ⟨more, behind, hframe⟩ :=
    List.exists_cons_of_ne_nil (Path.split_ne_nil p.frameExt.toList)
  obtain ⟨more', behind', hanimation⟩ :=
    List.exists_cons_of_ne_nil (Path.split_ne_nil p.animationExt.toList)
  have hnonempty := p.animationExt_ne_empty hvalid
  rw [p.route_framePath basename hframe]
  by_cases hmeet : Path.lastPiece basename ++ more' = []
  · obtain ⟨hlast, rfl⟩ := List.append_eq_nil_iff.mp hmeet
    have habsolute : (⟨p.animationExt⟩ : Path).absolute = true :=
      beq_iff_eq.mpr ((Path.first_eq_nil_iff hnonempty hanimation).mp rfl)
    have hnamed : (⟨p.animationExt⟩ : Path).pieces.filter (!Path.idle ·) =
        (behind'.map String.ofList).filter (!Path.idle ·) := by
      rw [Path.pieces, hanimation, List.map_cons, List.filter_cons_of_neg (by decide)]
    rw [Repeats, named_numberedName hframe, hnamed, front, hdir, hlast, List.nil_append]
    by_cases hfront : (p.outDir.join ⟨basename⟩).text = ""
    · rw [hfront, p.route_targetPath_of_empty basename hanimation hfront]
      refine ⟨fun heq => ?_, fun h => absurd rfl h.2.1⟩
      have hpiece := idle_number more n
      rw [(List.cons.inj heq).1] at hpiece
      exact absurd hpiece (by decide)
    · rw [p.route_targetPath_of_nil basename hanimation hlast hfront, List.append_cancel_left_eq]
      exact ⟨fun heq => ⟨rfl, hfront, habsolute, heq.symm⟩, fun h => h.2.2.2.symm⟩
  · -- The point is part of a piece that no frame has.
    have hroute := p.route_targetPath basename hanimation hmeet
    rw [← hdir] at hroute
    rw [hroute]
    constructor
    · intro heq
      exact absurd (List.cons.inj (List.append_cancel_left heq)).1 (framePiece_ne _ _ _ n)
    · rintro ⟨hlast, -, habsolute, -⟩
      have hfirst := (Path.first_eq_nil_iff hnonempty hanimation).mpr (beq_iff_eq.mp habsolute)
      exact absurd (List.append_eq_nil_iff.mpr ⟨hlast, hfirst⟩) hmeet

/-- No frame is the path of the animation. -/
theorem route_framePath_ne (hvalid : p.validate = .ok ()) {count : Nat}
    (h : p.SeparatesPaths basename count) {n : Nat} (hn : n < count) :
    (p.framePath basename n).route ≠ (p.targetPath basename).route := by
  rcases h with ⟨hdir, hrepeats⟩ | ⟨hframe, hanimation⟩
  · exact fun heq => hrepeats n hn ((route_framePath_eq_iff basename hvalid hdir n).mp heq)
  · -- Without a slash in the extensions these pieces are the last ones.
    have hmeet : Path.lastPiece basename ++ p.animationExt.toList ≠ [] := by
      intro hnil
      exact p.animationExt_ne_empty hvalid (List.append_eq_nil_iff.mp hnil).2
    rw [p.route_framePath basename (Path.split_of_not_mem hframe),
      p.route_targetPath basename (Path.split_of_not_mem hanimation) hmeet]
    intro heq
    exact framePiece_ne _ _ _ n (List.cons.inj (List.append_inj' heq rfl).2).1

/-! ### All names of an animation -/

/-- The names of the frames of an animation, each in the workspace that it is stored in, and the
name of the animation. -/
def names (p : OutputPlan) (assembler : Assembler) (basename : String) (w : Nat → Workspace)
    (count : Nat) : List String :=
  (List.range count).map (fun n => (p.sink assembler).nameFrame (w n) basename n) ++
    [(p.targetPath basename).text]

theorem nodup_map_names {α : Type} (f : String → α) (assembler : Assembler) (w : Nat → Workspace)
    {count : Nat}
    (hframes : ∀ m n, m ≠ n → f (p.framePath basename m).text ≠ f (p.framePath basename n).text)
    (htarget : ∀ n < count, f (p.framePath basename n).text ≠ f (p.targetPath basename).text) :
    ((p.names assembler basename w count).map f).Nodup := by
  rw [names, List.map_append, List.map_map, List.nodup_append]
  refine ⟨?_, List.nodup_singleton _, ?_⟩
  · apply List.Nodup.map ?_ List.nodup_range
    intro m n heq
    by_contra hne
    exact hframes m n hne heq
  · intro name hname target hmem
    obtain ⟨n, hn, rfl⟩ := List.mem_map.mp hname
    rw [List.mem_singleton.mp hmem]
    exact htarget n (List.mem_range.mp hn)

/-- **Names never collide.**  The number of a frame can be read back from its name, so frames with
different numbers have different names, as texts and as paths.  If the animation is in the directory
of its frames, no frame has its name as a text, whatever the extensions are; in another directory
this takes extensions without a slash.  As paths the two are then different under a valid plan,
except in one directory when what stands behind the point of the animation repeats the name of the
frame.  Where they are different all the names of an animation are, however many frames it has. -/
theorem names_distinct (p : OutputPlan) (assembler : Assembler) (basename : String) :
    (∀ extension n,
      numberBetween basename ("." ++ extension) (numberedName basename n extension) = n) ∧
    (∀ w n, numberBetween (p.front basename) ("." ++ p.frameExt)
      ((p.sink assembler).nameFrame w basename n) = n) ∧
    (∀ m n, m ≠ n →
      (∀ extension, numberedName basename m extension ≠ numberedName basename n extension) ∧
      ∀ w w', (p.sink assembler).nameFrame w basename m ≠
          (p.sink assembler).nameFrame w' basename n ∧
        Path.route ⟨(p.sink assembler).nameFrame w basename m⟩ ≠
          Path.route ⟨(p.sink assembler).nameFrame w' basename n⟩) ∧
    (p.Separates →
      (∀ w n, (p.sink assembler).nameFrame w basename n ≠ (p.targetPath basename).text) ∧
      ∀ w count, (p.names assembler basename w count).Nodup) ∧
    (p.validate = .ok () →
      (p.animDir = p.outDir → ∀ w n, Path.route ⟨(p.sink assembler).nameFrame w basename n⟩ =
        (p.targetPath basename).route ↔ p.Repeats basename n) ∧
      ∀ w count, p.SeparatesPaths basename count →
        ((p.names assembler basename w count).map fun name => Path.route ⟨name⟩).Nodup) := by
  have hread : ∀ w n, numberBetween (p.front basename) ("." ++ p.frameExt)
      ((p.sink assembler).nameFrame w basename n) = n := by
    intro _ n
    exact p.numberBetween_framePath basename n
  have htexts : ∀ m n, m ≠ n → (p.framePath basename m).text ≠ (p.framePath basename n).text := by
    intro m n hne heq
    apply hne
    rw [← p.numberBetween_framePath basename m, heq, numberBetween_framePath]
  refine ⟨numberBetween_numberedName basename, hread, fun m n hne => ⟨?_, fun _ _ => ?_⟩,
    fun h => ⟨?_, fun w count => ?_⟩, fun hvalid => ⟨?_, fun w count h => ?_⟩⟩
  · intro extension heq
    apply hne
    rw [← numberBetween_numberedName basename extension m, heq, numberBetween_numberedName]
  · exact ⟨htexts m n hne, p.route_framePath_ne_of_ne basename hne⟩
  · intro _ n
    exact text_framePath_ne basename h n
  · rw [← List.map_id (p.names assembler basename w count)]
    apply nodup_map_names basename id assembler w htexts
    intro n _
    exact text_framePath_ne basename h n
  · intro hdir _ n
    exact route_framePath_eq_iff basename hvalid hdir n
  · apply nodup_map_names basename (fun name => Path.route ⟨name⟩) assembler w
    · intro m n
      exact p.route_framePath_ne_of_ne basename
    · intro n
      exact route_framePath_ne basename hvalid h

/-- A slash in the extension makes up for what two directories differ in. -/
def entangled : OutputPlan :=
  { standard with animDir := ⟨"x/b."⟩, outDir := ⟨"x"⟩, animationExt := "/b000.png" }

/-- The point of the animation comes to stand between two slashes. -/
def slashed : OutputPlan :=
  { standard with animDir := ⟨"x"⟩, outDir := ⟨"x"⟩, animationExt := "/000.png" }

/-- **Names can collide.**  In two directories a frame and the animation can have one name, and in
one directory they can have two names of one path. -/
theorem names_collide :
    (entangled.validate = .ok () ∧
      ((entangled.sink idleAssembler).nameFrame ⟨.empty, []⟩ "b" 0) =
        (entangled.targetPath "b").text ∧
      ¬ (entangled.names idleAssembler "b" (fun _ => ⟨.empty, []⟩) 1).Nodup) ∧
    slashed.validate = .ok () ∧ slashed.animDir = slashed.outDir ∧
      (slashed.sink idleAssembler).nameFrame ⟨.empty, []⟩ "b/" 0 = "x/b/000.png" ∧
      (slashed.targetPath "b/").text = "x/b/./000.png" ∧
      Path.route ⟨"x/b/000.png"⟩ = Path.route ⟨"x/b/./000.png"⟩ :=
  ⟨⟨rfl, by decide, by decide⟩, rfl, rfl, by decide, by decide, by decide⟩

/-- Frames and animation in one directory, with extensions made to meet. -/
def crowded : OutputPlan := { standard with outDir := ⟨"anim"⟩, animationExt := "012.png" }

theorem crowded_names_distinct :
    numberBetween (crowded.front "take2") ".png" "anim/take21012.png" = 1012 ∧
      (12 ≠ 1012 ∧
        (crowded.sink idleAssembler).nameFrame ⟨.empty, []⟩ "take2" 12 ≠
          (crowded.sink idleAssembler).nameFrame ⟨.empty, []⟩ "take2" 1012) ∧
      (crowded.Separates ∧
        ["anim/take2000.png", "anim/take2001.png", "anim/take2.012.png"].Nodup) ∧
      (crowded.validate = .ok () ∧ crowded.SeparatesPaths "take2" 2 ∧
        [["anim", "take2000.png"], ["anim", "take2001.png"], ["anim", "take2.012.png"]].Nodup) ∧
      (standard.validate = .ok () ∧ standard.SeparatesPaths "reel/" 1 ∧
        [["anim", "reel", "000.png"], [".", "reel", ".gif"]].Nodup) ∧
      slashed.validate = .ok () ∧ slashed.animDir = slashed.outDir ∧ slashed.Repeats "b/" 0 ∧
        Path.route ⟨"x/b/000.png"⟩ = Path.route ⟨"x/b/./000.png"⟩ := by
  obtain ⟨-, hread, hdistinct, htexts, hroutes⟩ := names_distinct crowded idleAssembler "take2"
  obtain ⟨-, -, -, -, hstandard⟩ := names_distinct standard idleAssembler "reel/"
  obtain ⟨-, -, -, -, hslashed⟩ := names_distinct slashed idleAssembler "b/"
  have hcrowded : crowded.Separates := .inl rfl
  have hpoint : crowded.SeparatesPaths "take2" 2 := .inl ⟨rfl, fun n _ h => absurd h.1 (by decide)⟩
  have hplain : standard.SeparatesPaths "reel/" 1 := .inr (by decide)
  have hrepeats : slashed.Repeats "b/" 0 := ⟨by decide, by decide, by decide, by decide⟩
  exact ⟨hread ⟨.empty, []⟩ 1012, ⟨by decide, ((hdistinct 12 1012 (by decide)).2 _ _).1⟩,
    ⟨hcrowded, (htexts hcrowded).2 (fun _ => ⟨.empty, []⟩) 2⟩,
    ⟨rfl, hpoint, (hroutes rfl).2 (fun _ => ⟨.empty, []⟩) 2 hpoint⟩,
    ⟨rfl, hplain, (hstandard rfl).2 (fun _ => ⟨.empty, []⟩) 1 hplain⟩,
    rfl, rfl, hrepeats, ((hslashed rfl).1 rfl ⟨.empty, []⟩ 0).mpr hrepeats⟩

end OutputPlan

end SceneScript
