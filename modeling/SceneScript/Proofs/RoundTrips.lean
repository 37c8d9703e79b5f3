import Mathlib.Data.List.Basic
import Mathlib.Data.List.Induction
import SceneScript.Format.Directive
import SceneScript.Format.Output
import SceneScript.Format.Scene
import SceneScript.Format.Settings
import SceneScript.Proofs.RecordFields

/-! # Formats read back

Every format reads back what it writes, as long as the floats in it are finite: a float that is not
has no number in JSON.  `floats` lists the floats of a value, and `AllFinite` says that none of them
is infinite or no number at all.

A format is read back part by part, as it is put together.  `Format.written_read_back` is the law
for whole values of every format. -/

namespace SceneScript

/-- Every one of the floats is finite. -/
def AllFinite (xs : List Float) : Prop := ∀ x ∈ xs, x.isFinite

instance (xs : List Float) : Decidable (AllFinite xs) :=
  inferInstanceAs (Decidable (∀ x ∈ xs, x.isFinite))

theorem allFinite_append_iff {xs ys : List Float} :
    AllFinite (xs ++ ys) ↔ AllFinite xs ∧ AllFinite ys := List.forall_mem_append

theorem allFinite_flatMap_iff {α : Type} {xs : List α} {f : α → List Float} :
    AllFinite (xs.flatMap f) ↔ ∀ x ∈ xs, AllFinite (f x) := by
  simp only [AllFinite, List.mem_flatMap]
  exact ⟨fun h x hx y hy => h y ⟨x, hx, hy⟩, fun h y ⟨x, hx, hy⟩ => h x hx y hy⟩

/-! ### The floats of a value

`floats` lists the floats of a value in the order in which they are written. -/

def Reflectance.floats (r : Reflectance) : List Float :=
  r.ambient.toList ++ (r.diffuse.toList ++ r.specular.toList)

def Symbol.floats : Symbol → List Float
  | .knob v => [v]
  | .constants r => r.floats

def SymbolTable.floats (t : SymbolTable) : List Float := t.toList.flatMap fun e => e.2.floats

def Arg.floats : Arg → List Float
  | .number x => [x]
  | .name _ => []

def Command.floats (c : Command) : List Float := c.args.flatMap Arg.floats

def Script.floats (s : Script) : List Float :=
  s.commands.flatMap Command.floats ++ SymbolTable.floats s.symbols

def Shape.floats : Shape → List Float
  | .box corner size => corner.toList ++ size.toList
  | .sphere center radius => center.toList ++ [radius]
  | .torus center minorRadius majorRadius => center.toList ++ [minorRadius, majorRadius]

def Motion.floats : Motion Float → List Float
  | .move offset => offset.toList
  | .scale factors => factors.toList
  | .rotate _ degrees => [degrees]

def Directive.floats : Directive → List Float
  | .vary v => [v.firstValue, v.lastValue]
  | .shape s _ _ => s.floats
  | .line _ p0 _ p1 _ => p0.toList ++ p1.toList
  | .motion m _ => m.floats
  | _ => []

def Lighting.floats (l : Lighting) : List Float := l.view.toList ++ l.light.position.toList

def Settings.floats (s : Settings) : List Float := s.lighting.floats ++ s.reflectance.floats

/-! ### Name maps -/

namespace NameMap

variable {α : Type}

theorem insertEntry_of_forall_lt {name : String} {v : α} {entries : List (String × α)}
    (h : ∀ e ∈ entries, e.1 < name) : insertEntry name v entries = entries ++ [(name, v)] := by
  induction entries with
  | nil => rfl
  | cons e entries ih =>
      obtain ⟨he, hentries⟩ := List.forall_mem_cons.mp h
      rw [insertEntry, if_neg fun hlt => String.lt_irrefl _ (String.lt_trans hlt he),
        if_neg fun heq => String.lt_irrefl _ (heq ▸ he), ih hentries, List.cons_append]

/-- Ascending entries are inserted one behind the other. -/
theorem toList_ofList {entries : List (String × α)} (h : Ascending entries) :
    (ofList entries).toList = entries := by
  induction entries using List.reverseRecOn with
  | nil => rfl
  | append_singleton front e ih =>
      obtain ⟨hfront, _, hbefore⟩ := List.pairwise_append.mp h
      have hinsert : (ofList (front ++ [e])).toList =
          insertEntry e.1 e.2 (ofList front).toList := by
        rw [ofList, List.foldl_append]
        rfl
      rw [hinsert, ih hfront]
      exact insertEntry_of_forall_lt fun d hd => hbefore d hd e List.mem_cons_self

theorem ofList_toList (m : NameMap α) : ofList m.toList = m :=
  NameMap.ext (toList_ofList m.ascending)

end NameMap

namespace Format

open SceneScript.Json
open SceneScript.Json.Record

/-! ### Points, axes and colours -/

theorem vec3?_ofVec3 {v : Vec3 Float} (h : AllFinite v.toList) : vec3? (ofVec3 v) = some v := by
  have hx := float?_ofFloat (h v.x (by simp [Vec3.toList]))
  have hy := float?_ofFloat (h v.y (by simp [Vec3.toList]))
  have hz := float?_ofFloat (h v.z (by simp [Vec3.toList]))
  rw [ofVec3, vec3?, hx, hy, hz]
  rfl

theorem axis?_ofAxis (a : Axis) : axis? (ofAxis a) = some a := by
  cases a <;> rfl

theorem rgb?_ofRgb (c : Rgb) : rgb? (ofRgb c) = some c :=
  (reads_fieldOr (uint8?_ofNat c.r)).map Rgb.mk
    |>.seq (reads_fieldOr (uint8?_ofNat c.g))
    |>.seq (reads_fieldOr (uint8?_ofNat c.b))
    |>.read (by decide)

theorem canvas?_ofCanvas (c : Canvas) : canvas? (ofCanvas c) = some c :=
  (reads_fieldOr (uint32?_ofNat c.width)).map Canvas.mk
    |>.seq (reads_fieldOr (uint32?_ofNat c.height))
    |>.read (by decide)

/-! ### Symbols -/

theorem reads_reflectance {r : Reflectance} (h : AllFinite r.floats) :
    reflectanceRecord.Reads (reflectanceFields r) r := by
  obtain ⟨hambient, h⟩ := allFinite_append_iff.mp h
  obtain ⟨hdiffuse, hspecular⟩ := allFinite_append_iff.mp h
  exact (reads_fieldOr (vec3?_ofVec3 hambient)).map Reflectance.mk
    |>.seq (reads_fieldOr (vec3?_ofVec3 hdiffuse))
    |>.seq (reads_fieldOr (vec3?_ofVec3 hspecular))

theorem readable_ofFloat (x : Float) : (ofFloat x).readable := by
  unfold ofFloat
  split <;> rfl

theorem readable_ofVec3 (v : Vec3 Float) : (ofVec3 v).readable := by
  simp [ofVec3, readable, itemsReadable, readable_ofFloat]

theorem readable_ofSymbol (s : Symbol) : (ofSymbol s).readable := by
  cases s with
  | knob v => simp [ofSymbol, readable, fieldsReadable, readable_ofFloat]
  | constants r => simp [ofSymbol, reflectanceFields, readable, fieldsReadable, readable_ofVec3]

/-- A symbol is read from the fields that stand beside its sort. -/
theorem symbol?_object {kind : Json} {r : Record Symbol} {fields : List (String × Json)}
    {s : Symbol} (hreadable : (Json.object (("kind", kind) :: fields)).readable)
    (hkind : symbolRecord? kind = some r) (h : r.Reads fields s) (hnames : r.names.Nodup)
    (hother : "kind" ∉ r.names) : symbol? (.object (("kind", kind) :: fields)) = some s := by
  rw [h.names] at hother
  -- No other field has the name of the sort, so taking the sort out leaves exactly the others.
  have hne : ∀ f ∈ fields, (f.1 == "kind") = false := by
    intro f hf
    exact beq_eq_false_iff_ne.mpr fun heq => hother (heq ▸ List.mem_map_of_mem hf)
  have hpartition : (("kind", kind) :: fields).partition (fun f => f.1 == "kind") =
      ([("kind", kind)], fields) := by
    rw [List.partition_eq_filter_filter, List.filter_cons_of_pos rfl, List.filter_cons_of_neg,
      List.filter_eq_nil_iff.mpr, List.filter_eq_self.mpr]
    · intro f hf
      rw [Function.comp, hne f hf, Bool.not_false]
    · intro f hf
      rw [hne f hf]
      decide
    · exact fun h => nomatch h
  rw [symbol?, if_pos hreadable]
  simp only [hpartition, hkind, Option.bind_some]
  exact h.object? hnames

theorem symbol?_ofSymbol {s : Symbol} (h : AllFinite s.floats) : symbol? (ofSymbol s) = some s := by
  cases s with
  | knob v =>
      exact symbol?_object (readable_ofSymbol (.knob v)) rfl
        ((reads_fieldOr (float?_ofFloat (h v List.mem_cons_self))).map Symbol.knob)
        (by decide) (by decide)
  | constants r =>
      exact symbol?_object (readable_ofSymbol (.constants r)) rfl
        ((reads_reflectance h).map Symbol.constants)
        (by decide) (by decide)

theorem symbolTable?_ofSymbolTable {t : SymbolTable} (h : AllFinite (SymbolTable.floats t)) :
    symbolTable? (ofSymbolTable t) = some t := by
  have hentries : (t.toList.map fun e => (e.1, ofSymbol e.2)).mapM
      (fun f => (symbol? f.2).map fun s => (f.1, s)) = some t.toList := by
    refine mapM_map_eq_some fun e he => ?_
    rw [symbol?_ofSymbol (allFinite_flatMap_iff.mp h e he)]
    rfl
  rw [ofSymbolTable, symbolTable?, hentries, Option.map_some, NameMap.ofList_toList]

/-! ### Commands -/

theorem arg?_ofArg {a : Arg} (h : AllFinite a.floats) : arg? (ofArg a) = some a := by
  cases a with
  | number x =>
      rw [ofArg, ofFloat, if_pos (h x List.mem_cons_self)]
      rfl
  | name s => rfl

theorem op?_ofOp (op : Op) : op? (ofOp op) = some op := Op.ofName?_name op

theorem optional?_string (o : Option String) : optional? string? (ofOption .string o) = some o :=
  optional?_ofOption (fun _ => Json.noConfusion) string?_string

theorem command?_ofCommand {c : Command} (h : AllFinite c.floats) :
    command? (ofCommand c) = some c := by
  have hargs := list?_ofList fun a ha => arg?_ofArg (allFinite_flatMap_iff.mp h a ha)
  exact (reads_fieldOr (op?_ofOp c.op)).map Command.mk
    |>.seq (reads_fieldOr hargs)
    |>.seq (reads_fieldOr (optional?_string c.knob))
    |>.read (by decide)

theorem script?_ofScript {s : Script} (h : AllFinite s.floats) :
    script? (ofScript s) = some s := by
  obtain ⟨hcommands, hsymbols⟩ := allFinite_append_iff.mp h
  have hlist := list?_ofList fun c hc => command?_ofCommand (allFinite_flatMap_iff.mp hcommands c hc)
  exact (reads_fieldOr hlist).map Script.mk
    |>.seq (reads_fieldOr (symbolTable?_ofSymbolTable hsymbols))
    |>.read (by decide)

/-! ### Directives -/

theorem shape?_alternative {name : String} {r : Record Shape} {fields : List (String × Json)}
    {s : Shape} (hname : shapeRecord? name = some r) (h : r.Reads fields s)
    (hnames : r.names.Nodup) : shape? (alternative name fields) = some s := by
  change (shapeRecord? name).bind (fun r => r.read (.object fields)) = _
  rw [hname, Option.bind_some, h.read hnames]

theorem shape?_ofShape {s : Shape} (h : AllFinite s.floats) : shape? (ofShape s) = some s := by
  cases s with
  | box corner size =>
      obtain ⟨hcorner, hsize⟩ := allFinite_append_iff.mp h
      exact shape?_alternative rfl
        ((reads_fieldOr (vec3?_ofVec3 hcorner)).map Shape.box
          |>.seq (reads_fieldOr (vec3?_ofVec3 hsize))) (by decide)
  | sphere center radius =>
      obtain ⟨hcenter, hradius⟩ := allFinite_append_iff.mp h
      exact shape?_alternative rfl
        ((reads_fieldOr (vec3?_ofVec3 hcenter)).map Shape.sphere
          |>.seq (reads_fieldOr (float?_ofFloat (hradius _ List.mem_cons_self)))) (by decide)
  | torus center minorRadius majorRadius =>
      obtain ⟨hcenter, hradii⟩ := allFinite_append_iff.mp h
      obtain ⟨hminor, hmajor⟩ := List.forall_mem_cons.mp hradii
      exact shape?_alternative rfl
        ((reads_fieldOr (vec3?_ofVec3 hcenter)).map Shape.torus
          |>.seq (reads_fieldOr (float?_ofFloat hminor))
          |>.seq (reads_fieldOr (float?_ofFloat (hmajor _ List.mem_cons_self)))) (by decide)

theorem reads_vary {v : Vary} (h : AllFinite [v.firstValue, v.lastValue]) :
    varyRecord.Reads (varyFields v) v := by
  obtain ⟨hfirst, hlast⟩ := List.forall_mem_cons.mp h
  exact (reads_fieldOr (string?_string v.knob)).map varyOf
    |>.seq (reads_fieldOr (int64?_integer v.firstFrame))
    |>.seq (reads_fieldOr (int64?_integer v.lastFrame))
    |>.seq (reads_fieldOr (float?_ofFloat hfirst))
    |>.seq (reads_fieldOr (float?_ofFloat (hlast _ List.mem_cons_self)))

theorem directive?_alternative {name : String} {r : Record Directive}
    {fields : List (String × Json)} {d : Directive} (hbare : bareDirective? name = none)
    (hname : directiveRecord? name = some r) (h : r.Reads fields d) (hnames : r.names.Nodup) :
    directive? (alternative name fields) = some d := by
  rw [alternative, directive?, choice?]
  simp only [hbare, Option.bind_some, hname]
  exact h.read hnames

theorem directive?_ofDirective {d : Directive} (h : AllFinite d.floats) :
    directive? (ofDirective d) = some d := by
  cases d with
  | frames count =>
      exact directive?_alternative rfl rfl
        ((reads_fieldOr (uint32?_ofNat count)).map Directive.frames) (by decide)
  | basename name =>
      exact directive?_alternative rfl rfl
        ((reads_fieldOr (string?_string name)).map Directive.basename) (by decide)
  | vary v =>
      exact directive?_alternative rfl rfl ((reads_vary h).map Directive.vary) (by decide)
  | shape s constants coords =>
      exact directive?_alternative rfl rfl
        ((reads_fieldOr (shape?_ofShape h)).map Directive.shape
          |>.seq (reads_fieldOr (optional?_string constants))
          |>.seq (reads_fieldOr (optional?_string coords))) (by decide)
  | line constants p0 coords0 p1 coords1 =>
      obtain ⟨hp0, hp1⟩ := allFinite_append_iff.mp h
      exact directive?_alternative rfl rfl
        ((reads_fieldOr (optional?_string constants)).map Directive.line
          |>.seq (reads_fieldOr (vec3?_ofVec3 hp0))
          |>.seq (reads_fieldOr (optional?_string coords0))
          |>.seq (reads_fieldOr (vec3?_ofVec3 hp1))
          |>.seq (reads_fieldOr (optional?_string coords1))) (by decide)
  | motion m knob =>
      have hknob := optional?_string knob
      cases m with
      | move offset =>
          exact directive?_alternative rfl rfl
            ((reads_fieldOr (vec3?_ofVec3 h)).map (fun offset => Directive.motion (.move offset))
              |>.seq (reads_fieldOr hknob)) (by decide)
      | scale factors =>
          exact directive?_alternative rfl rfl
            ((reads_fieldOr (vec3?_ofVec3 h)).map (fun factors => Directive.motion (.scale factors))
              |>.seq (reads_fieldOr hknob)) (by decide)
      | rotate axis degrees =>
          have hdegrees := float?_ofFloat (h degrees List.mem_cons_self)
          exact directive?_alternative rfl rfl
            ((reads_fieldOr (axis?_ofAxis axis)).map
                (fun axis degrees => Directive.motion (.rotate axis degrees))
              |>.seq (reads_fieldOr hdegrees)
              |>.seq (reads_fieldOr hknob)) (by decide)
  | push | pop | display => rfl
  | save name =>
      exact directive?_alternative rfl rfl
        ((reads_fieldOr (string?_string name)).map Directive.save) (by decide)

/-! ### Settings, threading and output plans -/

theorem pointLight?_ofPointLight {l : PointLight} (h : AllFinite l.position.toList) :
    pointLight? (ofPointLight l) = some l :=
  (reads_fieldOr (vec3?_ofVec3 h)).map PointLight.mk
    |>.seq (reads_fieldOr (rgb?_ofRgb l.color))
    |>.read (by decide)

theorem lighting?_ofLighting {l : Lighting} (h : AllFinite l.floats) :
    lighting? (ofLighting l) = some l := by
  obtain ⟨hview, hlight⟩ := allFinite_append_iff.mp h
  exact (reads_fieldOr (vec3?_ofVec3 hview)).map Lighting.mk
    |>.seq (reads_fieldOr (rgb?_ofRgb l.ambient))
    |>.seq (reads_fieldOr (pointLight?_ofPointLight hlight))
    |>.read (by decide)

theorem settings?_ofSettings {s : Settings} (h : AllFinite s.floats) :
    settings? (ofSettings s) = some s := by
  obtain ⟨hlighting, hreflectance⟩ := allFinite_append_iff.mp h
  have hreflects : reflectance? (ofReflectance s.reflectance) = some s.reflectance :=
    (reads_reflectance hreflectance).read (by decide)
  exact (reads_fieldOr (canvas?_ofCanvas s.canvas)).map Settings.mk
    |>.seq (reads_fieldOr (rgb?_ofRgb s.background))
    |>.seq (reads_fieldOr (rgb?_ofRgb s.lineColor))
    |>.seq (reads_fieldOr (lighting?_ofLighting hlighting))
    |>.seq (reads_fieldOr hreflects)
    |>.seq (reads_fieldOr (uint32?_ofNat s.step))
    |>.read (by decide)

theorem threading?_ofThreading (t : Threading) : threading? (ofThreading t) = some t := by
  have hthreads : optional? uint64? (ofOption (fun n => ofNat n.toNat) t.threads) =
      some t.threads := optional?_ofOption (fun _ => Json.noConfusion) uint64?_ofNat
  exact (reads_fieldOr (bool?_bool t.parallel)).map Threading.mk
    |>.seq (reads_fieldOr (uint64?_ofNat t.chunkSize))
    |>.seq (reads_fieldOr hthreads)
    |>.read (by decide)

theorem outputPlan?_ofOutputPlan (p : OutputPlan) : outputPlan? (ofOutputPlan p) = some p := by
  have hpath : ∀ path, path? (ofPath path) = some path := fun _ => rfl
  exact (reads_fieldOr (hpath p.animDir)).map OutputPlan.mk
    |>.seq (reads_fieldOr (string?_string p.frameExt))
    |>.seq (reads_fieldOr (string?_string p.animationExt))
    |>.seq (reads_fieldOr (hpath p.outDir))
    |>.seq (reads_fieldOr (uint32?_ofNat p.fps))
    |>.seq (reads_fieldOr (bool?_bool p.overwrite))
    |>.seq (reads_fieldOr (hpath p.previewPath))
    |>.read (by decide)

/-! ### Whole values -/

/-- **Formats read back what they write.**  Commands, symbol tables, scripts, lists of directives and
settings whose floats are all finite are read back from what they are written as, and so are output
plans and threading, in which there are no floats. -/
theorem written_read_back :
    (∀ c : Command, AllFinite c.floats → command? (ofCommand c) = some c) ∧
    (∀ t : SymbolTable, AllFinite (SymbolTable.floats t) →
      symbolTable? (ofSymbolTable t) = some t) ∧
    (∀ s : Script, AllFinite s.floats → script? (ofScript s) = some s) ∧
    (∀ ds : List Directive, AllFinite (ds.flatMap Directive.floats) →
      list? directive? (ofList ofDirective ds) = some ds) ∧
    (∀ s : Settings, AllFinite s.floats → settings? (ofSettings s) = some s) ∧
    (∀ p : OutputPlan, outputPlan? (ofOutputPlan p) = some p) ∧
    ∀ t : Threading, threading? (ofThreading t) = some t := by
  refine ⟨fun _ => command?_ofCommand, fun _ => symbolTable?_ofSymbolTable,
    fun _ => script?_ofScript, fun ds h => ?_, fun _ => settings?_ofSettings,
    outputPlan?_ofOutputPlan, threading?_ofThreading⟩
  exact list?_ofList fun d hd => directive?_ofDirective (allFinite_flatMap_iff.mp h d hd)

/-- A ball that is turned by a knob. -/
def turningBall : Script where
  commands := [⟨.rotate, [.name "x", .number 90], some "turn"⟩,
    ⟨.sphere, [.name "gold", .number 0, .number 0.5, .number (-1), .number 2], none⟩]
  symbols := .ofList [("turn", .knob 0.25), ("gold", .constants .standard)]

/-- Its directives. -/
def turningBallDirectives : List Directive :=
  [.motion (.rotate .x 90) (some "turn"), .shape (.sphere ⟨0, 0.5, -1⟩ 2) (some "gold") none]

theorem turningBall_read_back :
    script? (ofScript turningBall) = some turningBall ∧
      symbolTable? (ofSymbolTable turningBall.symbols) = some turningBall.symbols ∧
      (∀ c ∈ turningBall.commands, command? (ofCommand c) = some c) ∧
      list? directive? (ofList ofDirective turningBallDirectives) = some turningBallDirectives ∧
      settings? (ofSettings .standard) = some .standard := by
  obtain ⟨hcommand, htable, hscript, hdirectives, hsettings, _⟩ := written_read_back
  refine ⟨hscript _ (by decide), htable _ (by decide), ?_, hdirectives _ (by decide),
    hsettings _ (by decide)⟩
  have hfinite : ∀ c ∈ turningBall.commands, AllFinite c.floats := by decide
  exact fun c hc => hcommand c (hfinite c hc)

end Format

end SceneScript
