import SceneScript.Action
import SceneScript.NameMap
import SceneScript.Output.Path
import SceneScript.Surface

/-! # A disk

A `Disk` is what a program that works in one directory sees of a file system: entries under their
places.  A place is the names on the way to it from the working directory.  Names `..` in front
lead out of that directory, and an empty name in front stands for the root.  The working directory,
the directories around it and the root are always there; of the rest of the world there is only
what was created.  Directories are created along with those they stand in, from the outermost on,
and a creation that meets a file keeps what it has created until then. -/

namespace SceneScript

/-- What can stand at a place. -/
inductive Entry where
  | directory
  | text (content : String)
  | image (canvas : Canvas) (bytes : List UInt8)
deriving DecidableEq, Repr, Inhabited

/-- The entries of a file system; a place is written with slashes between its names. -/
structure Disk where
  entries : NameMap Entry
deriving DecidableEq, Repr, Inhabited

namespace Disk

/-- The empty directory. -/
def empty : Disk := ⟨.empty⟩

/-- The key of a place. -/
def key (place : List String) : String := "/".intercalate place

/-- The place is the root, the working directory, or a directory around it. -/
def isAnchor (place : List String) : Bool := place == [""] || place.all (· == "..")

/-- What stands at a place. -/
def at? (d : Disk) (place : List String) : Option Entry :=
  if isAnchor place then some .directory else d.entries.get? (key place)

/-- Put an entry at a place. -/
def put (d : Disk) (place : List String) (e : Entry) : Disk :=
  ⟨d.entries.insert (key place) e⟩

/-- The place from which a path is followed. -/
def origin (p : Path) : List String := if p.absolute then [""] else []

/-- The place to which one piece leads from a directory. -/
def advance (place : List String) (piece : String) : List String :=
  if Path.idle piece then place
  else if piece = ".." then
    match place.getLast? with
    | none => [".."]
    | some name =>
      if name = ".." then place ++ [".."] else if name = "" then place else place.dropLast
  else place ++ [piece]

/-- The place that pieces lead to from a place; all places on the way must be directories. -/
def follow (d : Disk) : List String → List String → Option (List String)
  | place, [] => some place
  | place, piece :: pieces =>
    match d.at? place with
    | some .directory =>
      if Path.overlong piece then none else follow d (advance place piece) pieces
    | _ => none

/-- The place that a path leads to. -/
def locate (d : Disk) (p : Path) : Option (List String) :=
  if p.text.isEmpty || p.isVoid then none else d.follow (origin p) p.pieces

/-- What a path leads to. -/
def find? (d : Disk) (p : Path) : Option Entry := (d.locate p).bind d.at?

/-- A path leads to something. -/
def contains (d : Disk) (p : Path) : Bool := (d.find? p).isSome

/-- The text of the file that a path leads to. -/
def read? (d : Disk) (p : Path) : Option String :=
  match d.find? p with
  | some (.text content) => some content
  | _ => none

/-- Walk along pieces from a place and create the directories that are missing.  The answer says
whether the walk came to its end. -/
def createAlong : List String → List String → Disk → Bool × Disk
  | _, [], d => (true, d)
  | place, piece :: pieces, d =>
    let next := advance place piece
    match d.at? next with
    | some .directory => createAlong next pieces d
    | some _ => (false, d)
    | none =>
      if Path.overlong piece then (false, d) else createAlong next pieces (d.put next .directory)

/-- Create the directory that a path names, and those it stands in. -/
def createDirectory (d : Disk) (p : Path) : Bool × Disk :=
  if p.isVoid then (false, d) else createAlong (origin p) p.pieces d

/-- Write a file where a path leads, unless there is a directory. -/
def write? (d : Disk) (p : Path) (e : Entry) : Option Disk :=
  match d.locate p with
  | none => none
  | some place =>
    match d.at? place with
    | some .directory => none
    | _ => some (d.put place e)

/-- A written place is below the working directory. -/
def isBelow (place : String) : Bool :=
  match place.toList with
  | '/' :: _ => false
  | '.' :: '.' :: '/' :: _ => false
  | _ => true

/-- All entries below the working directory by their written place, directories with a slash
behind them. -/
def listing (d : Disk) : List (String × Entry) :=
  (NameMap.ofList ((d.entries.toList.filter fun e => isBelow e.1).map fun e =>
    (if e.2 = .directory then e.1 ++ "/" else e.1, e.2))).toList

/-- Create the directory that a file is to stand in. -/
def createParent (p : Path) : Action Disk Unit := fun d =>
  match p.parent? with
  | none => (.ok (), d)
  | some parent =>
    match d.createDirectory parent with
    | (true, d) => (.ok (), d)
    | (false, d) => (.error (.directoryNotCreated parent.text), d)

/-- The extensions of the image formats that keep every pixel. -/
def imageExtensions : List String := ["png", "bmp", "tga", "tif", "tiff", "qoi", "ppm"]

/-- The path names an image, by its extension in either case. -/
def namesImage (p : Path) : Bool :=
  match p.extension? with
  | some e => imageExtensions.contains (String.ofList (e.toList.map Char.toLower))
  | none => false

/-- Write a surface as an image. -/
def saveImage (s : Surface) (p : Path) : Action Disk Unit := do
  createParent p
  let written ← Action.inspect fun d =>
    if namesImage p then d.write? p (.image s.canvas s.bytes) else none
  match written with
  | some d => Action.update fun _ => d
  | none => Action.fail (.imageNotWritten p.text)

end Disk

end SceneScript
