/-! # Paths

A `Path` is the text of a path as it was given; nothing about it is normalised.  Its pieces are
what stands between slashes.  An empty piece or a single point is idle: it names nothing, except
that a point in front is the directory one starts from. -/

namespace SceneScript

/-- A path as given. -/
structure Path where
  text : String
deriving DecidableEq, Repr, Inhabited

namespace Path

/-- Split characters at slashes. -/
def split : List Char → List (List Char)
  | [] => [[]]
  | c :: cs =>
    if c = '/' then [] :: split cs
    else
      match split cs with
      | [] => [[c]]
      | piece :: pieces => (c :: piece) :: pieces

/-- What stands between the slashes. -/
def pieces (p : Path) : List String := (split p.text.toList).map String.ofList

/-- The path begins with a slash. -/
def absolute (p : Path) : Bool := p.text.toList.head? == some '/'

/-- The path ends with a slash. -/
def endsOpen (p : Path) : Bool := p.text.toList.getLast? == some '/'

/-- The path holds the null character, which no file and no argument of a program can. -/
def hasNull (p : Path) : Bool := p.text.toList.contains '\x00'

/-- The path leads nowhere on any disk: it holds the null character, or more than 4095 bytes. -/
def isVoid (p : Path) : Bool := p.hasNull || 4095 < p.text.utf8ByteSize

/-- The piece is too long for a name, which has at most 255 bytes. -/
def overlong (piece : String) : Bool := 255 < piece.utf8ByteSize

/-- A path inside a directory; an absolute path stays what it is. -/
def join (dir p : Path) : Path :=
  if p.absolute then p
  else if dir.text.isEmpty || dir.endsOpen then ⟨dir.text ++ p.text⟩
  else ⟨dir.text ++ "/" ++ p.text⟩

/-- The piece names nothing. -/
def idle (piece : String) : Bool := piece == "" || piece == "."

/-- Pieces in reverse without the idle ones in front; the very first piece of a path is kept if
it is a point, or if it is the empty piece before the slash of an absolute path. -/
def dropIdle : List String → List String
  | [] => []
  | [piece] => [piece]
  | piece :: rest => if idle piece then dropIdle rest else piece :: rest

/-- The pieces in reverse that end with the last one that names something. -/
def named (p : Path) : List String :=
  match dropIdle p.pieces.reverse with
  | [""] => []
  | pieces => pieces

/-- The path with one piece less, if it has one to lose.  What is left is a part of the text. -/
def parent? (p : Path) : Option Path :=
  match p.named with
  | [] => none
  | _ :: rest =>
    match dropIdle rest with
    | [] => some ⟨""⟩
    | [""] => some ⟨"/"⟩
    | pieces => some ⟨"/".intercalate pieces.reverse⟩

/-- The last piece, if it is a name. -/
def fileName? (p : Path) : Option String :=
  match p.named with
  | [] => none
  | "." :: _ => none
  | ".." :: _ => none
  | piece :: _ => some piece

/-- What follows the last point in a name, unless nothing stands before that point. -/
def extension? (p : Path) : Option String := do
  let name ← p.fileName?
  let reversed := name.toList.reverse
  let tail := reversed.takeWhile (· != '.')
  match reversed.dropWhile (· != '.') with
  | _ :: _ :: _ => some (String.ofList tail.reverse)
  | _ => none

end Path

end SceneScript
