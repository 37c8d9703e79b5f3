import SceneScript.Decimal.Literal
import SceneScript.Json.Value

/-! # The tokens of a JSON text

`Token.scan` cuts a text into tokens.  It is a fold of `Scanner.step` over the characters: a
scanner holds the tokens finished so far and the piece it is in the middle of.  Words and numbers
end at the first character that cannot belong to them; text pieces are decoded when their closing
quotation mark arrives. -/

namespace SceneScript.Json

/-- A token.  A name or text that holds half of a surrogate pair has no string. -/
inductive Token where
  | openArray
  | closeArray
  | openObject
  | closeObject
  | comma
  | colon
  | scalar (v : Json)
  | text (s : Option String)

/-- One element of a text in quotation marks: a character, or a sixteen-bit unit written in
hexadecimal. -/
inductive Unit16 where
  | char (c : Char)
  | code (n : Nat)

/-- The characters that elements spell; a code between D800 and DBFF needs one between DC00 and
DFFF behind it. -/
def spell? : List Unit16 → Option (List Char)
  | [] => some []
  | .char c :: rest => (spell? rest).map (c :: ·)
  | .code n :: .code m :: rest =>
    if n < 0xD800 ∨ 0xDFFF < n then (spell? (.code m :: rest)).map (Char.ofNat n :: ·)
    else if n < 0xDC00 ∧ 0xDC00 ≤ m ∧ m ≤ 0xDFFF then
      (spell? rest).map (Char.ofNat (0x10000 + (n - 0xD800) * 0x400 + (m - 0xDC00)) :: ·)
    else none
  | .code n :: rest =>
    if n < 0xD800 ∨ 0xDFFF < n then (spell? rest).map (Char.ofNat n :: ·) else none

/-- The piece a scanner is in the middle of; pieces are collected in reverse. -/
inductive Piece where
  | nothing
  | word (letters : List Char)
  | number (chars : List Char)
  | text (units : List Unit16)
  | escape (units : List Unit16)
  | hexadecimal (units : List Unit16) (digits : List Nat)

/-- The tokens finished so far, in reverse, and the current piece. -/
structure Scanner where
  tokens : List Token
  piece : Piece

/-- The value of a word. -/
def word? (letters : List Char) : Option Json :=
  if letters = "null".toList then some .null
  else if letters = "true".toList then some (.bool true)
  else if letters = "false".toList then some (.bool false)
  else none

/-- The value of a number: an integer, another number, or beyond the range of floats. -/
def number? (chars : List Char) : Option Json :=
  (Decimal.Literal.ofChars? chars).map fun l =>
    match l.toInt? with
    | some n => .integer n
    | none => match l.toFloat? with
      | some x => .decimal x
      | none => .unreadable

/-- The value of a hexadecimal digit. -/
def hexDigit? (c : Char) : Option Nat :=
  if c.isDigit then some (c.toNat - '0'.toNat)
  else if 'a' ≤ c ∧ c ≤ 'f' then some (c.toNat - 'a'.toNat + 10)
  else if 'A' ≤ c ∧ c ≤ 'F' then some (c.toNat - 'A'.toNat + 10)
  else none

/-- The character that a letter after a backslash stands for. -/
def escaped? : Char → Option Char
  | '"' => some '"'
  | '\\' => some '\\'
  | '/' => some '/'
  | 'b' => some '\x08'
  | 'f' => some '\x0c'
  | 'n' => some '\n'
  | 'r' => some '\r'
  | 't' => some '\t'
  | _ => none

/-- A character that may belong to a number. -/
def isNumeric (c : Char) : Bool :=
  c.isDigit || c == '-' || c == '+' || c == '.' || c == 'e' || c == 'E'

namespace Scanner

/-- Finish a word or number; a text in quotation marks is not finished by a character outside. -/
def finish? (s : Scanner) : Option (List Token) :=
  match s.piece with
  | .nothing => some s.tokens
  | .word letters => (word? letters.reverse).map fun v => .scalar v :: s.tokens
  | .number chars => (number? chars.reverse).map fun v => .scalar v :: s.tokens
  | _ => none

/-- Begin a piece, or take a token of one character. -/
def start? (tokens : List Token) (c : Char) : Option Scanner :=
  match c with
  | ' ' | '\n' | '\t' | '\r' => some ⟨tokens, .nothing⟩
  | '[' => some ⟨.openArray :: tokens, .nothing⟩
  | ']' => some ⟨.closeArray :: tokens, .nothing⟩
  | '\x7b' => some ⟨.openObject :: tokens, .nothing⟩
  | '\x7d' => some ⟨.closeObject :: tokens, .nothing⟩
  | ',' => some ⟨.comma :: tokens, .nothing⟩
  | ':' => some ⟨.colon :: tokens, .nothing⟩
  | '"' => some ⟨tokens, .text []⟩
  | c =>
    if c.isDigit || c == '-' then some ⟨tokens, .number [c]⟩
    else if c.isLower then some ⟨tokens, .word [c]⟩
    else none

/-- Take one character. -/
def step (s : Scanner) (c : Char) : Option Scanner :=
  match s.piece with
  | .nothing => start? s.tokens c
  | .word letters =>
    if c.isLower then some ⟨s.tokens, .word (c :: letters)⟩
    else s.finish?.bind (start? · c)
  | .number chars =>
    if isNumeric c then some ⟨s.tokens, .number (c :: chars)⟩
    else s.finish?.bind (start? · c)
  | .text units =>
    if c == '"' then some ⟨.text ((spell? units.reverse).map String.ofList) :: s.tokens, .nothing⟩
    else if c == '\\' then some ⟨s.tokens, .escape units⟩
    else if c.toNat < 0x20 then none
    else some ⟨s.tokens, .text (.char c :: units)⟩
  | .escape units =>
    if c == 'u' then some ⟨s.tokens, .hexadecimal units []⟩
    else (escaped? c).map fun d => ⟨s.tokens, .text (.char d :: units)⟩
  | .hexadecimal units digits =>
    (hexDigit? c).map fun d => match digits with
      | [d₂, d₁, d₀] => ⟨s.tokens, .text (.code (((d₀ * 16 + d₁) * 16 + d₂) * 16 + d) :: units)⟩
      | _ => ⟨s.tokens, .hexadecimal units (d :: digits)⟩

end Scanner

/-- The tokens of a text, if it consists of tokens. -/
def Token.scan (text : String) : Option (List Token) := do
  let s ← text.toList.foldlM Scanner.step ⟨[], .nothing⟩
  let tokens ← s.finish?
  return tokens.reverse

end SceneScript.Json
