/-!
A place in a YAML text. Columns and lines matter as much as characters, because indentation
carries structure.
-/

namespace Provisioning.Yaml

def isAllowed (character : Char) : Bool :=
  let code := character.toNat
  code == 0x09 || code == 0x0A || code == 0x0D || (0x20 ≤ code && code ≤ 0x7E) || code == 0x85 ||
    (0xA0 ≤ code && code ≤ 0xFFFD) || 0x10000 ≤ code

def isBreak (character : Char) : Bool :=
  character == '\n' || character == '\r' || character == '\u0085' || character == '\u2028' ||
    character == '\u2029'

def isBlank (character : Char) : Bool :=
  character == ' ' || character == '\t'

def isGap (character : Char) : Bool :=
  isBlank character || isBreak character

def isEdge (character : Option Char) : Bool :=
  character.all isGap

def isNameChar (character : Char) : Bool :=
  character.isAlphanum || character == '_' || character == '-'

structure Cursor where
  rest : List Char
  index : Nat
  line : Nat
  column : Nat

namespace Cursor

def start (characters : List Char) : Cursor :=
  ⟨characters, 0, 0, 0⟩

def peek (cursor : Cursor) : Option Char :=
  cursor.rest.head?

def peekAt (cursor : Cursor) (offset : Nat) : Option Char :=
  cursor.rest[offset]?

def skip (cursor : Cursor) (count : Nat) : Cursor :=
  { cursor with
    rest := cursor.rest.drop count
    index := cursor.index + count
    column := cursor.column + count }

def span (cursor : Cursor) (accept : Char → Bool) : List Char × Cursor :=
  let taken := cursor.rest.takeWhile accept
  (taken, cursor.skip taken.length)

def skipWhile (cursor : Cursor) (accept : Char → Bool) : Cursor :=
  (cursor.span accept).2

def toLineEnd (cursor : Cursor) : Cursor :=
  cursor.skipWhile fun character => !isBreak character

def nextLine (cursor : Cursor) (width : Nat) : Cursor :=
  { rest := cursor.rest.drop width
    index := cursor.index + width
    line := cursor.line + 1
    column := 0 }

/-- The line break that starts here, as text, and the place after it. Breaks of one line count as
line feeds; the separators of lines and paragraphs stay what they are. -/
def readBreak (cursor : Cursor) : List Char × Cursor :=
  match cursor.rest with
  | '\r' :: '\n' :: _ => (['\n'], cursor.nextLine 2)
  | '\u2028' :: _ => (['\u2028'], cursor.nextLine 1)
  | '\u2029' :: _ => (['\u2029'], cursor.nextLine 1)
  | character :: _ => if isBreak character then (['\n'], cursor.nextLine 1) else ([], cursor)
  | [] => ([], cursor)

def skipBreak (cursor : Cursor) : Cursor :=
  cursor.readBreak.2

def endLine? (cursor : Cursor) : Option Cursor :=
  let cursor := cursor.skipWhile isBlank
  let cursor := if cursor.peek == some '#' then cursor.toLineEnd else cursor
  if cursor.peek.all isBreak then some cursor.skipBreak else none

def atMark (cursor : Cursor) (mark : Char) : Bool :=
  cursor.column == 0 && cursor.rest.take 3 == [mark, mark, mark] && isEdge (cursor.peekAt 3)

def atDocumentMark (cursor : Cursor) : Bool :=
  cursor.atMark '-' || cursor.atMark '.'

end Cursor

end Provisioning.Yaml
