import Provisioning.Number.Integer
import Provisioning.Yaml.Cursor

/-!
Block scalars: indented lines taken as they are, or folded into paragraphs.
-/

namespace Provisioning.Yaml

inductive Chomping where
  | strip
  | clip
  | keep
  deriving DecidableEq

structure BlockHeader where
  chomping : Chomping := .clip
  increment : Option Nat := none

def chomping? : Option Char → Option Chomping
  | some '+' => some .keep
  | some '-' => some .strip
  | _ => none

def blockHeader? (cursor : Cursor) : Option (BlockHeader × Cursor) :=
  let readDigit (header : BlockHeader) (cursor : Cursor) : Option (BlockHeader × Cursor) :=
    match cursor.peek with
    | some '0' => none
    | some digit =>
        if digit.isDigit then
          some ({ header with increment := some (Number.digitValue digit) }, cursor.skip 1)
        else
          some (header, cursor)
    | none => some (header, cursor)
  match chomping? cursor.peek with
  | some chomping => readDigit { chomping } (cursor.skip 1)
  | none =>
      match readDigit {} cursor with
      | none => none
      | some (header, cursor) =>
          match header.increment, chomping? cursor.peek with
          | some _, some chomping => some ({ header with chomping }, cursor.skip 1)
          | _, _ => some (header, cursor)

structure BlockBreaks where
  breaks : List Char
  widest : Nat
  after : Cursor

/-- The empty lines from here on and the indentation of the line after them. Without `indent` any
number of spaces counts as indentation; a tab in its place is refused. -/
def blockBreaksFrom (indent : Option Nat) :
    Nat → List Char → Nat → Cursor → Option BlockBreaks
  | 0, _, _, _ => none
  | fuel + 1, breaks, widest, cursor =>
      let spaces := (cursor.rest.takeWhile (· == ' ')).length
      let allowed := match indent with
        | some indent => min spaces (indent - cursor.column)
        | none => spaces
      let cursor := cursor.skip allowed
      let widest := max widest cursor.column
      if indent.all (cursor.column < ·) && cursor.peek == some '\t' then
        none
      else if cursor.peek.any isBreak then
        let (lineBreak, next) := cursor.readBreak
        blockBreaksFrom indent fuel (breaks ++ lineBreak) widest next
      else
        some ⟨breaks, widest, cursor⟩

def blockBreaks? (indent : Option Nat) (cursor : Cursor) : Option BlockBreaks :=
  blockBreaksFrom indent (cursor.rest.length + 1) [] 0 cursor

structure BlockLines where
  text : List Char
  lastBreak : List Char
  emptyLines : List Char
  after : Cursor

/-- Adds line after line. When folding, a break between two lines that do not start with a blank
becomes a space, or nothing where empty lines follow it. -/
def blockLinesFrom (literal : Bool) (indent : Nat) :
    Nat → Bool → BlockLines → Option BlockLines
  | 0, _, _ => none
  | fuel + 1, afterIndented, lines =>
      let cursor := lines.after
      if cursor.column != indent || cursor.peek.isNone then
        some lines
      else
        let indented := cursor.peek.any isBlank
        let folded := !literal && lines.lastBreak == ['\n'] && !afterIndented && !indented
        let joint :=
          if folded then
            if lines.emptyLines.isEmpty then [' '] else []
          else
            lines.lastBreak
        let (line, cursor) := cursor.span fun character => !isBreak character
        let (lastBreak, cursor) := cursor.readBreak
        match blockBreaks? (some indent) cursor with
        | none => none
        | some empty =>
            blockLinesFrom literal indent fuel indented
              { text := lines.text ++ joint ++ lines.emptyLines ++ line
                lastBreak
                emptyLines := empty.breaks
                after := empty.after }

def BlockLines.chomp (lines : BlockLines) : Chomping → List Char
  | .strip => lines.text
  | .clip => lines.text ++ lines.lastBreak
  | .keep => lines.text ++ lines.lastBreak ++ lines.emptyLines

/-- The block scalar whose indicator stands here, in a collection at column `parent` (`-1` outside
all collections). -/
def block? (literal : Bool) (parent : Int) (cursor : Cursor) : Option (List Char × Cursor) := do
  let (header, cursor) ← blockHeader? (cursor.skip 1)
  let cursor ← cursor.endLine?
  let given := header.increment.map fun increment =>
    if 0 ≤ parent then parent.toNat + increment else increment
  let empty ← blockBreaks? given cursor
  let indent := given.getD (max (max empty.widest (parent + 1).toNat) 1)
  let lines ← blockLinesFrom literal indent (cursor.rest.length + 1) false
    { text := [], lastBreak := [], emptyLines := empty.breaks, after := empty.after }
  some (lines.chomp header.chomping, lines.after)

end Provisioning.Yaml
