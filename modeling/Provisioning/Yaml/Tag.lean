import Provisioning.Json.Reader
import Provisioning.Yaml.Cursor

/-!
The written forms of tags and of the directives that precede a document.
-/

namespace Provisioning.Yaml

def uriMarks : List Char := ";/?:@&=+$.%!~*'()".toList

def isUriChar (full : Bool) (character : Char) : Bool :=
  isNameChar character || uriMarks.contains character ||
    (full && [',', '[', ']'].contains character)

def octet? : List Char → Option Nat
  | '%' :: high :: low :: _ => Json.hexDigitsValue? [high, low]
  | _ => none

def octetsFrom : Nat → Nat → List Char → Option Nat
  | 0, code, _ => some code
  | count + 1, code, characters =>
      match octet? characters with
      | none => none
      | some octet =>
          if octet / 0x40 = 2 then
            octetsFrom count (code * 0x40 + octet % 0x40) (characters.drop 3)
          else
            none

def uriEscape? (characters : List Char) : Option (Char × Nat) :=
  match octet? characters with
  | none => none
  | some first =>
      let rest := characters.drop 3
      if first < 0x80 then
        some (Char.ofNat first, 3)
      else if first / 0x20 = 6 then
        (octetsFrom 1 (first % 0x20) rest).map fun code => (Char.ofNat code, 6)
      else if first / 0x10 = 14 then
        (octetsFrom 2 (first % 0x10) rest).map fun code => (Char.ofNat code, 9)
      else if first / 0x08 = 30 then
        (octetsFrom 3 (first % 0x08) rest).map fun code => (Char.ofNat code, 12)
      else
        none

def uriFrom (full : Bool) : Nat → List Char → Cursor → Option (List Char × Cursor)
  | 0, _, _ => none
  | fuel + 1, text, cursor =>
      match cursor.peek with
      | none => some (text.reverse, cursor)
      | some character =>
          if character = '%' then
            match uriEscape? cursor.rest with
            | none => none
            | some (escaped, width) => uriFrom full fuel (escaped :: text) (cursor.skip width)
          else if isUriChar full character then
            uriFrom full fuel (character :: text) (cursor.skip 1)
          else
            some (text.reverse, cursor)

def uri? (full : Bool) (cursor : Cursor) : Option (List Char × Cursor) :=
  uriFrom full (cursor.rest.length + 1) [] cursor

def handle? (cursor : Cursor) : Option (List Char × Cursor) :=
  if cursor.peek == some '!' then
    let (name, after) := (cursor.skip 1).span isNameChar
    if after.peek == some '!' then
      some ('!' :: name ++ ['!'], after.skip 1)
    else
      some ('!' :: name, after)
  else
    none

def isHandle (text : List Char) : Bool :=
  text.length > 1 && text.getLast? == some '!'

/-- The handle and the suffix of the tag that starts here. A tag in angle brackets has the empty
handle, and so has the tag that is a single mark. -/
def tagParts? (cursor : Cursor) : Option ((List Char × List Char) × Cursor) :=
  if cursor.peekAt 1 == some '<' then do
    let (suffix, after) ← uri? true (cursor.skip 2)
    if suffix.isEmpty || after.peek != some '>' then
      none
    else
      some (([], suffix), after.skip 1)
  else do
    let (handle, after) ← handle? cursor
    let (suffix, last) ← uri? false after
    if isHandle handle then
      if suffix.isEmpty then none else some ((handle, suffix), last)
    else
      let suffix := handle.drop 1 ++ suffix
      some (if suffix.isEmpty then ([], ['!']) else (['!'], suffix), last)

/-- A tag is set off by a blank, a line break or, inside brackets, a comma. -/
def tag? (inFlow : Bool) (cursor : Cursor) : Option ((List Char × List Char) × Cursor) := do
  let (parts, after) ← tagParts? cursor
  if isEdge after.peek || (inFlow && after.peek == some ',') then some (parts, after) else none

inductive Directive where
  | version (major minor : Nat)
  | tag (handle lead : List Char)

def versionNumber? (cursor : Cursor) : Option (Nat × Cursor) :=
  let (digits, after) := cursor.span Char.isDigit
  if digits.length ≤ 9 then (Number.readNat? digits).map fun number => (number, after) else none

def versionDirective? (cursor : Cursor) : Option (Directive × Cursor) := do
  let (major, after) ← versionNumber? (cursor.skipWhile isBlank)
  if after.peek != some '.' then
    none
  let (minor, after) ← versionNumber? (after.skip 1)
  some (.version major minor, after)

def tagDirective? (cursor : Cursor) : Option (Directive × Cursor) := do
  let (handle, after) ← handle? (cursor.skipWhile isBlank)
  if !(isHandle handle || handle == ['!']) || !after.peek.any isBlank then
    none
  let (lead, after) ← uri? true (after.skipWhile isBlank)
  if lead.isEmpty || !isEdge after.peek then none else some (.tag handle lead, after)

def directive? (cursor : Cursor) : Option (Directive × Cursor) := do
  let (name, after) := (cursor.skip 1).span isNameChar
  if !isEdge after.peek then
    none
  let (directive, after) ←
    if name == "YAML".toList then versionDirective? after
    else if name == "TAG".toList then tagDirective? after
    else none
  let next ← after.endLine?
  some (directive, next)

end Provisioning.Yaml
