import Provisioning.Yaml.Cursor

/-!
The stretches of blanks and line breaks inside a scalar. Blanks within a line are kept; a single
break becomes a space, and of several breaks the first is dropped.
-/

namespace Provisioning.Yaml

inductive Gap where
  | within (blanks : List Char)
  | broken (first : List Char) (later : List Char)

namespace Gap

def empty : Gap :=
  .within []

def isBroken : Gap → Bool
  | .within _ => false
  | .broken _ _ => true

def fold : Gap → List Char
  | .within blanks => blanks
  | .broken ['\n'] [] => [' ']
  | .broken ['\n'] later => later
  | .broken first later => first ++ later

def addBlank (gap : Gap) (blank : Char) : Gap :=
  match gap with
  | .within blanks => .within (blanks ++ [blank])
  | .broken first later => .broken first later

def addBreak (gap : Gap) (lineBreak : List Char) : Gap :=
  match gap with
  | .within _ => .broken lineBreak []
  | .broken first later => .broken first (later ++ lineBreak)

/-- Extends `gap` over the blanks and breaks from here on. After a break no tab may stand left of
column `margin`. -/
def extendFrom (margin : Nat) : Nat → Gap → Cursor → Option (Gap × Cursor)
  | 0, _, _ => none
  | fuel + 1, gap, cursor =>
      match cursor.peek with
      | none => some (gap, cursor)
      | some character =>
          if isBlank character then
            if character == '\t' && gap.isBroken && cursor.column < margin then
              none
            else
              extendFrom margin fuel (gap.addBlank character) (cursor.skip 1)
          else if isBreak character then
            let (lineBreak, next) := cursor.readBreak
            extendFrom margin fuel (gap.addBreak lineBreak) next
          else
            some (gap, cursor)

def extend (margin : Nat) (gap : Gap) (cursor : Cursor) : Option (Gap × Cursor) :=
  extendFrom margin (cursor.rest.length + 1) gap cursor

end Gap

end Provisioning.Yaml
