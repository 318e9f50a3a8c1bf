import Provisioning.Yaml.Gap

/-!
Plain scalars: text without quotes, over as many lines as are indented further than the collection
they stand in.
-/

namespace Provisioning.Yaml

def flowIndicators : List Char := [',', '[', ']', '\x7b', '\x7d']

/-- The unbroken run of a plain scalar at the front. Inside brackets a colon may not touch an
indicator. -/
def plainRun? (inFlow : Bool) : List Char → Option (List Char)
  | [] => some []
  | character :: rest =>
      if isGap character then
        some []
      else if inFlow && character == ':' && rest.head?.any ('?' :: flowIndicators).contains then
        none
      else if (character == ':' && isEdge rest.head?) ||
          (inFlow && flowIndicators.contains character) then
        some []
      else
        (plainRun? inFlow rest).map (character :: ·)

structure Plain where
  text : List Char
  after : Cursor
  endsLine : Bool

def plainFrom (inFlow : Bool) (margin : Nat) : Nat → List Char → Gap → Cursor → Option Plain
  | 0, _, _, _ => none
  | fuel + 1, text, gap, cursor =>
      if cursor.atDocumentMark || cursor.peek == some '#' then
        some ⟨text, cursor, gap.isBroken⟩
      else
        match plainRun? inFlow cursor.rest with
        | none => none
        | some run =>
            let text := if run.isEmpty then text else text ++ gap.fold ++ run
            let gap := if run.isEmpty then gap else .empty
            let cursor := cursor.skip run.length
            if cursor.peek.any isGap then
              match gap.extend margin cursor with
              | none => none
              | some (gap, cursor) =>
                  if !inFlow && cursor.column < margin then
                    some ⟨text, cursor, gap.isBroken⟩
                  else
                    plainFrom inFlow margin fuel text gap cursor
            else
              some ⟨text, cursor, gap.isBroken⟩

def plain? (inFlow : Bool) (margin : Nat) (cursor : Cursor) : Option Plain :=
  plainFrom inFlow margin (cursor.rest.length + 1) [] .empty cursor

end Provisioning.Yaml
