import Provisioning.Text.CaseTable

/-!
Lower case of a whole text. Every character is lowered by its own mapping, except that a capital
sigma at the end of a word becomes the final form.
-/

namespace Provisioning.Text

def inRanges (ranges : Array (Nat × Nat)) (character : Char) : Bool :=
  ranges.any fun range => range.1 ≤ character.toNat && character.toNat ≤ range.2

def lowerChar (character : Char) : List Char :=
  let code := character.toNat
  if code < 0x80 then
    [character.toLower]
  else if code = 0x130 then
    ['i', Char.ofNat 0x307]
  else
    match lowerRuns.find? fun run => run.covers code with
    | some run => [Char.ofNat (code + run.shift).toNat]
    | none => [character]

def meetsCased (characters : List Char) : Bool :=
  match characters.dropWhile (inRanges caseIgnorableRanges) with
  | [] => false
  | character :: _ => inRanges casedRanges character

/-- `before` holds the characters already passed, nearest first. -/
def lowerFrom (before : List Char) : List Char → List Char
  | [] => []
  | character :: rest =>
      let lowered :=
        if character = 'Σ' then
          if meetsCased before && !meetsCased rest then ['ς'] else ['σ']
        else
          lowerChar character
      lowered ++ lowerFrom (character :: before) rest

def lower (text : String) : String :=
  String.ofList (lowerFrom [] text.toList)

end Provisioning.Text
