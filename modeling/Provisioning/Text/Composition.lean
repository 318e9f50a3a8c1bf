import Provisioning.Text.CompositionTable

/-!
Canonical composition: texts that differ only in how accented letters are spelled become equal.
-/

namespace Provisioning.Text

def rowEntry? (rows : List (Nat × String)) (character : Char) : Option Char :=
  rows.findSome? fun (first, targets) =>
    if first ≤ character.toNat then targets.toList[character.toNat - first]? else none

structure Composition where
  first : Char
  second : Char
  composed : Char

def rowCompositions (second : Char) : List Char → List Composition
  | first :: composed :: rest => ⟨first, second, composed⟩ :: rowCompositions second rest
  | _ => []

def tableCompositions (rows : List (Nat × String)) : List Composition :=
  rows.flatMap fun (second, row) => rowCompositions (Char.ofNat second) row.toList

def compositions : List Composition :=
  tableCompositions compositionRows

def decompositions : List Composition :=
  compositions ++ tableCompositions exclusionRows

def combiningClass (character : Char) : Nat :=
  let code := character.toNat
  match combiningRuns.find? fun (first, last, _) => first ≤ code && code ≤ last with
  | some (_, _, order) => order
  | none => 0

namespace Hangul

/-! Korean syllables are computed from the numbers of their two or three letters. -/

def syllables : Nat := 0xAC00

def leads : Nat := 0x1100

def vowels : Nat := 0x1161

/-- One less than the first closing letter, so that zero means none. -/
def closes : Nat := 0x11A7

def isSyllable (code : Nat) : Bool :=
  syllables ≤ code && code < syllables + 19 * 21 * 28

def decompose? (character : Char) : Option (List Char) :=
  let code := character.toNat
  if isSyllable code then
    let offset := code - syllables
    let lead := Char.ofNat (leads + offset / (21 * 28))
    let vowel := Char.ofNat (vowels + offset / 28 % 21)
    let close := offset % 28
    some (if close = 0 then [lead, vowel] else [lead, vowel, Char.ofNat (closes + close)])
  else
    none

def compose? (first second : Char) : Option Char :=
  let code := first.toNat
  let next := second.toNat
  if leads ≤ code && code < leads + 19 && vowels ≤ next && next < vowels + 21 then
    some (Char.ofNat (syllables + ((code - leads) * 21 + (next - vowels)) * 28))
  else if isSyllable code && (code - syllables) % 28 == 0 && closes < next && next < closes + 28 then
    some (Char.ofNat (code + (next - closes)))
  else
    none

end Hangul

/-- Takes a character apart; `fuel` bounds how often its parts are taken apart again. -/
def decomposeFrom : Nat → Char → List Char
  | 0, character => [character]
  | fuel + 1, character =>
      if character.toNat < 0x80 then
        [character]
      else
        match Hangul.decompose? character with
        | some letters => letters
        | none =>
            match rowEntry? singletonRows character with
            | some other => decomposeFrom fuel other
            | none =>
                match decompositions.find? fun entry => entry.composed == character with
                | some entry => decomposeFrom fuel entry.first ++ decomposeFrom fuel entry.second
                | none => [character]

def decompositionDepth : Nat := 8

def decompose (character : Char) : List Char :=
  decomposeFrom decompositionDepth character

/-- Puts a mark before the marks of higher classes at the end of `before`, nearest first. -/
def placeMark (mark : Char) : List Char → List Char
  | [] => [mark]
  | last :: before =>
      if combiningClass mark < combiningClass last then
        last :: placeMark mark before
      else
        mark :: last :: before

def orderMarks (characters : List Char) : List Char :=
  (characters.foldl (fun before character =>
    if combiningClass character = 0 then character :: before else placeMark character before)
    []).reverse

def compose? (first second : Char) : Option Char :=
  match Hangul.compose? first second with
  | some syllable => some syllable
  | none =>
      (compositions.find? fun entry => entry.first == first && entry.second == second).map
        Composition.composed

/-- Joins `starter`, with the marks kept after it in reverse, to what follows. A mark is blocked by
one of its own class or a higher one. -/
def composeFrom (starter : Char) (marks : List Char) : List Char → List Char
  | [] => starter :: marks.reverse
  | character :: rest =>
      let order := combiningClass character
      let blocked := marks.head?.any fun last => order ≤ combiningClass last
      match if blocked then none else compose? starter character with
      | some composed => composeFrom composed marks rest
      | none =>
          if order = 0 then
            starter :: marks.reverse ++ composeFrom character [] rest
          else
            composeFrom starter (character :: marks) rest

def composeAll : List Char → List Char
  | [] => []
  | character :: rest =>
      if combiningClass character = 0 then
        composeFrom character [] rest
      else
        character :: composeAll rest

def canonical (characters : List Char) : List Char :=
  if characters.all (·.toNat < 0x80) then
    characters
  else
    composeAll (orderMarks (characters.flatMap decompose))

end Provisioning.Text
