/-!
Wildcard patterns: a star stands for any text, a question mark for any one character, and brackets
for one character of a set or, after an exclamation mark, of its complement.
-/

namespace Provisioning.Text

structure CharacterRange where
  first : Char
  last : Char
  deriving DecidableEq

inductive Wildcard where
  | literal (character : Char)
  | anyOne
  | anyText
  | oneOf (ranges : List CharacterRange)
  | noneOf (ranges : List CharacterRange)
  deriving DecidableEq

namespace Wildcard

def isWildcardCharacter (character : Char) : Bool :=
  character == '*' || character == '?' || character == '['

def collapseStars : List Char → List Char
  | '*' :: '*' :: rest => collapseStars ('*' :: rest)
  | character :: rest => character :: collapseStars rest
  | [] => []

def rangesOf : List Char → List CharacterRange
  | first :: '-' :: last :: rest => ⟨first, last⟩ :: rangesOf rest
  | single :: rest => ⟨single, single⟩ :: rangesOf rest
  | [] => []

/-- The set that ends at the first closing bracket after its first character, and what follows. -/
def splitSet? : List Char → Option (List Char × List Char)
  | [] => none
  | first :: rest =>
      let inside := rest.takeWhile (· != ']')
      match rest.dropWhile (· != ']') with
      | _ :: after => some (first :: inside, after)
      | [] => none

theorem length_splitSet? {characters inside after : List Char}
    (found : splitSet? characters = some (inside, after)) : after.length < characters.length := by
  unfold splitSet? at found
  split at found
  · simp at found
  · rename_i first rest
    simp only at found
    split at found
    · rename_i bracket tail cut
      simp only [Option.some.injEq, Prod.mk.injEq] at found
      have shorter := (List.dropWhile_suffix (l := rest) (· != ']')).length_le
      rw [cut] at shorter
      simp only [List.length_cons] at shorter ⊢
      rw [← found.2]
      omega
    · simp at found

/-- The tokens of a pattern, or `none` where a bracket opens a set that does not end. -/
def parse? : List Char → Option (List Wildcard)
  | [] => some []
  | '?' :: rest => (parse? rest).map (anyOne :: ·)
  | '*' :: rest => (parse? rest).map (anyText :: ·)
  | '[' :: '!' :: rest =>
      match _cut : splitSet? rest with
      | some (inside, after) => (parse? after).map (noneOf (rangesOf inside) :: ·)
      | none => none
  | '[' :: rest =>
      match _cut : splitSet? rest with
      | some (inside, after) => (parse? after).map (oneOf (rangesOf inside) :: ·)
      | none => none
  | character :: rest => (parse? rest).map (literal character :: ·)
termination_by characters => characters.length
decreasing_by
  all_goals simp only [List.length_cons]
  all_goals first
    | omega
    | (have shorter := length_splitSet? _cut; omega)

def inRange (character : Char) (range : CharacterRange) : Bool :=
  range.first ≤ character && character ≤ range.last

def accepts : Wildcard → Char → Bool
  | .literal expected, character => expected == character
  | .anyOne, _ => true
  | .anyText, _ => true
  | .oneOf ranges, character => ranges.any (inRange character)
  | .noneOf ranges, character => !ranges.any (inRange character)

def suffixes : List Char → List (List Char)
  | [] => [[]]
  | character :: rest => (character :: rest) :: suffixes rest

def afterOne (token : Wildcard) : List Char → Option (List Char)
  | [] => none
  | character :: rest => if token.accepts character then some rest else none

/-- What may remain of the texts, longest first, once the tokens have taken their part. All of
them are suffixes of the first one, so that is where a star reaches every remainder. -/
def remainders : List Wildcard → List (List Char) → List (List Char)
  | [], texts => texts
  | .anyText :: tokens, texts =>
      match texts with
      | [] => []
      | longest :: _ => remainders tokens (suffixes longest)
  | token :: tokens, texts => remainders tokens (texts.filterMap (afterOne token))

def matchesAll (tokens : List Wildcard) (text : List Char) : Bool :=
  (remainders tokens [text]).contains []

end Wildcard

end Provisioning.Text
