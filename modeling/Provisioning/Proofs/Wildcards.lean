import Mathlib.Data.List.Infix
import Provisioning.Proofs.Comparison
import Provisioning.Proofs.Lowercase

/-!
What a wildcard pattern without brackets stands for. The matcher is measured by a text that is cut
into pieces, one for every sign of the pattern: any piece for a star, one character for a question
mark, and for every other sign the sign itself.
-/

namespace Provisioning

namespace Text

/-- The text falls into pieces that the signs stand for, one after another. -/
def Spells {α : Type} (stands : α → List Char → Prop) (signs : List α) (text : List Char) : Prop :=
  ∃ pieces, List.Forall₂ stands signs pieces ∧ text = pieces.flatten

section Spells

variable {α β : Type} {stands : α → List Char → Prop} {sign : α} {signs : List α}
  {text : List Char}

theorem spells_nil : Spells stands [] text ↔ text = [] := by
  simp [Spells]

theorem spells_cons :
    Spells stands (sign :: signs) text ↔
      ∃ piece rest, text = piece ++ rest ∧ stands sign piece ∧ Spells stands signs rest := by
  constructor
  · rintro ⟨pieces, each, rfl⟩
    obtain ⟨piece, rest, here, later, rfl⟩ := List.forall₂_cons_left_iff.1 each
    exact ⟨piece, rest.flatten, rfl, here, rest, later, rfl⟩
  · rintro ⟨piece, _, rfl, here, rest, later, rfl⟩
    exact ⟨piece :: rest, .cons here later, rfl⟩

theorem spells_append_congr {more others : List α}
    (same : ∀ text, Spells stands more text ↔ Spells stands others text) :
    Spells stands (signs ++ more) text ↔ Spells stands (signs ++ others) text := by
  induction signs generalizing text with
  | nil => exact same text
  | cons sign signs ih =>
      rw [List.cons_append, List.cons_append, spells_cons, spells_cons]
      simp only [ih]

theorem spells_map {change : β → α} {signs : List β} :
    Spells stands (signs.map change) text ↔
      Spells (fun sign piece => stands (change sign) piece) signs text := by
  simp only [Spells, List.forall₂_map_left_iff]

end Spells

namespace Wildcard

def Covers (token : Wildcard) (piece : List Char) : Prop :=
  token = .anyText ∨ ∃ character, piece = [character] ∧ token.accepts character = true

section Matching

variable {token : Wildcard} {tokens : List Wildcard} {text rest : List Char}
  {texts : List (List Char)}

def Nested (texts : List (List Char)) : Prop :=
  texts.Pairwise fun longer shorter => shorter <:+ longer

theorem suffixes_eq_tails (text : List Char) : suffixes text = text.tails := by
  induction text with
  | nil => rfl
  | cons character rest ih => rw [suffixes, ih, List.tails_cons]

theorem nested_suffixes (text : List Char) : Nested (suffixes text) := by
  rw [suffixes_eq_tails]
  induction text with
  | nil => simp [Nested]
  | cons character rest ih =>
      rw [Nested, List.tails_cons, List.pairwise_cons]
      refine ⟨?_, ih⟩
      intro shorter member
      exact ((List.mem_tails _ _).1 member).trans (List.suffix_cons character rest)

theorem afterOne_eq_some_iff :
    afterOne token text = some rest ↔
      ∃ character, text = character :: rest ∧ token.accepts character = true := by
  cases text with
  | nil => simp [afterOne]
  | cons first others =>
      rw [afterOne]
      constructor
      · intro passed
        split at passed
        · rename_i accepted
          cases passed
          exact ⟨first, rfl, accepted⟩
        · cases passed
      · rintro ⟨character, same, accepted⟩
        cases same
        rw [if_pos accepted]

theorem Nested.afterOne (nested : Nested texts) (token : Wildcard) :
    Nested (texts.filterMap (afterOne token)) := by
  refine List.Pairwise.filterMap _ ?_ nested
  intro longer shorter suffix longerRest passed shorterRest passedToo
  obtain ⟨_, rfl, _⟩ := afterOne_eq_some_iff.1 passed
  obtain ⟨character, rfl, _⟩ := afterOne_eq_some_iff.1 passedToo
  rcases List.suffix_cons_iff.1 suffix with same | within
  · cases same
    exact List.suffix_refl _
  · exact (List.suffix_cons character shorterRest).trans within

theorem remainders_single (single : token ≠ .anyText) (texts : List (List Char)) :
    remainders (token :: tokens) texts = remainders tokens (texts.filterMap (afterOne token)) := by
  cases token <;> first | rfl | contradiction

theorem mem_remainders_iff (nested : Nested texts) :
    rest ∈ remainders tokens texts ↔
      ∃ text ∈ texts, ∃ taken, text = taken ++ rest ∧ Spells Covers tokens taken := by
  induction tokens generalizing texts with
  | nil => simp [remainders, spells_nil]
  | cons token tokens ih =>
      by_cases star : token = .anyText
      · subst star
        cases texts with
        | nil => simp [remainders]
        | cons longest others =>
            rw [remainders, ih (nested_suffixes longest), suffixes_eq_tails]
            constructor
            · rintro ⟨_, suffix, taken, rfl, spelled⟩
              obtain ⟨lead, whole⟩ := (List.mem_tails _ _).1 suffix
              refine ⟨longest, List.mem_cons_self, lead ++ taken, ?_, ?_⟩
              · rw [List.append_assoc, whole]
              · exact spells_cons.2 ⟨lead, taken, rfl, Or.inl rfl, spelled⟩
            · -- Every text lies at the end of the longest one, so a star reaches its suffixes.
              rintro ⟨text, member, _, rfl, spelled⟩
              obtain ⟨piece, later, rfl, _, spelledLater⟩ := spells_cons.1 spelled
              have within : piece ++ later ++ rest <:+ longest := by
                rcases List.mem_cons.1 member with rfl | other
                · exact List.suffix_refl _
                · exact (List.pairwise_cons.1 nested).1 _ other
              refine ⟨later ++ rest, ?_, later, rfl, spelledLater⟩
              rw [List.append_assoc] at within
              exact (List.mem_tails _ _).2 ((List.suffix_append piece _).trans within)
      · rw [remainders_single star, ih (nested.afterOne token)]
        constructor
        · rintro ⟨_, member, taken, rfl, spelled⟩
          obtain ⟨text, among, passed⟩ := List.mem_filterMap.1 member
          obtain ⟨character, rfl, accepted⟩ := afterOne_eq_some_iff.1 passed
          refine ⟨_, among, character :: taken, rfl, ?_⟩
          exact spells_cons.2 ⟨[character], taken, rfl, Or.inr ⟨character, rfl, accepted⟩, spelled⟩
        · rintro ⟨text, among, _, rfl, spelled⟩
          obtain ⟨piece, later, rfl, covered, spelledLater⟩ := spells_cons.1 spelled
          obtain ⟨character, rfl, accepted⟩ := covered.resolve_left star
          refine ⟨later ++ rest, List.mem_filterMap.2 ⟨_, among, ?_⟩, later, rfl, spelledLater⟩
          exact afterOne_eq_some_iff.2 ⟨character, rfl, accepted⟩

theorem matchesAll_iff : matchesAll tokens text = true ↔ Spells Covers tokens text := by
  have single : Nested [text] := List.pairwise_singleton _ _
  rw [matchesAll, List.contains_iff_mem, mem_remainders_iff single]
  simp

end Matching

/-- What a character of a pattern without brackets may be replaced by. -/
def StandsFor : Char → List Char → Prop
  | '*', _ => True
  | '?', piece => piece.length = 1
  | character, piece => piece = [character]

/-- The text that comes of the pattern when each of its wildcards is replaced. -/
def IsInstance (pattern text : List Char) : Prop :=
  Spells StandsFor pattern text

section Patterns

variable {pattern text : List Char}

def ofCharacter : Char → Wildcard
  | '*' => .anyText
  | '?' => .anyOne
  | character => .literal character

theorem parse?_of_unbracketed (unbracketed : '[' ∉ pattern) :
    parse? pattern = some (pattern.map ofCharacter) := by
  induction pattern with
  | nil => rw [parse?, List.map_nil]
  | cons character rest ih =>
      rw [List.mem_cons, not_or] at unbracketed
      obtain ⟨notHere, notLater⟩ := unbracketed
      have parsed := ih notLater
      rw [parse?.eq_def]
      split <;> simp_all [ofCharacter]

theorem covers_ofCharacter (character : Char) :
    (ofCharacter character).Covers = StandsFor character := by
  funext piece
  unfold ofCharacter StandsFor
  split
  · simp [Covers]
  · simp [Covers, accepts, List.length_eq_one_iff]
  · simp [Covers, accepts]

theorem spells_ofCharacter :
    Spells Covers (pattern.map ofCharacter) text ↔ IsInstance pattern text := by
  rw [spells_map, IsInstance]
  simp only [covers_ofCharacter]

theorem isInstance_cons {character : Char} :
    IsInstance (character :: pattern) text ↔
      ∃ piece rest, text = piece ++ rest ∧ StandsFor character piece ∧ IsInstance pattern rest :=
  spells_cons

theorem standsFor_plain {character : Char} (plain : isWildcardCharacter character = false)
    {piece : List Char} : StandsFor character piece ↔ piece = [character] := by
  unfold StandsFor
  split
  · cases plain
  · cases plain
  · rfl

theorem isInstance_of_plain (plain : pattern.any isWildcardCharacter = false) :
    IsInstance pattern text ↔ pattern = text := by
  induction pattern generalizing text with
  | nil => exact spells_nil.trans eq_comm
  | cons character rest ih =>
      rw [List.any_cons, Bool.or_eq_false_iff] at plain
      rw [isInstance_cons]
      simp only [standsFor_plain plain.1, ih plain.2]
      constructor
      · rintro ⟨_, _, rfl, rfl, rfl⟩
        rfl
      · rintro rfl
        exact ⟨[character], rest, rfl, rfl, rfl⟩

theorem isInstance_star_star :
    IsInstance ('*' :: '*' :: pattern) text ↔ IsInstance ('*' :: pattern) text := by
  rw [isInstance_cons]
  constructor
  · rintro ⟨piece, _, rfl, _, starred⟩
    obtain ⟨more, rest, rfl, _, spelled⟩ := isInstance_cons.1 starred
    rw [← List.append_assoc]
    exact isInstance_cons.2 ⟨piece ++ more, rest, rfl, trivial, spelled⟩
  · intro starred
    exact ⟨[], text, rfl, trivial, starred⟩

theorem isInstance_collapseStars :
    IsInstance (collapseStars pattern) text ↔ IsInstance pattern text := by
  fun_induction collapseStars pattern generalizing text with
  | case1 rest ih => rw [ih, isInstance_star_star]
  | case2 character rest _ ih =>
      rw [isInstance_cons, isInstance_cons]
      simp only [ih]
  | case3 => rfl

theorem not_mem_collapseStars {mark : Char} (absent : mark ∉ pattern) :
    mark ∉ collapseStars pattern := by
  fun_induction collapseStars pattern with
  | case1 rest ih => exact ih fun member => absent (List.mem_cons_of_mem _ member)
  | case2 character rest _ ih =>
      rw [List.mem_cons, not_or] at absent ⊢
      exact ⟨absent.1, ih absent.2⟩
  | case3 => exact absent

theorem meetsCased_collapseStars : meetsCased (collapseStars pattern) = meetsCased pattern := by
  fun_induction collapseStars pattern with
  | case1 rest ih =>
      have ended (rest : List Char) : meetsCased ('*' :: rest) = meetsCased [] :=
        meetsCased_append_star [] rest
      rw [ih, ended, ended]
  | case2 character rest _ ih =>
      rw [meetsCased_cons, meetsCased_cons, ih]
  | case3 => rfl

theorem isInstance_lower_collapseStars (before : List Char) :
    IsInstance (lowerFrom before (collapseStars pattern)) text ↔
      IsInstance (lowerFrom before pattern) text := by
  fun_induction collapseStars pattern generalizing before text with
  | case1 rest ih =>
      rw [ih, lowerFrom_star, lowerFrom_star, lowerFrom_star, isInstance_star_star]
  | case2 character rest _ ih =>
      rw [lowerFrom, lowerFrom, meetsCased_collapseStars]
      exact spells_append_congr fun text => ih _
  | case3 => rfl

end Patterns

end Wildcard

end Text

namespace Query

open Text Text.Wildcard

theorem textMatches_iff {criterion stored : String} (unbracketed : '[' ∉ criterion.toList) :
    textMatches criterion stored = true ↔
      IsInstance (lower criterion).toList (lower stored).toList := by
  have lowered : '[' ∉ (lower criterion).toList := by
    intro member
    rw [lower, String.toList_ofList] at member
    exact unbracketed (mem_of_mem_lowerFrom (by decide) (by decide) member)
  unfold textMatches
  dsimp only
  split
  · rw [parse?_of_unbracketed (not_mem_collapseStars lowered)]
    exact (matchesAll_iff.trans spells_ofCharacter).trans isInstance_collapseStars
  · rename_i plain
    rw [isInstance_of_plain (Bool.eq_false_iff.2 plain), beq_iff_eq, String.toList_inj]

theorem wildcard_low {mark : Char} (wild : isWildcardCharacter mark = true) :
    mark.toNat < 'a'.toNat ∧ mark ≠ Char.ofNat 0 := by
  simp only [isWildcardCharacter, Bool.or_eq_true, beq_iff_eq] at wild
  obtain (rfl | rfl) | rfl := wild <;> decide

theorem compare_str_eq (criterion stored : String) :
    compare criterion (.str stored) = .ok (textMatches criterion stored) := rfl

/-- A criterion without brackets is answered by the texts that come of it when its wildcards are
replaced, in lower case on both sides. A run of stars asks for what one star does, and without
wildcards the texts have to be equal. -/
theorem compare_text_instances (criterion stored : String)
    (unbracketed : '[' ∉ criterion.toList) :
    (compare criterion (.str stored) = .ok true ↔
      IsInstance (lower criterion).toList (lower stored).toList) ∧
    (compare criterion (.str stored) = .ok true ∨ compare criterion (.str stored) = .ok false) ∧
    compare (String.ofList (collapseStars criterion.toList)) (.str stored) =
      compare criterion (.str stored) ∧
    (criterion.toList.any isWildcardCharacter = false →
      (compare criterion (.str stored) = .ok true ↔ lower criterion = lower stored)) := by
  have answered : compare criterion (.str stored) = .ok true ↔
      IsInstance (lower criterion).toList (lower stored).toList := by
    rw [compare_str_eq, Except.ok.injEq, textMatches_iff unbracketed]
  refine ⟨answered, ?_, ?_, ?_⟩
  · rw [compare_str_eq]
    cases textMatches criterion stored <;> simp
  · have unbracketedToo : '[' ∉ (String.ofList (collapseStars criterion.toList)).toList := by
      rw [String.toList_ofList]
      exact not_mem_collapseStars unbracketed
    rw [compare_str_eq, compare_str_eq, Except.ok.injEq, Bool.eq_iff_iff,
      textMatches_iff unbracketedToo, textMatches_iff unbracketed]
    simp only [lower, String.toList_ofList]
    exact isInstance_lower_collapseStars []
  · intro plain
    have loweredPlain : (lower criterion).toList.any isWildcardCharacter = false := by
      rw [List.any_eq_false] at plain ⊢
      intro mark member wild
      rw [lower, String.toList_ofList] at member
      obtain ⟨low, shown⟩ := wildcard_low wild
      exact plain mark (mem_of_mem_lowerFrom low shown member) wild
    rw [answered, isInstance_of_plain loweredPlain, String.toList_inj]

theorem compare_text_instances_web :
    '[' ∉ "*Web***0?".toList ∧
      IsInstance (lower "*Web***0?").toList (lower "prod/.WEB-01").toList ∧
      compare "*Web***0?" (.str "prod/.WEB-01") = .ok true := by
  have unbracketed : '[' ∉ "*Web***0?".toList := by decide
  have criterion : (lower "*Web***0?").toList =
      ['*', 'w', 'e', 'b', '*', '*', '*', '0', '?'] := by decide
  have stored : (lower "prod/.WEB-01").toList =
      [['p', 'r', 'o', 'd', '/', '.'], ['w'], ['e'], ['b'], ['-'], [], [], ['0'], ['1']].flatten := by
    decide
  have instanceOf : IsInstance (lower "*Web***0?").toList (lower "prod/.WEB-01").toList := by
    rw [criterion]
    refine ⟨_, ?_, stored⟩
    simp [StandsFor]
  exact ⟨unbracketed, instanceOf,
    (compare_text_instances "*Web***0?" "prod/.WEB-01" unbracketed).1.2 instanceOf⟩

end Query

end Provisioning
