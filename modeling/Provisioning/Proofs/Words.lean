import Mathlib.Data.List.TakeWhile
import Provisioning.Proofs.Outcome
import Provisioning.Text.Words

/-!
What texts split into. A text that splits ends outside quotes and escapes, so what follows white
space after it is split on its own; every list of words can be written as a text in double quotes.
-/

namespace Provisioning.Text

def isMark (character : Char) : Bool :=
  ['\\', '"', '\''].contains character

def isPlain (character : Char) : Bool :=
  !isBlank character && !isMark character

/-- A word with a backslash before every character that means something between double quotes. -/
def escaped (word : List Char) : List Char :=
  word.flatMap fun character =>
    if character = '"' ∨ character = '\\' then ['\\', character] else [character]

def doubleQuoted (word : List Char) : List Char :=
  '"' :: escaped word ++ ['"']

/-- Words one after the other, with at least one blank between two of them. -/
inductive Spaced : List (List Char) → List Char → Prop
  | nil : Spaced [] []
  | single (word) : Spaced [word] word
  | cons {word next words gap text} : gap ≠ [] → (∀ character ∈ gap, isBlank character = true) →
      Spaced (next :: words) text → Spaced (word :: next :: words) (word ++ gap ++ text)

section Steps

variable {whole : String} {word : Option (List Char)} {begun rest : List Char} {character : Char}

theorem isMark_of_isBlank (blank : isBlank character = true) : isMark character = false := by
  by_contra marked
  simp only [isMark, List.contains_eq_mem, Bool.not_eq_false, decide_eq_true_eq, List.mem_cons,
    List.not_mem_nil, or_false] at marked
  rcases marked with rfl | rfl | rfl <;> cases blank

theorem isPlain_iff :
    isPlain character = true ↔ isBlank character = false ∧ isMark character = false := by
  simp [isPlain]

theorem isMark_eq_false_iff :
    isMark character = false ↔ character ≠ '\\' ∧ character ≠ '"' ∧ character ≠ '\'' := by
  simp [isMark]

theorem wordsFrom_nil : wordsFrom whole .bare word [] = .ok (word.toList.map List.reverse) := rfl

theorem wordsFrom_unmarked (unmarked : isMark character = false) :
    wordsFrom whole .bare word (character :: rest) =
      if isBlank character then
        (wordsFrom whole .bare none rest).map (word.toList.map List.reverse ++ ·)
      else
        wordsFrom whole .bare (some (character :: word.getD [])) rest := by
  obtain ⟨notEscape, notDouble, notSingle⟩ := isMark_eq_false_iff.1 unmarked
  have nothingBegun : (wordsFrom whole .bare none rest).map ([] ++ ·) =
      wordsFrom whole .bare none rest := by
    cases wordsFrom whole .bare none rest <;> rfl
  -- Only the pattern for any character is left, as none of the marks is met.
  cases word with
  | none =>
      rw [wordsFrom.eq_def]
      split <;> simp_all
  | some begun =>
      rw [wordsFrom.eq_def]
      split <;> simp_all

theorem wordsFrom_blank (blank : isBlank character = true) :
    wordsFrom whole .bare word (character :: rest) =
      (wordsFrom whole .bare none rest).map (word.toList.map List.reverse ++ ·) := by
  rw [wordsFrom_unmarked (isMark_of_isBlank blank), if_pos blank]

theorem wordsFrom_plain (plain : isPlain character = true) :
    wordsFrom whole .bare word (character :: rest) =
      wordsFrom whole .bare (some (character :: word.getD [])) rest := by
  obtain ⟨shown, unmarked⟩ := isPlain_iff.1 plain
  rw [wordsFrom_unmarked unmarked, if_neg (by simp [shown])]

theorem wordsFrom_single (notSingle : character ≠ '\'') :
    wordsFrom whole .single word (character :: rest) =
      wordsFrom whole .single (some (character :: word.getD [])) rest := by
  rw [wordsFrom.eq_def]
  split <;> simp_all

theorem wordsFrom_double (notEscape : character ≠ '\\') (notDouble : character ≠ '"') :
    wordsFrom whole .double word (character :: rest) =
      wordsFrom whole .double (some (character :: word.getD [])) rest := by
  rw [wordsFrom.eq_def]
  split <;> simp_all

theorem wordsFrom_blanks {gap : List Char} (blanks : ∀ character ∈ gap, isBlank character = true) :
    wordsFrom whole .bare none (gap ++ rest) = wordsFrom whole .bare none rest := by
  induction gap with
  | nil => rfl
  | cons blank gap ih =>
      rw [List.cons_append, wordsFrom_blank (blanks blank List.mem_cons_self),
        ih fun other member => blanks other (List.mem_cons_of_mem _ member)]
      cases wordsFrom whole .bare none rest <;> rfl

theorem wordsFrom_ended {tail : List Char} (apart : ∀ next ∈ tail.head?, isBlank next = true) :
    wordsFrom whole .bare word tail =
      (wordsFrom whole .bare none tail).map (word.toList.map List.reverse ++ ·) := by
  cases tail with
  | nil => simp [wordsFrom_nil, Except.map]
  | cons next tail =>
      have blank := apart next rfl
      rw [wordsFrom_blank blank, wordsFrom_blank blank]
      cases wordsFrom whole .bare none tail <;> rfl

theorem wordsFrom_plains {characters : List Char}
    (plain : ∀ character ∈ characters, isPlain character = true) :
    wordsFrom whole .bare (some begun) characters = .ok [begun.reverse ++ characters] := by
  induction characters generalizing begun with
  | nil => simp [wordsFrom_nil]
  | cons character characters ih =>
      rw [wordsFrom_plain (plain character List.mem_cons_self), Option.getD_some,
        ih fun other member => plain other (List.mem_cons_of_mem _ member)]
      simp

theorem wordsFrom_escaped (content : List Char) :
    wordsFrom whole .double (some begun) (escaped content ++ rest) =
      wordsFrom whole .double (some (content.reverse ++ begun)) rest := by
  induction content generalizing begun with
  | nil => rfl
  | cons character content ih =>
      have step : wordsFrom whole .double (some begun) (escaped (character :: content) ++ rest) =
          wordsFrom whole .double (some (character :: begun)) (escaped content ++ rest) := by
        rw [escaped, List.flatMap_cons]
        split
        · rfl
        · rename_i unmarked
          obtain ⟨notQuote, notEscape⟩ := not_or.1 unmarked
          exact wordsFrom_double notEscape notQuote
      rw [step, ih]
      simp

end Steps

/-- A text that splits leaves no quote or escape open, so what comes after it, from a blank on, is
split as if it stood alone. -/
theorem wordsFrom_append {whole : String} {quote : Quote} {word : Option (List Char)}
    {first tail : List Char} {found : List (List Char)}
    (split : wordsFrom whole quote word first = .ok found)
    (apart : ∀ next ∈ tail.head?, isBlank next = true) (other : String) :
    wordsFrom other quote word (first ++ tail) =
      (wordsFrom other .bare none tail).map (found ++ ·) := by
  -- The tail counts only where the first text ends; every step before that is the same in both.
  fun_induction wordsFrom whole quote word first generalizing found with
  | case1 word =>
      cases split
      exact wordsFrom_ended apart
  | case2 => cases split
  | case3 => cases split
  | case4 => cases split
  | case5 word escaped rest ih => exact ih split
  | case6 => cases split
  | case7 word escaped rest ih => exact ih split
  | case8 word rest ih => exact ih split
  | case9 word rest ih => exact ih split
  | case10 word rest ih => exact ih split
  | case11 word rest ih => exact ih split
  | case12 character rest _ _ _ blank begun ih =>
      obtain ⟨later, continued, rfl⟩ := Outcome.map_eq_ok_iff.1 split
      rw [List.cons_append, wordsFrom_blank blank, ih continued]
      cases wordsFrom other .bare none tail <;> rfl
  | case13 character rest _ _ _ blank ih =>
      rw [List.cons_append, wordsFrom_blank blank, ih split]
      cases wordsFrom other .bare none tail <;> rfl
  | case14 word character rest notEscape notDouble notSingle shown ih =>
      rw [List.cons_append, wordsFrom_plain, ih split]
      exact isPlain_iff.2 ⟨by simpa using shown,
        isMark_eq_false_iff.2 ⟨notEscape, notDouble, notSingle⟩⟩
  | case15 word character rest notSingle ih =>
      rw [List.cons_append, wordsFrom_single notSingle, ih split]
  | case16 word character rest notEscape notDouble ih =>
      rw [List.cons_append, wordsFrom_double notEscape notDouble, ih split]

theorem words_append {first second : String} {firstWords secondWords : List (List Char)}
    {blank : Char} (firstSplit : words first = .ok firstWords)
    (secondSplit : words second = .ok secondWords) (isBlank : isBlank blank = true) :
    words (first ++ String.singleton blank ++ second) = .ok (firstWords ++ secondWords) := by
  have alone (whole : String) : wordsFrom whole .bare none second.toList = .ok secondWords := by
    have extended : wordsFrom whole .bare none (second.toList ++ []) = _ :=
      wordsFrom_append secondSplit (by simp) whole
    simpa [wordsFrom_nil, Except.map] using extended
  have spelled : (first ++ String.singleton blank ++ second).toList =
      first.toList ++ blank :: second.toList := by simp
  unfold words
  rw [spelled, wordsFrom_append firstSplit (by simpa using isBlank), wordsFrom_blank isBlank, alone]
  rfl

theorem wordsFrom_spaced {whole : String} {stretches found : List (List Char)} {text : List Char}
    (spaced : Spaced stretches text)
    (each : List.Forall₂ (fun stretch word => wordsFrom whole .bare none stretch = .ok [word])
      stretches found) :
    wordsFrom whole .bare none text = .ok found := by
  induction spaced generalizing found with
  | nil =>
      cases each
      rfl
  | single stretch =>
      obtain ⟨word, words, read, rest, rfl⟩ := List.forall₂_cons_left_iff.1 each
      cases rest
      exact read
  | @cons stretch next stretches gap text nonempty blanks _ ih =>
      obtain ⟨word, words, read, rest, rfl⟩ := List.forall₂_cons_left_iff.1 each
      have apart : ∀ first ∈ (gap ++ text).head?, isBlank first = true := by
        intro first leads
        rw [List.head?_append_of_ne_nil _ nonempty] at leads
        exact blanks first (List.mem_of_mem_head? leads)
      rw [List.append_assoc, wordsFrom_append read apart, wordsFrom_blanks blanks, ih rest]
      rfl

theorem wordsFrom_doubleQuoted (whole : String) (word : List Char) :
    wordsFrom whole .bare none (doubleQuoted word) = .ok [word] := by
  have opened : wordsFrom whole .bare none (doubleQuoted word) =
      wordsFrom whole .double (some []) (escaped word ++ ['"']) := rfl
  have closed : wordsFrom whole .double (some (word.reverse ++ [])) ['"'] =
      .ok [(word.reverse ++ []).reverse] := rfl
  rw [opened, wordsFrom_escaped, closed]
  simp

theorem words_plain {text : String} (nonempty : text ≠ "")
    (plain : ∀ character ∈ text.toList, isPlain character = true) :
    words text = .ok [text.toList] := by
  unfold words
  cases spelled : text.toList with
  | nil => exact absurd (String.toList_eq_nil_iff.1 spelled) nonempty
  | cons first rest =>
      rw [spelled] at plain
      rw [wordsFrom_plain (plain first List.mem_cons_self)]
      exact wordsFrom_plains fun other member => plain other (List.mem_cons_of_mem _ member)

theorem trim_eq_iff {text word : String} :
    trim text = word ↔ trimChars text.toList = word.toList := by
  rw [trim, ← String.toList_inj, String.toList_ofList]

theorem exists_trimmed (characters : List Char) :
    ∃ lead tail, (∀ character ∈ lead, isBlank character = true) ∧
      (∀ character ∈ tail, isBlank character = true) ∧
      characters = lead ++ (trimChars characters ++ tail) := by
  let kept := trimStart characters
  refine ⟨characters.takeWhile isBlank, (kept.reverse.takeWhile isBlank).reverse, ?_, ?_, ?_⟩
  · exact fun _ => List.mem_takeWhile_imp
  · exact fun _ member => List.mem_takeWhile_imp (List.mem_reverse.1 member)
  · have ends : trimChars characters ++ (kept.reverse.takeWhile isBlank).reverse = kept := by
      rw [trimChars, trimEnd, ← List.reverse_append, List.takeWhile_append_dropWhile,
        List.reverse_reverse]
    rw [ends]
    exact List.takeWhile_append_dropWhile.symm

theorem words_of_trimmed {text : String} {found : List (List Char)}
    (split : words (String.ofList (trimChars text.toList)) = .ok found) :
    words text = .ok found := by
  obtain ⟨lead, tail, leadBlank, tailBlank, spelled⟩ := exists_trimmed text.toList
  have apart : ∀ first ∈ tail.head?, isBlank first = true :=
    fun first leads => tailBlank first (List.mem_of_mem_head? leads)
  have nothing : wordsFrom text .bare none tail = .ok [] := by
    have skipped : wordsFrom text .bare none (tail ++ []) = wordsFrom text .bare none [] :=
      wordsFrom_blanks tailBlank
    simpa [wordsFrom_nil] using skipped
  unfold words at split ⊢
  rw [String.toList_ofList] at split
  rw [spelled, wordsFrom_blanks leadBlank, wordsFrom_append split apart, nothing]
  simp [Except.map]

end Provisioning.Text
