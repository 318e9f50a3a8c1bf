import Mathlib.Data.List.Basic
import Provisioning.Text.Blank

/-!
Cutting a text at breaks: what the stretches between the breaks hold, and where the first of them
ends.
-/

namespace Provisioning.Text

theorem stretches_eq_splitOnP (isBreak : Char → Bool) (characters : List Char) :
    stretches isBreak characters = characters.splitOnP isBreak := by
  induction characters with
  | nil => rfl
  | cons character rest ih =>
      rw [stretches, List.splitOnP_cons_eq_if_modifyHead, ih]
      split
      · rfl
      · cases split : rest.splitOnP isBreak with
        | nil => exact absurd split (List.splitOnP_ne_nil isBreak rest)
        | cons first others => rfl

variable {isBreak : Char → Bool} {characters rest : List Char}

theorem stretches_cons (character : Char) :
    stretches isBreak (character :: rest) =
      if isBreak character then [] :: stretches isBreak rest
      else (stretches isBreak rest).modifyHead (character :: ·) := by
  simp only [stretches_eq_splitOnP, List.splitOnP_cons_eq_if_modifyHead]

theorem exists_stretches (isBreak : Char → Bool) (characters : List Char) :
    ∃ first others, stretches isBreak characters = first :: others := by
  rw [stretches_eq_splitOnP]
  exact List.exists_cons_of_ne_nil (List.splitOnP_ne_nil isBreak characters)

theorem stretches_append (unbroken : ∀ character ∈ characters, isBreak character = false) :
    stretches isBreak (characters ++ rest) =
      (stretches isBreak rest).modifyHead (characters ++ ·) := by
  obtain ⟨first, others, split⟩ := exists_stretches isBreak rest
  induction characters with
  | nil => simp [split]
  | cons character characters ih =>
      obtain ⟨plain, later⟩ := List.forall_mem_cons.1 unbroken
      rw [List.cons_append, stretches_cons, ih later, split]
      simp [plain]

theorem stretches_eq_cons {first : List Char} {others : List (List Char)}
    (split : stretches isBreak characters = first :: others) :
    (characters = first ∧ others = []) ∨
      ∃ mark after, isBreak mark = true ∧ characters = first ++ mark :: after ∧
        others = stretches isBreak after := by
  induction characters generalizing first with
  | nil =>
      obtain ⟨rfl, rfl⟩ := List.cons.inj split
      exact Or.inl ⟨rfl, rfl⟩
  | cons character rest ih =>
      rw [stretches_cons] at split
      by_cases broken : isBreak character = true
      · rw [if_pos broken] at split
        obtain ⟨rfl, rfl⟩ := List.cons.inj split
        exact Or.inr ⟨character, rest, broken, rfl, rfl⟩
      · obtain ⟨begun, later, splitRest⟩ := exists_stretches isBreak rest
        rw [if_neg broken, splitRest, List.modifyHead_cons] at split
        obtain ⟨rfl, rfl⟩ := List.cons.inj split
        rcases ih splitRest with ⟨rfl, rfl⟩ | ⟨mark, after, marks, rfl, rfl⟩
        · exact Or.inl ⟨rfl, rfl⟩
        · exact Or.inr ⟨mark, after, marks, rfl, rfl⟩

theorem flatten_stretches (isBreak : Char → Bool) (characters : List Char) :
    (stretches isBreak characters).flatten =
      characters.filter fun character => !isBreak character := by
  induction characters with
  | nil => rfl
  | cons character rest ih =>
      obtain ⟨first, others, split⟩ := exists_stretches isBreak rest
      rw [split, List.flatten_cons] at ih
      rw [stretches_cons, split]
      cases broken : isBreak character <;> simp [broken, ih]

theorem mem_of_mem_stretches {part : List Char} (listed : part ∈ stretches isBreak characters)
    {character : Char} (member : character ∈ part) : character ∈ characters := by
  have kept := List.mem_flatten_of_mem listed member
  rw [flatten_stretches] at kept
  exact List.mem_of_mem_filter kept

theorem first_eq_nil_iff {first : List Char} {others : List (List Char)}
    (split : stretches isBreak characters = first :: others) :
    first = [] ↔ characters.head?.all isBreak = true := by
  cases characters with
  | nil =>
      obtain ⟨rfl, _⟩ := List.cons.inj split
      simp
  | cons next rest =>
      obtain ⟨begun, later, splitRest⟩ := exists_stretches isBreak rest
      rw [stretches_cons, splitRest] at split
      cases broken : isBreak next with
      | true => simp_all
      | false =>
          rw [broken] at split
          obtain ⟨rfl, _⟩ := List.cons.inj split
          simp [broken]

theorem stretches_append_break {mark : Char} (marks : isBreak mark = true)
    (before after : List Char) :
    stretches isBreak (before ++ mark :: after) =
      stretches isBreak before ++ stretches isBreak after := by
  simp only [stretches_eq_splitOnP]
  exact List.splitOnP_append_cons before after marks

/-- A part lies between breaks: nothing or a break comes right before it, and right after it. -/
def LiesBetween (isBreak : Char → Bool) (characters part : List Char) : Prop :=
  ∃ before after, characters = before ++ part ++ after ∧
    (∀ mark ∈ before.getLast?, isBreak mark = true) ∧
    ∀ mark ∈ after.head?, isBreak mark = true

theorem LiesBetween.cons_break {mark : Char} (marks : isBreak mark = true) {first part : List Char}
    (lies : LiesBetween isBreak rest part) :
    LiesBetween isBreak (first ++ mark :: rest) part := by
  obtain ⟨before, after, rfl, leads, follows⟩ := lies
  refine ⟨first ++ mark :: before, after, by simp, ?_, follows⟩
  intro last ends
  cases before with
  | nil =>
      obtain rfl : mark = last := by simpa using ends
      exact marks
  | cons next before => exact leads last (by simpa using ends)

theorem mem_stretches_iff {part : List Char} :
    part ∈ stretches isBreak characters ↔
      (∀ character ∈ part, isBreak character = false) ∧
        LiesBetween isBreak characters part := by
  constructor
  · intro listed
    refine ⟨?_, ?_⟩
    · intro character member
      have kept := List.mem_flatten_of_mem listed member
      rw [flatten_stretches] at kept
      simpa using (List.mem_filter.1 kept).2
    -- By induction on the stretches: all but the first are those of what follows a break.
    · generalize split : stretches isBreak characters = parts at listed
      induction parts generalizing characters with
      | nil => cases listed
      | cons first others ih =>
          rcases stretches_eq_cons split with ⟨rfl, rfl⟩ | ⟨mark, after, marks, rfl, rfl⟩
          · obtain rfl := List.mem_singleton.1 listed
            exact ⟨[], [], by simp, by simp, by simp⟩
          · rcases List.mem_cons.1 listed with rfl | later
            · exact ⟨[], mark :: after, by simp, by simp, by simpa using marks⟩
            · exact (ih rfl later).cons_break marks
  · rintro ⟨unbroken, before, after, rfl, leads, follows⟩
    have alone : stretches isBreak part = [part] := by
      rw [stretches_eq_splitOnP]
      exact List.splitOnP_eq_singleton unbroken
    have first : part ∈ stretches isBreak (part ++ after) := by
      cases after with
      | nil => simp [alone]
      | cons mark after =>
          rw [stretches_append_break (follows mark (by simp)), alone]
          simp
    rcases List.eq_nil_or_concat before with rfl | ⟨before, mark, rfl⟩
    · simpa using first
    · rw [List.append_assoc, List.concat_eq_append, List.append_assoc, List.singleton_append,
        stretches_append_break (leads mark (by simp))]
      exact List.mem_append_right _ first

/-- A run of characters without a break that no longer one contains. -/
structure IsRun (isBreak : Char → Bool) (characters run : List Char) : Prop where
  nonempty : run ≠ []
  unbroken : ∀ character ∈ run, isBreak character = false
  maximal : LiesBetween isBreak characters run

theorem mem_tokens_iff {run : List Char} :
    run ∈ tokens isBreak characters ↔ IsRun isBreak characters run := by
  rw [tokens, List.mem_filter, mem_stretches_iff]
  constructor
  · rintro ⟨⟨unbroken, lies⟩, shown⟩
    exact ⟨by simpa using shown, unbroken, lies⟩
  · intro isRun
    exact ⟨⟨isRun.unbroken, isRun.maximal⟩, by simpa using isRun.nonempty⟩

theorem tokens_append_break {mark : Char} (marks : isBreak mark = true)
    (before after : List Char) :
    tokens isBreak (before ++ mark :: after) =
      tokens isBreak before ++ tokens isBreak after := by
  rw [tokens, stretches_append_break marks, List.filter_append]
  rfl

theorem tokens_eq_nil (breaks : ∀ mark ∈ characters, isBreak mark = true) :
    tokens isBreak characters = [] := by
  refine List.eq_nil_iff_forall_not_mem.2 ?_
  intro run listed
  obtain ⟨nonempty, unbroken, before, after, rfl, _⟩ := mem_tokens_iff.1 listed
  obtain ⟨first, rest, rfl⟩ := List.exists_cons_of_ne_nil nonempty
  have marks := breaks first (by simp)
  rw [unbroken first List.mem_cons_self] at marks
  cases marks

theorem tokens_surrounded {lead tail : List Char} (leads : ∀ mark ∈ lead, isBreak mark = true)
    (follows : ∀ mark ∈ tail, isBreak mark = true) :
    tokens isBreak (lead ++ (characters ++ tail)) = tokens isBreak characters := by
  have ended : tokens isBreak (characters ++ tail) = tokens isBreak characters := by
    cases tail with
    | nil => rw [List.append_nil]
    | cons mark tail =>
        obtain ⟨marks, later⟩ := List.forall_mem_cons.1 follows
        rw [tokens_append_break marks, tokens_eq_nil later, List.append_nil]
  rcases List.eq_nil_or_concat lead with rfl | ⟨lead, mark, rfl⟩
  · exact ended
  · rw [List.concat_eq_append] at leads ⊢
    obtain ⟨earlier, marks⟩ := List.forall_mem_append.1 leads
    rw [List.append_assoc, List.singleton_append,
      tokens_append_break (marks mark List.mem_cons_self), tokens_eq_nil earlier, ended,
      List.nil_append]

theorem splitOnce_append {mark : Char} {before : List Char} (absent : mark ∉ before)
    (after : List Char) : splitOnce mark (before ++ mark :: after) = some (before, after) := by
  induction before with
  | nil => simp [splitOnce]
  | cons character before ih =>
      obtain ⟨different, absentLater⟩ := not_or.1 (List.mem_cons.not.1 absent)
      rw [List.cons_append, splitOnce, if_neg (Ne.symm different), ih absentLater]
      rfl

end Provisioning.Text
