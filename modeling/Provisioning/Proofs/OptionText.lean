import Provisioning.Options
import Provisioning.Proofs.Stretches
import Provisioning.Proofs.Words

/-!
Pairs within a word. A comma after which no pair follows belongs to the value before it, except that
of several commas in a row one stays, and none at the end of the word.
-/

namespace Provisioning.Options

/-- Without the commas that another comma or the end of the text follows. -/
def singleCommas : List Char → List Char
  | [] => []
  | character :: rest =>
      if character = ',' ∧ rest.head?.all (· == ',') then
        singleCommas rest
      else
        character :: singleCommas rest

/-- The parts of a text between commas, each with the comma before it; empty parts leave none. -/
def commaParts (parts : List (List Char)) : List Char :=
  (parts.filter fun part => !part.isEmpty).flatMap (',' :: ·)

theorem singleCommas_eq {text first : List Char} {others : List (List Char)}
    (split : Text.stretches (· == ',') text = first :: others) :
    singleCommas text = first ++ commaParts others := by
  induction text generalizing first others with
  | nil =>
      obtain ⟨rfl, rfl⟩ := List.cons.inj split
      rfl
  | cons character rest ih =>
      obtain ⟨begun, later, splitRest⟩ := Text.exists_stretches (· == ',') rest
      rw [Text.stretches_cons, splitRest] at split
      by_cases comma : character = ','
      · subst comma
        obtain ⟨rfl, rfl⟩ := List.cons.inj split
        rw [singleCommas, ih splitRest]
        have followed := Text.first_eq_nil_iff splitRest
        by_cases empty : begun = []
        · rw [if_pos ⟨rfl, followed.1 empty⟩]
          simp [commaParts, empty]
        · rw [if_neg fun dropped => empty (followed.2 dropped.2)]
          simp [commaParts, empty]
      · rw [if_neg (by simpa using comma)] at split
        obtain ⟨rfl, rfl⟩ := List.cons.inj split
        rw [singleCommas, if_neg (by simp [comma]), ih splitRest]
        rfl

theorem gluedFrom_of_forall_not_mem {parts : List (List Char)} (bare : ∀ part ∈ parts, '=' ∉ part)
    (piece : List Char) : gluedFrom piece parts = [piece ++ parts.flatMap (',' :: ·)] := by
  induction parts generalizing piece with
  | nil => simp [gluedFrom]
  | cons part parts ih =>
      obtain ⟨bareHere, bareLater⟩ := List.forall_mem_cons.1 bare
      rw [gluedFrom, if_neg bareHere, ih bareLater, List.flatMap_cons]
      simp

theorem pieces_of_not_mem {word : List Char} (nonempty : word ≠ []) (whole : ',' ∉ word) :
    pieces word = [word] := by
  have unbroken : Text.stretches (· == ',') word = [word] := by
    rw [Text.stretches_eq_splitOnP]
    exact List.splitOnP_eq_singleton fun character member => by
      simpa using ne_of_mem_of_not_mem member whole
  simp [pieces, Text.tokens, unbroken, nonempty, gluedFrom]

theorem pieces_append {before value : List Char} (nonempty : before ≠ []) (whole : ',' ∉ before)
    (noLaterPair : ∀ first after, value = first ++ ',' :: after → '=' ∉ after) :
    pieces (before ++ value) = [before ++ singleCommas value] := by
  obtain ⟨first, others, split⟩ := Text.exists_stretches (· == ',') value
  have bare : ∀ part ∈ others, '=' ∉ part := by
    intro part listed member
    rcases Text.stretches_eq_cons split with ⟨_, rfl⟩ | ⟨mark, after, marks, spelled, rfl⟩
    · cases listed
    · rw [beq_iff_eq.1 marks] at spelled
      exact noLaterPair first after spelled (Text.mem_of_mem_stretches listed member)
  have unbroken : ∀ character ∈ before, (character == ',') = false := by
    intro character member
    simpa using ne_of_mem_of_not_mem member whole
  have parts : Text.tokens (· == ',') (before ++ value) =
      (before ++ first) :: others.filter fun part => !part.isEmpty := by
    rw [Text.tokens, Text.stretches_append unbroken, split, List.modifyHead_cons]
    simp [nonempty]
  rw [pieces, parts, singleCommas_eq split]
  dsimp only
  rw [gluedFrom_of_forall_not_mem fun part listed => bare part (List.mem_of_mem_filter listed),
    List.append_assoc]
  rfl

theorem readPiece_pair {key : List Char} (plain : '=' ∉ key) (value : List Char) :
    readPiece (key ++ '=' :: value) = (String.ofList key, .str (String.ofList value)) := by
  rw [readPiece, Text.splitOnce_append plain]

theorem length_singleCommas_le (text : List Char) : (singleCommas text).length ≤ text.length := by
  induction text with
  | nil => exact le_rfl
  | cons character rest ih =>
      rw [singleCommas]
      split
      · exact ih.trans (Nat.le_succ _)
      · exact Nat.succ_le_succ ih

theorem singleCommas_eq_self_iff {text : List Char} :
    singleCommas text = text ↔
      ∀ before after, text = before ++ ',' :: after →
        ∃ next rest, after = next :: rest ∧ next ≠ ',' := by
  induction text with
  | nil => simp [singleCommas]
  | cons character rest ih =>
      rw [singleCommas]
      by_cases dropped : character = ',' ∧ rest.head?.all (· == ',') = true
      · rw [if_pos dropped]
        constructor
        -- What is left is shorter than the text, so it cannot be all of it.
        · intro same
          have short := length_singleCommas_le rest
          rw [same, List.length_cons] at short
          omega
        · intro kept
          obtain ⟨rfl, followed⟩ := dropped
          obtain ⟨next, later, rfl, different⟩ := kept [] rest rfl
          exact absurd (by simpa using followed) different
      · rw [if_neg dropped, List.cons_inj_right, ih]
        constructor
        · intro kept before after spelled
          cases before with
          | nil =>
              obtain ⟨rfl, rfl⟩ := List.cons.inj spelled
              cases rest with
              | nil => simp at dropped
              | cons next later => exact ⟨next, later, rfl, by simpa using dropped⟩
          | cons first before => exact kept before after (List.cons.inj spelled).2
        · intro kept before after spelled
          exact kept (character :: before) after (congrArg (character :: ·) spelled)

theorem read_of_single {text key : String} {word piece : List Char} {value : Value}
    (multiple : Bool) (split : Text.words text = .ok [word]) (whole : pieces word = [piece])
    (given : readPiece piece = (key, value)) (keyed : key ≠ "") :
    read multiple text = .ok [(key, value)] := by
  simp [read, pairs, split, whole, given, Except.map, add, keyed, Dict.get?, Dict.insert]

/-- A pair whose value holds commas, but no further pair, is read as one pair. Its value is kept as
written exactly where every comma stands right before a character that is none. -/
theorem read_pair_with_commas {key value : String} (keyed : key ≠ "")
    (keyPlain : ∀ character ∈ key.toList, Text.isPlain character = true)
    (noEquals : '=' ∉ key.toList) (keyWhole : ',' ∉ key.toList)
    (valuePlain : ∀ character ∈ value.toList, Text.isPlain character = true)
    (noLaterPair : ∀ before after, value.toList = before ++ ',' :: after → '=' ∉ after)
    (multiple : Bool) :
    read multiple (key ++ "=" ++ value) =
      .ok [(key, .str (String.ofList (singleCommas value.toList)))] ∧
    (read multiple (key ++ "=" ++ value) = .ok [(key, .str value)] ↔
      ∀ before after, value.toList = before ++ ',' :: after →
        ∃ next rest, after = next :: rest ∧ next ≠ ',') := by
  have spelled : (key ++ "=" ++ value).toList = (key.toList ++ ['=']) ++ value.toList := by simp
  have words : Text.words (key ++ "=" ++ value) = .ok [(key.toList ++ ['=']) ++ value.toList] := by
    rw [← spelled]
    refine Text.words_plain (by simp [keyed]) ?_
    rw [spelled, List.forall_mem_append, List.forall_mem_append, List.forall_mem_singleton]
    exact ⟨⟨keyPlain, by decide⟩, valuePlain⟩
  have whole : ',' ∉ key.toList ++ ['='] := by simp [keyWhole]
  have given : readPiece ((key.toList ++ ['=']) ++ singleCommas value.toList) =
      (key, .str (String.ofList (singleCommas value.toList))) := by
    rw [List.append_assoc, List.singleton_append, readPiece_pair noEquals, String.ofList_toList]
  have read := read_of_single multiple words (pieces_append (by simp) whole noLaterPair) given keyed
  refine ⟨read, ?_⟩
  rw [read, ← singleCommas_eq_self_iff]
  constructor
  · intro same
    have kept : String.ofList (singleCommas value.toList) = value := by simpa using same
    simpa using congrArg String.toList kept
  · intro kept
    rw [kept, String.ofList_toList]

theorem read_pair_with_commas_console :
    let value := "ttyS0,,115200,"
    (∀ character ∈ value.toList, Text.isPlain character = true) ∧ '=' ∉ value.toList ∧
      read true ("console" ++ "=" ++ value) = .ok [("console", .str "ttyS0,115200")] := by
  intro value
  have plain : ∀ character ∈ value.toList, Text.isPlain character = true :=
    List.all_eq_true.1 (by decide)
  have keyPlain : ∀ character ∈ "console".toList, Text.isPlain character = true :=
    List.all_eq_true.1 (by decide)
  have noPair : '=' ∉ value.toList := by decide
  have noLaterPair : ∀ before after, value.toList = before ++ ',' :: after → '=' ∉ after := by
    intro before after spelled member
    exact noPair (spelled ▸ List.mem_append_right before (List.mem_cons_of_mem _ member))
  have kept : String.ofList (singleCommas value.toList) = "ttyS0,115200" := by decide
  obtain ⟨read, _⟩ := read_pair_with_commas (by decide) keyPlain (by decide) (by decide) plain
    noLaterPair true
  exact ⟨plain, noPair, kept ▸ read⟩

/-- A comma before another one is lost, though it separates nothing. -/
theorem read_pair_loses_comma :
    let value := "1,,2"
    (∀ character ∈ value.toList, Text.isPlain character = true) ∧ '=' ∉ value.toList ∧
      ∀ multiple, read multiple ("k" ++ "=" ++ value) = .ok [("k", .str "1,2")] ∧
        read multiple ("k" ++ "=" ++ value) ≠ .ok [("k", .str value)] := by
  refine ⟨List.all_eq_true.1 (by decide), by decide, ?_⟩
  intro multiple
  have read : read multiple "k=1,,2" = .ok [("k", .str "1,2")] := by cases multiple <;> rfl
  refine ⟨read, ?_⟩
  intro kept
  have same := read.symm.trans kept
  simp at same

end Provisioning.Options
