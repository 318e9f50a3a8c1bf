import Mathlib.Data.List.Induction
import Provisioning.Proofs.Dict
import Provisioning.Proofs.OptionText
import Provisioning.Proofs.OrderedValue

/-!
What a text of options gives to each key. The pairs of a key are kept in order, or the last of them
is; this does not depend on how the text is cut into parts, and any pairs can be written down.
-/

namespace Provisioning

def valuesAt {α : Type} (key : String) (given : List (String × α)) : List α :=
  (given.filter fun pair => pair.1 == key).map Prod.snd

theorem mem_valuesAt {α : Type} {key : String} {value : α} {given : List (String × α)} :
    value ∈ valuesAt key given ↔ (key, value) ∈ given := by
  simp [valuesAt]

theorem valuesAt_append {α : Type} (key : String) (given later : List (String × α)) :
    valuesAt key (given ++ later) = valuesAt key given ++ valuesAt key later := by
  simp [valuesAt]

theorem valuesAt_map {α β : Type} (key : String) (change : α → β) (given : List (String × α)) :
    valuesAt key (given.map fun pair => (pair.1, change pair.2)) =
      (valuesAt key given).map change := by
  simp [valuesAt, List.filter_map, Function.comp_def]

namespace Value

def spread : Value → List Value
  | .list items => items
  | value => [value]

end Value

namespace Options

inductive Single : Value → Prop
  | bare : Single .null
  | text (text : String) : Single (.str text)

inductive Gathered : Value → Prop
  | single {value} : Single value → Gathered value
  | several {values} : (∀ value ∈ values, Single value) → Gathered (.list values)

def collected : List Value → Option Value
  | [] => none
  | [value] => some value
  | values => some (.list values)

def kept (multiple : Bool) (values : List Value) : Option Value :=
  if multiple then collected values else values.getLast?

def joined (multiple : Bool) : Option Value → Option Value → Option Value
  | some first, some second =>
      if multiple then some (.list (first.spread ++ second.spread)) else some second
  | first, second => second.or first

theorem readPiece_single (piece : List Char) : Single (readPiece piece).2 := by
  unfold readPiece
  split
  · exact .text _
  · exact .bare

variable {multiple : Bool} {text key : String} {given : List (String × Value)} {options : Mapping}

theorem pairs_single (found : pairs text = .ok given) : ∀ pair ∈ given, Single pair.2 := by
  obtain ⟨words, _, rfl⟩ := Outcome.map_eq_ok_iff.1 found
  intro pair member
  obtain ⟨piece, _, rfl⟩ := List.mem_map.1 member
  exact readPiece_single piece

theorem get?_add (multiple : Bool) (options : Mapping) (pair : String × Value) (keyed : key ≠ "") :
    Dict.get? (add multiple options pair) key =
      if pair.1 = key then
        match multiple, Dict.get? options key with
        | true, some stored => some (collect stored pair.2)
        | _, _ => some pair.2
      else
        Dict.get? options key := by
  obtain ⟨name, value⟩ := pair
  unfold add
  dsimp only
  split
  · rename_i unnamed
    rw [if_neg (unnamed ▸ Ne.symm keyed)]
  · by_cases same : name = key
    · subst same
      split <;> simp_all [Dict.get?_insert]
    · split <;> simp [Dict.get?_insert, same]

theorem Single.collect_eq {value : Value} (single : Single value) (added : Value) :
    collect value added = .list [value, added] := by
  cases single <;> rfl

theorem Single.spread_eq {value : Value} (single : Single value) : value.spread = [value] := by
  cases single <;> rfl

theorem kept_concat {values : List Value} (single : ∀ value ∈ values, Single value)
    (multiple : Bool) (added : Value) :
    kept multiple (values ++ [added]) =
      match multiple, kept multiple values with
      | true, some stored => some (collect stored added)
      | _, _ => some added := by
  cases multiple with
  | false => simp [kept]
  | true =>
      match values with
      | [] => rfl
      | [value] =>
          simp [kept, collected, (single value List.mem_cons_self).collect_eq]
      | first :: second :: values => rfl

theorem get?_foldl_add (single : ∀ pair ∈ given, Single pair.2) (multiple : Bool)
    (keyed : key ≠ "") :
    Dict.get? (given.foldl (add multiple) []) key = kept multiple (valuesAt key given) := by
  induction given using List.reverseRecOn with
  | nil => cases multiple <;> rfl
  | append_singleton given pair ih =>
      have later := ih fun other member => single other (List.mem_append_left _ member)
      have valuesSingle : ∀ value ∈ valuesAt key given, Single value := fun value member =>
        single (key, value) (List.mem_append_left _ (mem_valuesAt.1 member))
      rw [List.foldl_append, List.foldl_cons, List.foldl_nil, get?_add _ _ _ keyed, later,
        valuesAt_append]
      by_cases same : pair.1 = key
      · rw [if_pos same, ← kept_concat valuesSingle]
        simp [valuesAt, same]
      · rw [if_neg same]
        simp [valuesAt, same]

theorem exists_read (found : pairs text = .ok given) (multiple : Bool) :
    ∃ options, read multiple text = .ok options ∧ Dict.Sorted options ∧
      ∀ key, Dict.get? options key =
        if key = "" then none else kept multiple (valuesAt key given) := by
  have whole : read multiple text = .ok (given.foldl (add multiple) []) := by
    rw [read, found]
    rfl
  obtain ⟨ordered, unnamed⟩ := read_ok whole
  refine ⟨_, whole, ordered.sorted, ?_⟩
  intro key
  split
  · rename_i empty
    exact empty ▸ unnamed
  · rename_i keyed
    exact get?_foldl_add (pairs_single found) multiple keyed

theorem get?_of_read (found : pairs text = .ok given) (read : read multiple text = .ok options)
    (key : String) :
    Dict.get? options key = if key = "" then none else kept multiple (valuesAt key given) := by
  obtain ⟨same, again, _, lookups⟩ := exists_read found multiple
  obtain rfl : same = options := Except.ok.inj (again.symm.trans read)
  exact lookups key

theorem gathered_of_kept {values : List Value} (single : ∀ value ∈ values, Single value)
    {value : Value} (held : kept multiple values = some value) : Gathered value := by
  cases multiple with
  | false => exact .single (single value (List.mem_of_getLast? held))
  | true =>
      match values with
      | [] => cases held
      | [only] =>
          cases held
          exact .single (single value List.mem_cons_self)
      | first :: second :: values =>
          cases held
          exact .several single

theorem gathered_of_read (read : read multiple text = .ok options) {value : Value}
    (held : Dict.get? options key = some value) : Gathered value := by
  obtain ⟨given, found, _⟩ := Outcome.map_eq_ok_iff.1 read
  rw [get?_of_read found read] at held
  split at held
  · cases held
  · exact gathered_of_kept
      (fun other member => pairs_single found (key, other) (mem_valuesAt.1 member)) held

theorem kept_nil (multiple : Bool) : kept multiple [] = none := by
  cases multiple <;> rfl

theorem joined_none_left (multiple : Bool) (second : Option Value) :
    joined multiple none second = second := by
  cases second <;> rfl

theorem joined_none_right (multiple : Bool) (first : Option Value) :
    joined multiple first none = first := by
  cases first <;> rfl

theorem exists_collected {values : List Value} (single : ∀ value ∈ values, Single value)
    (nonempty : values ≠ []) :
    ∃ value, collected values = some value ∧ value.spread = values :=
  match values with
  | [] => absurd rfl nonempty
  | [value] => ⟨value, rfl, (single value List.mem_cons_self).spread_eq⟩
  | first :: second :: values => ⟨.list (first :: second :: values), rfl, rfl⟩

theorem collected_append {first second : List Value} (firstNonempty : first ≠ [])
    (secondNonempty : second ≠ []) :
    collected (first ++ second) = some (.list (first ++ second)) := by
  obtain ⟨value, values, rfl⟩ := List.exists_cons_of_ne_nil firstNonempty
  obtain ⟨other, others, rfl⟩ := List.exists_cons_of_ne_nil secondNonempty
  cases values <;> rfl

theorem kept_append {first second : List Value} (firstSingle : ∀ value ∈ first, Single value)
    (secondSingle : ∀ value ∈ second, Single value) (multiple : Bool) :
    kept multiple (first ++ second) =
      joined multiple (kept multiple first) (kept multiple second) := by
  by_cases noFirst : first = []
  · rw [noFirst, List.nil_append, kept_nil, joined_none_left]
  by_cases noSecond : second = []
  · rw [noSecond, List.append_nil, kept_nil, joined_none_right]
  cases multiple with
  | false =>
      simp only [kept, Bool.false_eq_true, if_false, List.getLast?_append]
      cases first.getLast? <;> cases second.getLast? <;> rfl
  | true =>
      obtain ⟨before, firstKept, firstSpread⟩ := exists_collected firstSingle noFirst
      obtain ⟨after, secondKept, secondSpread⟩ := exists_collected secondSingle noSecond
      simp only [kept, if_true, collected_append noFirst noSecond, firstKept, secondKept, joined,
        firstSpread, secondSpread]

theorem pairs_append {first second : String} {before after : List (String × Value)} {blank : Char}
    (firstFound : pairs first = .ok before) (secondFound : pairs second = .ok after)
    (isBlank : Text.isBlank blank = true) :
    pairs (first ++ String.singleton blank ++ second) = .ok (before ++ after) := by
  obtain ⟨firstWords, firstSplit, rfl⟩ := Outcome.map_eq_ok_iff.1 firstFound
  obtain ⟨secondWords, secondSplit, rfl⟩ := Outcome.map_eq_ok_iff.1 secondFound
  rw [pairs, Text.words_append firstSplit secondSplit isBlank]
  simp [Except.map]

/-- Two texts with a blank between them are read apart, and at every key what they give is joined:
the later value wins, or all values are collected in order. -/
theorem read_append {multiple : Bool} {first second : String} {before after : Mapping}
    {blank : Char} (firstRead : read multiple first = .ok before)
    (secondRead : read multiple second = .ok after) (isBlank : Text.isBlank blank = true) :
    ∃ options, read multiple (first ++ String.singleton blank ++ second) = .ok options ∧
      Dict.Sorted options ∧
      (∀ key, key ∈ Dict.keys options ↔ key ∈ Dict.keys before ∨ key ∈ Dict.keys after) ∧
      ∀ key, Dict.get? options key =
        joined multiple (Dict.get? before key) (Dict.get? after key) := by
  obtain ⟨given, firstFound, _⟩ := Outcome.map_eq_ok_iff.1 firstRead
  obtain ⟨later, secondFound, _⟩ := Outcome.map_eq_ok_iff.1 secondRead
  obtain ⟨options, whole, sorted, atKey⟩ :=
    exists_read (pairs_append firstFound secondFound isBlank) multiple
  have lookups (key : String) : Dict.get? options key =
      joined multiple (Dict.get? before key) (Dict.get? after key) := by
    rw [atKey, get?_of_read firstFound firstRead, get?_of_read secondFound secondRead]
    split
    · rfl
    · rw [valuesAt_append, kept_append]
      · exact fun value member => pairs_single firstFound (key, value) (mem_valuesAt.1 member)
      · exact fun value member => pairs_single secondFound (key, value) (mem_valuesAt.1 member)
  refine ⟨options, whole, sorted, ?_, lookups⟩
  intro key
  rw [Dict.mem_keys_iff, Dict.mem_keys_iff, Dict.mem_keys_iff, lookups]
  cases Dict.get? before key <;> cases Dict.get? after key <;> cases multiple <;> simp [joined]

theorem read_append_console :
    read true "console=tty0 a=b" = .ok [("a", .str "b"), ("console", .str "tty0")] ∧
      read true "console=ttyS0,115200 quiet" =
        .ok [("console", .str "ttyS0,115200"), ("quiet", .null)] ∧
      ∃ options,
        read true ("console=tty0 a=b" ++ String.singleton '\t' ++ "console=ttyS0,115200 quiet") =
          .ok options ∧
        Dict.get? options "console" = some (.ofTexts ["tty0", "ttyS0,115200"]) ∧
        Dict.get? options "quiet" = some .null := by
  have first : read true "console=tty0 a=b" =
      .ok [("a", .str "b"), ("console", .str "tty0")] := by rfl
  have second : read true "console=ttyS0,115200 quiet" =
      .ok [("console", .str "ttyS0,115200"), ("quiet", .null)] := by rfl
  have tab : Text.isBlank '\t' = true := by decide
  obtain ⟨options, read, _, _, lookups⟩ := read_append first second tab
  exact ⟨first, second, options, read, lookups "console", lookups "quiet"⟩

def writtenPair (pair : String × String) : List Char :=
  Text.doubleQuoted (pair.1.toList ++ '=' :: pair.2.toList)

structure Writable (pair : String × String) : Prop where
  keyed : pair.1 ≠ ""
  keyPlain : '=' ∉ pair.1.toList
  keyWhole : ',' ∉ pair.1.toList
  valueWhole : ',' ∉ pair.2.toList

theorem pairs_written {given : List (String × String)} (writable : ∀ pair ∈ given, Writable pair)
    {text : String} (spaced : Text.Spaced (given.map writtenPair) text.toList) :
    pairs text = .ok (given.map fun pair => (pair.1, .str pair.2)) := by
  let word (pair : String × String) : List Char := pair.1.toList ++ '=' :: pair.2.toList
  have split : Text.words text = .ok (given.map word) := by
    refine Text.wordsFrom_spaced spaced ?_
    rw [List.forall₂_map_left_iff, List.forall₂_map_right_iff]
    exact List.forall₂_same.2 fun pair _ => Text.wordsFrom_doubleQuoted text (word pair)
  have read : ∀ pair ∈ given, (pieces (word pair)).map readPiece = [(pair.1, .str pair.2)] := by
    intro pair member
    obtain ⟨_, keyPlain, keyWhole, valueWhole⟩ := writable pair member
    have whole : ',' ∉ word pair := by simp [word, keyWhole, valueWhole]
    rw [pieces_of_not_mem (by simp [word]) whole, List.map_singleton, readPiece_pair keyPlain,
      String.ofList_toList, String.ofList_toList]
  rw [pairs, split]
  simp only [Except.map, List.flatMap_map, List.map_flatMap]
  rw [List.flatMap_congr read, ← List.map_eq_flatMap]

/-- Every list of pairs with plain keys and values without commas can be written down, each pair as
one quoted word. Read back, a key has its last value, or all its values in order. -/
theorem read_written {given : List (String × String)} (writable : ∀ pair ∈ given, Writable pair)
    {text : String} (spaced : Text.Spaced (given.map writtenPair) text.toList) :
    (∃ options, read false text = .ok options ∧ Dict.Sorted options ∧
      ∀ key, Dict.get? options key = (valuesAt key given).getLast?.map .str) ∧
    ∃ options, read true text = .ok options ∧ Dict.Sorted options ∧
      ∀ key, Dict.get? options key =
        match valuesAt key given with
        | [] => none
        | [value] => some (.str value)
        | values => some (.ofTexts values) := by
  have found := pairs_written writable spaced
  have lookups (multiple : Bool) : ∃ options, read multiple text = .ok options ∧
      Dict.Sorted options ∧
      ∀ key, Dict.get? options key = kept multiple ((valuesAt key given).map .str) := by
    obtain ⟨options, read, sorted, atKey⟩ := exists_read found multiple
    refine ⟨options, read, sorted, ?_⟩
    intro key
    rw [atKey, valuesAt_map]
    split
    · rename_i unnamed
      have nothing : valuesAt key given = [] := by
        refine List.eq_nil_iff_forall_not_mem.2 ?_
        exact fun value member => (writable _ (mem_valuesAt.1 member)).keyed unnamed
      rw [nothing, List.map_nil, kept_nil]
    · rfl
  constructor
  · obtain ⟨options, read, sorted, atKey⟩ := lookups false
    refine ⟨options, read, sorted, ?_⟩
    intro key
    rw [atKey, kept, if_neg Bool.false_ne_true, List.getLast?_map]
  · obtain ⟨options, read, sorted, atKey⟩ := lookups true
    refine ⟨options, read, sorted, ?_⟩
    intro key
    rw [atKey, kept, if_pos rfl]
    match valuesAt key given with
    | [] => rfl
    | [_] => rfl
    | _ :: _ :: _ => rfl

theorem read_written_quoted :
    let given := [("motd", "say \"hi\\"), ("console", "tty 0"), ("motd", "")]
    (∀ pair ∈ given, Writable pair) ∧ ∃ options,
      read true "\"motd=say \\\"hi\\\\\"  \"console=tty 0\"\t\"motd=\"" = .ok options ∧
      Dict.get? options "motd" = some (.ofTexts ["say \"hi\\", ""]) ∧
      Dict.get? options "console" = some (.str "tty 0") := by
  intro given
  have writable : ∀ pair ∈ given, Writable pair := by
    intro pair member
    simp only [given, List.mem_cons, List.not_mem_nil, or_false] at member
    rcases member with rfl | rfl | rfl <;> exact ⟨by decide, by decide, by decide, by decide⟩
  have spaced : Text.Spaced (given.map writtenPair)
      "\"motd=say \\\"hi\\\\\"  \"console=tty 0\"\t\"motd=\"".toList := by
    have later : Text.Spaced [writtenPair ("console", "tty 0"), writtenPair ("motd", "")]
        (writtenPair ("console", "tty 0") ++ ['\t'] ++ writtenPair ("motd", "")) :=
      .cons (by decide) (List.all_eq_true.1 (by decide)) (.single _)
    have all : Text.Spaced (given.map writtenPair)
        (writtenPair ("motd", "say \"hi\\") ++ [' ', ' '] ++
          (writtenPair ("console", "tty 0") ++ ['\t'] ++ writtenPair ("motd", ""))) :=
      .cons (by decide) (List.all_eq_true.1 (by decide)) later
    exact all
  obtain ⟨_, options, read, _, lookups⟩ := read_written writable spaced
  exact ⟨writable, options, read, lookups "motd", lookups "console"⟩

end Options

end Provisioning
