import Provisioning.Proofs.FieldWrites
import Provisioning.Proofs.RawForm

/-!
Writing a whole dictionary. The keys that name a field are written in key order, which is the order
of their bytes, up to the first that is refused; where none is, the keys that name no field are
reported together. Keys that name different fields may be written in any order.
-/

namespace Provisioning

namespace Kind

def knows (kind : Kind) (key : String) : Bool :=
  kind.hasField (Text.lower key)

def knownEntries (kind : Kind) (entries : List (String × Value)) : List (String × Value) :=
  entries.filter fun entry => kind.knows entry.1

def unknownKeys (kind : Kind) (entries : List (String × Value)) : List String :=
  (entries.filter fun entry => !kind.knows entry.1).map Prod.fst

theorem mem_knownEntries {kind : Kind} {entries : List (String × Value)} {entry : String × Value} :
    entry ∈ kind.knownEntries entries ↔ entry ∈ entries ∧ kind.knows entry.1 = true :=
  List.mem_filter

theorem computed_is_derived (kind : Kind) : ∀ field ∈ kind.fields,
    field.name ∈ computedFields.map Prod.snd → field.isDerived = true :=
  kind.forall_fields (by decide)

theorem pairwise_unknownKeys (kind : Kind) {dictionary : Mapping}
    (sorted : Dict.Sorted dictionary) : (kind.unknownKeys dictionary).Pairwise (· < ·) :=
  List.pairwise_map.2 (sorted.sublist List.filter_sublist)

end Kind

namespace Item

def writeEntry (item : Item) (entry : String × Value) : Except ItemError Item :=
  item.set (Text.lower entry.1) entry.2

def writeEntries (item : Item) (entries : List (String × Value)) : Except ItemError Item :=
  entries.foldlM writeEntry item

variable {item written : Item} {entries : List (String × Value)}

theorem writeEntries_cons_iff {entry : String × Value} :
    item.writeEntries (entry :: entries) = .ok written ↔
      ∃ middle, item.writeEntry entry = .ok middle ∧ middle.writeEntries entries = .ok written := by
  unfold writeEntries
  rw [List.foldlM_cons, Outcome.bind_eq_ok_iff]

theorem writeEntries_append_iff {before after : List (String × Value)} :
    item.writeEntries (before ++ after) = .ok written ↔
      ∃ middle, item.writeEntries before = .ok middle ∧
        middle.writeEntries after = .ok written := by
  unfold writeEntries
  rw [List.foldlM_append, Outcome.bind_eq_ok_iff]

theorem writeEntries_keeps (accepted : item.writeEntries entries = .ok written) :
    item.Keeps written := by
  induction entries generalizing item with
  | nil =>
      cases accepted
      exact ⟨rfl, rfl⟩
  | cons entry entries ih =>
      obtain ⟨middle, first, rest⟩ := writeEntries_cons_iff.1 accepted
      exact (set_keeps first).trans (ih rest)

theorem exists_writeEntries (each : ∀ entry ∈ entries, (item.writeEntry entry).isOk = true) :
    ∃ written, item.writeEntries entries = .ok written := by
  induction entries generalizing item with
  | nil => exact ⟨item, rfl⟩
  | cons entry entries ih =>
      have first := each entry List.mem_cons_self
      cases outcome : item.writeEntry entry with
      | error cause =>
          rw [outcome] at first
          cases first
      | ok middle =>
          have later : ∀ other ∈ entries, (middle.writeEntry other).isOk = true := by
            intro other member
            unfold writeEntry
            rw [isOk_set_eq (set_keeps outcome).1]
            exact each other (List.mem_cons_of_mem entry member)
          obtain ⟨written, rest⟩ := ih later
          exact ⟨written, writeEntries_cons_iff.2 ⟨middle, outcome, rest⟩⟩

theorem applyEntries_of_write
    (accepted : item.writeEntries (item.kind.knownEntries entries) = .ok written) :
    item.applyEntries entries = (written, .ok (item.kind.unknownKeys entries)) := by
  induction entries generalizing item with
  | nil =>
      cases accepted
      rfl
  | cons entry entries ih =>
      cases known : item.kind.knows entry.1 with
      | true =>
          have split : item.kind.knownEntries (entry :: entries) =
              entry :: item.kind.knownEntries entries := List.filter_cons_of_pos known
          have same : item.kind.unknownKeys (entry :: entries) = item.kind.unknownKeys entries := by
            simp [Kind.unknownKeys, known]
          rw [split] at accepted
          obtain ⟨middle, first, later⟩ := writeEntries_cons_iff.1 accepted
          have sameKind : middle.kind = item.kind := (set_keeps first).1
          rw [← sameKind] at later
          have applied := ih later
          rw [sameKind] at applied
          have here : item.hasProperty (Text.lower entry.1) = true := known
          have reached : item.set (Text.lower entry.1) entry.2 = .ok middle := first
          rw [same, applyEntries]
          simp only [here, if_true, reached, applied]
      | false =>
          have split : item.kind.knownEntries (entry :: entries) =
              item.kind.knownEntries entries := List.filter_cons_of_neg (by simp [known])
          have more : item.kind.unknownKeys (entry :: entries) =
              entry.1 :: item.kind.unknownKeys entries := by
            simp [Kind.unknownKeys, known]
          rw [split] at accepted
          have missing : item.hasProperty (Text.lower entry.1) = false := known
          rw [more, applyEntries]
          simp only [missing, Bool.false_eq_true, if_false, ih accepted]
          rfl

theorem applyDict_of_write
    (accepted : item.writeEntries (item.kind.knownEntries entries) = .ok written) :
    item.applyDict entries = (written,
      if item.kind.unknownKeys entries = [] then .ok ()
      else .error (.unknownFields (item.kind.unknownKeys entries))) := by
  unfold applyDict
  rw [applyEntries_of_write accepted]
  cases item.kind.unknownKeys entries <;> rfl

theorem applyDict_of_refused {entry : String × Value} {cause : ItemError}
    (accepted : item.writeEntries (item.kind.knownEntries entries) = .ok written)
    (known : item.kind.knows entry.1 = true) (refused : written.writeEntry entry = .error cause)
    (rest : List (String × Value)) :
    item.applyDict (entries ++ entry :: rest) = (written, .error cause) := by
  have sameKind : written.kind = item.kind := (writeEntries_keeps accepted).1
  have here : written.hasProperty (Text.lower entry.1) = true := by
    rw [hasProperty, sameKind]
    exact known
  have stopped : written.set (Text.lower entry.1) entry.2 = .error cause := refused
  unfold applyDict
  rw [applyEntries_append (applyEntries_of_write accepted), applyEntries]
  simp only [here, if_true, stopped, Except.map]

theorem ne_computed_of_set {name source : String} {value : Value}
    (accepted : item.set name value = .ok written) : (source, name) ∉ computedFields := by
  intro computed
  obtain ⟨field, found, _⟩ := set_eq_ok_iff.1 accepted
  obtain ⟨declared, rfl⟩ := Kind.mem_fields_of_field? found
  have derived := Kind.computed_is_derived item.kind field declared
    (List.mem_map.2 ⟨_, computed, rfl⟩)
  rw [set_derived declared derived] at accepted
  cases accepted

theorem get_of_writeEntries (accepted : item.writeEntries entries = .ok written) {name : String}
    (known : item.hasProperty name = true)
    (untouched : ∀ entry ∈ entries,
      name ≠ Text.lower entry.1 ∧ (Text.lower entry.1, name) ∉ computedFields) :
    written.get name = item.get name := by
  induction entries generalizing item with
  | nil =>
      cases accepted
      rfl
  | cons entry entries ih =>
      obtain ⟨middle, first, rest⟩ := writeEntries_cons_iff.1 accepted
      obtain ⟨different, apart⟩ := untouched entry List.mem_cons_self
      have knownStill : middle.hasProperty name = true := by
        rwa [hasProperty, (set_keeps first).1]
      rw [ih rest knownStill fun other member => untouched other (List.mem_cons_of_mem _ member)]
      exact get_of_set first known different apart

theorem get_of_last {before after : List (String × Value)} {entry : String × Value}
    (accepted : item.writeEntries (before ++ entry :: after) = .ok written)
    (last : ∀ other ∈ after, Text.lower other.1 ≠ Text.lower entry.1) :
    ∃ single, item.writeEntry entry = .ok single ∧
      written.get (Text.lower entry.1) = single.get (Text.lower entry.1) := by
  obtain ⟨reached, first, rest⟩ := writeEntries_append_iff.1 accepted
  obtain ⟨middle, here, later⟩ := writeEntries_cons_iff.1 rest
  have sameKind : item.kind = reached.kind := (writeEntries_keeps first).1.symm
  obtain ⟨single, alone, same⟩ := exists_set_get_eq sameKind here
  obtain ⟨field, found, _⟩ := set_eq_ok_iff.1 here
  have known : middle.hasProperty (Text.lower entry.1) = true := by
    rw [hasProperty, (set_keeps here).1]
    exact Option.isSome_iff_exists.2 ⟨field, found⟩
  have kept := get_of_writeEntries later known fun other member =>
    ⟨(last other member).symm, ne_computed_of_set here⟩
  exact ⟨single, alone, kept.trans same.symm⟩

theorem writeEntries_perm {others : List (String × Value)} (permuted : entries.Perm others)
    (sorted : Dict.Sorted item.slots)
    (distinct : (entries.map fun entry => Text.lower entry.1).Nodup)
    (accepted : item.writeEntries entries = .ok written) :
    item.writeEntries others = .ok written := by
  induction permuted generalizing item with
  | nil => exact accepted
  | cons entry _ ih =>
      obtain ⟨middle, first, rest⟩ := writeEntries_cons_iff.1 accepted
      have later := ih (sorted_of_set sorted first) (List.nodup_cons.1 distinct).2 rest
      exact writeEntries_cons_iff.2 ⟨middle, first, later⟩
  | swap left right entries =>
      obtain ⟨middle, first, rest⟩ := writeEntries_cons_iff.1 accepted
      obtain ⟨both, second, later⟩ := writeEntries_cons_iff.1 rest
      simp only [List.map_cons, List.nodup_cons, List.mem_cons, not_or] at distinct
      have different : Text.lower right.1 ≠ Text.lower left.1 := distinct.1.1
      obtain ⟨other, otherFirst⟩ : ∃ other, item.writeEntry left = .ok other := by
        obtain ⟨other, otherFirst, _⟩ :=
          exists_set_get_eq (set_keeps first).1.symm second
        exact ⟨other, otherFirst⟩
      obtain ⟨same, leftLast, rightLast⟩ := exists_set_set sorted different otherFirst first
      have swapped : both = same := Except.ok.inj (second.symm.trans rightLast)
      subst swapped
      exact writeEntries_cons_iff.2
        ⟨other, otherFirst, writeEntries_cons_iff.2 ⟨both, leftLast, later⟩⟩
  | trans permuted _ ih later =>
      have renamed := permuted.map fun entry : String × Value => Text.lower entry.1
      have distinctToo := renamed.nodup_iff.1 distinct
      exact later sorted distinctToo (ih sorted distinct accepted)

theorem exists_first_refused
    (some_refused : ∃ entry ∈ item.kind.knownEntries entries,
      (item.writeEntry entry).isOk = false) :
    ∃ before entry after, entries = before ++ entry :: after ∧
      item.kind.knows entry.1 = true ∧ (item.writeEntry entry).isOk = false ∧
      ∀ earlier ∈ item.kind.knownEntries before, (item.writeEntry earlier).isOk = true := by
  let refuses entry := item.kind.knows entry.1 && !(item.writeEntry entry).isOk
  obtain ⟨entry, member, refused⟩ := some_refused
  obtain ⟨listed, known⟩ := Kind.mem_knownEntries.1 member
  have present : (entries.find? refuses).isSome = true :=
    List.find?_isSome.2 ⟨entry, listed, by simp [refuses, known, refused]⟩
  obtain ⟨first, found⟩ := Option.isSome_iff_exists.1 present
  obtain ⟨stops, before, after, split, earlier⟩ := List.find?_eq_some_iff_append.1 found
  simp only [refuses, Bool.and_eq_true, Bool.not_eq_true'] at stops
  refine ⟨before, first, after, split, stops.1, stops.2, ?_⟩
  intro other otherMember
  obtain ⟨otherListed, otherKnown⟩ := Kind.mem_knownEntries.1 otherMember
  simpa [refuses, otherKnown] using earlier other otherListed

theorem get_of_last_spelling {entry : String × Value} (sorted : Dict.Sorted entries)
    (accepted : item.writeEntries entries = .ok written) (member : entry ∈ entries)
    (last : ∀ other ∈ entries, Text.lower other.1 = Text.lower entry.1 → other.1 ≤ entry.1) :
    ∃ single, item.writeEntry entry = .ok single ∧
      written.get (Text.lower entry.1) = single.get (Text.lower entry.1) := by
  obtain ⟨before, after, rfl⟩ := List.append_of_mem member
  refine get_of_last accepted ?_
  intro other later same
  have behind : entry.1 < other.1 :=
    (List.pairwise_cons.1 (List.pairwise_append.1 sorted).2.1).1 other later
  have listed : other ∈ before ++ entry :: after :=
    List.mem_append_right before (List.mem_cons_of_mem entry later)
  exact String.not_lt.2 (last other listed same) behind

/-- A dictionary is written key by key in key order. Where every key that names a field is accepted,
all of them are written and the others are reported; otherwise the first that is refused ends the
write, with those before it written and nothing after it. -/
theorem applyDict_knownEntries {item : Item} (reachable : item.Reachable) {dictionary : Mapping}
    (sorted : Dict.Sorted dictionary) :
    let known := item.kind.knownEntries dictionary
    let unknown := item.kind.unknownKeys dictionary
    unknown.Pairwise (· < ·) ∧
    ((∀ entry ∈ known, (item.writeEntry entry).isOk = true) →
      ∃ written, item.writeEntries known = .ok written ∧
        item.applyDict dictionary =
          (written, if unknown = [] then .ok () else .error (.unknownFields unknown)) ∧
        (∀ entry ∈ known,
          (∀ other ∈ known, Text.lower other.1 = Text.lower entry.1 → other.1 ≤ entry.1) →
          ∃ single, item.writeEntry entry = .ok single ∧
            written.get (Text.lower entry.1) = single.get (Text.lower entry.1)) ∧
        ((known.map fun entry => Text.lower entry.1).Nodup →
          ∀ entries, entries.Perm dictionary → (item.applyDict entries).1 = written)) ∧
    ((∃ entry ∈ known, (item.writeEntry entry).isOk = false) →
      ∃ before entry after cause written, dictionary = before ++ entry :: after ∧
        item.kind.knows entry.1 = true ∧ item.writeEntry entry = .error cause ∧
        item.writeEntries (item.kind.knownEntries before) = .ok written ∧
        ∀ later, item.applyDict (before ++ entry :: later) = (written, .error cause)) := by
  intro known unknown
  refine ⟨item.kind.pairwise_unknownKeys sorted, ?_, ?_⟩
  · intro each
    obtain ⟨written, accepted⟩ := exists_writeEntries each
    refine ⟨written, accepted, applyDict_of_write accepted, ?_, ?_⟩
    · intro entry member last
      exact get_of_last_spelling (sorted.sublist List.filter_sublist) accepted member last
    · intro distinct entries permuted
      have reordered : item.writeEntries (item.kind.knownEntries entries) = .ok written :=
        writeEntries_perm (permuted.filter _).symm reachable.wellFormed.sorted distinct accepted
      rw [applyDict_of_write reordered]
  · intro refused
    obtain ⟨before, entry, after, split, named, refuses, each⟩ := exists_first_refused refused
    obtain ⟨written, accepted⟩ := exists_writeEntries each
    cases outcome : item.writeEntry entry with
    | ok reached =>
        rw [outcome] at refuses
        cases refuses
    | error cause =>
        have stopped : written.writeEntry entry = .error cause :=
          set_error_of_sameKind (writeEntries_keeps accepted).1 named outcome
        exact ⟨before, entry, after, cause, written, split, named, outcome, accepted,
          applyDict_of_refused accepted named stopped⟩

theorem applyDict_knownEntries_respelled :
    let item := Item.new .profile "0123456789abcdef0123456789abcdef" {}
    let dictionary : Mapping :=
      [("COMMENT", .str "old"), ("colour", .str "blue"), ("comment", .str "new")]
    item.Reachable ∧ Dict.Sorted dictionary ∧
      (item.applyDict dictionary).2 = .error (.unknownFields ["colour"]) ∧
      (item.applyDict dictionary).1.get "comment" = .ok (.str "new") := by
  intro item dictionary
  have fresh : IsFreshUid "0123456789abcdef0123456789abcdef" := by decide
  have reachable : item.Reachable := .new .profile fresh OrderedMapping.nil
  have sorted : Dict.Sorted dictionary := by
    unfold Dict.Sorted
    decide
  have named : item.kind.unknownKeys dictionary = ["colour"] := by decide
  have each : ∀ entry ∈ item.kind.knownEntries dictionary,
      (item.writeEntry entry).isOk = true := by decide
  have lowered : Text.lower "comment" = "comment" := by decide
  have latest : ("comment", .str "new") ∈ item.kind.knownEntries dictionary :=
    Kind.mem_knownEntries.2 ⟨by simp [dictionary], by decide⟩
  obtain ⟨_, accepted, _⟩ := applyDict_knownEntries reachable sorted
  obtain ⟨written, _, applied, lastWins, _⟩ := accepted each
  obtain ⟨single, alone, same⟩ := lastWins ("comment", .str "new") latest (by decide)
  rw [writeEntry, lowered] at alone
  rw [lowered] at same
  have shown : single.get "comment" = .ok (.str "new") := by
    cases alone
    rfl
  rw [applied, named]
  exact ⟨reachable, sorted, rfl, same.trans shown⟩

end Item

end Provisioning
