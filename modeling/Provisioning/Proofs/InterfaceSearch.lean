import Provisioning.Proofs.Comparison
import Provisioning.Proofs.Dict
import Provisioning.Proofs.Outcome

/-!
Searching the interface records of an item. The first record that answers, or that cannot be
compared, decides. So an answer is found where no record of a lesser name refuses the comparison,
and where none refuses it, neither the order nor the names of the other records matter.
-/

namespace Provisioning.Query

variable {data records : Mapping} {key criterion : String} {entry : String × Value}

def Holds (key : String) (record stored : Value) : Prop :=
  ∃ attributes, record = .dict attributes ∧ Dict.get? attributes key = some stored

def Answers (key criterion : String) (entry : String × Value) : Prop :=
  entry.1 = criterion ∨
    ∃ stored, Holds key entry.2 stored ∧ compare criterion stored = .ok true

def Refuses (key criterion : String) (entry : String × Value) : Prop :=
  entry.1 ≠ criterion ∧ ∃ stored, Holds key entry.2 stored ∧ ¬ Comparable criterion stored

theorem holds_iff {record stored : Value} :
    Holds key record stored ↔
      (record.entries?.bind fun attributes => attributes.get? key) = some stored := by
  cases record <;> simp [Holds, Value.entries?]

theorem recordAnswers_of_ne (other : entry.1 ≠ criterion) :
    recordAnswers key (some criterion) entry =
      match entry.2.entries?.bind fun attributes => attributes.get? key with
      | some stored => compare criterion stored
      | none => .ok false := by
  unfold recordAnswers
  dsimp only
  exact if_neg (Ne.symm other)

theorem recordAnswers_iff :
    recordAnswers key (some criterion) entry = .ok true ↔ Answers key criterion entry := by
  by_cases named : entry.1 = criterion
  · simp [recordAnswers, Answers, named]
  · simp only [Answers, named, false_or, holds_iff]
    rw [recordAnswers_of_ne named]
    cases entry.2.entries?.bind fun attributes => attributes.get? key <;> simp

theorem recordAnswers_fails_iff :
    (∃ cause, recordAnswers key (some criterion) entry = .error cause) ↔
      Refuses key criterion entry := by
  by_cases named : entry.1 = criterion
  · simp [recordAnswers, Refuses, named]
  · have fails (stored : Value) : (∃ cause, compare criterion stored = .error cause) ↔
        ¬ Comparable criterion stored := by
      rw [← exists_compare_iff]
      cases compare criterion stored <;> simp
    simp only [Refuses, ne_eq, named, not_false_eq_true, true_and, holds_iff]
    rw [recordAnswers_of_ne named]
    cases entry.2.entries?.bind fun attributes => attributes.get? key <;> simp [fails]

theorem anyRecord_iff (sorted : Dict.Sorted records) :
    anyRecord key (some criterion) records = .ok true ↔
      ∃ hit ∈ records, Answers key criterion hit ∧
        ∀ earlier ∈ records, earlier.1 < hit.1 → ¬ Refuses key criterion earlier := by
  induction records with
  | nil => simp [anyRecord]
  | cons entry rest ih =>
      rw [anyRecord, sorted.exists_first_iff, ← ih sorted.tail, ← recordAnswers_iff,
        ← recordAnswers_fails_iff]
      cases recordAnswers key (some criterion) entry with
      | error cause => simp
      | ok answered => cases answered <;> simp [Outcome.pure_eq_ok]

theorem anyRecord_false_iff :
    anyRecord key (some criterion) records = .ok false ↔
      ∀ entry ∈ records, ¬ Answers key criterion entry ∧ ¬ Refuses key criterion entry := by
  induction records with
  | nil => simp [anyRecord]
  | cons entry rest ih =>
      rw [anyRecord, List.forall_mem_cons, ← ih, ← recordAnswers_iff, ← recordAnswers_fails_iff]
      cases recordAnswers key (some criterion) entry with
      | error cause => simp
      | ok answered => cases answered <;> simp [Outcome.pure_eq_ok]

theorem exists_anyRecord (sorted : Dict.Sorted records)
    (ready : ∀ entry ∈ records, ¬ Refuses key criterion entry) :
    ∃ found, anyRecord key (some criterion) records = .ok found ∧
      (found = true ↔ ∃ hit ∈ records, Answers key criterion hit) := by
  by_cases answered : ∃ hit ∈ records, Answers key criterion hit
  · obtain ⟨hit, listed, hits⟩ := answered
    have before : ∀ earlier ∈ records, earlier.1 < hit.1 → ¬ Refuses key criterion earlier :=
      fun earlier member _ => ready earlier member
    exact ⟨true, (anyRecord_iff sorted).2 ⟨hit, listed, hits, before⟩,
      iff_of_true rfl ⟨hit, listed, hits⟩⟩
  · refine ⟨false, anyRecord_false_iff.2 ?_, by simp [answered]⟩
    exact fun entry listed => ⟨fun hits => answered ⟨entry, listed, hits⟩, ready entry listed⟩

def renamed (rename : String → String) (records : Mapping) : Mapping :=
  Dict.ofList (records.map fun entry => (rename entry.1, entry.2))

theorem sorted_renamed (rename : String → String) (records : Mapping) :
    Dict.Sorted (renamed rename records) :=
  Dict.Sorted.ofList _

theorem mem_renamed_iff {rename : String → String}
    (distinct : ((Dict.keys records).map rename).Nodup) :
    entry ∈ renamed rename records ↔ ∃ old ∈ records, entry = (rename old.1, old.2) := by
  have names : (Dict.keys (records.map fun entry => (rename entry.1, entry.2))).Nodup := by
    simpa [Dict.keys, Function.comp_def] using distinct
  rw [← Dict.get?_eq_some_iff (sorted_renamed rename records).nodup_keys, renamed, Dict.get?_ofList names,
    Dict.get?_eq_some_iff names]
  simp [eq_comm]

section Renaming

variable {rename : String → String}

theorem answers_renamed_iff (apart : rename entry.1 = criterion ↔ entry.1 = criterion) :
    Answers key criterion (rename entry.1, entry.2) ↔ Answers key criterion entry := by
  simp [Answers, apart]

theorem refuses_renamed_iff (apart : rename entry.1 = criterion ↔ entry.1 = criterion) :
    Refuses key criterion (rename entry.1, entry.2) ↔ Refuses key criterion entry := by
  simp [Refuses, apart]

theorem anyRecord_renamed (sorted : Dict.Sorted records)
    (distinct : ((Dict.keys records).map rename).Nodup)
    (apart : ∀ entry ∈ records, rename entry.1 = criterion ↔ entry.1 = criterion)
    (ready : ∀ entry ∈ records, ¬ Refuses key criterion entry) :
    anyRecord key (some criterion) (renamed rename records) =
      anyRecord key (some criterion) records := by
  have readyRenamed : ∀ entry ∈ renamed rename records, ¬ Refuses key criterion entry := by
    intro entry listed
    obtain ⟨old, member, rfl⟩ := (mem_renamed_iff distinct).1 listed
    exact (refuses_renamed_iff (apart old member)).not.2 (ready old member)
  obtain ⟨found, given, exact⟩ := exists_anyRecord sorted ready
  obtain ⟨foundRenamed, givenRenamed, exactRenamed⟩ :=
    exists_anyRecord (sorted_renamed rename records) readyRenamed
  have same : foundRenamed = found := by
    rw [Bool.eq_iff_iff, exact, exactRenamed]
    constructor
    · rintro ⟨hit, listed, hits⟩
      obtain ⟨old, member, rfl⟩ := (mem_renamed_iff distinct).1 listed
      exact ⟨old, member, (answers_renamed_iff (apart old member)).1 hits⟩
    · rintro ⟨old, member, hits⟩
      exact ⟨(rename old.1, old.2), (mem_renamed_iff distinct).2 ⟨old, member, rfl⟩,
        (answers_renamed_iff (apart old member)).2 hits⟩
  rw [given, givenRenamed, same]

end Renaming

theorem matchKey_records (held : Dict.get? data "interfaces" = some (.dict records))
    (asked : isInterfaceKey key = true) (criterion : String) (lenient : Bool) :
    matchKey data key (some criterion) lenient =
      (do
        if ← anyRecord key (some criterion) records then
          return true
        else
          match Dict.get? data key with
          | some stored => compare criterion stored
          | none => return false) := by
  unfold matchKey interfaceAnswers
  simp only [Dict.contains, held, asked, Option.isSome_some, Bool.and_self, if_true,
    Option.bind_some, Value.entries?]
  cases anyRecord key (some criterion) records with
  | error cause => rfl
  | ok found =>
      cases found with
      | true => rfl
      | false => cases Dict.get? data key <;> rfl

section Records

variable (held : Dict.get? data "interfaces" = some (.dict records))
  (sorted : Dict.Sorted records) (asked : isInterfaceKey key = true) (lenient : Bool)

include held sorted asked

theorem matchKey_iff_of_answers (answered : ∃ hit ∈ records, Answers key criterion hit) :
    matchKey data key (some criterion) lenient = .ok true ↔
      ∃ hit ∈ records, Answers key criterion hit ∧
        ∀ earlier ∈ records, earlier.1 < hit.1 → ¬ Refuses key criterion earlier := by
  rw [← anyRecord_iff sorted, matchKey_records held asked]
  cases outcome : anyRecord key (some criterion) records with
  | error cause => simp
  | ok found =>
      cases found with
      | true => simp [Outcome.pure_eq_ok]
      | false =>
          obtain ⟨hit, listed, hits⟩ := answered
          exact absurd hits (anyRecord_false_iff.1 outcome hit listed).1

theorem matchKey_renamed {rename : String → String}
    (distinct : ((Dict.keys records).map rename).Nodup)
    (apart : ∀ name ∈ Dict.keys records,
      rename name = name ∨ name ≠ criterion ∧ rename name ≠ criterion)
    (ready : ∀ entry ∈ records, ¬ Refuses key criterion entry) :
    matchKey (data.insert "interfaces" (.dict (renamed rename records))) key (some criterion)
        lenient =
      matchKey data key (some criterion) lenient := by
  have elsewhere : "interfaces" ≠ key := by
    rintro rfl
    exact absurd asked (by decide)
  have heldRenamed : Dict.get? (data.insert "interfaces" (.dict (renamed rename records)))
      "interfaces" = some (.dict (renamed rename records)) := by
    rw [Dict.get?_insert, if_pos rfl]
  have sameNames : ∀ entry ∈ records, rename entry.1 = criterion ↔ entry.1 = criterion := by
    intro entry listed
    rcases apart entry.1 (List.mem_map_of_mem listed) with kept | ⟨other, otherRenamed⟩
    · rw [kept]
    · simp [other, otherRenamed]
  rw [matchKey_records heldRenamed asked, matchKey_records held asked,
    anyRecord_renamed sorted distinct sameNames ready, Dict.get?_insert, if_neg elsewhere]

end Records

/-- Of the records that answer, one decides exactly where no refusing record has a lesser name. Where
no record refuses, one that answers is always found, and other names for the records that are not
asked for by name change nothing. -/
theorem matchKey_over_records (held : Dict.get? data "interfaces" = some (.dict records))
    (sorted : Dict.Sorted records) (asked : isInterfaceKey key = true) (criterion : String)
    (lenient : Bool) :
    ((∃ hit ∈ records, Answers key criterion hit) →
      (matchKey data key (some criterion) lenient = .ok true ↔
        ∃ hit ∈ records, Answers key criterion hit ∧
          ∀ earlier ∈ records, earlier.1 < hit.1 → ¬ Refuses key criterion earlier)) ∧
    ((∀ entry ∈ records, ¬ Refuses key criterion entry) →
      ((∃ hit ∈ records, Answers key criterion hit) →
        matchKey data key (some criterion) lenient = .ok true) ∧
      ∀ rename : String → String, ((Dict.keys records).map rename).Nodup →
        (∀ name ∈ Dict.keys records,
          rename name = name ∨ name ≠ criterion ∧ rename name ≠ criterion) →
        matchKey (data.insert "interfaces" (.dict (renamed rename records))) key (some criterion)
            lenient =
          matchKey data key (some criterion) lenient) := by
  refine ⟨matchKey_iff_of_answers held sorted asked lenient, ?_⟩
  intro ready
  refine ⟨?_, ?_⟩
  · intro answered
    obtain ⟨hit, listed, hits⟩ := answered
    have before : ∀ earlier ∈ records, earlier.1 < hit.1 → ¬ Refuses key criterion earlier :=
      fun earlier member _ => ready earlier member
    exact (matchKey_iff_of_answers held sorted asked lenient ⟨hit, listed, hits⟩).2
      ⟨hit, listed, hits, before⟩
  · exact fun rename distinct apart =>
      matchKey_renamed held sorted asked lenient distinct apart ready

theorem matchKey_over_records_mtu :
    let slow := Value.dict [("mtu", .str "1500")]
    let fast := Value.dict [("mtu", .str "9000")]
    let data (records : Mapping) : Mapping := [("interfaces", .dict records)]
    let records : Mapping := [("eth0", fast), ("eth1", slow), ("eth2", .dict [("mtu", .null)])]
    let readable : Mapping := [("eth0", slow), ("eth1", fast)]
    let rename (name : String) := if name = "eth0" then "eth2" else name
    matchKey (data records) "mtu" (some "9000") false = .ok true ∧
      matchKey ((data readable).insert "interfaces" (.dict (renamed rename readable))) "mtu"
        (some "9000") false = .ok true := by
  intro slow fast data records readable rename
  have held (records : Mapping) :
      Dict.get? (data records) "interfaces" = some (.dict records) := rfl
  have fastAnswers (name : String) : Answers "mtu" "9000" (name, fast) :=
    Or.inr ⟨.str "9000", ⟨_, rfl, rfl⟩, by rfl⟩
  refine ⟨?_, ?_⟩
  · have sorted : Dict.Sorted records := by
      simp only [Dict.Sorted, records]
      decide
    have first : ("eth0", fast) ∈ records := by simp [records]
    have least : ∀ earlier ∈ records, ¬ earlier.1 < "eth0" := by
      simp only [records, List.forall_mem_cons]
      decide
    refine ((matchKey_over_records (held records) sorted (by decide) "9000" false).1
      ⟨_, first, fastAnswers "eth0"⟩).2 ⟨_, first, fastAnswers "eth0", ?_⟩
    exact fun earlier listed before => absurd before (least earlier listed)
  · have sorted : Dict.Sorted readable := by
      simp only [Dict.Sorted, readable]
      decide
    have ready : ∀ entry ∈ readable, ¬ Refuses "mtu" "9000" entry := by
      simp [readable, Refuses, Holds, slow, fast, Dict.get?, Comparable]
    obtain ⟨found, kept⟩ :=
      (matchKey_over_records (held readable) sorted (by decide) "9000" false).2 ready
    rw [kept rename (by decide) (by decide)]
    exact found ⟨("eth1", fast), by simp [readable], fastAnswers "eth1"⟩

/-- A record that cannot be compared hides those of greater names, and so a new name for it can turn
a match into a failure. -/
theorem matchKey_behind_refusal :
    let odd := Value.dict [("mtu", .int 1500)]
    let fast := Value.dict [("mtu", .str "9000")]
    let data (records : Mapping) : Mapping := [("interfaces", .dict records)]
    compare "9000" (.str "9000") = .ok true ∧
      matchKey (data [("eth0", odd), ("eth1", fast)]) "mtu" (some "9000") false =
        .error (.incomparable .int) ∧
      matchKey (data [("eth0", odd), ("eth1", fast)]) "mtu" (some "eth1") false =
        .error (.incomparable .int) ∧
      matchKey (data [("eth1", fast), ("eth2", odd)]) "mtu" (some "9000") false = .ok true := by
  refine ⟨by rfl, by rfl, by rfl, by rfl⟩

end Provisioning.Query
