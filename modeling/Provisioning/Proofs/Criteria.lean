import Provisioning.Proofs.Outcome
import Provisioning.Proofs.ResolvedForm
import Provisioning.Query

/-!
Criteria taken together and one by one. They match together where each matches alone, and the first
that does not decides; a negated criterion turns the answer around and keeps the failure; a
criterion without a text asks for the presence of its key.
-/

namespace Provisioning

namespace Query

variable {data : Mapping} {lenient : Bool} {criteria : Criteria} {key text : String}

theorem matchAll_iff :
    matchAll data lenient criteria = .ok true ↔
      ∀ criterion ∈ criteria, matchCriterion data lenient criterion = .ok true := by
  induction criteria with
  | nil => simp [matchAll]
  | cons criterion rest ih =>
      rw [matchAll, List.forall_mem_cons, ← ih]
      cases matchCriterion data lenient criterion with
      | error cause => simp
      | ok matched => cases matched <;> simp [Outcome.pure_eq_ok]

theorem matchAll_error_iff (sorted : Dict.Sorted criteria) {cause : ItemError} :
    matchAll data lenient criteria = .error cause ↔
      ∃ failing ∈ criteria, matchCriterion data lenient failing = .error cause ∧
        ∀ earlier ∈ criteria, earlier.1 < failing.1 →
          matchCriterion data lenient earlier = .ok true := by
  induction criteria with
  | nil => simp [matchAll]
  | cons criterion rest ih =>
      rw [matchAll, sorted.exists_first_iff, ← ih sorted.tail]
      cases matchCriterion data lenient criterion with
      | error reason => simp
      | ok matched => cases matched <;> simp [Outcome.pure_eq_ok]

theorem matchAll_of_insert (sorted : Dict.Sorted criteria) {expected : Option String}
    (fresh : key ∉ Dict.keys criteria)
    (matched : matchAll data lenient (criteria.insert key expected) = .ok true) :
    matchAll data lenient criteria = .ok true := by
  refine matchAll_iff.2 fun criterion listed => matchAll_iff.1 matched criterion ?_
  have apart : key ≠ criterion.1 := by
    rintro rfl
    exact fresh (List.mem_map_of_mem listed)
  refine Dict.mem_of_get? ?_
  rw [Dict.get?_insert, if_neg apart]
  exact (Dict.get?_eq_some_iff sorted.nodup_keys).2 listed

theorem matchAll_singleton (criterion : String × Option String) :
    matchAll data lenient [criterion] = matchCriterion data lenient criterion := by
  rw [matchAll]
  cases matchCriterion data lenient criterion with
  | error cause => rfl
  | ok matched => cases matched <;> rfl

theorem matchCriterion_negated :
    matchCriterion data lenient (key, some ("~" ++ text)) =
      (matchKey data key (some text) lenient).map not := by
  have spelled : ("~" ++ text).toList = negationMark :: text.toList := by simp [negationMark]
  unfold matchCriterion
  simp only [spelled, if_true, String.ofList_toList]

theorem matchCriterion_plain (plain : text.toList.head? ≠ some negationMark) :
    matchCriterion data lenient (key, some text) = matchKey data key (some text) lenient := by
  unfold matchCriterion
  dsimp only
  cases spelled : text.toList with
  | nil => rfl
  | cons first rest =>
      have other : first ≠ negationMark := by
        rintro rfl
        exact plain (by simp [spelled])
      simp only [if_neg other]

theorem anyRecord_none (records : List (String × Value)) :
    anyRecord key none records = .ok false := by
  induction records with
  | nil => rfl
  | cons entry rest ih => exact ih

theorem matchKey_none :
    matchKey data key none lenient =
      .ok (data.contains key || data.contains "interfaces" && isInterfaceKey key || lenient) := by
  have unanswered : interfaceAnswers data key none = .ok false := by
    unfold interfaceAnswers
    split
    · exact anyRecord_none _
    · rfl
  unfold matchKey
  rw [unanswered]
  simp only [ite_self, Outcome.ok_bind, Bool.false_eq_true, if_false, Dict.contains]
  cases Dict.get? data key <;> simp [Outcome.pure_eq_ok]

theorem matchKey_missing (absent : data.contains key = false)
    (unasked : (data.contains "interfaces" && isInterfaceKey key) = false) :
    matchKey data key (some text) lenient = .ok false := by
  have none : Dict.get? data key = none := by simpa [Dict.contains] using absent
  unfold matchKey
  simp [unasked, none, Outcome.pure_eq_ok]

end Query

namespace Item

theorem contains_rawDict (item : Item) {key : String} (plain : key ∉ legacyAliases.map Prod.snd) :
    item.rawDict.contains key = item.hasProperty key := by
  have form : item.rawDict = item.kind.flatForm item.rawValue := rfl
  rw [Bool.eq_iff_iff, form, Dict.contains, Kind.get?_flatForm_plain plain, ← Dict.mem_keys_iff,
    Kind.keys_entries, hasProperty, Kind.hasField_iff, List.mem_map]

theorem matchesCriteria_singleton (item : Item) (criterion : String × Option String)
    (lenient : Bool) :
    item.matchesCriteria [criterion] lenient =
      Query.matchCriterion item.rawDict lenient criterion :=
  Query.matchAll_singleton criterion

theorem asksInterfaces_eq (item : Item) (key : String) :
    (item.rawDict.contains "interfaces" && isInterfaceKey key) =
      (item.hasProperty "interfaces" && isInterfaceKey key) := by
  rw [item.contains_rawDict (by decide)]

/-- Criteria match together exactly where each matches alone, and fail as the first one that does
not match. A negated criterion matches where the plain one does not and fails where it fails. A key
is present in the raw form, or as one of the interface records, or by leniency. -/
theorem matchesCriteria_conjunction (item : Item) (lenient : Bool) :
    let together (criteria : Criteria) := item.matchesCriteria criteria lenient
    let alone (criterion : String × Option String) := together [criterion]
    let hasKey (key : String) := item.rawDict.contains key = true
    let inRecords (key : String) :=
      item.hasProperty "interfaces" = true ∧ isInterfaceKey key = true
    (∀ criteria : Criteria, Dict.Sorted criteria →
      (together criteria = .ok true ↔ ∀ criterion ∈ criteria, alone criterion = .ok true) ∧
      (∀ cause, together criteria = .error cause ↔
        ∃ failing ∈ criteria, alone failing = .error cause ∧
          ∀ earlier ∈ criteria, earlier.1 < failing.1 → alone earlier = .ok true) ∧
      ∀ key expected, key ∉ Dict.keys criteria → together criteria ≠ .ok true →
        together (criteria.insert key expected) ≠ .ok true) ∧
    (∀ key text, text.toList.head? ≠ some negationMark →
      (alone (key, some ("~" ++ text)) = .ok true ↔ alone (key, some text) = .ok false) ∧
      (∀ cause, alone (key, some ("~" ++ text)) = .error cause ↔
        alone (key, some text) = .error cause) ∧
      (¬ hasKey key → ¬ inRecords key → alone (key, some text) = .ok false)) ∧
    ∀ key, alone (key, none) = .ok true ↔ hasKey key ∨ inRecords key ∨ lenient = true := by
  intro together alone hasKey inRecords
  have single (criterion : String × Option String) :
      alone criterion = Query.matchCriterion item.rawDict lenient criterion :=
    item.matchesCriteria_singleton criterion lenient
  have records (key : String) :
      (item.rawDict.contains "interfaces" && isInterfaceKey key) = true ↔ inRecords key := by
    rw [item.asksInterfaces_eq, Bool.and_eq_true]
  refine ⟨?_, ?_, ?_⟩
  · intro criteria sorted
    refine ⟨?_, ?_, ?_⟩
    · simp only [single]
      exact Query.matchAll_iff
    · intro cause
      simp only [single]
      exact Query.matchAll_error_iff sorted
    · intro key expected fresh unmatched matched
      exact unmatched (Query.matchAll_of_insert sorted fresh matched)
  · intro key text plain
    rw [single, single, Query.matchCriterion_negated, Query.matchCriterion_plain plain]
    refine ⟨?_, ?_, ?_⟩
    · simp [Outcome.map_eq_ok_iff]
    · exact fun cause => Outcome.map_eq_error_iff
    · intro absent unasked
      refine Query.matchKey_missing (by simpa [hasKey] using absent) ?_
      exact Bool.eq_false_iff.2 ((records key).not.2 unasked)
  · intro key
    rw [single]
    change Query.matchKey item.rawDict key none lenient = _ ↔ _
    rw [Query.matchKey_none, Except.ok.injEq, Bool.or_eq_true, Bool.or_eq_true, records, or_assoc]

theorem matchesCriteria_conjunction_mtu :
    let item := Item.new .system "0123456789abcdef0123456789abcdef" {}
    item.matchesCriteria [("colour", some "~blue"), ("mtu", none)] false = .ok true ∧
      item.matchesCriteria [("colour", some "blue"), ("mtu", none)] false ≠ .ok true := by
  intro item
  obtain ⟨many, written, present⟩ := item.matchesCriteria_conjunction false
  have absent : ¬ item.rawDict.contains "colour" = true := by
    rw [item.contains_rawDict (by decide)]
    decide
  have unmatched : item.matchesCriteria [("colour", some "blue")] false = .ok false :=
    (written "colour" "blue" (by decide)).2.2 absent (by decide)
  have negated : item.matchesCriteria [("colour", some "~blue")] false = .ok true :=
    (written "colour" "blue" (by decide)).1.2 unmatched
  have recorded : item.matchesCriteria [("mtu", none)] false = .ok true :=
    (present "mtu").2 (Or.inr (Or.inl (by decide)))
  have sorted (text : String) : Dict.Sorted [("colour", some text), ("mtu", none)] := by
    have before : "colour" < "mtu" := by decide
    exact List.pairwise_pair.2 before
  constructor
  · refine (many _ (sorted "~blue")).1.2 ?_
    simpa using ⟨negated, recorded⟩
  · intro matched
    have alone := (many _ (sorted "blue")).1.1 matched _ List.mem_cons_self
    simp [unmatched] at alone

end Item

end Provisioning
