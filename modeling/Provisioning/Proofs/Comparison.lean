import Provisioning.Proofs.Stretches
import Provisioning.Proofs.Words
import Provisioning.Query

/-!
Comparing a criterion with a stored value. Texts, lists and flags can always be compared, and
mappings where the criterion reads as options. A list answers where it holds every run of the
criterion, but the word that clears a list asks for nothing.
-/

namespace Provisioning

namespace Convert

theorem tokens_trimChars (characters : List Char) :
    Text.tokens isSeparator (Text.trimChars characters) = Text.tokens isSeparator characters := by
  obtain ⟨lead, tail, leadBlank, tailBlank, spelled⟩ := Text.exists_trimmed characters
  have separates : ∀ mark, Text.isBlank mark = true → isSeparator mark = true := by
    intro mark blank
    simp [isSeparator, blank]
  conv_rhs => rw [spelled]
  exact (Text.tokens_surrounded (fun mark member => separates mark (leadBlank mark member))
    (fun mark member => separates mark (tailBlank mark member))).symm

theorem splitTexts_eq (text : String) :
    splitTexts text =
      if Text.trim text = clearWord then []
      else (Text.tokens isSeparator text.toList).map String.ofList := by
  unfold splitTexts
  dsimp only
  rw [← tokens_trimChars text.toList]
  by_cases clears : Text.trim text = clearWord
  · rw [if_pos clears, if_pos]
    simp [isCleared, Text.trim_eq_iff.1 clears]
  · rw [if_neg clears]
    by_cases empty : Text.trimChars text.toList = []
    · rw [empty]
      rfl
    · rw [if_neg]
      simp [isCleared, empty, Text.trim_eq_iff.not.1 clears]

end Convert

namespace Query

variable {criterion : String} {items : List Value} {stored : Value}

def Comparable (criterion : String) : Value → Prop
  | .str _ | .list _ | .bool _ => True
  | .dict _ => ∃ wanted, Options.read true criterion = .ok wanted
  | .null | .int _ | .float _ => False

theorem exists_compare_iff :
    (∃ answer, compare criterion stored = .ok answer) ↔ Comparable criterion stored := by
  cases stored with
  | str text => exact iff_of_true ⟨_, rfl⟩ trivial
  | list items => exact iff_of_true ⟨_, rfl⟩ trivial
  | bool flag => exact iff_of_true ⟨_, rfl⟩ trivial
  | dict entries =>
      simp only [Comparable, compare]
      cases Options.read true criterion <;> simp
  | null | int number | float number => simp [Comparable, compare]

theorem holdsText_iff {token : String} : holdsText items token = true ↔ .str token ∈ items := by
  simp only [holdsText, List.any_eq_true, beq_iff_eq]
  constructor
  · rintro ⟨item, listed, text⟩
    cases item <;> simp_all [Value.text?]
  · intro listed
    exact ⟨.str token, listed, rfl⟩

theorem compare_list_iff :
    compare criterion (.list items) = .ok true ↔
      ∀ token ∈ Convert.splitTexts criterion, .str token ∈ items := by
  have answer : compare criterion (.list items) =
      .ok ((Convert.splitTexts criterion).all (holdsText items)) := rfl
  simp [answer, List.all_eq_true, holdsText_iff]

/-- A list always answers, and it answers a criterion other than the clearing word exactly where it
holds every run of it. The clearing word is answered by every list, also by one that lacks it. -/
theorem compare_list_runs (criterion : String) (items : List Value) :
    let holdsEveryRun := ∀ run, Text.IsRun Convert.isSeparator criterion.toList run →
      .str (String.ofList run) ∈ items
    (compare criterion (.list items) = .ok true ∨ compare criterion (.list items) = .ok false) ∧
    (compare criterion (.list items) = .ok true ↔
      Text.trim criterion = Convert.clearWord ∨ holdsEveryRun) ∧
    ((compare criterion (.list items) = .ok true ↔ holdsEveryRun) ↔
      (Text.trim criterion = Convert.clearWord → .str Convert.clearWord ∈ items)) := by
  intro holdsEveryRun
  have runs : holdsEveryRun ↔
      ∀ token ∈ (Text.tokens Convert.isSeparator criterion.toList).map String.ofList,
        .str token ∈ items := by
    simp only [holdsEveryRun, List.forall_mem_map, Text.mem_tokens_iff]
  have exact : compare criterion (.list items) = .ok true ↔
      Text.trim criterion = Convert.clearWord ∨ holdsEveryRun := by
    rw [compare_list_iff, Convert.splitTexts_eq, runs]
    split <;> simp_all
  -- The clearing word is a run of its own, the only one of such a criterion.
  have cleared (clears : Text.trim criterion = Convert.clearWord) :
      holdsEveryRun ↔ .str Convert.clearWord ∈ items := by
    have only : Text.tokens Convert.isSeparator Convert.clearWord.toList =
        [Convert.clearWord.toList] := by decide
    rw [runs, ← Convert.tokens_trimChars, Text.trim_eq_iff.1 clears, only]
    simp
  refine ⟨?_, exact, ?_⟩
  · obtain ⟨answer, given⟩ : ∃ answer, compare criterion (.list items) = .ok answer :=
      exists_compare_iff.2 trivial
    cases answer
    · exact Or.inr given
    · exact Or.inl given
  · rw [exact]
    by_cases clears : Text.trim criterion = Convert.clearWord
    · simp [clears, cleared clears]
    · simp [clears]

/-- The clearing word selects lists that do not hold it. -/
theorem compare_list_clearWord :
    Text.IsRun Convert.isSeparator "delete".toList "delete".toList ∧
      .str "delete" ∉ [Value.str "nginx"] ∧
      compare "delete" (.list [.str "nginx"]) = .ok true :=
  ⟨Text.mem_tokens_iff.1 (by decide), by simp, rfl⟩

end Query

end Provisioning
