import Mathlib.Data.Char
import Provisioning.Text.Blank
import Provisioning.Text.Lowercase

/-!
Lowering twice is lowering once: no character that a lowering gives is lowered any further. ASCII
letters are lowered one by one, marks stand in a lowered text where they stood before, and a star
ends a word.
-/

namespace Provisioning.Text

def CaseRun.avoids (run other : CaseRun) : Bool :=
  0 < (run.first + run.shift).toNat && 0 < other.first &&
    ((run.last + run.shift).toNat < other.first || other.last < (run.first + run.shift).toNat ||
      (run.step == 2 || run.first == run.last) && other.step == 2 &&
        ((run.first + run.shift).toNat + other.first) % 2 == 1)

theorem CaseRun.not_covers {run other : CaseRun} (avoids : run.avoids other = true) {code : Nat}
    (covered : run.covers code = true) :
    other.covers (code + run.shift).toNat = false := by
  simp only [CaseRun.avoids, Bool.and_eq_true, Bool.or_eq_true, decide_eq_true_eq,
    beq_iff_eq] at avoids
  simp only [CaseRun.covers, Bool.and_eq_true, decide_eq_true_eq, beq_iff_eq] at covered
  rw [Bool.eq_false_iff]
  simp only [CaseRun.covers, ne_eq, Bool.and_eq_true, decide_eq_true_eq, beq_iff_eq]
  obtain ⟨⟨positive, otherPositive⟩,
    (before | after) | ⟨⟨byTwo | single, otherByTwo⟩, odd⟩⟩ := avoids
  · omega
  · omega
  · rw [byTwo] at covered
    rw [otherByTwo]
    omega
  · rw [otherByTwo]
    omega

theorem lowerRuns_avoid : lowerRuns.toList.all (fun run =>
    (⟨0x130, 0x130, 1, 0⟩ :: lowerRuns.toList).all run.avoids) = true := by
  decide +kernel

def IsLow (character : Char) : Prop :=
  character ≠ 'Σ' ∧ lowerChar character = [character]

instance (character : Char) : Decidable (IsLow character) :=
  inferInstanceAs (Decidable (_ ∧ _))

theorem ascii_isLow : ∀ code < 0x80, IsLow (Char.ofNat code).toLower ∧
    (lowerRuns.toList.any (fun run => run.covers code) = true ∨ IsLow (Char.ofNat code)) := by
  decide +kernel

theorem isLow_of_uncovered {character : Char} (undotted : character.toNat ≠ 0x130)
    (uncovered : ∀ run ∈ lowerRuns.toList, run.covers character.toNat = false) :
    IsLow character := by
  by_cases ascii : character.toNat < 0x80
  · obtain ⟨_, covered | low⟩ := ascii_isLow character.toNat ascii
    · obtain ⟨run, member, covers⟩ := List.any_eq_true.1 covered
      exact absurd ((uncovered run member).symm.trans covers) Bool.false_ne_true
    · rwa [Char.ofNat_toNat] at low
  · have sigma : lowerRuns.toList.any (fun run => run.covers 0x3A3) = true := by decide
    refine ⟨?_, ?_⟩
    · rintro rfl
      obtain ⟨run, member, covers⟩ := List.any_eq_true.1 sigma
      exact Bool.false_ne_true ((uncovered run member).symm.trans covers)
    · have missed : lowerRuns.find? (fun run => run.covers character.toNat) = none := by
        rw [← Array.find?_toList, List.find?_eq_none]
        intro run member
        simp [uncovered run member]
      simp only [lowerChar, if_neg ascii, if_neg undotted, missed]

theorem special_isLow :
    ∀ character ∈ ['i', Char.ofNat 0x307, 'ς', 'σ', Char.ofNat 0], IsLow character := by
  have passed : ['i', Char.ofNat 0x307, 'ς', 'σ', Char.ofNat 0].all (fun character =>
      character.toNat != 0x130 &&
        lowerRuns.toList.all fun run => !run.covers character.toNat) = true := by
    decide
  intro character listed
  obtain ⟨undotted, uncovered⟩ :=
    (Bool.and_eq_true _ _).mp (List.all_eq_true.1 passed character listed)
  refine isLow_of_uncovered (by simpa using undotted) fun run member => ?_
  simpa using List.all_eq_true.1 uncovered run member

theorem toNat_ofNat_or (code : Nat) :
    (Char.ofNat code).toNat = code ∨ Char.ofNat code = Char.ofNat 0 := by
  unfold Char.ofNat
  by_cases valid : code.isValidChar
  · rw [dif_pos valid]
    exact Or.inl rfl
  · rw [dif_neg valid]
    exact Or.inr rfl

theorem isLow_of_mem_lowerChar {character lowered : Char}
    (member : lowered ∈ lowerChar character) : IsLow lowered := by
  unfold lowerChar at member
  dsimp only at member
  split at member
  · rename_i ascii
    have low := (ascii_isLow character.toNat ascii).1
    rw [Char.ofNat_toNat] at low
    exact List.mem_singleton.1 member ▸ low
  · split at member
    · exact special_isLow lowered (List.mem_append_left ['ς', 'σ', Char.ofNat 0] member)
    · rename_i undotted
      split at member
      · rename_i run found
        have listed : run ∈ lowerRuns.toList :=
          List.mem_of_find?_eq_some (Array.find?_toList.trans found)
        have covered := List.find?_some (Array.find?_toList.trans found)
        have avoids := List.all_eq_true.1 (List.all_eq_true.1 lowerRuns_avoid run listed)
        rw [List.mem_singleton.1 member]
        rcases toNat_ofNat_or (character.toNat + run.shift).toNat with code | nul
        · have missed : ∀ other ∈ ⟨0x130, 0x130, 1, 0⟩ :: lowerRuns.toList,
              other.covers (Char.ofNat (character.toNat + run.shift).toNat).toNat = false := by
            intro other member
            rw [code]
            exact CaseRun.not_covers (avoids other member) covered
          refine isLow_of_uncovered ?_ fun other listed =>
            missed other (List.mem_cons_of_mem _ listed)
          intro dotted
          have apart := missed _ List.mem_cons_self
          rw [dotted] at apart
          exact Bool.noConfusion apart
        · exact nul ▸ special_isLow (Char.ofNat 0) (by simp)
      · rename_i missed
        rw [List.mem_singleton.1 member]
        refine isLow_of_uncovered undotted ?_
        rw [← Array.find?_toList, List.find?_eq_none] at missed
        intro run listed
        exact Bool.eq_false_iff.2 (missed run listed)

theorem lowerFrom_of_isLow {characters : List Char}
    (low : ∀ character ∈ characters, IsLow character) (before : List Char) :
    lowerFrom before characters = characters := by
  induction characters generalizing before with
  | nil => rfl
  | cons character rest ih =>
      obtain ⟨notSigma, kept⟩ := low character List.mem_cons_self
      have later := fun other member => low other (List.mem_cons_of_mem character member)
      simp only [lowerFrom, if_neg notSigma, kept, ih later, List.singleton_append]

theorem isLow_of_mem_lowerFrom {characters before : List Char} {lowered : Char}
    (member : lowered ∈ lowerFrom before characters) : IsLow lowered := by
  induction characters generalizing before with
  | nil => cases member
  | cons character rest ih =>
      simp only [lowerFrom] at member
      rcases List.mem_append.1 member with here | later
      · split at here
        · split at here
          · exact List.mem_singleton.1 here ▸ special_isLow 'ς' (by simp)
          · exact List.mem_singleton.1 here ▸ special_isLow 'σ' (by simp)
        · exact isLow_of_mem_lowerChar here
      · exact ih later

theorem toNat_lt_of_toLower {character : Char} (ascii : character.toLower.toNat < 0x80) :
    character.toNat < 0x80 := by
  unfold Char.toLower at ascii
  split at ascii
  · rename_i upper
    have last : character.toNat ≤ 'Z'.toNat := UInt32.le_iff_toNat_le.1 upper.2
    exact Nat.lt_of_le_of_lt last (by decide)
  · exact ascii

theorem lowerFrom_of_ascii {characters : List Char}
    (ascii : ∀ character ∈ characters, character.toNat < 0x80) (before : List Char) :
    lowerFrom before characters = characters.map Char.toLower := by
  induction characters generalizing before with
  | nil => rfl
  | cons character rest ih =>
      obtain ⟨here, later⟩ := List.forall_mem_cons.1 ascii
      have notSigma : character ≠ 'Σ' := by
        rintro rfl
        exact absurd here (by decide)
      simp only [lowerFrom, if_neg notSigma, lowerChar, if_pos here, ih later,
        List.singleton_append, List.map_cons]

theorem lower_of_sameIgnoringCase {text word : String}
    (ascii : ∀ character ∈ word.toList, character.toLower.toNat < 0x80)
    (same : sameIgnoringCase text word = true) :
    lower text = String.ofList (word.toList.map Char.toLower) := by
  have spelled : text.toList.map Char.toLower = word.toList.map Char.toLower := by
    simpa [sameIgnoringCase] using same
  have textAscii : ∀ character ∈ text.toList, character.toNat < 0x80 := by
    intro character member
    have lowered := List.mem_map_of_mem (f := Char.toLower) member
    rw [spelled] at lowered
    obtain ⟨other, listed, toSame⟩ := List.mem_map.1 lowered
    exact toNat_lt_of_toLower (toSame ▸ ascii other listed)
  rw [lower, lowerFrom_of_ascii textAscii, spelled]

@[simp] theorem lower_lower (text : String) : lower (lower text) = lower text := by
  unfold lower
  rw [String.toList_ofList]
  exact congrArg String.ofList
    (lowerFrom_of_isLow (fun _ member => isLow_of_mem_lowerFrom member) [])

section Marks

variable {mark character : Char} {characters before : List Char}

theorem lowerRuns_above_marks :
    lowerRuns.toList.all (fun run => 'a'.toNat ≤ (run.first + run.shift).toNat) = true := by
  decide

theorem eq_of_toLower_eq (low : mark.toNat < 'a'.toNat) (lowered : character.toLower = mark) :
    character = mark := by
  unfold Char.toLower at lowered
  split at lowered
  · rename_i upper
    have first : 'A'.toNat ≤ character.toNat := UInt32.le_iff_toNat_le.1 upper.1
    have last : character.toNat ≤ 'Z'.toNat := UInt32.le_iff_toNat_le.1 upper.2
    have code : (character.val + ('a'.val - 'A'.val)).toNat = mark.toNat :=
      congrArg Char.toNat lowered
    rw [UInt32.toNat_add] at code
    have span : ('a'.val - 'A'.val).toNat = 32 := by decide
    have small : 'a'.toNat = 97 := by decide
    have capital : 'A'.toNat = 65 := by decide
    have final : 'Z'.toNat = 90 := by decide
    have spelled : character.val.toNat = character.toNat := rfl
    omega
  · exact lowered

theorem eq_of_mem_lowerChar (low : mark.toNat < 'a'.toNat) (shown : mark ≠ Char.ofNat 0)
    (member : mark ∈ lowerChar character) : character = mark := by
  unfold lowerChar at member
  dsimp only at member
  split at member
  · exact eq_of_toLower_eq low (List.mem_singleton.1 member).symm
  split at member
  · have above : ['i', Char.ofNat 0x307].all (fun lowered => 'a'.toNat ≤ lowered.toNat) = true := by
      decide
    have spelled := of_decide_eq_true (List.all_eq_true.1 above mark member)
    exact absurd low (Nat.not_lt.2 spelled)
  split at member
  · rename_i run found
    have listed : run ∈ lowerRuns.toList :=
      List.mem_of_find?_eq_some (Array.find?_toList.trans found)
    have covered := List.find?_some (Array.find?_toList.trans found)
    have above := of_decide_eq_true (List.all_eq_true.1 lowerRuns_above_marks run listed)
    simp only [CaseRun.covers, Bool.and_eq_true, decide_eq_true_eq, beq_iff_eq] at covered
    rcases toNat_ofNat_or (character.toNat + run.shift).toNat with code | nul
    · rw [← List.mem_singleton.1 member] at code
      omega
    · exact absurd ((List.mem_singleton.1 member).trans nul) shown
  · exact (List.mem_singleton.1 member).symm

theorem mem_of_mem_lowerFrom (low : mark.toNat < 'a'.toNat) (shown : mark ≠ Char.ofNat 0)
    (member : mark ∈ lowerFrom before characters) : mark ∈ characters := by
  induction characters generalizing before with
  | nil => cases member
  | cons character rest ih =>
      simp only [lowerFrom] at member
      rcases List.mem_append.1 member with here | later
      · split at here
        · exfalso
          split at here <;> rw [List.mem_singleton.1 here] at low <;> exact absurd low (by decide)
        · rw [eq_of_mem_lowerChar low shown here]
          exact List.mem_cons_self
      · exact List.mem_cons_of_mem character (ih later)

set_option maxRecDepth 4096 in
theorem star_uncased :
    inRanges caseIgnorableRanges '*' = false ∧ inRanges casedRanges '*' = false := by
  unfold inRanges
  rw [← Array.any_toList, ← Array.any_toList]
  decide

theorem meetsCased_cons (character : Char) (rest : List Char) :
    meetsCased (character :: rest) =
      if inRanges caseIgnorableRanges character then meetsCased rest
      else inRanges casedRanges character := by
  unfold meetsCased
  rw [List.dropWhile_cons]
  cases inRanges caseIgnorableRanges character <;> simp

theorem meetsCased_append_star (near far : List Char) :
    meetsCased (near ++ '*' :: far) = meetsCased near := by
  obtain ⟨stops, uncased⟩ := star_uncased
  unfold meetsCased
  rw [List.dropWhile_append]
  cases near.dropWhile (inRanges caseIgnorableRanges) with
  | nil => simp [stops, uncased]
  | cons character rest => simp

theorem lowerFrom_append_star (near far characters : List Char) :
    lowerFrom (near ++ '*' :: far) characters = lowerFrom near characters := by
  induction characters generalizing near with
  | nil => rfl
  | cons character rest ih =>
      have later := ih (character :: near)
      rw [List.cons_append] at later
      simp only [lowerFrom, meetsCased_append_star, later]

theorem lowerFrom_star (before rest : List Char) :
    lowerFrom before ('*' :: rest) = '*' :: lowerFrom [] rest := by
  have alone := lowerFrom_append_star [] before rest
  rw [List.nil_append] at alone
  rw [lowerFrom, alone]
  rfl

end Marks

end Provisioning.Text
