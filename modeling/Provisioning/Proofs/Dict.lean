import Mathlib.Data.List.Sort
import Provisioning.Dict

/-!
Dictionaries by their look-ups: what overlaying, picking and collecting do at every key, and that
sorted dictionaries with the same look-ups are equal.
-/

namespace Provisioning.Dict

universe u v

variable {α : Type u} {β : Type v}

theorem Sorted.tail {head : String × α} {rest : Dict α} (sorted : Sorted (head :: rest)) :
    Sorted rest :=
  (List.pairwise_cons.1 sorted).2

theorem Sorted.sublist {shorter longer : Dict α} (sorted : Sorted longer)
    (part : shorter.Sublist longer) : Sorted shorter :=
  List.Pairwise.sublist part sorted

theorem Sorted.erase {entries : Dict α} (sorted : Sorted entries) (key : String) :
    Sorted (Dict.erase entries key) :=
  sorted.sublist List.filter_sublist

theorem sorted_mapValues_iff {entries : Dict α} {change : α → β} :
    Sorted (mapValues change entries) ↔ Sorted entries :=
  List.pairwise_map

theorem Sorted.nodup_keys {entries : Dict α} (sorted : Sorted entries) : (keys entries).Nodup := by
  unfold keys
  rw [List.nodup_iff_pairwise_ne, List.pairwise_map]
  refine List.Pairwise.imp ?_ sorted
  intro left right before same
  rw [same] at before
  exact String.lt_irrefl _ before

/-- An entry that decides after the ones before it have passed is the first one, or the first one
passes and such an entry is among the rest. -/
theorem Sorted.exists_first_iff {head : String × α} {rest : Dict α} (sorted : Sorted (head :: rest))
    {decides passes : String × α → Prop} :
    (∃ entry ∈ head :: rest, decides entry ∧
        ∀ earlier ∈ head :: rest, earlier.1 < entry.1 → passes earlier) ↔
      decides head ∨ passes head ∧ ∃ entry ∈ rest, decides entry ∧
        ∀ earlier ∈ rest, earlier.1 < entry.1 → passes earlier := by
  have least : ∀ later ∈ rest, head.1 < later.1 := (List.pairwise_cons.1 sorted).1
  constructor
  · rintro ⟨entry, listed, decided, passed⟩
    rcases List.mem_cons.1 listed with rfl | later
    · exact Or.inl decided
    · rw [List.forall_mem_cons, imp_iff_right (least entry later)] at passed
      exact Or.inr ⟨passed.1, entry, later, decided, passed.2⟩
  · rintro (decided | ⟨passed, entry, later, decided, passedLater⟩)
    · refine ⟨head, List.mem_cons_self, decided, ?_⟩
      intro earlier listed before
      rcases List.mem_cons.1 listed with rfl | later
      · exact absurd before (String.lt_irrefl _)
      · exact absurd (String.lt_trans before (least earlier later)) (String.lt_irrefl _)
    · refine ⟨entry, List.mem_cons_of_mem _ later, decided, ?_⟩
      exact List.forall_mem_cons.2 ⟨fun _ => passed, passedLater⟩

theorem get?_eq_none_iff {entries : Dict α} {key : String} :
    get? entries key = none ↔ key ∉ keys entries := by
  induction entries with
  | nil => simp [keys]
  | cons entry rest ih =>
      obtain ⟨name, value⟩ := entry
      simp only [keys] at ih
      by_cases hit : name = key
      · simp [get?, keys, hit]
      · simp [get?, keys, hit, ih, Ne.symm hit]

theorem mem_keys_iff {entries : Dict α} {key : String} :
    key ∈ keys entries ↔ (get? entries key).isSome = true := by
  rw [Option.isSome_iff_ne_none, ne_eq, get?_eq_none_iff, not_not]

theorem get?_foldl_erase (names : List String) (entries : Dict α) (key : String) :
    get? (names.foldl erase entries) key = if key ∈ names then none else get? entries key := by
  induction names generalizing entries with
  | nil => simp
  | cons name names ih =>
      rw [List.foldl_cons, ih, get?_erase]
      by_cases hit : name = key
      · simp [hit]
      · simp [hit, Ne.symm hit]

theorem Sorted.foldl_erase {entries : Dict α} (sorted : Sorted entries) (names : List String) :
    Sorted (names.foldl Dict.erase entries) := by
  induction names generalizing entries with
  | nil => exact sorted
  | cons name names ih => exact ih (sorted.erase name)

theorem erase_eq_self {entries : Dict α} {key : String} (absent : get? entries key = none) :
    erase entries key = entries := by
  refine List.filter_eq_self.2 ?_
  intro entry member
  simp only [bne_iff_ne]
  rintro rfl
  exact get?_eq_none_iff.1 absent (List.mem_map_of_mem member)

theorem get?_eq_some_iff {entries : Dict α} (distinct : (keys entries).Nodup) {key : String}
    {value : α} : get? entries key = some value ↔ (key, value) ∈ entries := by
  refine ⟨mem_of_get?, ?_⟩
  intro member
  induction entries with
  | nil => simp at member
  | cons entry rest ih =>
      obtain ⟨name, old⟩ := entry
      obtain ⟨absent, restDistinct⟩ := List.nodup_cons.1 distinct
      rcases List.mem_cons.1 member with hit | tail
      · obtain ⟨rfl, rfl⟩ := Prod.mk.inj hit
        simp [get?]
      · have apart : name ≠ key := by
          intro same
          subst same
          exact absent (List.mem_map.2 ⟨_, tail, rfl⟩)
        simp [get?, apart, ih restDistinct tail]

theorem eq_of_get? {left right : Dict α} (leftSorted : Sorted left) (rightSorted : Sorted right)
    (same : ∀ key, get? left key = get? right key) : left = right := by
  have irreflexive : Std.Irrefl fun left right : String × α => left.1 < right.1 :=
    ⟨fun entry => String.lt_irrefl entry.1⟩
  refine List.Pairwise.eq_of_mem_iff leftSorted rightSorted ?_
  rintro ⟨key, value⟩
  rw [← get?_eq_some_iff leftSorted.nodup_keys, ← get?_eq_some_iff rightSorted.nodup_keys, same]

theorem keys_eq_of_isSome {left : Dict α} {right : Dict β} (leftSorted : Sorted left)
    (rightSorted : Sorted right)
    (same : ∀ key, (get? left key).isSome = (get? right key).isSome) : keys left = keys right := by
  have units : mapValues (fun _ => ()) left = mapValues (fun _ => ()) right := by
    refine eq_of_get? (sorted_mapValues_iff.2 leftSorted) (sorted_mapValues_iff.2 rightSorted) ?_
    intro key
    have present := same key
    rw [get?_mapValues, get?_mapValues]
    cases leftFound : get? left key <;> cases rightFound : get? right key <;>
      simp [leftFound, rightFound] at present ⊢
  have kept := congrArg keys units
  simpa [keys, mapValues, Function.comp_def] using kept

theorem get?_pickValues {entries : Dict α} (sorted : Sorted entries) (pick : α → Option β)
    (key : String) : get? (pickValues pick entries) key = (get? entries key).bind pick := by
  induction entries with
  | nil => rfl
  | cons entry rest ih =>
      obtain ⟨name, value⟩ := entry
      have later := ih sorted.tail
      simp only [pickValues] at later ⊢
      cases picked : pick value with
      | none =>
          simp only [List.filterMap_cons, picked, Option.map_none, later, get?]
          split
          · rename_i hit
            -- The dropped key occurs nowhere below it.
            have absent : get? rest key = none := by
              rw [get?_eq_none_iff, ← hit]
              exact (List.nodup_cons.1 sorted.nodup_keys).1
            simp [absent, picked]
          · rfl
      | some kept =>
          simp only [List.filterMap_cons, picked, Option.map_some, get?, later]
          split
          · simp [picked]
          · rfl

theorem Sorted.pickValues {entries : Dict α} (sorted : Sorted entries) (pick : α → Option β) :
    Sorted (Dict.pickValues pick entries) := by
  refine List.Pairwise.filterMap _ ?_ sorted
  intro left right before picked pickedLeft other pickedRight
  obtain ⟨_, _, rfl⟩ := Option.map_eq_some_iff.1 pickedLeft
  obtain ⟨_, _, rfl⟩ := Option.map_eq_some_iff.1 pickedRight
  exact before

theorem get?_overlaid (lower : Dict α) {upper : Dict α} (distinct : (keys upper).Nodup)
    (key : String) : get? (overlaid lower upper) key = (get? upper key).or (get? lower key) := by
  induction upper generalizing lower with
  | nil => rfl
  | cons entry rest ih =>
      obtain ⟨name, value⟩ := entry
      obtain ⟨absent, restDistinct⟩ := List.nodup_cons.1 distinct
      have step : overlaid lower ((name, value) :: rest) =
          overlaid (insert lower name value) rest := rfl
      rw [step, ih _ restDistinct, get?_insert]
      by_cases hit : name = key
      · have untouched : get? rest key = none := get?_eq_none_iff.2 (hit ▸ absent)
        simp [get?, hit, untouched]
      · simp [get?, hit]

theorem Sorted.overlaid {lower : Dict α} (sorted : Sorted lower) (upper : Dict α) :
    Sorted (Dict.overlaid lower upper) := by
  induction upper generalizing lower with
  | nil => exact sorted
  | cons entry rest ih => exact ih (sorted.insert entry.1 entry.2)

theorem ofList_eq_overlaid (entries : List (String × α)) : ofList entries = overlaid [] entries :=
  rfl

theorem get?_ofList {entries : List (String × α)} (distinct : (keys entries).Nodup)
    (key : String) : get? (ofList entries) key = get? entries key := by
  rw [ofList_eq_overlaid, get?_overlaid [] distinct, get?_nil, Option.or_none]

theorem mem_overlaid {lower upper : Dict α} {entry : String × α}
    (member : entry ∈ overlaid lower upper) : entry ∈ lower ∨ entry ∈ upper := by
  induction upper generalizing lower with
  | nil => exact Or.inl member
  | cons head rest ih =>
      have step : overlaid lower (head :: rest) = overlaid (insert lower head.1 head.2) rest := rfl
      rcases ih (step ▸ member) with below | above
      · rcases mem_insert below with new | old
        · exact Or.inr (by simp [new])
        · exact Or.inl old
      · exact Or.inr (List.mem_cons_of_mem _ above)

theorem mem_ofList {entries : List (String × α)} {entry : String × α}
    (member : entry ∈ ofList entries) : entry ∈ entries :=
  (mem_overlaid member : entry ∈ [] ∨ entry ∈ entries).resolve_left List.not_mem_nil

theorem mapValues_insert (change : α → β) (entries : Dict α) (key : String) (value : α) :
    mapValues change (insert entries key value) =
      insert (mapValues change entries) key (change value) := by
  induction entries with
  | nil => rfl
  | cons entry rest ih =>
      obtain ⟨name, old⟩ := entry
      simp only [mapValues, insert, List.map_cons] at ih ⊢
      split
      · rfl
      · split
        · rfl
        · rw [List.map_cons, ih]

theorem mapValues_overlaid (change : α → β) (lower upper : Dict α) :
    mapValues change (overlaid lower upper) =
      overlaid (mapValues change lower) (mapValues change upper) := by
  induction upper generalizing lower with
  | nil => rfl
  | cons entry rest ih =>
      have later := ih (insert lower entry.1 entry.2)
      rw [mapValues_insert] at later
      exact later

theorem mapValues_ofList (change : α → β) (entries : List (String × α)) :
    mapValues change (ofList entries) = ofList (mapValues change entries) :=
  mapValues_overlaid change [] entries

theorem mapValues_foldl_erase (change : α → β) (names : List String) (entries : Dict α) :
    mapValues change (names.foldl erase entries) =
      names.foldl erase (mapValues change entries) := by
  induction names generalizing entries with
  | nil => rfl
  | cons name names ih =>
      have step :
          mapValues change (erase entries name) = erase (mapValues change entries) name := by
        unfold mapValues erase
        rw [List.filter_map]
        rfl
      rw [List.foldl_cons, ih, step, List.foldl_cons]

theorem insert_comm {entries : Dict α} (sorted : Sorted entries) {key other : String}
    (different : key ≠ other) (value otherValue : α) :
    insert (insert entries key value) other otherValue =
      insert (insert entries other otherValue) key value := by
  refine eq_of_get? ((sorted.insert key value).insert other otherValue)
    ((sorted.insert other otherValue).insert key value) ?_
  intro name
  simp only [get?_insert]
  by_cases here : key = name
  · have apart : other ≠ name := fun there => different (here.trans there.symm)
    simp [here, apart]
  · simp [here]

theorem insert_above {entries : Dict α} {key : String}
    (above : ∀ entry ∈ entries, entry.1 < key) (value : α) :
    insert entries key value = entries ++ [(key, value)] := by
  induction entries with
  | nil => rfl
  | cons entry rest ih =>
      obtain ⟨name, old⟩ := entry
      have before : name < key := above (name, old) List.mem_cons_self
      have notBefore : ¬ key < name := fun after =>
        String.lt_irrefl _ (String.lt_trans before after)
      have apart : key ≠ name := fun same => String.lt_irrefl _ (same ▸ before)
      have later := fun other member => above other (List.mem_cons_of_mem (name, old) member)
      rw [insert, if_neg notBefore, if_neg apart, ih later]
      rfl

theorem get?_eq_none_of_above {entries : Dict α} {key : String}
    (above : ∀ entry ∈ entries, entry.1 < key) : get? entries key = none := by
  rw [get?_eq_none_iff]
  intro listed
  obtain ⟨entry, member, rfl⟩ := List.mem_map.1 listed
  exact String.lt_irrefl _ (above entry member)

end Provisioning.Dict
