import Provisioning.Proofs.MergedMapping

/-!
Overlays on their own. Laying one after another is laying both at once, and the flat form of an
overlay stands for it unless the marker of a removal was written into it as a value.
-/

namespace Provisioning

theorem Number.compare_self {number : Float.Model.UnpackedFloat}
    (isNumber : number.isNaN = false) : number.compare number = some .eq := by
  cases number with
  | notANumber => cases isNumber
  | infinity sign => cases sign <;> rfl
  | zero sign => rfl
  | finite sign mantissa exponent positive =>
      have magnitudes : (compare exponent exponent).then (compare mantissa mantissa) = .eq := by
        rw [Std.compare_self, Std.compare_self]
        rfl
      cases sign with
      | positive => exact congrArg some magnitudes
      | negative => exact congrArg (fun order => some (Ordering.swap order)) magnitudes

theorem Number.beq_self {number : Float} (isNumber : number.isNaN = false) :
    (number == number) = true := by
  change (number.toModel.unpack.compare number.toModel.unpack == some .eq) = true
  rw [Number.compare_self isNumber]
  rfl

namespace Value

mutual

def NumbersOnly : Value → Prop
  | .float number => number.isNaN = false
  | .list items => NumbersOnlyItems items
  | .dict entries => NumbersOnlyEntries entries
  | _ => True

def NumbersOnlyItems : List Value → Prop
  | [] => True
  | item :: items => NumbersOnly item ∧ NumbersOnlyItems items

def NumbersOnlyEntries : List (String × Value) → Prop
  | [] => True
  | (_, value) :: entries => NumbersOnly value ∧ NumbersOnlyEntries entries

end

mutual

theorem NumbersOnly.same_self {value : Value} (numbers : value.NumbersOnly) :
    value.same value = true := by
  cases value with
  | float number =>
      rw [NumbersOnly] at numbers
      rw [same]
      exact Number.beq_self numbers
  | list items =>
      rw [NumbersOnly] at numbers
      rw [same]
      exact NumbersOnlyItems.same_self numbers
  | dict entries =>
      rw [NumbersOnly] at numbers
      rw [same]
      exact NumbersOnlyEntries.same_self numbers
  | _ => simp [same]

theorem NumbersOnlyItems.same_self {items : List Value} (numbers : NumbersOnlyItems items) :
    sameItems items items = true := by
  cases items with
  | nil => rfl
  | cons item items =>
      rw [sameItems, numbers.1.same_self, NumbersOnlyItems.same_self numbers.2]
      rfl

theorem NumbersOnlyEntries.same_self {entries : List (String × Value)}
    (numbers : NumbersOnlyEntries entries) : sameEntries entries entries = true := by
  cases entries with
  | nil => rfl
  | cons entry entries =>
      rw [sameEntries, numbers.1.same_self, NumbersOnlyEntries.same_self numbers.2]
      simp

end

end Value

namespace MapEntry

def same : MapEntry → MapEntry → Bool
  | .set left, .set right => left.same right
  | .remove, .remove => true
  | _, _ => false

end MapEntry

namespace Overlay

/-- Overlays as they come about: from entries in any order or from a flat mapping, and then by writes
and removals. -/
inductive Built : Overlay → Prop
  | empty : Built {}
  | ofEntries (entries) : Built (ofEntries entries)
  | ofMapping {mapping} : Dict.Sorted mapping → Built (ofMapping mapping)
  | set {overlay} (key value) : Built overlay → Built (overlay.set key value)
  | remove {overlay} (key) : Built overlay → Built (overlay.remove key)

def Same (left right : Overlay) : Prop :=
  List.Forall₂ (fun left right : String × MapEntry => left.1 = right.1 ∧ left.2.same right.2 = true)
    left.entries right.entries

def Unmarked (overlay : Overlay) : Prop :=
  ∀ key, (key, .set (.str removalMarker)) ∉ overlay.entries

def NumbersOnly (overlay : Overlay) : Prop :=
  ∀ key value, (key, .set value) ∈ overlay.entries → value.NumbersOnly

def onto (upper lower : Overlay) : Overlay :=
  ⟨upper.applyTo lower.entries⟩

variable {overlay upper lower : Overlay}

theorem Built.sorted (built : overlay.Built) : Dict.Sorted overlay.entries := by
  induction built with
  | empty => exact List.Pairwise.nil
  | ofEntries entries => exact Dict.Sorted.ofList entries
  | ofMapping sorted => exact Dict.sorted_mapValues_iff.2 sorted
  | set key value _ ih => exact ih.insert key (.set value)
  | remove key _ ih => exact ih.insert key .remove

theorem Built.onto (upper : Overlay) (lowerBuilt : lower.Built) : (upper.onto lower).Built := by
  obtain ⟨entries⟩ := upper
  induction entries generalizing lower with
  | nil => exact lowerBuilt
  | cons entry entries ih =>
      obtain ⟨key, entry⟩ := entry
      cases entry with
      | set value => exact ih (lowerBuilt.set key value)
      | remove => exact ih (lowerBuilt.remove key)

theorem get?_onto (upperSorted : Dict.Sorted upper.entries) (lower : Overlay) (key : String) :
    (upper.onto lower).get? key = (upper.get? key).or (lower.get? key) :=
  Dict.get?_overlaid lower.entries upperSorted.nodup_keys key

theorem Unmarked.empty : ({} : Overlay).Unmarked :=
  fun _ => List.not_mem_nil

theorem Unmarked.insert (unmarked : overlay.Unmarked) (key : String) {entry : MapEntry}
    (plain : entry ≠ .set (.str removalMarker)) :
    Unmarked ⟨overlay.entries.insert key entry⟩ := by
  intro other listed
  rcases Dict.mem_insert listed with written | kept
  · cases written
    exact plain rfl
  · exact unmarked other kept

theorem Unmarked.get? (unmarked : overlay.Unmarked) (key : String) :
    overlay.get? key ≠ some (.set (.str removalMarker)) :=
  fun found => unmarked key (Dict.mem_of_get? found)

theorem same_readBack_iff (numbers : overlay.NumbersOnly) :
    (ofMapping overlay.toMapping).Same overlay ↔ overlay.Unmarked := by
  have entrywise : (ofMapping overlay.toMapping).Same overlay ↔
      ∀ entry ∈ overlay.entries, (MapEntry.ofValue entry.2.toValue).same entry.2 = true := by
    simp only [Same, ofMapping, toMapping, Dict.mapValues, List.map_map,
      List.forall₂_map_left_iff, List.forall₂_same, Function.comp_apply, true_and]
  rw [entrywise]
  constructor
  · intro kept key listed
    have same := kept _ listed
    rw [MapEntry.toValue, MapEntry.ofValue_marker] at same
    cases same
  · rintro unmarked ⟨key, entry⟩ listed
    have plain : entry ≠ .set (.str removalMarker) := by
      rintro rfl
      exact unmarked key listed
    rw [MapEntry.ofValue_toValue_iff.2 plain]
    cases entry with
    | remove => rfl
    | set value => exact (numbers key value listed).same_self

end Overlay

section Composition

variable {inherited : Mapping} {lower upper : Overlay}

theorem MapEntry.value?_bind_unmarked?_iff {entry : MapEntry} :
    entry.value?.bind unmarked? = entry.value? ↔ entry ≠ .set (.str removalMarker) := by
  cases entry with
  | remove => simp [value?]
  | set value =>
      by_cases marked : value = .str removalMarker
      · simp [value?, marked, unmarked?]
      · simp [value?, marked, unmarked?_of_ne marked]

/-- Laying two overlays one after the other differs from laying both at once in the markers that the
lower one sets: they are read as removals on the way, unless the upper one has an entry there. -/
theorem mergeLayers_mergeLayers_iff (sorted : Dict.Sorted inherited)
    (lowerSorted : Dict.Sorted lower.entries) (upperSorted : Dict.Sorted upper.entries) :
    mergeLayers (mergeLayers inherited (some lower)) (some upper) =
        mergeLayers inherited (some (upper.onto lower)) ↔
      ∀ key, lower.get? key = some (.set (.str removalMarker)) → upper.get? key ≠ none := by
  have between := sorted_mergeLayers sorted (some lower)
  have joinedSorted : Dict.Sorted (upper.onto lower).entries := lowerSorted.overlaid upper.entries
  have stepwise (key : String) :
      Dict.get? (mergeLayers (mergeLayers inherited (some lower)) (some upper)) key =
          Dict.get? (mergeLayers inherited (some (upper.onto lower))) key ↔
        (lower.get? key = some (.set (.str removalMarker)) → upper.get? key ≠ none) := by
    rw [get?_mergeLayers between (by simpa using upperSorted),
      get?_mergeLayers sorted (by simpa using lowerSorted),
      get?_mergeLayers sorted (by simpa using joinedSorted)]
    simp only [Option.bind_some, Overlay.get?_onto upperSorted]
    -- Where `upper` has no entry, the value that `lower` leaves is read for the marker once more.
    cases upper.get? key with
    | some entry => simp
    | none =>
        cases lower.get? key with
        | some entry => simp [MapEntry.value?_bind_unmarked?_iff]
        | none =>
            cases Dict.get? inherited key with
            | none => simp
            | some value => simp [unmarked?_idem]
  constructor
  · intro same key
    exact (stepwise key).1 (by rw [same])
  · intro covered
    refine Dict.eq_of_get? (sorted_mergeLayers between _) (sorted_mergeLayers sorted _) ?_
    exact fun key => (stepwise key).2 (covered key)

theorem mergeLayers_none_idem (sorted : Dict.Sorted inherited) :
    mergeLayers (mergeLayers inherited none) none = mergeLayers inherited none := by
  have empty : Dict.Sorted (({} : Overlay).entries) := List.Pairwise.nil
  exact (mergeLayers_mergeLayers_iff sorted empty empty).2 fun key found => by cases found

end Composition

namespace Overlay

/-- Merging composes, and an overlay is read back from its flat form exactly if it sets no key to the
marker of a removal. -/
theorem merging_composes {inherited : Mapping} (sorted : Dict.Sorted inherited)
    {lower upper : Overlay} (lowerBuilt : lower.Built) (upperBuilt : upper.Built) :
    (upper.onto lower).Built ∧
    (∀ key, (upper.onto lower).get? key = (upper.get? key).or (lower.get? key)) ∧
    (lower.Unmarked → mergeLayers (mergeLayers inherited (some lower)) (some upper) =
      mergeLayers inherited (some (upper.onto lower))) ∧
    mergeLayers (mergeLayers inherited none) none = mergeLayers inherited none ∧
    ∀ overlay : Overlay,
      (ofMapping overlay.toMapping = overlay ↔ overlay.Unmarked) ∧
      (overlay.NumbersOnly →
        ((ofMapping overlay.toMapping).Same overlay ↔ overlay.Unmarked)) := by
  refine ⟨lowerBuilt.onto upper, get?_onto upperBuilt.sorted lower, ?_,
    mergeLayers_none_idem sorted, fun _ => ⟨ofMapping_toMapping_iff, same_readBack_iff⟩⟩
  intro unmarked
  refine (mergeLayers_mergeLayers_iff sorted lowerBuilt.sorted upperBuilt.sorted).2 ?_
  intro key marked
  exact absurd marked (unmarked.get? key)

theorem merging_composes_crossed :
    let inherited : Mapping := [("console", .str "ttyS0"), ("quiet", .str "~")]
    let lower := (({} : Overlay).remove "console").set "splash" (.str "silent")
    let upper := (({} : Overlay).remove "absent").set "console" (.str "tty0")
    let marked := ({} : Overlay).set "quiet" (.str "~")
    Dict.Sorted inherited ∧ lower.Built ∧ upper.Built ∧ lower.Unmarked ∧
    mergeLayers (mergeLayers inherited (some lower)) (some upper) =
      [("console", .str "tty0"), ("splash", .str "silent")] ∧
    marked.Built ∧ ofMapping marked.toMapping ≠ marked := by
  intro inherited lower upper marked
  have ordered : OrderedMapping inherited :=
    (OrderedMapping.nil.insert "quiet" (Value.ordered_str "~")).insert "console"
      (Value.ordered_str "ttyS0")
  have sorted := ordered.sorted
  have lowerBuilt : lower.Built := (Built.empty.remove "console").set "splash" (.str "silent")
  have upperBuilt : upper.Built := (Built.empty.remove "absent").set "console" (.str "tty0")
  have markedBuilt : marked.Built := Built.empty.set "quiet" (.str "~")
  have removal : MapEntry.remove ≠ .set (.str removalMarker) := by
    rintro ⟨⟩
  have plain : MapEntry.set (.str "silent") ≠ .set (.str removalMarker) := by
    intro same
    exact absurd (Value.str.inj (MapEntry.set.inj same)) (by decide)
  have unmarked : lower.Unmarked :=
    (Unmarked.empty.insert "console" removal).insert "splash" plain
  obtain ⟨_, _, composes, _, flat⟩ := merging_composes sorted lowerBuilt upperBuilt
  refine ⟨sorted, lowerBuilt, upperBuilt, unmarked, composes unmarked, markedBuilt, ?_⟩
  intro readBack
  exact (flat marked).1.1 readBack "quiet" List.mem_cons_self

end Overlay

end Provisioning
