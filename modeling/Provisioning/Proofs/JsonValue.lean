import Provisioning.Proofs.OrderedValue
import Provisioning.Value.Json

/-!
What is left of values after a way through JSON. JSON has no infinite number and no not-a-number,
so these come back as null and everything else as it was.
-/

namespace Provisioning

theorem Number.toInt64?_toInt (number : Int64) : toInt64? number.toInt = some number := by
  have least := Int64.le_toInt number
  have greatest := Int64.toInt_le number
  have fits : int64Min ≤ number.toInt ∧ number.toInt ≤ int64Max := ⟨least, greatest⟩
  rw [toInt64?, if_pos fits, Int64.ofInt_toInt]

namespace Value

mutual

/-- The value with null for every number that is not finite, at every depth. -/
def carried : Value → Value
  | .float number => if number.isFinite then .float number else .null
  | .list items => .list (carriedItems items)
  | .dict entries => .dict (carriedEntries entries)
  | value => value

def carriedItems : List Value → List Value
  | [] => []
  | item :: items => carried item :: carriedItems items

def carriedEntries : List (String × Value) → List (String × Value)
  | [] => []
  | (key, value) :: entries => (key, carried value) :: carriedEntries entries

end

mutual

def Finite : Value → Prop
  | .float number => number.isFinite = true
  | .list items => FiniteItems items
  | .dict entries => FiniteEntries entries
  | _ => True

def FiniteItems : List Value → Prop
  | [] => True
  | item :: items => Finite item ∧ FiniteItems items

def FiniteEntries : List (String × Value) → Prop
  | [] => True
  | (_, value) :: entries => Finite value ∧ FiniteEntries entries

end

mutual

theorem ofJson_toJson (value : Value) : ofJson value.toJson = value.carried := by
  cases value with
  | int number => simp [toJson, ofJson, carried, ofInteger, Number.toInt64?_toInt]
  | float number =>
      simp only [toJson, carried]
      split <;> rfl
  | list items => simp only [toJson, ofJson, carried, ofJsonItems_toJsonItems items]
  | dict entries => simp only [toJson, ofJson, carried, ofJsonMembers_toJsonMembers entries]
  | _ => simp [toJson, ofJson, carried]

theorem ofJsonItems_toJsonItems (items : List Value) :
    ofJsonItems (toJsonItems items) = carriedItems items := by
  cases items with
  | nil => rfl
  | cons item items =>
      simp only [toJsonItems, ofJsonItems, carriedItems, ofJson_toJson item,
        ofJsonItems_toJsonItems items]

theorem ofJsonMembers_toJsonMembers (entries : List (String × Value)) :
    ofJsonMembers (toJsonMembers entries) = carriedEntries entries := by
  cases entries with
  | nil => rfl
  | cons entry entries =>
      simp only [toJsonMembers, ofJsonMembers, carriedEntries, ofJson_toJson entry.2,
        ofJsonMembers_toJsonMembers entries]

end

theorem carriedItems_eq (items : List Value) : carriedItems items = items.map carried := by
  induction items with
  | nil => rfl
  | cons item items ih => rw [carriedItems, ih, List.map_cons]

theorem carriedEntries_eq (entries : Mapping) :
    carriedEntries entries = entries.mapValues carried := by
  induction entries with
  | nil => rfl
  | cons entry entries ih =>
      rw [carriedEntries, ih]
      rfl

mutual

theorem Finite.carried_eq {value : Value} (finite : value.Finite) : value.carried = value := by
  cases value with
  | float number =>
      rw [Finite] at finite
      rw [carried, if_pos finite]
  | list items =>
      rw [Finite] at finite
      rw [carried, FiniteItems.carriedItems_eq finite]
  | dict entries =>
      rw [Finite] at finite
      rw [carried, FiniteEntries.carriedEntries_eq finite]
  | _ => rw [carried] <;> simp

theorem FiniteItems.carriedItems_eq {items : List Value} (finite : FiniteItems items) :
    carriedItems items = items := by
  cases items with
  | nil => rfl
  | cons item items =>
      obtain ⟨first, rest⟩ := finite
      rw [carriedItems, first.carried_eq, FiniteItems.carriedItems_eq rest]

theorem FiniteEntries.carriedEntries_eq {entries : List (String × Value)}
    (finite : FiniteEntries entries) : carriedEntries entries = entries := by
  cases entries with
  | nil => rfl
  | cons entry entries =>
      obtain ⟨first, rest⟩ := finite
      rw [carriedEntries, first.carried_eq, FiniteEntries.carriedEntries_eq rest]

end

mutual

theorem finite_carried (value : Value) : value.carried.Finite := by
  cases value with
  | float number =>
      rw [carried]
      split
      · rename_i finite
        rwa [Finite]
      · simp [Finite]
  | list items =>
      rw [carried, Finite]
      exact finite_carriedItems items
  | dict entries =>
      rw [carried, Finite]
      exact finite_carriedEntries entries
  | _ => simp [carried, Finite]

theorem finite_carriedItems (items : List Value) : FiniteItems (carriedItems items) := by
  cases items with
  | nil => trivial
  | cons item items => exact ⟨finite_carried item, finite_carriedItems items⟩

theorem finite_carriedEntries (entries : List (String × Value)) :
    FiniteEntries (carriedEntries entries) := by
  cases entries with
  | nil => trivial
  | cons entry entries => exact ⟨finite_carried entry.2, finite_carriedEntries entries⟩

end

theorem carried_eq_self_iff {value : Value} : value.carried = value ↔ value.Finite :=
  ⟨fun same => same ▸ value.finite_carried, Finite.carried_eq⟩

mutual

theorem Ordered.carried {value : Value} (ordered : value.Ordered) : value.carried.Ordered := by
  cases value with
  | float number =>
      rw [Value.carried]
      split <;> simp [Ordered]
  | list items =>
      rw [Ordered] at ordered
      rw [Value.carried, Ordered]
      exact OrderedItems.carried ordered
  | dict entries =>
      rw [Ordered] at ordered
      rw [Value.carried, Ordered]
      refine ⟨?_, OrderedEntries.carried ordered.2⟩
      rw [carriedEntries_eq]
      exact Dict.sorted_mapValues_iff.2 ordered.1
  | _ => simp [Value.carried, Ordered]

theorem OrderedItems.carried {items : List Value} (ordered : OrderedItems items) :
    OrderedItems (carriedItems items) := by
  cases items with
  | nil => exact ordered
  | cons item items => exact ⟨Ordered.carried ordered.1, OrderedItems.carried ordered.2⟩

theorem OrderedEntries.carried {entries : List (String × Value)}
    (ordered : OrderedEntries entries) : OrderedEntries (carriedEntries entries) := by
  cases entries with
  | nil => exact ordered
  | cons entry entries => exact ⟨Ordered.carried ordered.1, OrderedEntries.carried ordered.2⟩

end

theorem carried_eq_str_iff {value : Value} {text : String} :
    value.carried = .str text ↔ value = .str text := by
  cases value with
  | float number =>
      rw [carried]
      split <;> simp
  | _ => simp [carried]

theorem carried_ofTexts (texts : List String) : (ofTexts texts).carried = ofTexts texts := by
  rw [ofTexts, carried, carriedItems_eq, List.map_map]
  rfl

inductive Step where
  | item (index : Nat)
  | entry (key : String)

def step? : Value → Step → Option Value
  | .list items, .item index => items[index]?
  | .dict entries, .entry key => Dict.get? entries key
  | _, _ => none

def at? (value : Value) (place : List Step) : Option Value :=
  place.foldlM step? value

/-- What may stand in the place of a value after the way through JSON. What a list or a dictionary
holds is not compared, since it stands at places of its own. -/
def ComesBackAs (value back : Value) : Prop :=
  match value with
  | .float number => back = if number.isFinite then .float number else .null
  | .list items => ∃ held, back = .list held ∧ held.length = items.length
  | .dict entries => ∃ held, back = .dict held ∧ Dict.keys held = Dict.keys entries
  | _ => back = value

theorem step?_carried (value : Value) (step : Step) :
    value.carried.step? step = (value.step? step).map carried := by
  cases value with
  | float number =>
      rw [carried]
      split <;> rfl
  | list items =>
      rw [carried, carriedItems_eq]
      cases step with
      | item index => exact List.getElem?_map
      | entry key => rfl
  | dict entries =>
      rw [carried, carriedEntries_eq]
      cases step with
      | item index => rfl
      | entry key => exact Dict.get?_mapValues carried entries key
  | _ => rfl

theorem at?_carried (value : Value) (place : List Step) :
    value.carried.at? place = (value.at? place).map carried := by
  induction place generalizing value with
  | nil => rfl
  | cons step place ih =>
      change value.carried.step? step >>= (at? · place) =
        (value.step? step >>= (at? · place)).map carried
      rw [step?_carried]
      cases value.step? step with
      | none => rfl
      | some held => exact ih held

theorem comesBackAs_carried (value : Value) : value.ComesBackAs value.carried := by
  cases value with
  | list items =>
      refine ⟨carriedItems items, by rw [carried], ?_⟩
      rw [carriedItems_eq, List.length_map]
  | dict entries =>
      refine ⟨carriedEntries entries, by rw [carried], ?_⟩
      rw [carriedEntries_eq]
      exact List.map_map
  | _ => simp [ComesBackAs, carried]

/-- On a way through JSON every number that is not finite becomes null, wherever it stands, and
nothing else changes. A second way changes nothing more. -/
theorem ofJson_toJson_by_places (value : Value) :
    (∀ place, Option.Rel ComesBackAs (value.at? place) ((ofJson value.toJson).at? place)) ∧
    ofJson value.toJson = value.carried ∧
    (ofJson value.toJson = value ↔ value.Finite) ∧
    ofJson (ofJson value.toJson).toJson = ofJson value.toJson := by
  rw [ofJson_toJson, ofJson_toJson]
  refine ⟨?_, rfl, carried_eq_self_iff, value.finite_carried.carried_eq⟩
  intro place
  rw [at?_carried]
  cases value.at? place with
  | none => exact .none
  | some held => exact .some held.comesBackAs_carried

example : ofJson (toJson (.list [.int Int64.minValue, .float 2.0, .float (0.0 / 0.0)])) =
    .list [.int Int64.minValue, .float 2.0, .null] := by
  rfl

end Value

end Provisioning
