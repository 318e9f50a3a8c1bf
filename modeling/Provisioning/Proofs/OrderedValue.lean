import Provisioning.Convert
import Provisioning.Proofs.Dict
import Provisioning.Settings

/-!
Values whose dictionaries are in key order at every depth. Every value that is read from a text is
of this form, and items and settings hold no others.
-/

namespace Provisioning

namespace Value

mutual

def Ordered : Value → Prop
  | .list items => OrderedItems items
  | .dict entries => Dict.Sorted entries ∧ OrderedEntries entries
  | _ => True

def OrderedItems : List Value → Prop
  | [] => True
  | item :: items => Ordered item ∧ OrderedItems items

def OrderedEntries : List (String × Value) → Prop
  | [] => True
  | (_, value) :: entries => Ordered value ∧ OrderedEntries entries

end

@[simp] theorem ordered_null : Value.null.Ordered := by simp [Ordered]

@[simp] theorem ordered_str (text : String) : (Value.str text).Ordered := by simp [Ordered]

theorem orderedItems_iff (items : List Value) :
    OrderedItems items ↔ ∀ item ∈ items, item.Ordered := by
  induction items with
  | nil => simp [OrderedItems]
  | cons item items ih => simp [OrderedItems, ih]

theorem orderedEntries_iff (entries : List (String × Value)) :
    OrderedEntries entries ↔ ∀ entry ∈ entries, entry.2.Ordered := by
  induction entries with
  | nil => simp [OrderedEntries]
  | cons entry entries ih => simp [OrderedEntries, ih]

theorem ordered_list_iff {items : List Value} :
    (Value.list items).Ordered ↔ ∀ item ∈ items, item.Ordered := by
  rw [Ordered, orderedItems_iff]

theorem ofTexts_ordered (texts : List String) : (Value.ofTexts texts).Ordered := by
  refine ordered_list_iff.2 ?_
  intro item member
  obtain ⟨text, _, rfl⟩ := List.mem_map.1 member
  exact ordered_str text

theorem ordered_dict_iff {entries : Mapping} :
    (Value.dict entries).Ordered ↔ Dict.Sorted entries ∧ ∀ entry ∈ entries, entry.2.Ordered := by
  rw [Ordered, orderedEntries_iff]

end Value

def OrderedMapping (mapping : Mapping) : Prop :=
  (Value.dict mapping).Ordered

theorem OrderedMapping.nil : OrderedMapping [] :=
  Value.ordered_dict_iff.2 ⟨List.Pairwise.nil, by simp⟩

theorem OrderedMapping.sorted {mapping : Mapping} (ordered : OrderedMapping mapping) :
    Dict.Sorted mapping :=
  (Value.ordered_dict_iff.1 ordered).1

theorem OrderedMapping.get? {mapping : Mapping} (ordered : OrderedMapping mapping) {key : String}
    {value : Value} (found : Dict.get? mapping key = some value) : value.Ordered :=
  (Value.ordered_dict_iff.1 ordered).2 _ (Dict.mem_of_get? found)

theorem OrderedMapping.insert {mapping : Mapping} (ordered : OrderedMapping mapping) (key : String)
    {value : Value} (valueOrdered : value.Ordered) :
    OrderedMapping (Dict.insert mapping key value) := by
  obtain ⟨sorted, members⟩ := Value.ordered_dict_iff.1 ordered
  refine Value.ordered_dict_iff.2 ⟨sorted.insert key value, ?_⟩
  intro entry member
  rcases Dict.mem_insert member with rfl | old
  · exact valueOrdered
  · exact members entry old

theorem OrderedMapping.erase {mapping : Mapping} (ordered : OrderedMapping mapping)
    (key : String) : OrderedMapping (Dict.erase mapping key) := by
  obtain ⟨sorted, members⟩ := Value.ordered_dict_iff.1 ordered
  exact Value.ordered_dict_iff.2
    ⟨sorted.erase key, fun entry member => members entry (List.mem_of_mem_filter member)⟩

theorem OrderedMapping.ofList {entries : List (String × Value)}
    (members : ∀ entry ∈ entries, entry.2.Ordered) : OrderedMapping (Dict.ofList entries) :=
  Value.ordered_dict_iff.2
    ⟨Dict.Sorted.ofList entries, fun entry member => members entry (Dict.mem_ofList member)⟩

def Settings.Ordered (settings : Settings) : Prop :=
  OrderedMapping settings.values

theorem Settings.builtin_ordered : builtin.Ordered := by
  refine Value.ordered_dict_iff.2 ⟨builtin_sorted, ?_⟩
  simp [builtin, Value.Ordered, Value.OrderedItems, Value.OrderedEntries, Dict.Sorted]

namespace Options

theorem readPiece_ordered (piece : List Char) : (readPiece piece).2.Ordered := by
  unfold readPiece
  split <;> simp

theorem collect_ordered {stored added : Value} (storedOrdered : stored.Ordered)
    (addedOrdered : added.Ordered) : (collect stored added).Ordered := by
  unfold collect
  split
  · rw [Value.ordered_list_iff] at storedOrdered ⊢
    intro item member
    rcases List.mem_append.1 member with old | new
    · exact storedOrdered item old
    · exact List.mem_singleton.1 new ▸ addedOrdered
  · simp [Value.ordered_list_iff, storedOrdered, addedOrdered]

theorem add_ordered {options : Mapping} (ordered : OrderedMapping options) (multiple : Bool)
    {pair : String × Value} (pairOrdered : pair.2.Ordered) :
    OrderedMapping (add multiple options pair) := by
  unfold add
  dsimp only
  split
  · exact ordered
  · split
    · rename_i found
      exact ordered.insert _ (collect_ordered (ordered.get? found) pairOrdered)
    · exact ordered.insert _ pairOrdered

theorem get?_add_empty {options : Mapping} (absent : Dict.get? options "" = none)
    (multiple : Bool) (pair : String × Value) :
    Dict.get? (add multiple options pair) "" = none := by
  unfold add
  dsimp only
  split
  · exact absent
  · rename_i nonempty
    split <;> simp [Dict.get?_insert, nonempty, absent]

theorem pairs_ordered {text : String} {given : List (String × Value)}
    (found : pairs text = .ok given) : ∀ pair ∈ given, pair.2.Ordered := by
  unfold pairs at found
  cases split : Text.words text with
  | error cause => simp [split, Except.map] at found
  | ok words =>
      simp only [split, Except.map, Except.ok.injEq] at found
      intro pair member
      obtain ⟨piece, _, rfl⟩ := List.mem_map.1 (found ▸ member)
      exact readPiece_ordered piece

theorem foldl_add_ok {given : List (String × Value)} (ordered : ∀ pair ∈ given, pair.2.Ordered)
    (multiple : Bool) (options : Mapping)
    (kept : OrderedMapping options ∧ Dict.get? options "" = none) :
    OrderedMapping (given.foldl (add multiple) options) ∧
      Dict.get? (given.foldl (add multiple) options) "" = none := by
  induction given generalizing options with
  | nil => exact kept
  | cons pair rest ih =>
      refine ih (fun other member => ordered other (List.mem_cons_of_mem _ member)) _ ?_
      exact ⟨add_ordered kept.1 multiple (ordered pair List.mem_cons_self),
        get?_add_empty kept.2 multiple pair⟩

theorem read_ok {multiple : Bool} {text : String} {options : Mapping}
    (found : read multiple text = .ok options) :
    OrderedMapping options ∧ Dict.get? options "" = none := by
  unfold read at found
  cases parsed : pairs text with
  | error cause => simp [parsed, Except.map] at found
  | ok given =>
      simp only [parsed, Except.map, Except.ok.injEq] at found
      subst found
      exact foldl_add_ok (pairs_ordered parsed) multiple [] ⟨OrderedMapping.nil, rfl⟩

end Options

namespace Yaml

theorem plainValue?_ordered {text : String} {value : Value}
    (found : plainValue? text = some value) : value.Ordered := by
  unfold plainValue? floatOrText at found
  grind [Value.Ordered]

theorem taggedInteger?_ordered {text : String} {value : Value}
    (found : taggedInteger? text = some value) : value.Ordered := by
  unfold taggedInteger? at found
  grind [Value.Ordered]

theorem scalarValue?_ordered {tag : Option String} {plain : Bool} {text : String} {value : Value}
    (found : scalarValue? tag plain text = some value) : value.Ordered := by
  unfold scalarValue? at found
  grind [Value.Ordered, plainValue?_ordered, taggedInteger?_ordered, Option.map_eq_some_iff]

namespace Node

def Yields {α : Type} (property : α → Prop) (reading : Follow α) : Prop :=
  ∀ left value rest, reading.run left = some (value, rest) → property value

section Yields

variable {α β : Type} {property : α → Prop} {other : β → Prop}

theorem Yields.pure {value : α} (holds : property value) :
    Yields property (Pure.pure value : Follow α) := by
  intro left result rest found
  obtain ⟨rfl, _⟩ : value = result ∧ left = rest := by simpa using found
  exact holds

theorem Yields.failure : Yields property (failure : Follow α) := by
  intro left result rest found
  simp at found

theorem Yields.bind {reading : Follow β} {next : β → Follow α} (first : Yields other reading)
    (second : ∀ value, other value → Yields property (next value)) :
    Yields property (reading >>= next) := by
  intro left result rest found
  simp only [StateT.run_bind, Option.bind_eq_bind, Option.bind_eq_some_iff] at found
  obtain ⟨⟨value, between⟩, read, continued⟩ := found
  exact second value (first left value between read) between result rest continued

theorem Yields.any (reading : Follow α) : Yields (fun _ => True) reading :=
  fun _ _ _ _ => trivial

theorem Yields.mapM {items : List β} {read : β → Follow α}
    (each : ∀ item, Yields property (read item)) :
    Yields (fun values => ∀ value ∈ values, property value) (items.mapM read) := by
  induction items with
  | nil =>
      rw [List.mapM_nil]
      exact Yields.pure (by simp)
  | cons item items ih =>
      rw [List.mapM_cons]
      refine Yields.bind (each item) fun value holds => ?_
      refine Yields.bind ih fun values rest => ?_
      exact Yields.pure (List.forall_mem_cons.2 ⟨holds, rest⟩)

theorem refusing_yields {value : Option Value}
    (ordered : ∀ found, value = some found → found.Ordered) :
    Yields Value.Ordered (refusing value) := by
  cases value with
  | none => exact Yields.failure
  | some found => exact Yields.pure (ordered found rfl)

end Yields

theorem scalar_yields (tag : Option String) (plain : Bool) (text : String) :
    Yields Value.Ordered (refusing (scalarValue? tag plain text)) :=
  refusing_yields fun _ => scalarValue?_ordered

theorem valueFrom_ordered (named : List (Nat × Node)) (depth : Nat) (node : Node) :
    Yields Value.Ordered (valueFrom named depth node) := by
  induction depth generalizing node with
  | zero =>
      unfold valueFrom
      refine Yields.bind (Yields.any _) fun reached _ => ?_
      split
      · exact scalar_yields _ _ _
      · exact Yields.failure
  | succ depth ih =>
      unfold valueFrom
      refine Yields.bind (Yields.any _) fun reached _ => ?_
      split
      · exact scalar_yields _ _ _
      · split
        · refine Yields.bind (Yields.mapM ih) fun values ordered => ?_
          exact Yields.pure (Value.ordered_list_iff.2 ordered)
        · exact Yields.failure
      · split
        · have entryOrdered (entry : Node × Node) :
              Yields (fun read : String × Value => read.2.Ordered) (do
                let key ← valueFrom named depth entry.1
                let member ← valueFrom named depth entry.2
                return (← keyText key, member)) :=
            Yields.bind (Yields.any _) fun _ _ => Yields.bind (ih entry.2) fun _ memberOrdered =>
              Yields.bind (Yields.any _) fun _ _ => Yields.pure memberOrdered
          refine Yields.bind (Yields.mapM entryOrdered) fun entries ordered => ?_
          exact Yields.pure (OrderedMapping.ofList ordered)
        · exact Yields.failure
      · exact Yields.failure

end Node

theorem read?_ordered {text : String} {value : Value} (found : read? text = some value) :
    value.Ordered := by
  unfold read? at found
  dsimp only at found
  split at found
  · simp only [Option.bind_eq_bind, Option.bind_eq_some_iff] at found
    obtain ⟨tokens, _, node, _, read⟩ := found
    unfold Node.value? at read
    obtain ⟨⟨_, rest⟩, run, rfl⟩ := Option.map_eq_some_iff.1 read
    exact Node.valueFrom_ordered _ _ _ _ _ rest run
  · simp at found

end Yaml

end Provisioning
