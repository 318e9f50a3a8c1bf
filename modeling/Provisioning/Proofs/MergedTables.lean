import Mathlib.Data.List.Basic
import Provisioning.Proofs.Dict
import Provisioning.Proofs.Lowercase
import Provisioning.Settings.Merge

/-!
Tables merged into tables, seen place by place. A merge is a series of writes, one for each leaf and
each empty table that comes in, and at every leaf the last write that has a say in it counts.
-/

namespace Provisioning.Merge

def isEmptyTable : Value → Bool
  | .dict [] => true
  | _ => false

/-- What stands at a place below a value. A table is seen without its entries. -/
def seenAt : List String → Value → Option Value
  | [], .dict _ => some (.dict [])
  | [], leaf => some leaf
  | key :: rest, value => (Dict.get? (entriesOf value) key).bind (seenAt rest)

structure Write where
  place : List String
  value : Value

namespace Write

def under (names : List String) (write : Write) : Write :=
  { write with place := names ++ write.place }

def afterFrom (value : Value) (held : Option Value) : List String → List String → Option Value
  | [], asked => if isEmptyTable value then held.or (seenAt asked value) else seenAt asked value
  | _ :: _, [] => some (.dict [])
  | name :: names, key :: keys => if name = key then afterFrom value held names keys else held

/-- What is seen at the place asked for after the write. A place above becomes a table, and one
below goes with what was there; an empty table leaves what is there as it is. -/
def after (asked : List String) (held : Option Value) (write : Write) : Option Value :=
  afterFrom write.value held write.place asked

end Write

mutual

/-- The writes that a value makes where it is stored. Keys are stored in lower case. -/
def writes : Value → List Write
  | .dict entries => if entries.isEmpty then [⟨[], .dict []⟩] else entryWrites entries
  | leaf => [⟨[], leaf⟩]

def entryWrites : List (String × Value) → List Write
  | [] => []
  | (key, value) :: rest => (writes value).map (Write.under [Text.lower key]) ++ entryWrites rest

end

theorem foldl_after_under (made : List Write) (name key : String) (rest : List String)
    (held : Option Value) :
    (made.map (Write.under [name])).foldl (Write.after (key :: rest)) held =
      if name = key then made.foldl (Write.after rest) held else held := by
  induction made generalizing held with
  | nil => simp
  | cons write made ih =>
      rw [List.map_cons, List.foldl_cons, ih, List.foldl_cons]
      by_cases same : name = key
      · subst same
        simp [Write.after, Write.under, Write.afterFrom]
      · simp [Write.after, Write.under, Write.afterFrom, same]

theorem foldl_after_below {made : List Write} (nonempty : made ≠ []) (name : String)
    (held : Option Value) :
    (made.map (Write.under [name])).foldl (Write.after []) held = some (.dict []) := by
  rw [← List.dropLast_append_getLast nonempty, List.map_append, List.foldl_append]
  rfl

theorem writes_ne_nil : ∀ value, writes value ≠ []
  | .dict [] => by simp [writes]
  | .dict ((key, value) :: rest) => by simp [writes, entryWrites, writes_ne_nil value]
  | .null | .bool _ | .int _ | .float _ | .str _ | .list _ => by simp [writes]

def stored (held : Option Value) : Value → Value
  | .dict incoming => setEntries (held.getD (.dict [])) incoming
  | leaf => leaf

theorem setEntry_eq (entries : Mapping) (key : String) (value : Value) :
    setEntry entries key value = Dict.insert entries (Text.lower key)
      (stored (Dict.get? entries (Text.lower key)) value) := by
  cases value <;> simp [setEntry, stored]

theorem foldl_after_getD {made : List Write} (nonempty : made ≠ []) (name : String)
    (asked : List String) (held : Option Value) {fallback : Value}
    (bare : entriesOf fallback = []) :
    (made.map (Write.under [name])).foldl (Write.after asked) (seenAt asked (held.getD fallback)) =
      (made.map (Write.under [name])).foldl (Write.after asked) (held.bind (seenAt asked)) := by
  cases asked with
  | nil => rw [foldl_after_below nonempty, foldl_after_below nonempty]
  | cons key rest =>
      cases held with
      | some value => rfl
      | none => rw [Option.getD_none, seenAt, bare, Dict.get?_nil]; rfl

theorem after_empty (asked : List String) (held : Option Value) :
    Write.after asked (held.bind (seenAt asked)) ⟨[], .dict []⟩ =
      seenAt asked (held.getD (.dict [])) := by
  cases held with
  | none => rfl
  | some value =>
      cases asked with
      | nil => cases value <;> rfl
      | cons key rest => exact Option.or_none

theorem seenAt_insert {held inner : Value} {name : String} {made : List Write}
    (nonempty : made ≠ [])
    (below : ∀ rest, seenAt rest inner = made.foldl (Write.after rest)
      ((Dict.get? (entriesOf held) name).bind (seenAt rest)))
    (asked : List String) :
    seenAt asked (.dict (Dict.insert (entriesOf held) name inner)) =
      (made.map (Write.under [name])).foldl (Write.after asked) (seenAt asked held) := by
  cases asked with
  | nil => rw [foldl_after_below nonempty]; rfl
  | cons key rest =>
      change (Dict.get? (Dict.insert (entriesOf held) name inner) key).bind (seenAt rest) = _
      rw [foldl_after_under, Dict.get?_insert]
      split
      · rename_i same
        subst same
        exact below rest
      · rfl

mutual

theorem seenAt_stored (asked : List String) (held : Option Value) (value : Value) :
    seenAt asked (stored held value) =
      (writes value).foldl (Write.after asked) (held.bind (seenAt asked)) := by
  cases value with
  | dict entries =>
      cases entries with
      | nil =>
          rw [stored, setEntries]
          exact (after_empty asked held).symm
      | cons entry entries =>
          rw [stored, seenAt_setEntries, writes, List.isEmpty_cons, if_neg Bool.false_ne_true,
            entryWrites, List.foldl_append, List.foldl_append,
            foldl_after_getD (writes_ne_nil entry.2) _ asked held rfl]
  | _ => simp [stored, writes, Write.after, Write.afterFrom, isEmptyTable]

theorem seenAt_setEntries (asked : List String) (held : Value) (entries : List (String × Value)) :
    seenAt asked (setEntries held entries) =
      (entryWrites entries).foldl (Write.after asked) (seenAt asked held) := by
  cases entries with
  | nil => simp [setEntries, entryWrites]
  | cons entry entries =>
      obtain ⟨key, value⟩ := entry
      rw [setEntries, seenAt_setEntries, entryWrites, List.foldl_append, setEntry_eq,
        seenAt_insert (writes_ne_nil value) fun rest => seenAt_stored rest _ value]

end

mutual

/-- A value as merges make it: its tables are in key order and have their keys in lower case. -/
def Settled : Value → Prop
  | .dict entries => Dict.Sorted entries ∧ SettledEntries entries
  | _ => True

def SettledEntries : List (String × Value) → Prop
  | [] => True
  | (key, value) :: rest => Text.lower key = key ∧ Settled value ∧ SettledEntries rest

end

theorem settledEntries_iff (entries : Mapping) :
    SettledEntries entries ↔ ∀ entry ∈ entries, Text.lower entry.1 = entry.1 ∧ Settled entry.2 := by
  induction entries with
  | nil => simp [SettledEntries]
  | cons entry entries ih => simp [SettledEntries, ih, and_assoc]

theorem settled_dict_iff {entries : Mapping} : Settled (.dict entries) ↔
    Dict.Sorted entries ∧ ∀ entry ∈ entries, Text.lower entry.1 = entry.1 ∧ Settled entry.2 := by
  rw [Settled, settledEntries_iff]

theorem Settled.entriesOf {held : Value} (settled : Settled held) :
    Settled (.dict (entriesOf held)) := by
  cases held with
  | dict entries => exact settled
  | _ => exact settled_dict_iff.2 ⟨List.Pairwise.nil, by simp [Merge.entriesOf, Value.entries?]⟩

theorem Settled.insert {entries : Mapping} (settled : Settled (.dict entries)) {name : String}
    (low : Text.lower name = name) {value : Value} (valueSettled : Settled value) :
    Settled (.dict (Dict.insert entries name value)) := by
  obtain ⟨sorted, each⟩ := settled_dict_iff.1 settled
  refine settled_dict_iff.2 ⟨sorted.insert name value, ?_⟩
  intro entry member
  rcases Dict.mem_insert member with rfl | old
  · exact ⟨low, valueSettled⟩
  · exact each entry old

theorem Settled.get? {entries : Mapping} (settled : Settled (.dict entries)) (name : String) :
    ∀ value ∈ Dict.get? entries name, Settled value := fun _ found =>
  ((settled_dict_iff.1 settled).2 _ (Dict.mem_of_get? found)).2

mutual

theorem Settled.stored {held : Option Value} (settled : ∀ value ∈ held, Settled value)
    (value : Value) : Settled (stored held value) := by
  cases value with
  | dict entries =>
      refine Settled.setEntries ?_ entries
      cases held with
      | none => exact settled_dict_iff.2 ⟨List.Pairwise.nil, by simp⟩
      | some value => exact settled value rfl
  | _ => simp [Merge.stored, Settled]

theorem Settled.setEntries {held : Value} (settled : Settled held)
    (entries : List (String × Value)) : Settled (setEntries held entries) := by
  cases entries with
  | nil => exact settled
  | cons entry entries =>
      obtain ⟨key, value⟩ := entry
      rw [Merge.setEntries, setEntry_eq]
      refine Settled.setEntries ?_ entries
      exact settled.entriesOf.insert (Text.lower_lower key)
        (Settled.stored (settled.entriesOf.get? _) value)

end

theorem Settled.setAlong {names : List String} (nonempty : names ≠ [])
    (low : ∀ name ∈ names, Text.lower name = name) {held : Value} (settled : Settled held)
    (value : Value) : Settled (setAlong value (names.map .key) held) := by
  induction names generalizing held with
  | nil => exact absurd rfl nonempty
  | cons name names ih =>
      have lowHere := low name List.mem_cons_self
      cases names with
      | nil =>
          rw [List.map_singleton, Merge.setAlong, setEntry_eq, lowHere]
          exact settled.entriesOf.insert lowHere (Settled.stored (settled.entriesOf.get? _) value)
      | cons next names =>
          refine settled.entriesOf.insert lowHere (ih (by simp) ?_ ?_)
          · exact fun other member => low other (List.mem_cons_of_mem name member)
          · cases found : Dict.get? (Merge.entriesOf held) name with
            | none => simp [Settled]
            | some inner => exact settled.entriesOf.get? name inner found

mutual

theorem Settled.stored_none {value : Value} (settled : Settled value) :
    Merge.stored none value = value := by
  cases value with
  | dict entries => exact Settled.setEntries_append [] entries settled
  | _ => rfl

theorem Settled.setEntries_append (earlier entries : Mapping)
    (settled : Settled (.dict (earlier ++ entries))) :
    Merge.setEntries (.dict earlier) entries = .dict (earlier ++ entries) := by
  cases entries with
  | nil => rw [List.append_nil, Merge.setEntries]
  | cons entry entries =>
      obtain ⟨key, value⟩ := entry
      obtain ⟨sorted, each⟩ := settled_dict_iff.1 settled
      obtain ⟨low, valueSettled⟩ := each (key, value) (by simp)
      have above : ∀ other ∈ earlier, other.1 < key := fun other member =>
        (List.pairwise_append.1 sorted).2.2 other member (key, value) List.mem_cons_self
      have reordered :
          earlier ++ (key, value) :: entries = earlier ++ [(key, value)] ++ entries := by
        simp
      change Merge.setEntries (.dict (setEntry earlier key value)) entries = _
      rw [setEntry_eq, low, Dict.get?_eq_none_of_above above, valueSettled.stored_none,
        Dict.insert_above above, reordered]
      exact Settled.setEntries_append _ entries (reordered ▸ settled)

end

section LaidOver

variable {base : Option Value}

end LaidOver

end Provisioning.Merge
