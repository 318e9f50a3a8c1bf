import Provisioning.Settings
import Provisioning.Settings.KeyPath
import Provisioning.Text.Lowercase

/-!
Laying sources of settings over each other. Tables are merged key by key and anything else is
replaced; keys are held in lower case.
-/

namespace Provisioning.Merge

def entriesOf (value : Value) : Mapping :=
  value.entries?.getD []

mutual

/-- Gives `key` a value. A table is merged into what the key holds. -/
def setEntry (entries : Mapping) (key : String) : Value → Mapping
  | .dict incoming =>
      let held := (Dict.get? entries (Text.lower key)).getD (.dict [])
      Dict.insert entries (Text.lower key) (setEntries held incoming)
  | .null => Dict.insert entries (Text.lower key) .null
  | .bool flag => Dict.insert entries (Text.lower key) (.bool flag)
  | .int number => Dict.insert entries (Text.lower key) (.int number)
  | .float number => Dict.insert entries (Text.lower key) (.float number)
  | .str text => Dict.insert entries (Text.lower key) (.str text)
  | .list items => Dict.insert entries (Text.lower key) (.list items)

def setEntries (held : Value) : List (String × Value) → Value
  | [] => held
  | (key, value) :: rest => setEntries (.dict (setEntry (entriesOf held) key value)) rest

end

/-- The place that an index means in a list of `size` items; negative ones count from the end. -/
def placeOf (size : Nat) (position : Int) : Nat :=
  if 0 ≤ position then position.toNat else size - position.natAbs

def setItem (items : List Value) (place : Nat) (item : Value) : List Value :=
  if place < items.length then
    items.set place item
  else
    items ++ List.replicate (place - items.length) .null ++ [item]

def setAlong (value : Value) : List Step → Value → Value
  | [], _ => value
  | [.key name], held => .dict (setEntry (entriesOf held) name value)
  | .key name :: steps, held =>
      let entries := entriesOf held
      let inner := (Dict.get? entries name).getD .null
      .dict (Dict.insert entries name (setAlong value steps inner))
  | .index position :: steps, held =>
      let items := held.items?.getD []
      let place := placeOf items.length position
      let inner := items[place]?.getD .null
      .list (setItem items place (setAlong value steps inner))

/-- Gives a key of a source its value. A key that is no path stands for itself. -/
def setKey (entries : Mapping) (key : String) (value : Value) : Mapping :=
  match KeyPath.read? key with
  | none => setEntry entries key value
  | some path =>
      if path.steps.isEmpty then
        setEntry entries path.root value
      else
        let held := (Dict.get? entries path.root).getD .null
        Dict.insert entries path.root (setAlong value path.steps held)

/-- Gives the entries of a source one after the other, in the order of its keys. The order shows only
where two entries spell one setting, such as `Console` and `console`. Which of the two counts is
then a choice made here: sources come as hash tables and promise no order. -/
def addSource (entries source : Mapping) : Mapping :=
  source.foldl (fun entries entry => setKey entries entry.1 entry.2) entries

/-- The sources laid over each other, the last one uppermost, and all of them over `base`. -/
def layered (base : Mapping) (sources : List Mapping) : Mapping :=
  addSource base (sources.foldl addSource [])

end Provisioning.Merge
