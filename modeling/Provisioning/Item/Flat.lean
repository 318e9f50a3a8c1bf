import Provisioning.Resolution

/-!
Items as flat dictionaries. The raw form has every field as it is stored, the resolved form has
inherited values replaced by their effective ones, and the kept form is the raw one without aliases
and derived fields. Fields are written back from a dictionary in the order of its keys.
-/

namespace Provisioning

/-- Fields that the raw form shows under a second name as well. -/
def legacyAliases : List (String × String) :=
  [("autoinstall_meta", "ks_meta"), ("autoinstall", "kickstart")]

def stripAliases (dictionary : Mapping) : Mapping :=
  legacyAliases.foldl (fun kept pair => kept.erase pair.2) dictionary

def addAliases (dictionary : Mapping) : Mapping :=
  legacyAliases.foldl (fun extended pair =>
    match extended.get? pair.1 with
    | some value => extended.insert pair.2 value
    | none => extended) dictionary

namespace Item

def rawEntry (item : Item) (field : Field) : String × Value :=
  (field.name, item.rawValue field)

def rawDict (item : Item) : Mapping :=
  addAliases (Dict.ofList (item.kind.fields.map item.rawEntry))

def isInheriting (item : Item) (field : String) : Bool :=
  (item.slot? field).any Slot.isInherit

/-- Mappings are merged even where the item has one of its own. -/
def resolvedValue (item : Item) (lookup : Lookup) (field : Field) : Except ItemError Value :=
  match field.access with
  | .property (.inheritMap _) | .property .inheritYamlMap =>
      (item.resolveMapping field.name lookup).map .dict
  | .property (.inheritChoice _) =>
      if item.isInheriting field.name then
        (item.resolveChoice field.name lookup).map .str
      else
        .ok (item.rawValue field)
  | .property shape =>
      if shape.isResolvable && item.isInheriting field.name then
        item.resolveScalar field.resolutionName lookup
      else
        .ok (item.rawValue field)
  | .core _ => .ok (item.rawValue field)

def resolvedEntry (item : Item) (lookup : Lookup) (field : Field) :
    Except ItemError (String × Value) :=
  (item.resolvedValue lookup field).map fun value => (field.name, value)

def resolvedDict (item : Item) (lookup : Lookup) : Except ItemError Mapping := do
  let entries ← item.kind.fields.mapM (item.resolvedEntry lookup)
  return addAliases (Dict.ofList entries)

def serialize (item : Item) : Mapping :=
  let derived := item.kind.fields.filter Field.isDerived
  derived.foldl (fun kept field => kept.erase field.name) (stripAliases item.rawDict)

/-- Writes the entries one after another up to the first that is refused. The keys that are no
fields of the item are left over. -/
def applyEntries (item : Item) : List (String × Value) → Item × Except ItemError (List String)
  | [] => (item, .ok [])
  | (key, value) :: rest =>
      let field := Text.lower key
      if item.hasProperty field then
        match item.set field value with
        | .ok written => written.applyEntries rest
        | .error cause => (item, .error cause)
      else
        let (written, outcome) := item.applyEntries rest
        (written, outcome.map (key :: ·))

/-- Writes a flat dictionary. What was written before a refusal stays written. -/
def applyDict (item : Item) (dictionary : Mapping) : Item × Except ItemError Unit :=
  match item.applyEntries dictionary with
  | (written, .ok []) => (written, .ok ())
  | (written, .ok leftover) => (written, .error (.unknownFields leftover))
  | (written, .error cause) => (written, .error cause)

/-- The raw values of some fields, for sorting items; a field that is not there sorts as empty. -/
def sortKey (item : Item) (fields : List String) : List Value :=
  let dictionary := item.rawDict
  fields.map fun field => (dictionary.get? field).getD (.str "")

end Item

end Provisioning
