import Provisioning.Ancestry

/-!
The effective value of a property. Scalars and choices are taken from the nearest item of the
chain that holds a value of its own, and then from the settings. Mappings are merged: every item of
the chain lays its overlay over what the next one resolves to.
-/

namespace Provisioning

structure PropertyKeys where
  field : String
  settingsKey : String
  deriving DecidableEq

/-- Every proxy setting is resolved through the one proxy field. -/
def proxyPrefix : String := "proxy_url_"

namespace Item

def propertyKeys (item : Item) (property : String) : PropertyKeys where
  field := if proxyPrefix.toList.isPrefixOf property.toList then "proxy" else property
  settingsKey :=
    match (item.kind.resolvable? property).bind Field.settingsKey with
    | some key => key
    | none => property

def scalarState (field : String) (item : Item) : Except ItemError (Inheritable Value) :=
  match item.slot? field with
  | some (.scalar state) => .ok state
  | some (.choice state) => .ok (state.map .str)
  | some (.mapping _) | some (.interfaces _) => .error (.wrongShape field .scalar)
  | none => (item.get field).map .own

def choiceState (field : String) (item : Item) : Except ItemError (Inheritable String) :=
  match item.slot? field with
  | some (.choice state) => .ok state
  | some _ => .error (.wrongShape field .choice)
  | none => .error (item.unknownAttribute field)

def mappingState (field : String) (item : Item) : Except ItemError (Inheritable Overlay) :=
  match item.slot? field with
  | some (.mapping state) => .ok state
  | some _ => .error (.wrongShape field .dict)
  | none =>
      if item.hasProperty field then
        .error (.wrongShape field .dict)
      else
        .error (item.unknownAttribute field)

/-- The nearest own value from `current` on upwards. The search ends at an ancestor of a kind that
does not declare the field. -/
def nearestFrom {α : Type} (lookup : Lookup) (field : String)
    (state : Item → Except ItemError (Inheritable α)) (visited : Visited) (current : Item) :
    Except ItemError (Option α) := do
  match ← state current with
  | .own value => return some value
  | .inherit =>
      match found : current.parent? lookup with
      | none => return none
      | some parent =>
          if parent.hasProperty field then
            match entered : visited.enter parent with
            | .error cause => .error cause
            | .ok met =>
                have _closer := Visited.room_lt (mem_of_parent? found) entered
                nearestFrom lookup field state met parent
          else
            return none
termination_by visited.room lookup.catalog
decreasing_by exact _closer

def nearestOwn? {α : Type} (item : Item) (field : String)
    (state : Item → Except ItemError (Inheritable α)) (lookup : Lookup) :
    Except ItemError (Option α) :=
  nearestFrom lookup field state (Visited.start item) item

def unresolved (item : Item) (property : String) : ItemError :=
  .unresolved item.name property

/-- List settings may be written as delimited text. -/
def coerceTerminus (item : Item) (keys : PropertyKeys) (value : Value) :
    Except ItemError Value :=
  match (item.kind.field? keys.field).bind Field.shape? with
  | some .inheritList => (Convert.texts keys.settingsKey value).map Value.ofTexts
  | _ => .ok value

def scalarTerminus (item : Item) (property : String) : Except ItemError Value :=
  let keys := item.propertyKeys property
  match item.settings.terminus? keys.settingsKey with
  | none => .error (item.unresolved property)
  | some value =>
      if Convert.isInheritToken value then
        .error (item.unresolved property)
      else
        item.coerceTerminus keys value

def resolveScalar (item : Item) (property : String) (lookup : Lookup) :
    Except ItemError Value := do
  let field := (item.propertyKeys property).field
  match ← item.nearestOwn? field (scalarState field) lookup with
  | some value => return value
  | none => item.scalarTerminus property

def choiceTerminus (item : Item) (property : String) (members : List String) :
    Except ItemError String :=
  let key := (item.propertyKeys property).settingsKey
  match item.settings.terminus? key with
  | none => .error (item.unresolved property)
  | some (.str token) =>
      if token = inheritToken then
        .error (item.unresolved property)
      else
        memberFor key members token
  | some other => Convert.refuse key (.settingType other.type)

def resolveChoice (item : Item) (property : String) (lookup : Lookup) :
    Except ItemError String := do
  let field ← item.field property
  match field.shape?.bind Shape.members? with
  | none => .error (.wrongShape property .choice)
  | some members =>
      match ← item.nearestOwn? property (choiceState property) lookup with
      | some member => return member
      | none => item.choiceTerminus property members

def resolveChoiceAs (α : Type) [Choice α] (item : Item) (property : String) (lookup : Lookup) :
    Except ItemError α := do
  Choice.ofToken property (← item.resolveChoice property lookup)

/-- The mapping that the settings hold for a property; null and nothing are the empty one. -/
def mappingTerminus (item : Item) (property : String) : Except ItemError Mapping :=
  match item.settings.get? property with
  | some (.dict entries) => .ok entries
  | some .null | none => .ok []
  | some _ => .error (.wrongShape property .settingsDict)

/-- The merged mapping of `current` and the items above it, over the settings of the last one. -/
def mergedFrom (lookup : Lookup) (property : String) (visited : Visited) (current : Item) :
    Except ItemError Mapping := do
  let own ← mappingState property current
  let inherited ← match found : current.parent? lookup with
    | none => current.mappingTerminus property
    | some parent =>
        if parent.hasProperty property then
          match entered : visited.enter parent with
          | .error cause => .error cause
          | .ok met =>
              have _closer := Visited.room_lt (mem_of_parent? found) entered
              mergedFrom lookup property met parent
        else
          current.mappingTerminus property
  return mergeLayers inherited own.own?
termination_by visited.room lookup.catalog
decreasing_by exact _closer

def resolveMapping (item : Item) (property : String) (lookup : Lookup) :
    Except ItemError Mapping := do
  let field ← item.field property
  if field.shape?.any fun shape => shape.isMapping && shape.isResolvable then
    mergedFrom lookup property (Visited.start item) item
  else
    .error (.wrongShape property .inheritableDict)

def owners (item : Item) (lookup : Lookup) : Except ItemError (List String) := do
  Convert.texts "owners" (← item.resolveScalar "owners" lookup)

end Item

end Provisioning
