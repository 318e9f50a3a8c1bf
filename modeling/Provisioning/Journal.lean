import Provisioning.Descendants
import Provisioning.Item.Edit
import Provisioning.Log

/-!
The events that operations on items report, in the order in which they arise.
-/

namespace Provisioning.Journal

open Log

def linksTarget : String := "lineage::tree::links"

def walkerTarget : String := "lineage::tree::walker"

def resolveTarget : String := "lineage::resolve"

def serializeTarget : String := "lineage::serialize"

def childrenIgnored (item : Item) : List Event :=
  if item.kind.hasChildren then
    []
  else [{
    level := .warn
    target := linksTarget
    message := "Ignoring children write on a kind without logical children"
    fields := [("kind", .plain item.kind.name), ("item", .plain item.name)]
  }]

def childIgnored (item : Item) (child : String) : List Event :=
  if item.kind.hasChildren then
    []
  else [{
    level := .warn
    target := linksTarget
    message := "Ignoring child on a kind without logical children"
    fields := [("kind", .plain item.kind.name), ("item", .plain item.name),
      ("child", .quoted child)]
  }]

/-- A write to the children is the only write of a field that reports anything. -/
def write (item : Item) (field : String) (value : Value) : List Event :=
  match (item.kind.field? field).map Field.access with
  | some (.core .children) =>
      match Convert.texts "children" value with
      | .ok _ => childrenIgnored item
      | .error _ => []
  | _ => []

def orphan (lookup : Lookup) (item : Item) : List Event :=
  if item.isOrphan lookup then [{
    level := .debug
    target := linksTarget
    message := "Parent not found, treating item as a root"
    fields := [("item", .plain item.name), ("parent", .plain item.parentName)]
  }]
  else
    []

def climb (item : Item) (lookup : Lookup) : List Event :=
  let ancestry := item.ancestry lookup
  match ancestry.repeated with
  | some _ => []
  | none => orphan lookup ((item :: ancestry.ancestors).getLastD item)

def layers (item : Item) (lookup : Lookup) : List Event :=
  let reported := match item.layers lookup with
    | .ok layers =>
        let count := layers.length
        [{
          level := .debug
          target := walkerTarget
          message := s!"grab_tree found {count} layers (including settings)"
          fields := [("item", .plain item.name), ("layers", .count count)] : Event
        }]
    | .error _ => []
  climb item lookup ++ reported

def conceptualParent (item : Item) (lookup : Lookup) : List Event :=
  match item.conceptualParent lookup with
  | .ok none => climb item lookup
  | _ => []

def resolvedFrom (item : Item) (field : String) : Event where
  level := .trace
  target := resolveTarget
  message := "resolved from item"
  fields := [("item", .plain item.name), ("field", .quoted field)]

def nearestFrom {α : Type} (lookup : Lookup) (field : String)
    (state : Item → Except ItemError (Inheritable α)) (current : Item) : List Item → List Event
  | [] =>
      match state current with
      | .error _ => []
      | .ok (.own _) => [resolvedFrom current field]
      | .ok .inherit => orphan lookup current
  | parent :: above =>
      match state current with
      | .error _ => []
      | .ok (.own _) => [resolvedFrom current field]
      | .ok .inherit =>
          if parent.hasProperty field then nearestFrom lookup field state parent above else []

def nearest {α : Type} (item : Item) (field : String)
    (state : Item → Except ItemError (Inheritable α)) (lookup : Lookup) : List Event :=
  nearestFrom lookup field state item (item.ancestry lookup).ancestors

def resolveScalar (item : Item) (property : String) (lookup : Lookup) : List Event :=
  let field := (item.propertyKeys property).field
  nearest item field (Item.scalarState field) lookup

def resolveChoice (item : Item) (property : String) (lookup : Lookup) : List Event :=
  match ((item.kind.field? property).bind Field.shape?).bind Shape.members? with
  | some _ => nearest item property (Item.choiceState property) lookup
  | none => []

def mergedFrom (lookup : Lookup) (property : String) (current : Item) : List Item → List Event
  | [] =>
      match Item.mappingState property current with
      | .error _ => []
      | .ok _ => orphan lookup current
  | parent :: above =>
      match Item.mappingState property current with
      | .error _ => []
      | .ok _ =>
          if parent.hasProperty property then mergedFrom lookup property parent above else []

def isInheritableMapping (shape : Shape) : Bool :=
  shape.isMapping && shape.isResolvable

def resolveMapping (item : Item) (property : String) (lookup : Lookup) : List Event :=
  if ((item.kind.field? property).bind Field.shape?).any isInheritableMapping then
    mergedFrom lookup property item (item.ancestry lookup).ancestors
  else
    []

def resolvedValue (item : Item) (lookup : Lookup) (field : Field) : List Event :=
  match field.access with
  | .property (.inheritMap _) | .property .inheritYamlMap =>
      resolveMapping item field.name lookup
  | .property (.inheritChoice _) =>
      if item.isInheriting field.name then resolveChoice item field.name lookup else []
  | .property shape =>
      if shape.isResolvable && item.isInheriting field.name then
        resolveScalar item field.resolutionName lookup
      else
        []
  | .core _ => []

def resolvedFieldsFrom (item : Item) (lookup : Lookup) : List Field → List Event
  | [] => []
  | field :: rest =>
      resolvedValue item lookup field ++
        match item.resolvedValue lookup field with
        | .ok _ => resolvedFieldsFrom item lookup rest
        | .error _ => []

def resolvedDict (item : Item) (lookup : Lookup) : List Event :=
  resolvedFieldsFrom item lookup item.kind.fields

def missingChild? : Finding → Option Event
  | .item _ => none
  | .missing parent child => some {
      level := .debug
      target := walkerTarget
      message := "Child not found, skipping"
      fields := [("item", .plain parent), ("child", .plain child)]
    }

def descendants (item : Item) (lookup : Lookup) : List Event :=
  let missing := (item.explore lookup).findings.filterMap missingChild?
  match item.descendants lookup with
  | .ok found => missing ++ [{
      level := .debug
      target := walkerTarget
      message := "Collected descendants"
      fields := [("item", .plain item.name), ("count", .count found.length)]
    }]
  | .error _ => missing

def writesFrom (item : Item) : List (String × Value) → List Event
  | [] => []
  | (key, value) :: rest =>
      let field := Text.lower key
      if item.hasProperty field then
        write item field value ++
          match item.set field value with
          | .ok written => writesFrom written rest
          | .error _ => []
      else
        writesFrom item rest

def applyDict (item : Item) (dictionary : Mapping) : List Event :=
  let reported := match item.applyDict dictionary with
    | (written, .ok _) => [{
        level := .trace
        target := serializeTarget
        message := "Applied flat dict"
        fields := [("item", .plain written.name), ("keys", .count dictionary.length)] : Event
      }]
    | (_, .error _) => []
  writesFrom item dictionary ++ reported

def edit (item : Item) : Edit → List Event
  | .set field value => write item field value
  | .setChildren _ => childrenIgnored item
  | .addChild name => childIgnored item name
  | .applyDict dictionary => applyDict item dictionary
  | _ => []

end Provisioning.Journal
