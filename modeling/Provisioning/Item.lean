import Provisioning.DevicePath
import Provisioning.Settings
import Provisioning.Slot

/-!
Items: named configuration objects whose properties are declared by the schema of their kind.
Reads and writes of a field go through the schema; a refused write leaves no new item behind.
-/

namespace Provisioning

structure Item where
  kind : Kind
  uid : String
  name : String := ""
  comment : String := ""
  ctime : Float := 0.0
  mtime : Float := 0.0
  parentName : String := ""
  depth : Int64 := 0
  isSubobject : Bool := false
  childNames : List String := []
  slots : Dict Slot
  settings : Settings
  /-- The name that the last search for a conceptual parent found. -/
  foundParent : Option String := none

namespace Item

def initialSlot? (field : Field) : Option (String × Slot) :=
  match field.access with
  | .core _ | .property (.derived _) => none
  | .property shape => some (field.name, Slot.initial shape field.initial)

def initialSlots (kind : Kind) : Dict Slot :=
  Dict.ofList (kind.fields.filterMap initialSlot?)

def new (kind : Kind) (uid : String) (settings : Settings) : Item :=
  { kind, uid, settings, slots := initialSlots kind }

/-- An item whose parent is of its own kind. -/
def newSubobject (kind : Kind) (uid : String) (settings : Settings) : Item :=
  { new kind uid settings with isSubobject := kind.hasTree }

/-- Items are the same when their uids are, whatever else they hold. -/
def sameAs (left right : Item) : Bool :=
  left.uid == right.uid

def duplicate (item : Item) (uid : String) : Item :=
  { item with uid, foundParent := none }

def hasProperty (item : Item) (field : String) : Bool :=
  item.kind.hasField field

def unknownAttribute (item : Item) (property : String) : ItemError :=
  .unknownAttribute item.kind item.name property

def field (item : Item) (name : String) : Except ItemError Field :=
  match item.kind.field? name with
  | some field => .ok field
  | none => .error (item.unknownAttribute name)

def slot? (item : Item) (field : String) : Option Slot :=
  item.slots.get? field

def children (item : Item) : List String :=
  if item.kind.hasChildren then item.childNames else []

def listChildren (item : Item) (sorted : Bool) : List String :=
  if sorted then item.children.mergeSort fun left right => left ≤ right else item.children

def derivationSource (item : Item) (derivation : Derivation) : String :=
  match item.slot? derivation.sourceField with
  | some (.scalar (.own (.str url))) => url
  | _ => ""

def derive (item : Item) (derivation : Derivation) : Value :=
  .str ((DevicePath.ofText? (item.derivationSource derivation)).getD "")

def coreValue (item : Item) : CoreField → Value
  | .uid => .str item.uid
  | .name => .str item.name
  | .comment => .str item.comment
  | .ctime => .float item.ctime
  | .mtime => .float item.mtime
  | .parent => .str item.parentName
  | .depth => .int item.depth
  | .isSubobject => .bool item.isSubobject
  | .children => Value.ofTexts item.children

def rawValue (item : Item) (field : Field) : Value :=
  match field.access with
  | .core core => item.coreValue core
  | .property (.derived derivation) => item.derive derivation
  | .property _ =>
      match item.slot? field.name with
      | some slot => slot.toValue
      | none => .null

def get (item : Item) (name : String) : Except ItemError Value :=
  (item.field name).map item.rawValue

def isNameCharacter (character : Char) : Bool :=
  character.isAlphanum || character == '_' || character == '-' || character == '.' ||
    character == ':'

def checkName (field name : String) : Except ItemError Unit :=
  if name.toList.all isNameCharacter then .ok () else Convert.refuse field (.badName name)

def requireTree (item : Item) (field : String) : Except ItemError Unit :=
  if item.kind.hasTree then .ok () else .error (item.unknownAttribute field)

def setUid (item : Item) (uid : String) : Except ItemError Item :=
  if (Text.trimChars uid.toList).isEmpty then
    Convert.refuse "uid" .blank
  else
    .ok { item with uid }

def setName (item : Item) (name : String) : Except ItemError Item := do
  checkName "name" name
  return { item with name }

def setComment (item : Item) (comment : String) : Item :=
  { item with comment }

def setCreatedAt (item : Item) (seconds : Float) : Except ItemError Item := do
  let seconds ← Convert.finite "ctime" seconds
  return { item with ctime := seconds }

def setModifiedAt (item : Item) (seconds : Float) : Except ItemError Item := do
  let seconds ← Convert.finite "mtime" seconds
  return { item with mtime := seconds }

def touch (item : Item) (now : Float) : Item :=
  { item with mtime := now }

def setParent (item : Item) (parent : String) : Except ItemError Item := do
  item.requireTree "parent"
  checkName "parent" parent
  return { item with parentName := parent, foundParent := none }

def setDepth (item : Item) (depth : Int64) : Except ItemError Item := do
  item.requireTree "depth"
  if depth < 0 then
    Convert.refuse "depth" .negative
  else
    return { item with depth }

def setIsSubobject (item : Item) (isSubobject : Bool) : Except ItemError Item := do
  item.requireTree "is_subobject"
  return { item with isSubobject, foundParent := none }

/-- Kinds without children ignore the write. -/
def setChildren (item : Item) (names : List String) : Item :=
  if item.kind.hasChildren then { item with childNames := names } else item

def addChild (item : Item) (name : String) : Item :=
  if item.kind.hasChildren && !item.childNames.contains name then
    { item with childNames := item.childNames ++ [name] }
  else
    item

def removeChild (item : Item) (name : String) : Item :=
  { item with childNames := item.childNames.filter fun child => child != name }

def setCore (item : Item) (core : CoreField) (value : Value) : Except ItemError Item :=
  match core with
  | .uid => do
      Convert.notInherited "uid" value
      item.setUid (← Convert.text "uid" value)
  | .name => do
      Convert.notInherited "name" value
      match value with
      | .str name => item.setName name
      | other => Convert.refuse "name" (.nameType other.type)
  | .comment => return item.setComment (← Convert.text "comment" value)
  | .ctime => do item.setCreatedAt (← Convert.timestamp "ctime" value)
  | .mtime => do item.setModifiedAt (← Convert.timestamp "mtime" value)
  | .parent => do
      Convert.notInherited "parent" value
      item.setParent (← Convert.text "parent" value)
  | .depth =>
      match value with
      | .int depth => item.setDepth depth
      | other => Convert.refuse "depth" (.wrongType "int" other.type)
  | .isSubobject =>
      match value with
      | .bool flag => item.setIsSubobject flag
      | other => Convert.refuse "is_subobject" (.wrongType "bool" other.type)
  | .children => return item.setChildren (← Convert.texts "children" value)

def setSlot (item : Item) (field : String) (slot : Slot) : Item :=
  { item with slots := item.slots.insert field slot }

/-- Writes a field from a flat value. A refused write gives no item, so the one before it stands:
whatever the field, the value is read and checked to its end before anything is changed, and there
is no item in between. -/
def set (item : Item) (name : String) (value : Value) : Except ItemError Item := do
  let field ← item.field name
  match field.access with
  | .core core => item.setCore core value
  | .property shape => return item.setSlot field.name (← Slot.coerce field.name shape value)

def isInherited (item : Item) (name : String) : Except ItemError Bool := do
  let _ ← item.field name
  return (item.slot? name).any Slot.isInherit

def inherit (item : Item) (name : String) : Except ItemError Item := do
  let field ← item.field name
  if field.shape?.any Shape.isResolvable then
    let slot := (item.slot? name).getD (.scalar .inherit)
    return item.setSlot field.name slot.inherited
  else
    Convert.refuse name .notInheritable

def isBlankValue : Value → Bool
  | .null => true
  | .str text => (Text.trimChars text.toList).isEmpty
  | _ => false

def checkRequired (item : Item) (name : String) : Except ItemError Unit := do
  let value ← item.get name
  if isBlankValue value then Convert.refuse name .fieldRequired else return ()

def validate (item : Item) : Except ItemError Unit := do
  if item.name = "" then
    Convert.refuse "name" .nameRequired
  else
    item.kind.requiredFields.forM item.checkRequired

end Item

end Provisioning
