import Provisioning.Item.Flat

/-!
The changes that may be made to an item. A refused change leaves the item as it was, except that a
dictionary is written up to the entry that is refused.
-/

namespace Provisioning

inductive Edit where
  | set (field : String) (value : Value)
  | inherit (field : String)
  | setName (name : String)
  | setComment (comment : String)
  | setCreatedAt (seconds : Float)
  | setModifiedAt (seconds : Float)
  | touch (now : Float)
  | setParent (parent : String)
  | setDepth (depth : Int64)
  | setIsSubobject (isSubobject : Bool)
  | setChildren (names : List String)
  | addChild (name : String)
  | removeChild (name : String)
  | applyDict (dictionary : Mapping)

namespace Edit

/-- The outcome of a write that is made as a whole or not at all. -/
def whole (item : Item) : Except ItemError Item → Item × Except ItemError Unit
  | .ok written => (written, .ok ())
  | .error cause => (item, .error cause)

def run (item : Item) : Edit → Item × Except ItemError Unit
  | .set field value => whole item (item.set field value)
  | .inherit field => whole item (item.inherit field)
  | .setName name => whole item (item.setName name)
  | .setComment comment => (item.setComment comment, .ok ())
  | .setCreatedAt seconds => whole item (item.setCreatedAt seconds)
  | .setModifiedAt seconds => whole item (item.setModifiedAt seconds)
  | .touch now => (item.touch now, .ok ())
  | .setParent parent => whole item (item.setParent parent)
  | .setDepth depth => whole item (item.setDepth depth)
  | .setIsSubobject isSubobject => whole item (item.setIsSubobject isSubobject)
  | .setChildren names => (item.setChildren names, .ok ())
  | .addChild name => (item.addChild name, .ok ())
  | .removeChild name => (item.removeChild name, .ok ())
  | .applyDict dictionary => item.applyDict dictionary

def field? : Edit → Option String
  | .set field _ | .inherit field => some field
  | .setName _ => some "name"
  | .setComment _ => some "comment"
  | .setCreatedAt _ => some "ctime"
  | .setModifiedAt _ | .touch _ => some "mtime"
  | .setParent _ => some "parent"
  | .setDepth _ => some "depth"
  | .setIsSubobject _ => some "is_subobject"
  | .setChildren _ | .addChild _ | .removeChild _ => some "children"
  | .applyDict _ => none

end Edit

end Provisioning
