import Provisioning.Item.Flat
import Provisioning.Text.Wildcard

/-!
Finding items by criteria on their raw form. A criterion is compared with a stored value by the
shape of that value; a leading tilde turns a comparison around.
-/

namespace Provisioning

/-- What is asked of every key; without a text, only that the key is there. -/
abbrev Criteria := Dict (Option String)

def negationMark : Char := '~'

def isInterfaceKey (key : String) : Bool :=
  key == "interface" || interfaceFields.contains key

namespace Query

def textMatches (criterion stored : String) : Bool :=
  let criterion := Text.lower criterion
  let stored := Text.lower stored
  if criterion.toList.any Text.Wildcard.isWildcardCharacter then
    match Text.Wildcard.parse? (Text.Wildcard.collapseStars criterion.toList) with
    | some tokens => Text.Wildcard.matchesAll tokens stored.toList
    | none => criterion == stored
  else
    criterion == stored

def holdsText (items : List Value) (token : String) : Bool :=
  items.any fun item => item.text? == some token

def holdsEntry (entries : Mapping) (wanted : String × Value) : Bool :=
  match entries.get? wanted.1 with
  | some value => value.same wanted.2
  | none => false

def compare (criterion : String) : Value → Except ItemError Bool
  | .str text => .ok (textMatches criterion text)
  | .list items => do
      let wanted ← Convert.texts "find" (.str criterion)
      return wanted.all (holdsText items)
  | .dict entries =>
      match Options.read true criterion with
      | .ok wanted => .ok (wanted.all (holdsEntry entries))
      | .error cause => .error (.malformed cause)
  | .bool flag => .ok (Convert.isTruthy criterion == flag)
  | other => .error (.incomparable other.type)

def recordAnswers (key : String) (expected : Option String) (entry : String × Value) :
    Except ItemError Bool :=
  match expected with
  | none => .ok false
  | some criterion =>
      if criterion = entry.1 then
        .ok true
      else
        match (entry.2.entries?).bind fun record => record.get? key with
        | some stored => compare criterion stored
        | none => .ok false

/-- The first record that answers decides; a record that cannot be compared ends the search. -/
def anyRecord (key : String) (expected : Option String) :
    List (String × Value) → Except ItemError Bool
  | [] => .ok false
  | entry :: rest => do
      if ← recordAnswers key expected entry then
        return true
      else
        anyRecord key expected rest

def interfaceAnswers (data : Mapping) (key : String) (expected : Option String) :
    Except ItemError Bool :=
  match (data.get? "interfaces").bind Value.entries? with
  | some records => anyRecord key expected records
  | none => .ok false

/-- Compares one criterion with a raw dictionary. A key that is nowhere matches only where no text
is asked of it, and that only for an interface key or when lenient. -/
def matchKey (data : Mapping) (key : String) (expected : Option String) (lenient : Bool) :
    Except ItemError Bool := do
  let asksInterfaces := data.contains "interfaces" && isInterfaceKey key
  let answered ← if asksInterfaces then interfaceAnswers data key expected else .ok false
  if answered then
    return true
  else
    match data.get? key, expected with
    | none, _ => return expected.isNone && (asksInterfaces || lenient)
    | some _, none => return true
    | some stored, some criterion => compare criterion stored

/-- Compares one criterion, turned around by a leading tilde. -/
def matchCriterion (data : Mapping) (lenient : Bool) (criterion : String × Option String) :
    Except ItemError Bool :=
  match criterion.2 with
  | none => matchKey data criterion.1 none lenient
  | some expected =>
      match expected.toList with
      | first :: rest =>
          if first = negationMark then
            (matchKey data criterion.1 (some (String.ofList rest)) lenient).map not
          else
            matchKey data criterion.1 (some expected) lenient
      | [] => matchKey data criterion.1 (some expected) lenient

def matchAll (data : Mapping) (lenient : Bool) :
    List (String × Option String) → Except ItemError Bool
  | [] => .ok true
  | criterion :: rest => do
      if ← matchCriterion data lenient criterion then
        matchAll data lenient rest
      else
        return false

end Query

def Item.matchesCriteria (item : Item) (criteria : Criteria) (lenient : Bool) :
    Except ItemError Bool :=
  Query.matchAll item.rawDict lenient criteria

end Provisioning
