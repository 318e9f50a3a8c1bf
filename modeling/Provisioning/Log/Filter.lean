import Provisioning.Log.Directive

/-!
Filters: which events are written. The most specific rule that concerns an event decides about it,
and an event that no rule concerns is not written.
-/

namespace Provisioning.Log

structure Rule where
  target : Option String
  fields : List String
  threshold : Threshold
  deriving DecidableEq, Repr

/-- Directives that ask for a span or for the value of a field are not about events. -/
def Directive.rule? (directive : Directive) : Option Rule :=
  if directive.span.isNone && directive.fields.all fun field => field.value.isNone then
    some {
      target := directive.target
      fields := directive.fields.map FieldTest.name
      threshold := directive.threshold
    }
  else
    none

def Event.fieldNames (event : Event) : List String :=
  "message" :: event.fields.map Prod.fst

namespace Rule

def concerns (rule : Rule) (event : Event) : Bool :=
  rule.target.all (fun target => target.toList.isPrefixOf event.target.toList) &&
    rule.fields.all event.fieldNames.contains

def reach (rule : Rule) : Nat :=
  match rule.target with
  | some target => target.utf8ByteSize + 1
  | none => 0

/-- Whether a rule is at least as specific as another one: first its target counts, then how many
fields it names, and then the names. -/
def overrides (rule other : Rule) : Bool :=
  if rule.reach ≠ other.reach then
    other.reach < rule.reach
  else if rule.fields.length ≠ other.fields.length then
    other.fields.length < rule.fields.length
  else
    !(rule.fields < other.fields : Bool)

end Rule

structure Filter where
  rules : List Rule
  deriving DecidableEq, Repr

namespace Filter

def ofDirectives (directives : List Directive) : Filter where
  rules := directives.filterMap Directive.rule?

/-- The rule that decides about an event; of rules that are equally specific it is the last. -/
def ruleFor? (filter : Filter) (event : Event) : Option Rule :=
  (filter.rules.filter fun rule => rule.concerns event).foldl (fun best rule =>
    if best.all rule.overrides then some rule else best) none

def admits (filter : Filter) (event : Event) : Bool :=
  (filter.ruleFor? event).any fun rule => rule.threshold.admits event.level

def pieces (text : String) : List String :=
  (Text.tokens (· == ',') text.toList).map String.ofList

def read? (text : String) : Option Filter :=
  ((pieces text).mapM fun piece => (Directive.read piece).toOption).map ofDirectives

/-- The directives of a text without those that are at fault. With none left, errors pass. -/
def directives (text : String) : List Directive :=
  match (pieces text).filterMap fun piece => (Directive.read piece).toOption with
  | [] => [{ threshold := .upTo .error }]
  | directives => directives

def notices (text : String) : List String :=
  (pieces text).filterMap fun piece =>
    match Directive.read piece with
    | .ok _ => none
    | .error fault =>
        let reason := fault.message
        some s!"ignoring \x60{piece}\x60: {reason}"

end Filter

end Provisioning.Log
