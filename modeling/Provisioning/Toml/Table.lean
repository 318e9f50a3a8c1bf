import Provisioning.Value

/-!
Putting the statements of a TOML document together. A table may be written in several places, but
each key of it only once, and how a table came about decides where it may be added to.
-/

namespace Provisioning.Toml

inductive Origin where
  /-- By a header of its own, or as the whole document. -/
  | header
  /-- As part of the path of another table's header. -/
  | path
  /-- As part of a dotted key. -/
  | dotted
  deriving DecidableEq, Repr

inductive Part where
  | value (content : Value)
  | table (origin : Origin) (entries : List (String × Part))
  | tables (items : List (List (String × Part)))

abbrev Entries := List (String × Part)

structure Pair where
  path : List String
  key : String
  value : Value

inductive Statement where
  | table (path : List String)
  | listed (path : List String)
  | pair (pair : Pair)

namespace Entries

/-- Changes the table at a path below this one, which came about as `origin`. Tables on the way
that do not exist yet come about as `created`; the last table of a list stands for the list. A
dotted key may pass only through tables without a header. -/
def alter (created : Origin) (change : Origin → Entries → Option Entries) :
    List String → Origin → Entries → Option Entries
  | [], origin, entries => change origin entries
  | key :: path, _, entries =>
      match Dict.get? entries key with
      | none => (alter created change path created []).map fun inner =>
          Dict.insert entries key (.table created inner)
      | some (.value _) => none
      | some (.tables items) =>
          match items.getLast? with
          | none => none
          | some last => (alter created change path .header last).map fun inner =>
              Dict.insert entries key (.tables (items.dropLast ++ [inner]))
      | some (.table origin inner) =>
          if created = .dotted ∧ origin = .header then
            none
          else
            (alter created change path origin inner).map fun inner =>
              Dict.insert entries key (.table origin inner)

/-- Gives a key its value. A dotted key may add only to tables that dotted keys made. -/
def addPair (entries : Entries) (pair : Pair) : Option Entries :=
  alter .dotted (fun origin inner =>
    if (origin == .dotted) == pair.path.isEmpty || (Dict.get? inner pair.key).isSome then
      none
    else
      some (Dict.insert inner pair.key (.value pair.value))) pair.path .header entries

def addPairs (entries : Entries) (pairs : List Pair) : Option Entries :=
  pairs.foldlM addPair entries

/-- A header may name a table that exists only as part of other headers' paths. -/
def addTable (entries : Entries) (path : List String) (pairs : List Pair) : Option Entries := do
  let key ← path.getLast?
  alter .path (fun _ inner =>
    match Dict.get? inner key with
    | none => (addPairs [] pairs).map fun table => Dict.insert inner key (.table .header table)
    | some (.table .path table) =>
        (addPairs table pairs).map fun table => Dict.insert inner key (.table .header table)
    | some _ => none) path.dropLast .header entries

def addListed (entries : Entries) (path : List String) (pairs : List Pair) : Option Entries := do
  let key ← path.getLast?
  alter .path (fun _ inner =>
    match Dict.get? inner key with
    | none => (addPairs [] pairs).map fun table => Dict.insert inner key (.tables [table])
    | some (.tables items) =>
        (addPairs [] pairs).map fun table => Dict.insert inner key (.tables (items ++ [table]))
    | some _ => none) path.dropLast .header entries

def leadingPairs : List Statement → List Pair × List Statement
  | .pair pair :: statements =>
      let (pairs, rest) := leadingPairs statements
      (pair :: pairs, rest)
  | statements => ([], statements)

theorem length_leadingPairs (statements : List Statement) :
    (leadingPairs statements).2.length ≤ statements.length := by
  induction statements with
  | nil => simp [leadingPairs]
  | cons statement rest step =>
      cases statement <;> simp only [leadingPairs, List.length_cons] <;> omega

def addStatements (entries : Entries) : List Statement → Option Entries
  | [] => some entries
  | .pair pair :: statements =>
      match addPair entries pair with
      | some entries => addStatements entries statements
      | none => none
  | .table path :: statements =>
      match addTable entries path (leadingPairs statements).1 with
      | some entries => addStatements entries (leadingPairs statements).2
      | none => none
  | .listed path :: statements =>
      match addListed entries path (leadingPairs statements).1 with
      | some entries => addStatements entries (leadingPairs statements).2
      | none => none
termination_by statements => statements.length
decreasing_by
  all_goals
    have := length_leadingPairs statements
    simp only [List.length_cons]
    omega

end Entries

namespace Part

mutual

def toValue : Part → Value
  | .value content => content
  | .table _ entries => .dict (toMapping entries)
  | .tables items => .list (toMappings items)

def toMapping : List (String × Part) → List (String × Value)
  | [] => []
  | (key, part) :: rest => (key, toValue part) :: toMapping rest

def toMappings : List (List (String × Part)) → List Value
  | [] => []
  | entries :: rest => .dict (toMapping entries) :: toMappings rest

end

end Part

def ofStatements? (statements : List Statement) : Option Mapping :=
  (Entries.addStatements [] statements).map Part.toMapping

def ofPairs? (pairs : List Pair) : Option Mapping :=
  (Entries.addPairs [] pairs).map Part.toMapping

end Provisioning.Toml
