import Mathlib.Data.List.Nodup
import Mathlib.Logic.Relation
import Provisioning.Descendants
import Provisioning.Item.Edit

/-!
Edges lead from an item to the items that its children's names refer to. The search for the items
below an item finds everything that edges lead to, in depth-first order, or a cycle of edges.
-/

namespace Provisioning

open Relation

def Item.Lists (lookup : Lookup) (item child : Item) : Prop :=
  ∃ name ∈ item.children, item.child? lookup name = some child

/-- What a depth-first search finds next, when it has found some items, the latest of them first: of
the latest item that has a child left to be found, the first such child. -/
inductive NextFound (lookup : Lookup) (found : List Item) (child : Item) : Prop
  | of {later item earlier handled name pending} :
      found = later ++ item :: earlier →
      (∀ other ∈ later, ∀ below, other.Lists lookup below → below ∈ found) →
      item.children = handled ++ name :: pending →
      (∀ known ∈ handled, ∀ below, item.child? lookup known = some below → below ∈ found) →
      item.child? lookup name = some child → child ∉ found →
      NextFound lookup found child

inductive DepthFirst (lookup : Lookup) (origin : Item) : List Item → Prop
  | start : DepthFirst lookup origin [origin]
  | next {found child} : DepthFirst lookup origin found → NextFound lookup found child →
      DepthFirst lookup origin (child :: found)

section Graph

variable {lookup : Lookup}

theorem NextFound.exists_lister {found : List Item} {child : Item}
    (next : NextFound lookup found child) : ∃ item ∈ found, item.Lists lookup child := by
  cases next with
  | @of later item earlier handled name pending split _ children _ refers _ =>
      refine ⟨item, ?_, name, ?_, refers⟩
      · rw [split]
        exact List.mem_append_right _ List.mem_cons_self
      · rw [children]
        exact List.mem_append_right _ List.mem_cons_self

theorem NextFound.fresh {found : List Item} {child : Item}
    (next : NextFound lookup found child) : child ∉ found := by
  cases next with
  | of _ _ _ _ _ fresh => exact fresh

theorem Item.Lists.mem_items {item child : Item} (lists : item.Lists lookup child) :
    child ∈ lookup.catalog.items := by
  obtain ⟨name, _, refers⟩ := lists
  exact Item.mem_of_child? refers

namespace DepthFirst

variable {origin : Item} {found : List Item}

theorem reachable (order : DepthFirst lookup origin found) :
    ∀ item ∈ found, ReflTransGen (Item.Lists lookup) origin item := by
  induction order with
  | start =>
      intro item member
      rw [List.mem_singleton.1 member]
  | next _ next ih =>
      intro item member
      rcases List.mem_cons.1 member with rfl | earlier
      · obtain ⟨lister, listed, lists⟩ := next.exists_lister
        exact (ih lister listed).tail lists
      · exact ih item earlier

theorem nodup (order : DepthFirst lookup origin found) : found.Nodup := by
  induction order with
  | start => exact List.nodup_cons.2 ⟨List.not_mem_nil, List.nodup_nil⟩
  | next _ next ih => exact List.nodup_cons.2 ⟨next.fresh, ih⟩

theorem eq_origin_or_mem (order : DepthFirst lookup origin found) :
    ∀ item ∈ found, item = origin ∨ item ∈ lookup.catalog.items := by
  induction order with
  | start =>
      intro item member
      exact Or.inl (List.mem_singleton.1 member)
  | next _ next ih =>
      intro item member
      rcases List.mem_cons.1 member with rfl | earlier
      · obtain ⟨_, _, lists⟩ := next.exists_lister
        exact Or.inr lists.mem_items
      · exact ih item earlier

end DepthFirst

theorem mem_of_reflTransGen {α : Type} {edge : α → α → Prop} (held : α → Prop)
    (closed : ∀ source target, held source → edge source target → held target)
    {source target : α} (leads : ReflTransGen edge source target) (start : held source) :
    held target := by
  induction leads with
  | refl => exact start
  | tail _ step ih => exact closed _ _ ih step

theorem mem_of_transGen {α : Type} {edge : α → α → Prop} (held : α → Prop)
    (closed : ∀ source target, held source → edge source target → held target)
    {source target : α} (leads : TransGen edge source target)
    (first : ∀ next, edge source next → held next) : held target := by
  obtain ⟨next, step, rest⟩ := TransGen.head'_iff.1 leads
  exact mem_of_reflTransGen held closed rest (first next step)

end Graph

def Visit.items (path : List Visit) : List Item :=
  path.map Visit.item

/-- A way down on which each item lists the next one, and the children whose names were dealt with
are found and lie no further out. -/
inductive Trail (lookup : Lookup) (found : List Item) : List Visit → Prop
  | done : Trail lookup found []
  | down {visit outer} (handled) : Trail lookup found outer →
      (∀ next ∈ outer.head?, next.item.Lists lookup visit.item) →
      visit.item.children = handled ++ visit.pending →
      (∀ name ∈ handled, ∀ child, visit.item.child? lookup name = some child →
        child ∈ found ∧ child ∉ Visit.items (visit :: outer)) →
      Trail lookup found (visit :: outer)

namespace Trail

variable {lookup : Lookup} {found : List Item}

theorem mono {more : List Item} {path : List Visit} (trail : Trail lookup found path)
    (kept : found ⊆ more) : Trail lookup more path := by
  induction trail with
  | done => exact .done
  | down _ _ linked children dealt ih =>
      refine .down _ ih linked children ?_
      intro name member child refers
      obtain ⟨known, inner⟩ := dealt name member child refers
      exact ⟨kept known, inner⟩

theorem lists {item child : Item} {name : String} {pending : List String} {outer : List Visit}
    (trail : Trail lookup found (⟨item, name :: pending⟩ :: outer))
    (refers : item.child? lookup name = some child) : item.Lists lookup child := by
  cases trail with
  | down _ _ _ children _ =>
      refine ⟨name, ?_, refers⟩
      rw [children]
      exact List.mem_append_right _ List.mem_cons_self

theorem advance {item : Item} {name : String} {pending : List String} {outer : List Visit}
    (trail : Trail lookup found (⟨item, name :: pending⟩ :: outer))
    (known : ∀ child, item.child? lookup name = some child →
      child ∈ found ∧ child ∉ Visit.items (⟨item, name :: pending⟩ :: outer)) :
    Trail lookup found (⟨item, pending⟩ :: outer) := by
  cases trail with
  | down handled outerTrail linked children dealt =>
      refine .down (handled ++ [name]) outerTrail linked ?_ ?_
      · simpa using children
      · intro other member below refers
        rcases List.mem_append.1 member with earlier | last
        · exact dealt other earlier below refers
        · rw [List.mem_singleton.1 last] at refers
          exact known below refers

theorem leads {item : Item} {pending : List String} {outer : List Visit}
    (trail : Trail lookup found (⟨item, pending⟩ :: outer)) :
    ∀ other ∈ Visit.items (⟨item, pending⟩ :: outer),
      ReflTransGen (Item.Lists lookup) other item := by
  induction outer generalizing item pending with
  | nil =>
      intro other member
      rw [List.mem_singleton.1 member]
  | cons next outer ih =>
      cases trail with
      | down _ outerTrail linked _ _ =>
          intro other member
          rcases List.mem_cons.1 member with rfl | further
          · exact .refl
          · have edge : next.item.Lists lookup item := linked next rfl
            exact (ih outerTrail other further).tail edge

end Trail

/-- What holds during a search: `found` are the items found so far, the latest first and `origin`
aside. The items found that are off the way down lead only to each other, and on no cycle. -/
structure Searching (lookup : Lookup) (origin : Item) (found : List Item) (path : List Visit) :
    Prop where
  order : DepthFirst lookup origin (found ++ [origin])
  onPath : (Visit.items path).Sublist (found ++ [origin])
  outermost : ∀ bottom ∈ (Visit.items path).getLast?, bottom = origin
  trail : Trail lookup (found ++ [origin]) path
  closed : ∀ item ∈ found ++ [origin], item ∉ Visit.items path →
    ∀ child, item.Lists lookup child → child ∈ found ++ [origin] ∧ child ∉ Visit.items path
  acyclic : ∀ item ∈ found ++ [origin], item ∉ Visit.items path →
    ¬ TransGen (Item.Lists lookup) item item

namespace Searching

variable {lookup : Lookup} {origin : Item} {found : List Item}

theorem start (lookup : Lookup) (origin : Item) :
    Searching lookup origin [] [⟨origin, origin.children⟩] where
  order := .start
  onPath := List.Sublist.refl _
  outermost := by simp [Visit.items]
  trail := .down [] .done (by simp) (List.nil_append _).symm (by simp)
  closed := by
    intro item member off
    exact absurd member off
  acyclic := by
    intro item member off
    exact absurd member off

section Step

variable {item child : Item} {name : String} {pending : List String} {outer : List Visit}

theorem leave (searching : Searching lookup origin found (⟨item, []⟩ :: outer)) :
    Searching lookup origin found outer := by
  obtain ⟨order, onPath, outermost, trail, closed, acyclic⟩ := searching
  have apart : item ∉ Visit.items outer :=
    (List.nodup_cons.1 (order.nodup.sublist onPath)).1
  -- The children of the item that leaves were dealt with while it was on the way down.
  obtain ⟨outerTrail, children⟩ : Trail lookup (found ++ [origin]) outer ∧
      ∀ child, item.Lists lookup child →
        child ∈ found ++ [origin] ∧ child ∉ Visit.items (⟨item, []⟩ :: outer) := by
    cases trail with
    | down _ outerTrail _ children dealt =>
        refine ⟨outerTrail, ?_⟩
        rintro child ⟨name, member, refers⟩
        refine dealt name ?_ child refers
        rw [children, List.append_nil] at member
        exact member
  have stays : ∀ other ∈ found ++ [origin], other ∉ Visit.items outer →
      ∀ child, other.Lists lookup child →
        child ∈ found ++ [origin] ∧ child ∉ Visit.items (⟨item, []⟩ :: outer) := by
    intro other member off child lists
    by_cases same : other = item
    · subst same
      exact children child lists
    · refine closed other member ?_ child lists
      exact List.not_mem_cons_of_ne_of_not_mem same off
  refine ⟨order, (List.sublist_cons_self _ _).trans onPath, ?_, outerTrail, ?_, ?_⟩
  · intro bottom last
    refine outermost bottom ?_
    cases outer with
    | nil => cases last
    | cons next rest => exact last
  · intro other member off child lists
    obtain ⟨known, further⟩ := stays other member off child lists
    exact ⟨known, fun on => further (List.mem_cons_of_mem _ on)⟩
  · intro other member off cycle
    by_cases same : other = item
    · subst same
      -- A cycle would have to come back from items that are off the way down already.
      have off := mem_of_transGen
        (fun item => item ∈ found ++ [origin] ∧ item ∉ Visit.items (⟨other, []⟩ :: outer))
        (fun source target held lists => closed source held.1 held.2 target lists) cycle children
      exact off.2 List.mem_cons_self
    · exact acyclic other member (List.not_mem_cons_of_ne_of_not_mem same off) cycle

theorem pass (searching : Searching lookup origin found (⟨item, name :: pending⟩ :: outer))
    (known : ∀ child, item.child? lookup name = some child →
      child ∈ found ++ [origin] ∧ child ∉ Visit.items (⟨item, name :: pending⟩ :: outer)) :
    Searching lookup origin found (⟨item, pending⟩ :: outer) := by
  obtain ⟨order, onPath, outermost, trail, closed, acyclic⟩ := searching
  exact ⟨order, onPath, outermost, trail.advance known, closed, acyclic⟩

theorem nextFound (searching : Searching lookup origin found (⟨item, name :: pending⟩ :: outer))
    (refers : item.child? lookup name = some child) (fresh : child ∉ found ++ [origin]) :
    NextFound lookup (found ++ [origin]) child := by
  obtain ⟨later, earlier, split, first, rest⟩ :
      ∃ later earlier, found ++ [origin] = later ++ item :: earlier ∧
        item ∉ later ∧ (Visit.items outer).Sublist earlier := by
    obtain ⟨start, tail, split, innermost, rest⟩ := List.cons_sublist_iff.1 searching.onPath
    obtain ⟨later, between, rfl, first⟩ := List.eq_append_cons_of_mem innermost
    refine ⟨later, between ++ tail, by simp [split], first, ?_⟩
    exact rest.trans (List.sublist_append_right _ _)
  have distinct : (later ++ item :: earlier).Nodup := split ▸ searching.order.nodup
  have off : ∀ other ∈ later, other ∉ Visit.items (⟨item, name :: pending⟩ :: outer) := by
    intro other member on
    rcases List.mem_cons.1 on with rfl | further
    · exact first member
    · have apart := (List.nodup_append.1 distinct).2.2 other member other
      exact apart (List.mem_cons_of_mem _ (rest.subset further)) rfl
  cases searching.trail with
  | down _ _ _ children dealt =>
      refine .of split ?_ children ?_ refers fresh
      · intro other member below lists
        have known : other ∈ found ++ [origin] := by
          rw [split]
          exact List.mem_append_left _ member
        exact (searching.closed other known (off other member) below lists).1
      · intro known member below knownRefers
        exact (dealt known member below knownRefers).1

theorem enter (searching : Searching lookup origin found (⟨item, name :: pending⟩ :: outer))
    (refers : item.child? lookup name = some child) (fresh : child ∉ found ++ [origin]) :
    Searching lookup origin (child :: found)
      (⟨child, child.children⟩ :: ⟨item, pending⟩ :: outer) := by
  have next := searching.nextFound refers fresh
  obtain ⟨order, onPath, outermost, trail, closed, acyclic⟩ := searching
  have offPath : child ∉ Visit.items (⟨item, name :: pending⟩ :: outer) :=
    fun on => fresh (onPath.subset on)
  refine ⟨.next order next, onPath.cons_cons child, ?_, ?_, ?_, ?_⟩
  · intro bottom last
    exact outermost bottom last
  · have lists := trail.lists refers
    have kept : found ++ [origin] ⊆ child :: (found ++ [origin]) := List.subset_cons_self _ _
    refine .down [] ((trail.mono kept).advance ?_) ?_ rfl (by simp)
    · intro below belowRefers
      rw [refers] at belowRefers
      cases belowRefers
      exact ⟨List.mem_cons_self, offPath⟩
    · intro next innermost
      cases innermost
      exact lists
  · intro other member off below otherLists
    obtain ⟨different, offOuter⟩ := List.ne_and_not_mem_of_not_mem_cons off
    have known := (List.mem_cons.1 member).resolve_left different
    obtain ⟨belowKnown, belowOff⟩ := closed other known offOuter below otherLists
    refine ⟨List.mem_cons_of_mem _ belowKnown, ?_⟩
    refine List.not_mem_cons_of_ne_of_not_mem ?_ belowOff
    rintro rfl
    exact fresh belowKnown
  · intro other member off
    obtain ⟨different, offOuter⟩ := List.ne_and_not_mem_of_not_mem_cons off
    exact acyclic other ((List.mem_cons.1 member).resolve_left different) offOuter

theorem cycle (searching : Searching lookup origin found (⟨item, name :: pending⟩ :: outer))
    (refers : item.child? lookup name = some child)
    (on : child ∈ Visit.items (⟨item, name :: pending⟩ :: outer)) :
    ReflTransGen (Item.Lists lookup) origin child ∧ TransGen (Item.Lists lookup) child child := by
  constructor
  · exact searching.order.reachable child (searching.onPath.subset on)
  · have down := searching.trail.leads child on
    exact TransGen.tail' down (searching.trail.lists refers)

end Step

end Searching

def Lookup.TellsApart (lookup : Lookup) (origin : Item) : Prop :=
  ∀ left right, left = origin ∨ left ∈ lookup.catalog.items →
    right = origin ∨ right ∈ lookup.catalog.items → left.uid = right.uid → left = right

theorem Lookup.tellsApart {lookup : Lookup} {origin : Item}
    (distinct : (lookup.catalog.items.map Item.uid).Nodup)
    (placed : origin ∈ lookup.catalog.items ∨
      origin.uid ∉ lookup.catalog.items.map Item.uid) : lookup.TellsApart origin := by
  have entries := List.inj_on_of_nodup_map distinct
  have same : ∀ entry ∈ lookup.catalog.items, entry.uid = origin.uid → entry = origin := by
    intro entry member equal
    rcases placed with inside | outside
    · exact entries member inside equal
    · exact absurd (equal ▸ List.mem_map_of_mem member) outside
  rintro left right (rfl | leftEntry) (rfl | rightEntry) equal
  · rfl
  · exact (same right rightEntry equal.symm).symm
  · exact same left leftEntry equal
  · exact entries leftEntry rightEntry equal

namespace Exploration

variable {lookup : Lookup} {met : List String} {item child : Item} {name : String}
  {pending : List String} {outer : List Visit}

theorem exploreFrom_missing (nothing : item.child? lookup name = none) :
    exploreFrom lookup met (⟨item, name :: pending⟩ :: outer) =
      note (.missing item.name name) (exploreFrom lookup met (⟨item, pending⟩ :: outer)) := by
  rw [exploreFrom]
  split
  · rfl
  · rename_i other refers
    rw [nothing] at refers
    cases refers

theorem exploreFrom_loop (refers : item.child? lookup name = some child)
    (on : isOnPath (⟨item, name :: pending⟩ :: outer) child = true) :
    exploreFrom lookup met (⟨item, name :: pending⟩ :: outer) = ⟨[], some child⟩ := by
  rw [exploreFrom]
  split
  · rename_i nothing
    rw [refers] at nothing
    cases nothing
  · rename_i other otherRefers
    rw [refers] at otherRefers
    cases otherRefers
    exact if_pos on

theorem exploreFrom_met (refers : item.child? lookup name = some child)
    (off : isOnPath (⟨item, name :: pending⟩ :: outer) child = false)
    (known : met.contains child.uid = true) :
    exploreFrom lookup met (⟨item, name :: pending⟩ :: outer) =
      exploreFrom lookup met (⟨item, pending⟩ :: outer) := by
  rw [exploreFrom]
  split
  · rename_i nothing
    rw [refers] at nothing
    cases nothing
  · rename_i other otherRefers
    rw [refers] at otherRefers
    cases otherRefers
    rw [if_neg (by simp [off])]
    split
    · rfl
    · rename_i new
      rw [known] at new
      cases new

theorem exploreFrom_new (refers : item.child? lookup name = some child)
    (off : isOnPath (⟨item, name :: pending⟩ :: outer) child = false)
    (new : met.contains child.uid = false) :
    exploreFrom lookup met (⟨item, name :: pending⟩ :: outer) =
      note (.item child) (exploreFrom lookup (child.uid :: met)
        (⟨child, child.children⟩ :: ⟨item, pending⟩ :: outer)) := by
  rw [exploreFrom]
  split
  · rename_i nothing
    rw [refers] at nothing
    cases nothing
  · rename_i other otherRefers
    rw [refers] at otherRefers
    cases otherRefers
    rw [if_neg (by simp [off])]
    split
    · rename_i known
      rw [new] at known
      cases known
    · rfl

end Exploration

/-- How a search goes on when it has found some items: it comes upon a cycle, or it ends with
nothing left on the way down. -/
def Completes (lookup : Lookup) (origin : Item) (found : List Item) (exploration : Exploration) :
    Prop :=
  match exploration.looped with
  | some again =>
      ReflTransGen (Item.Lists lookup) origin again ∧ TransGen (Item.Lists lookup) again again
  | none =>
      let newlyFound := exploration.findings.filterMap Exploration.item?
      Searching lookup origin (newlyFound.reverse ++ found) []

theorem completes_note_missing {lookup : Lookup} {origin : Item} {found : List Item}
    {exploration : Exploration} (parent name : String)
    (rest : Completes lookup origin found exploration) :
    Completes lookup origin found (Exploration.note (.missing parent name) exploration) := by
  unfold Completes Exploration.note at *
  dsimp only at *
  split
  · rename_i again looped
    rw [looped] at rest
    exact rest
  · rename_i unlooped
    rw [unlooped] at rest
    exact rest

theorem completes_note_item {lookup : Lookup} {origin child : Item} {found : List Item}
    {exploration : Exploration} (rest : Completes lookup origin (child :: found) exploration) :
    Completes lookup origin found (Exploration.note (.item child) exploration) := by
  unfold Completes Exploration.note at *
  dsimp only at *
  split
  · rename_i again looped
    rw [looped] at rest
    exact rest
  · rename_i unlooped
    rw [unlooped] at rest
    simpa [Exploration.item?] using rest

namespace Searching

variable {lookup : Lookup} {origin : Item} {found : List Item}

section Uids

variable {item child : Item} {name : String} {pending : List String} {outer : List Visit}

theorem isOnPath_iff (searching : Searching lookup origin found (⟨item, name :: pending⟩ :: outer))
    (apart : lookup.TellsApart origin) (refers : item.child? lookup name = some child) :
    Exploration.isOnPath (⟨item, name :: pending⟩ :: outer) child = true ↔
      child ∈ Visit.items (⟨item, name :: pending⟩ :: outer) := by
  unfold Exploration.isOnPath
  rw [List.any_eq_true]
  constructor
  · rintro ⟨visit, member, same⟩
    have on : visit.item ∈ Visit.items (⟨item, name :: pending⟩ :: outer) :=
      List.mem_map_of_mem member
    have known := searching.order.eq_origin_or_mem visit.item (searching.onPath.subset on)
    have equal := apart visit.item child known (Or.inr (Item.mem_of_child? refers))
      (beq_iff_eq.1 same)
    exact equal ▸ on
  · intro on
    obtain ⟨visit, member, same⟩ := List.mem_map.1 on
    exact ⟨visit, member, beq_iff_eq.2 (congrArg Item.uid same)⟩

theorem met_iff (searching : Searching lookup origin found (⟨item, name :: pending⟩ :: outer))
    (apart : lookup.TellsApart origin) (refers : item.child? lookup name = some child)
    (off : child ∉ Visit.items (⟨item, name :: pending⟩ :: outer)) :
    (found.map Item.uid).contains child.uid = true ↔ child ∈ found ++ [origin] := by
  rw [List.contains_iff_mem]
  constructor
  · intro member
    obtain ⟨other, otherFound, same⟩ := List.mem_map.1 member
    have otherMember : other ∈ found ++ [origin] := List.mem_append_left _ otherFound
    have known := searching.order.eq_origin_or_mem other otherMember
    have equal := apart other child known (Or.inr (Item.mem_of_child? refers)) same
    exact equal ▸ otherMember
  · intro member
    rcases List.mem_append.1 member with earlier | last
    · exact List.mem_map_of_mem earlier
    · -- The origin is outermost on the way down for as long as there is one.
      have nonempty : Visit.items (⟨item, name :: pending⟩ :: outer) ≠ [] := by simp [Visit.items]
      have bottom := searching.outermost _ (List.getLast?_eq_some_getLast nonempty)
      rw [List.mem_singleton.1 last, ← bottom] at off
      exact absurd (List.getLast_mem nonempty) off

end Uids

theorem completes {met : List String} {path : List Visit} (apart : lookup.TellsApart origin)
    (searching : Searching lookup origin found path) (uids : met = found.map Item.uid) :
    Completes lookup origin found (Exploration.exploreFrom lookup met path) := by
  induction met, path using Exploration.exploreFrom.induct lookup generalizing found with
  | case1 met =>
      rw [Exploration.exploreFrom]
      exact searching
  | case2 met item outer ih =>
      rw [Exploration.exploreFrom]
      exact ih searching.leave uids
  | case3 met item name pending outer nothing ih =>
      rw [Exploration.exploreFrom_missing nothing]
      refine completes_note_missing _ _ (ih (searching.pass ?_) uids)
      intro child refers
      rw [nothing] at refers
      cases refers
  | case4 met item name pending outer child refers on =>
      rw [Exploration.exploreFrom_loop refers on]
      exact searching.cycle refers ((searching.isOnPath_iff apart refers).1 on)
  | case5 met item name pending outer child refers known off ih =>
      rw [Exploration.exploreFrom_met refers (Bool.eq_false_iff.2 off) known]
      refine ih (searching.pass ?_) uids
      intro other otherRefers
      rw [refers] at otherRefers
      cases otherRefers
      have offPath := mt (searching.isOnPath_iff apart refers).2 off
      subst uids
      exact ⟨(searching.met_iff apart refers offPath).1 known, offPath⟩
  | case6 met item name pending outer child refers new _ off ih =>
      rw [Exploration.exploreFrom_new refers (Bool.eq_false_iff.2 off) new]
      have offPath := mt (searching.isOnPath_iff apart refers).2 off
      subst uids
      refine completes_note_item (ih (searching.enter refers ?_) rfl)
      intro known
      rw [(searching.met_iff apart refers offPath).2 known] at new
      cases new

theorem mem_iff (searching : Searching lookup origin found []) (item : Item) :
    item ∈ found ++ [origin] ↔ ReflTransGen (Item.Lists lookup) origin item := by
  constructor
  · exact searching.order.reachable item
  · intro leads
    refine mem_of_reflTransGen (fun item => item ∈ found ++ [origin]) ?_ leads ?_
    · intro source target held lists
      exact (searching.closed source held List.not_mem_nil target lists).1
    · exact List.mem_append_right _ (List.mem_singleton_self origin)

theorem not_cycle (searching : Searching lookup origin found []) {item : Item}
    (leads : ReflTransGen (Item.Lists lookup) origin item) :
    ¬ TransGen (Item.Lists lookup) item item :=
  searching.acyclic item ((searching.mem_iff item).2 leads) List.not_mem_nil

theorem mem_found_iff (searching : Searching lookup origin found []) (item : Item) :
    item ∈ found ↔ TransGen (Item.Lists lookup) origin item := by
  have nodup := searching.order.nodup
  constructor
  · intro member
    have leads := (searching.mem_iff item).1 (List.mem_append_left _ member)
    rcases reflTransGen_iff_eq_or_transGen.1 leads with rfl | leads
    · have apart := (List.nodup_append.1 nodup).2.2 item member item
      exact absurd rfl (apart (List.mem_singleton_self _))
    · exact leads
  · intro leads
    rcases List.mem_append.1 ((searching.mem_iff item).2 leads.to_reflTransGen) with member | last
    · exact member
    · rw [List.mem_singleton.1 last] at leads
      exact absurd leads (searching.not_cycle .refl)

theorem nodup_uids (searching : Searching lookup origin found [])
    (apart : lookup.TellsApart origin) : ((found ++ [origin]).map Item.uid).Nodup := by
  refine List.Nodup.map_on ?_ searching.order.nodup
  intro left leftMember right rightMember same
  exact apart left right (searching.order.eq_origin_or_mem left leftMember)
    (searching.order.eq_origin_or_mem right rightMember) same

end Searching

/-- The search for descendants fails if a cycle of edges can be reached, and names an item on such a
cycle. Otherwise it finds what edges lead to, each item once and in depth-first order. -/
theorem descendants_depthFirst {lookup : Lookup} {origin : Item}
    (distinct : (lookup.catalog.items.map Item.uid).Nodup)
    (placed : origin ∈ lookup.catalog.items ∨
      origin.uid ∉ lookup.catalog.items.map Item.uid) :
    ((∃ item, ReflTransGen (Item.Lists lookup) origin item ∧
        TransGen (Item.Lists lookup) item item) →
      ∃ again, ReflTransGen (Item.Lists lookup) origin again ∧
        TransGen (Item.Lists lookup) again again ∧
        origin.descendants lookup = .error (.cycle again.name)) ∧
    ((∀ item, ReflTransGen (Item.Lists lookup) origin item →
        ¬ TransGen (Item.Lists lookup) item item) →
      ∃ below, origin.descendants lookup = .ok below ∧
        (∀ item, item ∈ below ↔ TransGen (Item.Lists lookup) origin item) ∧
        (below.map Item.uid).Nodup ∧ origin.uid ∉ below.map Item.uid ∧
        DepthFirst lookup origin (below.reverse ++ [origin])) := by
  have apart := Lookup.tellsApart distinct placed
  have completes : Completes lookup origin [] (origin.explore lookup) :=
    (Searching.start lookup origin).completes apart rfl
  unfold Completes at completes
  unfold Item.descendants
  dsimp only
  cases looped : (origin.explore lookup).looped with
  | some again =>
      rw [looped] at completes
      obtain ⟨leads, cycle⟩ := completes
      constructor
      · intro _
        exact ⟨again, leads, cycle, rfl⟩
      · intro acyclic
        exact absurd cycle (acyclic again leads)
  | none =>
      rw [looped] at completes
      dsimp only at completes
      rw [List.append_nil] at completes
      constructor
      · rintro ⟨item, leads, cycle⟩
        exact absurd cycle (completes.not_cycle leads)
      · intro _
        have uids := completes.nodup_uids apart
        rw [List.map_append, List.map_reverse, List.nodup_append] at uids
        refine ⟨_, rfl, ?_, List.nodup_reverse.1 uids.1, ?_, completes.order⟩
        · intro item
          rw [← completes.mem_found_iff item, List.mem_reverse]
        · intro member
          exact uids.2.2 origin.uid (List.mem_reverse.2 member) origin.uid
            (List.mem_singleton_self _) rfl

theorem descendants_above_cycle :
    let first := (Edit.run (Edit.run (Item.new .profile "a" {}) (.setName "web")).1
      (.addChild "db")).1
    let second := (Edit.run (Edit.run (Item.new .profile "b" {}) (.setName "db")).1
      (.addChild "web")).1
    let distro := (Edit.run (Item.new .distro "c" {}) (.addChild "web")).1
    let lookup : Lookup := ⟨(Catalog.empty.insert first).insert second, .byKind⟩
    ∃ name, distro.descendants lookup = .error (.cycle name) := by
  intro first second distro lookup
  have distinct : (lookup.catalog.items.map Item.uid).Nodup := by decide
  have placed : distro.uid ∉ lookup.catalog.items.map Item.uid := by decide
  obtain ⟨fails, _⟩ := descendants_depthFirst distinct (Or.inr placed)
  have web : lookup.find? .profile "web" = some first := by
    change ((Catalog.empty.insert first).insert second).get? .profile "web" = some first
    rw [Catalog.get?_insert, if_neg (by decide), Catalog.get?_insert, if_pos (by decide)]
  have db : lookup.find? .profile "db" = some second := by
    change ((Catalog.empty.insert first).insert second).get? .profile "db" = some second
    rw [Catalog.get?_insert, if_pos (by decide)]
  have refers {item child : Item} {name : String} {later : List Kind}
      (kinds : item.kind.childKinds = .profile :: later)
      (found : lookup.find? .profile name = some child) : item.child? lookup name = some child := by
    unfold Item.child?
    rw [kinds, List.findSome?_cons, found]
  have top : distro.Lists lookup first := ⟨"web", by decide, refers rfl web⟩
  have down : first.Lists lookup second := ⟨"db", by decide, refers rfl db⟩
  have back : second.Lists lookup first := ⟨"web", by decide, refers rfl web⟩
  obtain ⟨again, _, _, failed⟩ := fails ⟨first, .single top, .tail (.single down) back⟩
  exact ⟨again.name, failed⟩

end Provisioning
