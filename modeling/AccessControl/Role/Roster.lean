import AccessControl.Role.Manager

/-! Rosters: the role managers of an enforcer, told apart by numbers that stay as their links
change. -/

namespace AccessControl

/-- Role managers by their numbers, and the number of the manager of each grouping type. A manager
that gives way to another one stays in the list, but no grouping type has its number any more. -/
structure Roster where
  held : List RoleManager
  seats : List (String × Nat)

namespace Roster

/-- The roster without managers. -/
def empty : Roster := ⟨[], []⟩

/-- The manager of a grouping type. -/
def find? (roster : Roster) (gtype : String) : Option RoleManager :=
  (lookupKey gtype roster.seats).bind fun number => roster.held[number]?

/-- The grouping types with their managers. -/
def entries (roster : Roster) : List (String × RoleManager) :=
  roster.seats.filterMap fun (gtype, number) =>
    roster.held[number]?.map fun manager => (gtype, manager)

/-- The roster with a manager of its own for a grouping type. -/
def install (roster : Roster) (gtype : String) (manager : RoleManager) : Roster :=
  ⟨roster.held ++ [manager], insertKey gtype roster.held.length roster.seats⟩

/-- The roster after a change to the manager of a grouping type, which keeps its number. -/
def modify (roster : Roster) (gtype : String) (change : RoleManager → RoleManager) : Roster :=
  match lookupKey gtype roster.seats with
  | some number => { roster with held := roster.held.modify number change }
  | none => roster

/-- The roster after changes to the managers of some grouping types, one after the other. -/
def modifyEach (change : String → RoleManager → RoleManager) : List String → Roster → Roster
  | [], roster => roster
  | gtype :: rest, roster => modifyEach change rest (roster.modify gtype (change gtype))

/-- The roster after changes to the managers of all grouping types. -/
def modifyAll (roster : Roster) (change : String → RoleManager → RoleManager) : Roster :=
  modifyEach change (roster.seats.map (·.1)) roster

/-- The roster with a place for each of the types, which keeps its earlier manager or gets a new
one. -/
def seat (earlier : List (String × Nat)) (new : RoleManager) : List String → Roster → Roster
  | [], roster => roster
  | gtype :: rest, roster =>
    seat earlier new rest <|
      match lookupKey gtype earlier with
      | some number => { roster with seats := insertKey gtype number roster.seats }
      | none => roster.install gtype new

/-- The roster of the given types alone. -/
def reseat (roster : Roster) (gtypes : List String) (new : RoleManager) : Roster :=
  seat roster.seats new gtypes ⟨roster.held, []⟩

end Roster

end AccessControl
