/-
# The order of units

Units are analyzed after the units they depend on. The order is the one in which a depth-first
search over the units leaves them; it fails on a module that occurs twice, on a dependency that
is no unit of the program, and on a circle of dependencies.

`dependencyClosure` lists what a unit depends on, directly or not, nearest first.
-/
import BindingAudit.Fault
import BindingAudit.Program.CompilationUnit

namespace BindingAudit

namespace DependencyOrder

/-- The first entry of a list that has occurred before, where `seen` has occurred already. -/
def firstRepeat (seen : List String) : List String → Option String
  | [] => none
  | m :: ms => if m ∈ seen then some m else firstRepeat (m :: seen) ms

variable (units : List CompilationUnit)

/-- The place of the unit of a module. -/
def indexOf? (module : String) : Option Nat := units.findIdx? (·.module == module)

/-- The module of the unit at a place. -/
def moduleAt (i : Nat) : String := ((units[i]?).map CompilationUnit.module).getD ""

/-! ## Depth-first search -/

/-- The number of units that are not on a path. -/
def unvisited (path : List Nat) : Nat :=
  ((List.range units.length).filter fun i => !path.contains i).length

/-- Putting a new unit on the path leaves fewer. -/
theorem unvisited_cons_lt {path : List Nat} {i : Nat} (hin : i < units.length)
    (hnew : i ∉ path) : unvisited units (i :: path) < unvisited units path := by
  have hsub : ((List.range units.length).filter fun j => !(i :: path).contains j) =
      (((List.range units.length).filter fun j => !path.contains j).filter
        fun j => decide (j ≠ i)) := by
    rw [List.filter_filter]
    apply List.filter_congr
    intro j _
    simp [Bool.not_or]
  unfold unvisited
  rw [hsub]
  refine List.length_filter_lt_length_iff_exists.2 ⟨i, ?_, by simp⟩
  rw [List.mem_filter]
  exact ⟨List.mem_range.2 hin, by simpa using hnew⟩

/-- The circle that is closed by coming back to `i` along a path, innermost first. -/
def cycleThrough (path : List Nat) (i : Nat) : Fault :=
  ⟨.dependencyCycle ((i :: (path.takeWhile (· != i)).reverse ++ [i]).map (moduleAt units)), none⟩

/-- The fault of depending on something that is no unit. -/
def missing (module dependency : String) : Fault :=
  ⟨.unknownUnit dependency, some { module := some module }⟩

/-- Visits a unit that is reached along `path`, innermost first: what it depends on is put in
order first, then the unit itself, unless it is in `order` already. -/
def visit (path order : List Nat) (i : Nat) : Except Fault (List Nat) :=
  if i ∈ order then .ok order
  else if _hnew : i ∈ path then .error (cycleThrough units path i)
  else match _hunit : units[i]? with
    | none => .ok order
    | some unit => do
        let order ← unit.dependencies.foldlM (fun order dependency =>
          match indexOf? units dependency with
          | none => .error (missing unit.module dependency)
          | some j => visit (i :: path) order j) order
        return order ++ [i]
termination_by unvisited units path
decreasing_by
  exact unvisited_cons_lt units (List.getElem?_eq_some_iff.1 ‹_›).1 ‹_›

/-! ## Breadth-first closure -/

/-- Appends a unit that has not been found before. -/
def findNew (found : List Nat) (dependency : String) : List Nat :=
  match indexOf? units dependency with
  | some j => if j ∈ found then found else found ++ [j]
  | none => found

/-- Looks at the dependencies of the `k`-th unit found. -/
def expand (found : List Nat) (k : Nat) : List Nat :=
  match (found[k]?).bind (units[·]?) with
  | some unit => unit.dependencies.foldl (findNew units) found
  | none => found

end DependencyOrder

open DependencyOrder in
/-- The places of the units in an order in which each comes after what it depends on. -/
def dependencyOrder (units : List CompilationUnit) : Except Fault (List Nat) :=
  match firstRepeat [] (units.map CompilationUnit.module) with
  | some m => .error ⟨.invalidArgument ("module " ++ m ++ " appears more than once"), none⟩
  | none => (List.range units.length).foldlM (visit units []) []

open DependencyOrder in
/-- The places of the units that the `i`-th unit depends on, directly or not, nearest first.
No more units can be found than there are, so as many rounds suffice. -/
def dependencyClosure (units : List CompilationUnit) (i : Nat) : List Nat :=
  ((List.range units.length).foldl (expand units) [i]).tail

end BindingAudit
