/-
# Arguments against a signature

The first declared parameter is the context carrier and is never passed at an invocation, so
argument `i` stands against parameter `i + 1`. Count and types are checked independently.
-/
import BindingAudit.Program.Declaration
import BindingAudit.Program.TypeTable.Identity
import BindingAudit.Settings

namespace BindingAudit

/-- A mismatch between the arguments of an invocation and a declaration. -/
inductive ArgumentFinding where
  | tooMany (expected supplied : Nat)
  /-- `atLeast` tells whether `expected` is only a lower bound. -/
  | tooFew (expected supplied : Nat) (atLeast : Bool)
  /-- The argument with this index has a type that does not fit. -/
  | mismatch (index : Nat) (expected actual : TypeId)
  deriving DecidableEq, Repr

namespace Arguments

/-- The number of parameters after the context carrier. -/
def expectedCount (d : Declaration) : Nat := d.params.length - 1

/-- Checks the number of arguments. A spread argument fills the variadic slot by itself. -/
def countFinding? (d : Declaration) (supplied : Nat) (spread : Bool) : Option ArgumentFinding :=
  let expected := expectedCount d
  if d.isVariadic && !spread then
    if supplied < expected - 1 then some (.tooFew (expected - 1) supplied true) else none
  else if expected < supplied then some (.tooMany expected supplied)
  else if supplied < expected then some (.tooFew expected supplied false)
  else none

/-- Whether an argument of type `actual` fits a parameter of type `expected`. Identical types
fit; unless pointers are matched strictly, a pointer fits its element and the reverse; the
untyped nil fits structs and pointers to them. -/
def fits (types : TypeTable) (settings : Settings) (expected actual : TypeId) : Bool :=
  types.identical expected actual ||
  (!settings.strictPointerMatch &&
    ((types.pointerElem expected).any (types.identical · actual) ||
     (types.pointerElem actual).any (types.identical · expected))) ||
  (types.isNilType actual && types.isStructLike expected)

/-- The type expected at an argument index among `count` arguments. From the variadic slot on it
is the element type, except that a single spread argument there is the slice itself. -/
def expectedAt (types : TypeTable) (d : Declaration) (count : Nat) (spread : Bool) (index : Nat) :
    Option TypeId :=
  let slot := expectedCount d - 1
  if d.isVariadic && slot ≤ index && !(spread && index == slot && index + 1 == count) then
    d.restElement types
  else d.params[index + 1]?

/-- The mismatch at an argument index. Types that are not known fit. -/
def mismatchAt? (types : TypeTable) (settings : Settings) (d : Declaration)
    (args : List (Option TypeId)) (spread : Bool) (index : Nat) : Option ArgumentFinding :=
  match expectedAt types d args.length spread index, (args[index]?).join with
  | some expected, some actual =>
      if fits types settings expected actual then none
      else some (.mismatch index expected actual)
  | _, _ => none

/-- Checks the type of each argument, from left to right. -/
def typeFindings (types : TypeTable) (settings : Settings) (d : Declaration)
    (args : List (Option TypeId)) (spread : Bool) : List ArgumentFinding :=
  (List.range args.length).filterMap (mismatchAt? types settings d args spread)

/-- Checks number and types of the arguments of an invocation. -/
def findings (types : TypeTable) (settings : Settings) (d : Declaration)
    (args : List (Option TypeId)) (spread : Bool) : List ArgumentFinding :=
  (countFinding? d args.length spread).toList ++ typeFindings types settings d args spread

end Arguments

end BindingAudit
