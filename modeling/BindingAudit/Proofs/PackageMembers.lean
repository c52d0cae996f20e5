/-
# Package members from inside and outside

The items of a package are its functions, methods apart, and its named types. Inside the package an
item is found by its bare name. The scope of the package was filled with the functions and then with
the types, so the last item with the name is found. From outside an item is selected from an import
of the package. Functions are searched first and types after them, so the first item with the name
is found. Where no two items share their module and their name, both ways lead to the same item, and
to none if there is none.

* `Definitions.HasDistinctItems` : no two items share their module and their name;
* `Draft.find?_packageNames_iff` : what a bare name finds inside;
* `Draft.moduleMember?_iff` : what is selected from outside;
* `Draft.ident_eq_selector` : the identifier and the selector are recorded to name the same.
-/
import BindingAudit.Proofs.LastingMeaning
import BindingAudit.Proofs.PackageItems

namespace BindingAudit

/-- The object that an expression is recorded to name. For a selector that is what is selected. -/
def Annotations.namedObject? (info : Annotations) (e : Expr) : Option Object :=
  e.namingIdent?.bind info.recordedObject?

/-! ## Distinct items -/

namespace Definitions

/-- No two items share their module and their name. -/
def HasDistinctItems (defs : Definitions) : Prop := (defs.packageItems.map Prod.fst).Nodup

instance (defs : Definitions) : Decidable defs.HasDistinctItems :=
  inferInstanceAs (Decidable (List.Nodup _))

variable {defs : Definitions} {module name : String} {object : Object}

/-- An item is determined by its module and its name. -/
theorem HasDistinctItems.unique (h : defs.HasDistinctItems) {object' : Object}
    (hitem : ((module, name), object) ∈ defs.packageItems)
    (hitem' : ((module, name), object') ∈ defs.packageItems) : object = object' :=
  congrArg Prod.snd (List.inj_on_of_nodup_map h hitem hitem' rfl)

/-- A search that finds items only, and finds something wherever there is an item, finds exactly the
items if these are distinct. -/
theorem HasDistinctItems.eq_some_iff (h : defs.HasDistinctItems) {found : Option Object}
    (hsound : ∀ object, found = some object → ((module, name), object) ∈ defs.packageItems)
    (hcomplete : ∀ object, ((module, name), object) ∈ defs.packageItems → found ≠ none) :
    found = some object ↔ ((module, name), object) ∈ defs.packageItems := by
  refine ⟨hsound object, fun hitem => ?_⟩
  obtain ⟨other, hother⟩ := Option.ne_none_iff_exists'.1 (hcomplete object hitem)
  rw [hother, h.unique (hsound other hother) hitem]

end Definitions

namespace Draft

variable {defs : Definitions} {module name : String} {object : Object}

/-! ## Inside the package -/

/-- **Inside**, a bare name finds the item of the package with that name. -/
theorem find?_packageNames_iff (h : defs.HasDistinctItems) :
    (packageNames defs module).find? name = some object ↔
      ((module, name), object) ∈ defs.packageItems := by
  apply h.eq_some_iff
  · intro object hfound
    exact mem_packageBindings_iff.1 (FinMap.mem_of_find?_ofList hfound)
  · intro object hitem
    obtain ⟨other, hother⟩ := FinMap.exists_find?_ofList (mem_packageBindings_iff.2 hitem)
    exact Option.ne_none_iff_exists'.2 ⟨other, hother⟩

/-! ## From outside -/

/-- Something is selected from a module if its package has an item with the name. -/
theorem moduleMember?_ne_none (hitem : ((module, name), object) ∈ defs.packageItems) :
    moduleMember? defs module name ≠ none := by
  intro hnone
  unfold moduleMember? at hnone
  split at hnone
  · cases hnone
  · rename_i hfuncs
    rcases Definitions.mem_packageItems_iff.1 hitem with
      ⟨d, hd, hmethod, hmodule, hname, -⟩ | ⟨id, n, hentry, hmodule, hname, -⟩
    · have hnot := List.find?_eq_none.1 hfuncs d hd
      simp [hmethod, hmodule, hname] at hnot
    · have hnot := List.findSome?_eq_none_iff.1 hnone _ hentry
      simp [hmodule, hname] at hnot

/-- **From outside**, a name selects the item of the package with that name. -/
theorem moduleMember?_iff (h : defs.HasDistinctItems) :
    moduleMember? defs module name = some object ↔
      ((module, name), object) ∈ defs.packageItems :=
  h.eq_some_iff (fun _ => mem_of_moduleMember?) fun _ => moduleMember?_ne_none

/-! ## Identifiers and selectors -/

@[simp] theorem defs_noteType (b : Draft) (id : ExprId) (ty : Option TypeId) :
    (b.noteType id ty).defs = b.defs := by
  cases ty <;> rfl

@[simp] theorem defs_noteObject (b : Draft) (id : ExprId) (object : Option Object) :
    (b.noteObject id object).defs = b.defs := by
  cases object <;> rfl

/-- Calls on a draft do not change the definitions. -/
theorem defs_apply (b : Draft) (c : DraftCall) : (c.apply b).defs = b.defs := by
  cases c with
  | scope s => cases s <;> rfl
  | moveTo | dependOn | addFunction | retype => rfl
  | ident | unknownIdent | reference =>
    show (b.identTo _ _).2.defs = b.defs
    simp [identTo, make, noteScope, advance]
  | selector base name =>
    show (b.selector base name).2.defs = b.defs
    simp [selector, make, advance]
  | call | literal | nilIdent | composite | keyedElement | addressOf | dereference
  | parenthesized | closure => exact defs_noteType b.advance _ _

theorem defs_after (b : Draft) (calls : List DraftCall) : (b.after calls).defs = b.defs := by
  induction calls generalizing b with
  | nil => rfl
  | cons c calls ih => exact (ih (c.apply b)).trans (defs_apply b c)

/-- A look-up in a unit that was just started goes through to the scope of the package. -/
theorem lookup_start (defs : Definitions) (module fileName name : String) :
    let b := start defs module fileName
    (b.unit.scopes.lookup b.innermost name).map Prod.snd =
      (packageNames defs module).find? name := by
  intro b
  have hscopes : b.unit.scopes =
      ⟨[⟨none, packageNames defs module⟩, ⟨some ⟨0⟩, .empty⟩]⟩ :=
    congrArg Surroundings.scopes (surroundings_start defs module fileName)
  have hinner : b.innermost = ⟨1⟩ :=
    congrArg (fun s : Surroundings => s.openScopes.headD s.fileScope)
      (surroundings_start defs module fileName)
  rw [hscopes, hinner]
  show (ScopeTree.lookupWithin ⟨[⟨none, packageNames defs module⟩, _]⟩ name 1 ⟨0⟩).map Prod.snd = _
  rw [ScopeTree.lookupWithin]
  simp only [ScopeTree.get?, ScopeId.index, UInt32.toNat_zero, List.getElem?_cons_zero,
    Option.bind_some]
  cases (packageNames defs module).find? name <;> rfl

/-- What is recorded of a selected identifier: what is selected. -/
theorem recorded_selector (b : Draft) (base : Expr) (name : String)
    (huses : b.unit.info.uses.find? b.freshNode.id = none) :
    (b.selector base name).2.unit.info.namedObject? (b.selector base name).1 =
      b.member? base name := by
  show (b.selector base name).2.unit.info.uses.find? b.freshNode.id = _
  simp [selector, make, advance, huses]

/-- The identifier that is selected next is new, as long as there are numbers for expressions. -/
theorem find?_uses_freshNode {b : Draft} (huses : ∀ id, b.unit.info.uses.find? id = none)
    {calls : List DraftCall} {base : Expr} {name : String}
    (hnodes : (b.madeBy (calls ++ [.selector base name])).length ≤ UInt32.size) :
    (b.after calls).unit.info.uses.find? (b.after calls).freshNode.id = none := by
  have hid : (b.after calls).freshNode.id ∈
      ((DraftCall.selector base name).made (b.after calls)).map Expr.id := List.mem_cons_self
  have hbefore := (recorded_made (b.nodup_madeBy hnodes) hid).1
  exact hbefore.2.trans (huses _)

/-- **A package member is the same object from inside and from outside.** Where no two items of
packages share their module and name, the bare name in a unit of the package that was just started
and a selector from an import of the package, made after any calls in a unit of any module, are
recorded to name the same object: the item with the name, or nothing if there is none. -/
theorem ident_eq_selector (defs : Definitions) (hdistinct : defs.HasDistinctItems)
    (module name fileName otherModule otherFile : String) (calls : List DraftCall) (base : Expr)
    (localName : String)
    (hnodes : ((start defs otherModule otherFile).madeBy
      (calls ++ [.selector base name])).length ≤ UInt32.size)
    (hbase : ((start defs otherModule otherFile).after calls).unit.info.recordedObject? base =
      some (.module localName module)) :
    let inside := (start defs module fileName).ident name
    let outside := ((start defs otherModule otherFile).after calls).selector base name
    inside.2.unit.info.namedObject? inside.1 = outside.2.unit.info.namedObject? outside.1 ∧
      ∀ object, inside.2.unit.info.namedObject? inside.1 = some object ↔
        ((module, name), object) ∈ defs.packageItems := by
  intro inside outside
  have hinside : inside.2.unit.info.namedObject? inside.1 =
      (packageNames defs module).find? name := by
    have hrecorded := recorded_identTo (start defs module fileName) name
      (((start defs module fileName).unit.scopes.lookup
        (start defs module fileName).innermost name).map Prod.snd) rfl
    exact hrecorded.2.trans (lookup_start defs module fileName name)
  have houtside : outside.2.unit.info.namedObject? outside.1 = moduleMember? defs module name := by
    have hselected := recorded_selector ((start defs otherModule otherFile).after calls) base name
      (find?_uses_freshNode (fun _ => rfl) hnodes)
    rw [member?, hbase, Option.bind_some, defs_after] at hselected
    exact hselected
  have hitem : ∀ object, inside.2.unit.info.namedObject? inside.1 = some object ↔
      ((module, name), object) ∈ defs.packageItems := by
    intro object
    rw [hinside]
    exact find?_packageNames_iff hdistinct
  refine ⟨Option.ext fun object => ?_, hitem⟩
  rw [hitem object, houtside, moduleMember?_iff hdistinct]

/-- A package with a named type that has a method, and a function whose name is also that of a
function of another package. -/
def greetings : Definitions :=
  let named : Definitions := { Definitions.predeclared with
    types := TypeTable.predeclared.add (.named ⟨"app", "Greeter", none, []⟩) }
  ((named.declareFunction "app" "Greet" {}).declareFunction "lib" "Greet" {}).declareMethod
    (.ofIndex 19) false "Stop" {}

/-- A unit of another module that imports the package and names the import. -/
def greetingsImported : List DraftCall :=
  [.scope (.importModule (some "hello") "app"), .scope .openScope, .ident "hello"]

/-- The function and the type are found both ways. The method is no member of the package. -/
theorem greetings_ident_eq_selector :
    let base := Expr.ident ⟨⟨0⟩, .start⟩ "hello"
    let inside (name : String) := (start greetings "app" "greet.go").ident name
    let outside (name : String) :=
      ((start greetings "main" "main.go").after greetingsImported).selector base name
    let within (name : String) := (inside name).2.unit.info.namedObject? (inside name).1
    let imported (name : String) := (outside name).2.unit.info.namedObject? (outside name).1
    greetings.HasDistinctItems ∧
      ((start greetings "main" "main.go").after greetingsImported).unit.info.recordedObject? base =
        some (.module "hello" "app") ∧
      within "Greet" = some (.func ⟨0⟩) ∧ imported "Greet" = within "Greet" ∧
      within "Greeter" = some (.typeName ⟨19⟩) ∧ imported "Greeter" = within "Greeter" ∧
      within "Stop" = none ∧ imported "Stop" = within "Stop" := by
  intro base inside outside within imported
  have hdistinct : greetings.HasDistinctItems := by decide +kernel
  have hbase : ((start greetings "main" "main.go").after
      greetingsImported).unit.info.recordedObject? base = some (.module "hello" "app") := by
    decide +kernel
  have hboth (name : String) : imported name = within name := by
    -- three expressions are made, whatever the name is
    have hnodes : ((start greetings "main" "main.go").madeBy
        (greetingsImported ++ [.selector base name])).length = 3 := rfl
    exact (ident_eq_selector greetings hdistinct "app" name "greet.go" "main" "main.go"
      greetingsImported base "hello" (by rw [hnodes]; decide) hbase).1.symm
  exact ⟨hdistinct, hbase, by decide +kernel, hboth _, by decide +kernel, hboth _,
    by decide +kernel, hboth _⟩

/-- A function and a type that share their name are told apart by where the name stands. -/
example :
    let named : Definitions := { Definitions.predeclared with
      types := TypeTable.predeclared.add (.named ⟨"app", "Greet", none, []⟩) }
    let defs := named.declareFunction "app" "Greet" {}
    (packageNames defs "app").find? "Greet" = some (.typeName ⟨19⟩) ∧
      moduleMember? defs "app" "Greet" = some (.func ⟨0⟩) := by
  decide +kernel

end Draft

end BindingAudit
