/-
# Calls on drafts

A unit is drafted by a sequence of calls. Six of them change what surrounds the next expression: the
file, the open scopes, and the names bound in them. All others leave that as it is; most of them
make an expression or two, number them in turn, and note what is known about them.

* `DraftCall`, `Draft.after`, `Draft.madeBy` : calls, the draft after them, the expressions made;
* `Draft.surroundings_apply` : what surrounds an expression is changed by the six calls only;
* `Draft.Makes` : how a call numbers expressions and what it notes about identifiers;
* `Draft.makes_apply` : every call does just that;
* `Draft.nodup_madeBy` : expressions have different numbers, as long as these do not run out;
* `Draft.recorded_after`, `Draft.recorded_made` : what is recorded about an expression stays;
* `Draft.recorded_ident` : so an identifier stands in the end where it stood when it was made.
-/
import Mathlib.Data.List.Nodup
import BindingAudit.Program.Draft
import BindingAudit.Proofs.PackageItems

namespace BindingAudit

/-! ## Calls -/

/-- A call that opens or closes a file or a scope, or that binds a name. -/
inductive ScopeCall where
  | nextFile (name : String)
  | importModule (givenName : Option String) (path : String)
  | openScope
  | closeScope
  | bindName (name : String) (object : Object)
  | declareVar (name : String) (ty : TypeId)

/-- The draft after such a call. -/
def ScopeCall.apply (b : Draft) : ScopeCall → Draft
  | nextFile name => b.nextFile name
  | importModule givenName path => b.importModule givenName path
  | openScope => b.openScope
  | closeScope => b.closeScope
  | bindName name object => b.bindName name object
  | declareVar name ty => b.declareVar name ty

/-- A call on a draft. Literals of all kinds are made by one call. -/
inductive DraftCall where
  | scope (c : ScopeCall)
  | moveTo (span : Span)
  | dependOn (module : String)
  | addFunction (name : String) (decl : Option DeclId) (body : List Stmt)
  | retype (e : Expr) (ty : TypeId)
  | ident (name : String)
  | unknownIdent (name : String)
  | reference (decl : DeclId)
  | selector (base : Expr) (name : String)
  | call (callee : Expr) (args : List Expr) (spread : Bool)
  | literal (kind : LiteralKind) (value : String) (ty : Predeclared)
  | nilIdent
  | composite (type : Option Expr) (ty : TypeId) (elements : List Element)
  | keyedElement (key : String) (value : Expr)
  | addressOf (operand : Expr)
  | dereference (inner : Expr)
  | parenthesized (inner : Expr)
  | closure (body : List Stmt)

namespace DraftCall

/-- One expression that was made, with the draft after it. -/
def alone (made : Expr × Draft) : List Expr × Draft := ([made.1], made.2)

/-- The expressions that a call makes, in the order of their numbers, and the draft after it. A
selector is made after its selected identifier; of a keyed element only the key is made. -/
def result (b : Draft) : DraftCall → List Expr × Draft
  | scope c => ([], c.apply b)
  | moveTo span => ([], b.moveTo span)
  | dependOn module => ([], b.dependOn module)
  | addFunction name decl body => ([], b.addFunction name decl body)
  | retype e ty => ([], (b.retype e ty).2)
  | ident name => alone (b.ident name)
  | unknownIdent name => alone (b.unknownIdent name)
  | reference decl => alone (b.reference decl)
  | selector base name =>
      let made := b.selector base name
      ((made.1.selectorParts?.map Prod.snd).toList ++ [made.1], made.2)
  | call callee args spread => alone (b.call callee args spread)
  | literal kind value ty => alone (b.literal kind value ty)
  | nilIdent => alone b.nilIdent
  | composite type ty elements => alone (b.composite type ty elements)
  | keyedElement key value =>
      let made := b.keyedElement key value
      (made.1.key.toList, made.2)
  | addressOf operand => alone (b.addressOf operand)
  | dereference inner => alone (b.dereference inner)
  | parenthesized inner => alone (b.parenthesized inner)
  | closure body => alone (b.closure body)

/-- The expressions that a call makes. -/
def made (b : Draft) (c : DraftCall) : List Expr := (c.result b).1

/-- The draft after a call. -/
def apply (b : Draft) (c : DraftCall) : Draft := (c.result b).2

end DraftCall

namespace Draft

/-- The draft after a sequence of calls. -/
def after (b : Draft) (calls : List DraftCall) : Draft := calls.foldl DraftCall.apply b

/-- The expressions that a sequence of calls makes. -/
def madeBy (b : Draft) : List DraftCall → List Expr
  | [] => []
  | c :: calls => c.made b ++ (c.apply b).madeBy calls

theorem after_append (b : Draft) (calls more : List DraftCall) :
    b.after (calls ++ more) = (b.after calls).after more :=
  List.foldl_append

theorem madeBy_append (b : Draft) (calls more : List DraftCall) :
    b.madeBy (calls ++ more) = b.madeBy calls ++ (b.after calls).madeBy more := by
  induction calls generalizing b with
  | nil => rfl
  | cons c calls ih =>
    show c.made b ++ (c.apply b).madeBy (calls ++ more) = _
    rw [ih, ← List.append_assoc]
    rfl

/-! ## What surrounds an expression -/

/-- What a draft knows about its files and scopes. -/
structure Surroundings where
  scopes : ScopeTree
  packageScope : ScopeId
  fileScope : ScopeId
  openScopes : List ScopeId
  /-- The imports of each finished file. -/
  finished : List (List Import)
  /-- The imports of the file being written. -/
  imports : List Import

/-- What surrounds the expression that is made next. -/
def surroundings (b : Draft) : Surroundings where
  scopes := b.unit.scopes
  packageScope := b.packageScope
  fileScope := b.fileScope
  openScopes := b.openScopes
  finished := b.unit.files.map SourceFile.imports
  imports := b.file.imports

@[simp] theorem surroundings_noteType (b : Draft) (id : ExprId) (ty : Option TypeId) :
    (b.noteType id ty).surroundings = b.surroundings := by
  cases ty <;> rfl

@[simp] theorem surroundings_noteObject (b : Draft) (id : ExprId) (object : Option Object) :
    (b.noteObject id object).surroundings = b.surroundings := by
  cases object <;> rfl

@[simp] theorem surroundings_noteScope (b : Draft) (id : ExprId) (scope : ScopeId) :
    (b.noteScope id scope).surroundings = b.surroundings := rfl

@[simp] theorem surroundings_advance (b : Draft) : b.advance.surroundings = b.surroundings := rfl

@[simp] theorem surroundings_make (b : Draft) (build : Node → Expr) (ty : Option TypeId) :
    (b.make build ty).2.surroundings = b.surroundings := by
  simp [make]

@[simp] theorem surroundings_identTo (b : Draft) (name : String) (object : Option Object) :
    (b.identTo name object).2.surroundings = b.surroundings := by
  simp [identTo]

/-- **Files and scopes are changed by scope calls only.** -/
theorem surroundings_apply (b : Draft) (c : DraftCall) (hc : ∀ s, c ≠ .scope s) :
    (c.apply b).surroundings = b.surroundings := by
  cases c with
  | scope s => exact absurd rfl (hc s)
  | moveTo | dependOn | addFunction => rfl
  | retype e ty => exact surroundings_noteType b e.id (some ty)
  | ident | unknownIdent | reference => exact surroundings_identTo b _ _
  | selector base name =>
    show (b.selector base name).2.surroundings = _
    simp [selector]
  | call | literal | nilIdent | composite | keyedElement | addressOf | dereference
  | parenthesized | closure => exact surroundings_noteType b.advance _ _

/-! ## What is noted about identifiers -/

@[simp] theorem nextExpr_noteType (b : Draft) (id : ExprId) (ty : Option TypeId) :
    (b.noteType id ty).nextExpr = b.nextExpr := by
  cases ty <;> rfl

@[simp] theorem scopes_noteType (b : Draft) (id : ExprId) (ty : Option TypeId) :
    (b.noteType id ty).unit.info.scopes = b.unit.info.scopes := by
  cases ty <;> rfl

@[simp] theorem uses_noteType (b : Draft) (id : ExprId) (ty : Option TypeId) :
    (b.noteType id ty).unit.info.uses = b.unit.info.uses := by
  cases ty <;> rfl

@[simp] theorem nextExpr_noteObject (b : Draft) (id : ExprId) (object : Option Object) :
    (b.noteObject id object).nextExpr = b.nextExpr := by
  cases object <;> rfl

@[simp] theorem scopes_noteObject (b : Draft) (id : ExprId) (object : Option Object) :
    (b.noteObject id object).unit.info.scopes = b.unit.info.scopes := by
  cases object <;> rfl

@[simp] theorem find?_uses_noteObject (b : Draft) (id other : ExprId) (object : Option Object) :
    (b.noteObject id object).unit.info.uses.find? other =
      if other = id then object.or (b.unit.info.uses.find? other)
      else b.unit.info.uses.find? other := by
  cases object with
  | none => simp [noteObject]
  | some object => exact FinMap.find?_insert _ _ _ _

/-- From `b` to `b'` the expressions `es` were made, and nothing was noted about others. -/
structure Makes (b : Draft) (es : List Expr) (b' : Draft) : Prop where
  /-- The numbers are those that come next. -/
  numbers : es.map Expr.id = (List.range es.length).map fun k => ⟨b.nextExpr + UInt32.ofNat k⟩
  /-- As many numbers are used up. -/
  next : b'.nextExpr = b.nextExpr + UInt32.ofNat es.length
  /-- What is recorded about other expressions stays. -/
  scopesKept : ∀ id ∉ es.map Expr.id, b'.unit.info.scopes.find? id = b.unit.info.scopes.find? id
  usesKept : ∀ id ∉ es.map Expr.id, b'.unit.info.uses.find? id = b.unit.info.uses.find? id
  /-- An identifier that was made is recorded to stand in the innermost scope, or to stand nowhere
  and to mean no module. -/
  idents : ∀ node name, Expr.ident node name ∈ es →
    b'.unit.info.scopes.find? node.id = some b.innermost ∨
      b'.unit.info.scopes.find? node.id = b.unit.info.scopes.find? node.id ∧
        ∀ object, b'.unit.info.uses.find? node.id = some object →
          b.unit.info.uses.find? node.id = some object ∨ object.modulePath? = none

/-- A call that notes nothing about identifiers makes no expressions. -/
theorem Makes.nothing {b b' : Draft} (hnext : b'.nextExpr = b.nextExpr)
    (hscopes : b'.unit.info.scopes = b.unit.info.scopes)
    (huses : b'.unit.info.uses = b.unit.info.uses) : b.Makes [] b' where
  numbers := rfl
  next := by simpa using hnext
  scopesKept := fun _ _ => by rw [hscopes]
  usesKept := fun _ _ => by rw [huses]
  idents := by simp

/-- An expression that is made and noted no further. -/
theorem makes_make (b : Draft) {build : Node → Expr} (hbuild : ∀ n, (build n).id = n.id)
    (ty : Option TypeId) : b.Makes [(b.make build ty).1] (b.make build ty).2 where
  numbers := by simp [make, hbuild, freshNode]
  next := by simp [make, advance]
  scopesKept := fun id _ => by simp [make, advance]
  usesKept := fun id _ => by simp [make, advance]
  idents := fun node name _ => .inr ⟨by simp [make, advance], fun object hobject => .inl (by
    simpa [make, advance] using hobject)⟩

/-- An identifier that refers to an object stands in the innermost scope. -/
theorem makes_identTo (b : Draft) (name : String) (object : Option Object) :
    b.Makes [(b.identTo name object).1] (b.identTo name object).2 where
  numbers := by simp [identTo, make, freshNode, Expr.id, Expr.node]
  next := by simp [identTo, make, noteScope, advance]
  scopesKept := fun id hid => by
    have hne : id ≠ b.freshNode.id := by simpa [identTo, make, Expr.id, Expr.node] using hid
    simp [identTo, make, noteScope, advance, hne]
  usesKept := fun id hid => by
    have hne : id ≠ b.freshNode.id := by simpa [identTo, make, Expr.id, Expr.node] using hid
    simp [identTo, make, noteScope, advance, hne]
  idents := fun node other hmem => by
    obtain ⟨rfl, -⟩ : node = b.freshNode ∧ other = name := by
      simpa [identTo, make] using List.mem_singleton.1 hmem
    exact .inl (by simp [identTo, make, noteScope, advance])

/-- A member of a value is a function or a variable. -/
theorem modulePath?_of_valueMember? {types : TypeTable} {ty : TypeId} {name : String}
    {object : Object} (h : valueMember? types ty name = some object) :
    object.modulePath? = none := by
  unfold valueMember? at h
  split at h
  · cases h
    rfl
  · obtain ⟨f, -, rfl⟩ := Option.map_eq_some_iff.1 h
    rfl

/-- What is selected from an expression is no module. -/
theorem modulePath?_of_member? {b : Draft} {base : Expr} {name : String} {object : Object}
    (h : b.member? base name = some object) : object.modulePath? = none := by
  unfold member? at h
  split at h
  · exact Definitions.modulePath?_of_mem_packageItems (mem_of_moduleMember? h)
  · obtain ⟨ty, -, hty⟩ := Option.bind_eq_some_iff.1 h
    exact modulePath?_of_valueMember? hty

/-- A selector is made after its selected identifier, which stands nowhere. -/
theorem makes_selector (b : Draft) (base : Expr) (name : String) :
    b.Makes (((b.selector base name).1.selectorParts?.map Prod.snd).toList ++
      [(b.selector base name).1]) (b.selector base name).2 where
  numbers := by
    simp [selector, make, Expr.selectorParts?, Expr.id, Expr.node, freshNode, advance,
      List.range_succ]
  next := by
    simp [selector, make, Expr.selectorParts?, advance, UInt32.add_assoc]
  scopesKept := fun id _ => by simp [selector, make, advance]
  usesKept := fun id hid => by
    have hne : id ≠ b.freshNode.id := by
      rintro rfl
      simp [selector, make, Expr.selectorParts?, Expr.id, Expr.node] at hid
    simp [selector, make, advance, hne]
  idents := fun node other hmem => by
    obtain ⟨rfl, -⟩ : node = b.freshNode ∧ other = name := by
      simpa [selector, make, Expr.selectorParts?] using hmem
    refine .inr ⟨by simp [selector, make, advance], fun object hobject => ?_⟩
    have hor : (b.member? base name).or (b.unit.info.uses.find? b.freshNode.id) = some object := by
      simpa [selector, make, advance] using hobject
    rcases Option.or_eq_some_iff.1 hor with h | ⟨-, h⟩
    · exact .inr (modulePath?_of_member? h)
    · exact .inl h

/-- **Every call makes expressions and notes something about these only.** -/
theorem makes_apply (b : Draft) (c : DraftCall) : b.Makes (c.made b) (c.apply b) := by
  cases c with
  | scope s => cases s <;> exact .nothing rfl rfl rfl
  | moveTo | dependOn | addFunction | retype => exact .nothing rfl rfl rfl
  | ident | unknownIdent | reference => exact makes_identTo b _ _
  | selector base name => exact makes_selector b base name
  | call | literal | nilIdent | composite | keyedElement | addressOf | dereference
  | parenthesized | closure => exact makes_make b (fun _ => rfl) _

/-! ## All calls -/

/-- The numbers of the expressions that calls make. -/
theorem numbers_madeBy (b : Draft) (calls : List DraftCall) :
    (b.madeBy calls).map Expr.id =
      (List.range (b.madeBy calls).length).map fun k => ⟨b.nextExpr + UInt32.ofNat k⟩ := by
  induction calls generalizing b with
  | nil => rfl
  | cons c calls ih =>
    have hfirst := makes_apply b c
    show (c.made b ++ (c.apply b).madeBy calls).map Expr.id =
      (List.range (c.made b ++ (c.apply b).madeBy calls).length).map _
    rw [List.map_append, hfirst.numbers, ih, hfirst.next, List.length_append, List.range_add,
      List.map_append, List.map_map]
    congr 1
    apply List.map_congr_left
    intro k _
    simp [UInt32.ofNat_add, UInt32.add_assoc]

/-- **Expressions have different numbers**, as long as the numbers do not run out. -/
theorem nodup_madeBy (b : Draft) {calls : List DraftCall}
    (hroom : (b.madeBy calls).length ≤ UInt32.size) : ((b.madeBy calls).map Expr.id).Nodup := by
  rw [numbers_madeBy]
  refine List.Nodup.map_on (fun j hj k hk hjk => ?_) List.nodup_range
  rw [List.mem_range] at hj hk
  have hsame : UInt32.ofNat j = UInt32.ofNat k := by simpa using congrArg ExprId.raw hjk
  have hnat := congrArg UInt32.toNat hsame
  rwa [UInt32.toNat_ofNat_of_lt' (Nat.lt_of_lt_of_le hj hroom),
    UInt32.toNat_ofNat_of_lt' (Nat.lt_of_lt_of_le hk hroom)] at hnat

/-- What is recorded about an expression stays while others are made. -/
theorem recorded_after (b : Draft) {calls : List DraftCall} {id : ExprId}
    (hid : id ∉ (b.madeBy calls).map Expr.id) :
    (b.after calls).unit.info.scopes.find? id = b.unit.info.scopes.find? id ∧
      (b.after calls).unit.info.uses.find? id = b.unit.info.uses.find? id := by
  induction calls generalizing b with
  | nil => exact ⟨rfl, rfl⟩
  | cons c calls ih =>
    have hfirst := makes_apply b c
    have hsplit : id ∉ (c.made b).map Expr.id ∧ id ∉ ((c.apply b).madeBy calls).map Expr.id := by
      rwa [madeBy, List.map_append, List.mem_append, not_or] at hid
    obtain ⟨hscopes, huses⟩ := ih (c.apply b) hsplit.2
    exact ⟨hscopes.trans (hfirst.scopesKept id hsplit.1), huses.trans (hfirst.usesKept id hsplit.1)⟩

/-- About an expression that a call makes nothing is recorded by the calls before, and what is
recorded then stays. -/
theorem recorded_made {b : Draft} {before later : List DraftCall} {c : DraftCall}
    (hnodup : ((b.madeBy (before ++ c :: later)).map Expr.id).Nodup) {id : ExprId}
    (hid : id ∈ (c.made (b.after before)).map Expr.id) :
    ((b.after before).unit.info.scopes.find? id = b.unit.info.scopes.find? id ∧
        (b.after before).unit.info.uses.find? id = b.unit.info.uses.find? id) ∧
      (b.after (before ++ c :: later)).unit.info.scopes.find? id =
        (c.apply (b.after before)).unit.info.scopes.find? id ∧
      (b.after (before ++ c :: later)).unit.info.uses.find? id =
        (c.apply (b.after before)).unit.info.uses.find? id := by
  rw [madeBy_append, madeBy, List.map_append, List.map_append, List.nodup_append] at hnodup
  obtain ⟨-, hrest, hbefore⟩ := hnodup
  have hearlier : id ∉ (b.madeBy before).map Expr.id := fun hmem =>
    hbefore _ hmem _ (List.mem_append_left _ hid) rfl
  have hlater : id ∉ ((c.apply (b.after before)).madeBy later).map Expr.id := fun hmem =>
    (List.nodup_append.1 hrest).2.2 _ hid _ hmem rfl
  have hend : b.after (before ++ c :: later) = (c.apply (b.after before)).after later :=
    after_append b before (c :: later)
  rw [hend]
  exact ⟨b.recorded_after hearlier, (c.apply (b.after before)).recorded_after hlater⟩

/-- Where an identifier is recorded to stand after further calls, if nothing was recorded at first:
in the scope that was innermost when it was made, or nowhere, and then it is recorded to mean no
module. -/
theorem recorded_ident {b : Draft} (hscopes : ∀ id, b.unit.info.scopes.find? id = none)
    (huses : ∀ id, b.unit.info.uses.find? id = none) {before later : List DraftCall} {c : DraftCall}
    (hnodup : ((b.madeBy (before ++ c :: later)).map Expr.id).Nodup) {node : Node} {name : String}
    (hmade : .ident node name ∈ c.made (b.after before)) :
    (b.after (before ++ c :: later)).unit.info.scopes.find? node.id =
        some (b.after before).innermost ∨
      (b.after (before ++ c :: later)).unit.info.scopes.find? node.id = none ∧
        ∀ object, (b.after (before ++ c :: later)).unit.info.uses.find? node.id = some object →
          object.modulePath? = none := by
  have hid : node.id ∈ (c.made (b.after before)).map Expr.id := List.mem_map_of_mem hmade
  obtain ⟨⟨hscopes₁, huses₁⟩, hscopes₂, huses₂⟩ := recorded_made hnodup hid
  rw [hscopes₂, huses₂]
  rcases (makes_apply (b.after before) c).idents node name hmade with hin | ⟨hout, hobject⟩
  · exact .inl hin
  · refine .inr ⟨by rw [hout, hscopes₁, hscopes], fun object hfound => ?_⟩
    rcases hobject object hfound with hold | hnew
    · rw [huses₁, huses] at hold
      cases hold
    · exact hnew

end Draft

end BindingAudit
