/-
# The meaning of an identifier lasts

An identifier is recorded to mean what its name meant where it was made. The finished unit can be
asked again: it looks the name up from the scope of the identifier, among all bindings that were
made until the end. Both answers are the same as long as the name was not bound afterwards in that
scope or in one around it. Whatever else is drafted changes neither of them.

* `Draft.bindings` : where calls bind which names;
* `Draft.HasScopes` : the scopes that a draft works with exist, after every call;
* `Draft.keeps_after` : the meaning of a name lasts through calls that leave it alone;
* `Draft.meaningOf?_ident` : so the record of an identifier agrees with its scope.
-/
import BindingAudit.Proofs.FileScopes
import BindingAudit.Proofs.ScopeGrowth

namespace BindingAudit

/-! ## Where calls bind names -/

/-- The scope in which a call binds a name, and the name. -/
def ScopeCall.binding? (b : Draft) : ScopeCall → Option (ScopeId × String)
  | importModule givenName path => some (b.fileScope, (Import.mk givenName path b.span).localName)
  | bindName name _ | declareVar name _ => some (b.innermost, name)
  | nextFile _ | openScope | closeScope => none

@[inherit_doc ScopeCall.binding?]
def DraftCall.binding? (b : Draft) : DraftCall → Option (ScopeId × String)
  | scope c => c.binding? b
  | _ => none

namespace Draft

/-- What a sequence of calls binds, and where. -/
def bindings (b : Draft) : List DraftCall → List (ScopeId × String)
  | [] => []
  | c :: calls => (c.binding? b).toList ++ (c.apply b).bindings calls

/-- Calls leave a name alone as it is seen from a scope: none of them binds it there or in a scope
around. -/
def LeavesAlone (b : Draft) (id : ScopeId) (name : String) (calls : List DraftCall) : Prop :=
  ∀ outer, b.unit.scopes.Encloses outer id → (outer, name) ∉ b.bindings calls

/-! ## The scopes that a draft works with -/

/-- The scope of the package, that of the file and the open scopes exist, and so do the scopes that
others lie in. -/
structure HasScopes (s : Surroundings) : Prop where
  parents : s.scopes.ParentsExist
  package : s.packageScope.index < s.scopes.size
  current : ∀ id ∈ s.openScopes ++ [s.fileScope], id.index < s.scopes.size

variable {s : Surroundings} {b : Draft} {id : ScopeId} {name : String}

theorem InOrder.hasScopes {package : FinMap String Object} {Bound : Nat → String → Object → Prop}
    {homes : List Nat} (h : InOrder package Bound homes s) : HasScopes s where
  parents := by
    rintro inner outer ⟨scope, hscope, hparent⟩
    have hearlier := (h.nested.parents inner.index scope outer hscope hparent).1
    exact hearlier.trans (List.getElem?_eq_some_iff.1 hscope).1
  package := by
    rw [h.root]
    exact h.nested.size_pos
  current := fun id hid => h.nested.lt_size (h.current id hid).2

theorem hasScopes_start (defs : Definitions) (module fileName : String) :
    HasScopes (start defs module fileName).surroundings :=
  (inOrder_start (fun _ _ _ => False) defs module fileName).hasScopes

namespace HasScopes

theorem innermost (h : HasScopes b.surroundings) : b.innermost.index < b.unit.scopes.size :=
  h.current _ (InOrder.innermost_mem _ _)

/-- The scopes are still there after a name was bound. -/
theorem insert (h : HasScopes s) (scope : ScopeId) (bound : String) (object : Object)
    (imports : List Import) :
    HasScopes { s with scopes := s.scopes.insert scope bound object, imports } where
  parents := ScopeTree.parentsExist_insert h.parents scope bound object
  package := by
    rw [ScopeTree.size_insert]
    exact h.package
  current := fun id hid => by
    rw [ScopeTree.size_insert]
    exact h.current id hid

/-- The scopes are there if one was added inside one of them, and it may be a current one. -/
theorem add (h : HasScopes s) {s' : Surroundings} {parent : ScopeId}
    (hparent : parent.index < s.scopes.size) (hscopes : s'.scopes = s.scopes.add (some parent))
    (hpackage : s'.packageScope = s.packageScope)
    (hcurrent : ∀ id ∈ s'.openScopes ++ [s'.fileScope],
      id = s.scopes.nextId ∨ id ∈ s.openScopes ++ [s.fileScope]) : HasScopes s' where
  parents := by
    rw [hscopes]
    exact ScopeTree.parentsExist_add h.parents hparent
  package := by
    rw [hscopes, hpackage, ScopeTree.size_add]
    exact h.package.trans (Nat.lt_succ_self _)
  current := by
    intro id hid
    rw [hscopes]
    rcases hcurrent id hid with rfl | hold
    · exact ScopeTree.index_nextId_lt s.scopes _
    · rw [ScopeTree.size_add]
      exact (h.current id hold).trans (Nat.lt_succ_self _)

/-- **Every call leaves the scopes there** that a draft works with. -/
theorem apply (h : HasScopes b.surroundings) (c : DraftCall) :
    HasScopes (c.apply b).surroundings := by
  by_cases hscope : ∃ s, c = .scope s
  · obtain ⟨s, rfl⟩ := hscope
    cases s with
    | nextFile name =>
      exact h.add h.package rfl rfl fun id hid => .inl (List.mem_singleton.1 hid)
    | openScope => exact h.add h.innermost rfl rfl fun id hid => List.mem_cons.1 hid
    | closeScope =>
      refine ⟨h.parents, h.package, fun id hid => h.current id ?_⟩
      rcases List.mem_append.1 hid with hopen | hfile
      · exact List.mem_append_left _ (List.mem_of_mem_tail hopen)
      · exact List.mem_append_right _ hfile
    | importModule | bindName | declareVar => exact h.insert _ _ _ _
  · rw [surroundings_apply b c fun s hs => hscope ⟨s, hs⟩]
    exact h

end HasScopes

/-! ## Names that are left alone -/

theorem LeavesAlone.binding?_ne {c : DraftCall} {calls : List DraftCall}
    (h : b.LeavesAlone id name (c :: calls)) {outer : ScopeId}
    (houter : b.unit.scopes.Encloses outer id) : c.binding? b ≠ some (outer, name) := by
  intro hbinding
  exact h outer houter (List.mem_append_left _ (by rw [hbinding]; exact List.mem_singleton_self _))

/-- **One call.** What a name means from a scope on is kept unless the call binds it in a scope
around. -/
theorem keeps_apply (h : HasScopes b.surroundings) (hid : id.index < b.unit.scopes.size)
    (c : DraftCall)
    (hfree : ∀ outer, b.unit.scopes.Encloses outer id → c.binding? b ≠ some (outer, name)) :
    b.unit.scopes.Keeps (c.apply b).unit.scopes id name := by
  by_cases hscope : ∃ s, c = .scope s
  · obtain ⟨s, rfl⟩ := hscope
    cases s with
    | nextFile | openScope => exact ScopeTree.keeps_add h.parents _ name hid
    | closeScope => exact .refl _ id name
    | importModule | bindName | declareVar =>
      exact ScopeTree.keeps_insert _ fun hname houter => hfree _ houter (by rw [← hname]; rfl)
  · have hsame := surroundings_apply b c fun s hs => hscope ⟨s, hs⟩
    rw [show (c.apply b).unit.scopes = b.unit.scopes from congrArg Surroundings.scopes hsame]
    exact .refl _ id name

/-- **All calls.** A name keeps its meaning from a scope on if it is left alone. -/
theorem keeps_after {calls : List DraftCall} (h : HasScopes b.surroundings)
    (hid : id.index < b.unit.scopes.size) (hfree : b.LeavesAlone id name calls) :
    b.unit.scopes.Keeps (b.after calls).unit.scopes id name := by
  induction calls generalizing b with
  | nil => exact .refl _ id name
  | cons c calls ih =>
    have hfirst : b.unit.scopes.Keeps (c.apply b).unit.scopes id name :=
      keeps_apply h hid c fun outer houter => hfree.binding?_ne houter
    -- what is around the scope afterwards was around it before
    have hrest : (c.apply b).LeavesAlone id name calls := fun outer houter hmem =>
      hfree outer (hfirst.encloses outer houter) (List.mem_append_right _ hmem)
    exact hfirst.trans (ih (h.apply c) (Nat.lt_of_lt_of_le hid hfirst.size) hrest)

theorem hasScopes_after (h : HasScopes b.surroundings) (calls : List DraftCall) :
    HasScopes (b.after calls).surroundings := by
  induction calls generalizing b with
  | nil => exact h
  | cons c calls ih => exact ih (h.apply c)

/-! ## Records and scopes of identifiers -/

/-- What is recorded of an identifier that is made: the scope where it stands and what it refers
to. -/
theorem recorded_identTo (b : Draft) (name : String) (object : Option Object)
    (huses : b.unit.info.uses.find? b.freshNode.id = none) :
    (b.identTo name object).2.unit.info.scopes.find? b.freshNode.id = some b.innermost ∧
      (b.identTo name object).2.unit.info.uses.find? b.freshNode.id = object := by
  constructor
  · simp [identTo, make, noteScope, advance]
  · simp [identTo, make, noteScope, advance, huses]

/-- What is recorded of an identifier in the end: the scope that was innermost when it was made, and
what its name meant there. -/
theorem recorded_ident_after {b : Draft} (huses : ∀ id, b.unit.info.uses.find? id = none)
    {before later : List DraftCall} {name : String}
    (hnodup : ((b.madeBy (before ++ .ident name :: later)).map Expr.id).Nodup) :
    let made := (b.after before).ident name
    let info := (made.2.after later).unit.info
    info.recordedScope? made.1 = some made.2.innermost ∧
      info.recordedObject? made.1 =
        (made.2.unit.scopes.lookup made.2.innermost name).map Prod.snd := by
  intro made info
  -- the identifier changes nothing of what surrounds it
  have hsame : made.2.surroundings = (b.after before).surroundings := surroundings_identTo _ _ _
  have hinner : made.2.innermost = (b.after before).innermost :=
    congrArg (fun s : Surroundings => s.openScopes.headD s.fileScope) hsame
  have htree : made.2.unit.scopes = (b.after before).unit.scopes :=
    congrArg Surroundings.scopes hsame
  have hend : b.after (before ++ .ident name :: later) = made.2.after later :=
    after_append b before (.ident name :: later)
  have hid : (b.after before).freshNode.id ∈
      ((DraftCall.ident name).made (b.after before)).map Expr.id := List.mem_singleton_self _
  obtain ⟨⟨-, hbefore⟩, hscope, hobject⟩ := recorded_made hnodup hid
  obtain ⟨hscope', hobject'⟩ := recorded_identTo (b.after before) name
    (((b.after before).unit.scopes.lookup (b.after before).innermost name).map Prod.snd)
    (hbefore.trans (huses _))
  rw [hend] at hscope hobject
  rw [hinner, htree]
  exact ⟨hscope.trans hscope', hobject.trans hobject'⟩

/-- **The meaning of an identifier lasts.** An identifier is made after any calls on a draft that
was started for a module, and the unit is finished after any further calls that leave its name
alone. As long as there are numbers for all expressions, the identifier is recorded to stand in the
scope that was innermost when it was made. What its name means from there in the finished unit is
what the identifier is recorded to refer to, and that is what its name meant when it was made. -/
theorem meaningOf?_ident (defs : Definitions) (module fileName : String)
    (before later : List DraftCall) (name : String)
    (hnodes : ((start defs module fileName).madeBy (before ++ .ident name :: later)).length ≤
      UInt32.size)
    (hfree : let made := ((start defs module fileName).after before).ident name
      made.2.LeavesAlone made.2.innermost name later) :
    let made := ((start defs module fileName).after before).ident name
    let unit := (made.2.after later).finish
    unit.info.recordedScope? made.1 = some made.2.innermost ∧
      unit.meaningOf? made.1 = unit.info.recordedObject? made.1 ∧
      unit.info.recordedObject? made.1 =
        (made.2.unit.scopes.lookup made.2.innermost name).map Prod.snd := by
  intro made unit
  obtain ⟨hscope, hobject⟩ : unit.info.recordedScope? made.1 = some made.2.innermost ∧ _ :=
    recorded_ident_after (fun _ => rfl) (nodup_madeBy _ hnodes)
  have hscopes : HasScopes made.2.surroundings := by
    have hbefore := hasScopes_after (hasScopes_start defs module fileName) before
    exact hbefore.apply (.ident name)
  have hkeeps := keeps_after hscopes hscopes.innermost hfree
  have hmeaning : unit.meaningOf? made.1 =
      (unit.scopes.lookup made.2.innermost name).map Prod.snd := by
    unfold CompilationUnit.meaningOf?
    rw [hscope]
    rfl
  refine ⟨hscope, ?_, hobject⟩
  calc unit.meaningOf? made.1
      = (unit.scopes.lookup made.2.innermost name).map Prod.snd := hmeaning
    _ = (made.2.unit.scopes.lookup made.2.innermost name).map Prod.snd :=
        congrArg (Option.map Prod.snd) hkeeps.lookup
    _ = unit.info.recordedObject? made.1 := hobject.symm

/-- A file that imports a module, with a scope opened in it. -/
def webClient : List DraftCall :=
  [.scope (.importModule (some "web") "net/http"), .scope .openScope]

/-- Other bindings of the name of the module: to a variable in a scope inside the open one, and to
another module in another file. -/
def otherWebs : List DraftCall :=
  [.scope .openScope, .scope (.declareVar "web" ⟨3⟩), .ident "web", .scope .closeScope,
    .scope (.bindName "port" (.typeName ⟨3⟩)), .scope (.nextFile "server.go"),
    .scope (.importModule (some "web") "app/web"), .ident "web"]

/-- An identifier that is made between them means the imported module to the end. -/
theorem otherWebs_meaningOf? :
    let made := (client.after webClient).ident "web"
    let unit := (made.2.after otherWebs).finish
    made.2.LeavesAlone made.2.innermost "web" otherWebs ∧
      made.2.bindings otherWebs = [(⟨3⟩, "web"), (⟨2⟩, "port"), (⟨4⟩, "web")] ∧
      unit.info.recordedObject? made.1 = some (.module "web" "net/http") ∧
      unit.meaningOf? made.1 = some (.module "web" "net/http") := by
  intro made unit
  have hbindings : made.2.bindings otherWebs = [(⟨3⟩, "web"), (⟨2⟩, "port"), (⟨4⟩, "web")] := by
    decide
  have hfree : made.2.LeavesAlone made.2.innermost "web" otherWebs := by
    intro outer houter
    have haround : outer ∈ ([⟨2⟩, ⟨1⟩, ⟨0⟩] : List ScopeId) := houter.mem (by decide) (by decide)
    have hfree : ∀ id ∈ ([⟨2⟩, ⟨1⟩, ⟨0⟩] : List ScopeId),
        (id, "web") ∉ [(⟨3⟩, "web"), (⟨2⟩, "port"), (⟨4⟩, "web")] := by decide
    rw [hbindings]
    exact hfree outer haround
  obtain ⟨-, hmeaning, hrecorded⟩ :=
    meaningOf?_ident .predeclared "app" "client.go" webClient otherWebs "web" (by decide) hfree
  have hrecord : unit.info.recordedObject? made.1 = some (.module "web" "net/http") :=
    hrecorded.trans (by decide)
  exact ⟨hfree, hbindings, hrecord, hmeaning.trans hrecord⟩

/-- A binding of the name in the scope itself is seen from there afterwards, though the record stays
as it was. -/
example :
    let made := (client.after webClient).ident "web"
    let unit := (made.2.after [.scope (.declareVar "web" ⟨3⟩)]).finish
    unit.info.recordedObject? made.1 = some (.module "web" "net/http") ∧
      unit.meaningOf? made.1 = some (.var "web" ⟨3⟩) := by
  decide

end Draft

end BindingAudit
