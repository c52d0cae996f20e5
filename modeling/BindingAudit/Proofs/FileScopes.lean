/-
# Files do not see each other's imports

While a unit is drafted, each scope is opened in a file, and stays with that file: the scopes around
it up to the scope of the file were opened in the same file, and behind that comes the scope of the
package only, which binds functions and types. A name is bound in scopes of the current file only.
So a name that means a module means one that its own file imports, or that was bound to it in that
file, also when it is looked up after everything else has been drafted.

* `Draft.InOrder` : what is true of files, scopes and bindings while a unit is drafted;
* `Draft.InOrder.scopeCall`, `Draft.exists_inOrder_after` : one call keeps it, so all calls do;
* `Draft.scopeStack_apply`, `Draft.scopeStack_after` : the scope of the file and the open scopes are
  one stack, whose first scope is never popped;
* `Draft.given_of_meaningOf?` : an identifier finds modules of its own file only;
* `Draft.after_wellScoped` : scopes, numbers and modules after any sequence of calls.
-/
import Mathlib.Data.List.Chain
import BindingAudit.Proofs.DraftCalls
import BindingAudit.Proofs.ScopeNesting

namespace BindingAudit

namespace Draft

/-! ## The scope of the package -/

/-- What the scope of the package of a module binds. -/
def packageNames (defs : Definitions) (module : String) : FinMap String Object :=
  .ofList (packageBindings defs module)

/-- The scope of a package binds functions and types, and no modules. -/
theorem modulePath?_of_packageNames {defs : Definitions} {module name : String} {object : Object}
    (h : (packageNames defs module).find? name = some object) : object.modulePath? = none :=
  Definitions.modulePath?_of_mem_packageItems
    (mem_packageBindings_iff.1 (FinMap.mem_of_find?_ofList h))

/-- Binding names one by one in the only scope of a tree. -/
theorem foldl_insert_single (id : ScopeId) (hid : id.index = 0)
    (bindings : List (String × Object)) (parent : Option ScopeId) (names : FinMap String Object) :
    bindings.foldl (fun scopes e => scopes.insert id e.1 e.2) (⟨[⟨parent, names⟩]⟩ : ScopeTree) =
      ⟨[⟨parent, bindings.foldl (fun names e => names.insert e.1 e.2) names⟩]⟩ := by
  induction bindings generalizing names with
  | nil => rfl
  | cons e bindings ih =>
    have hinsert : (⟨[⟨parent, names⟩]⟩ : ScopeTree).insert id e.1 e.2 =
        ⟨[⟨parent, names.insert e.1 e.2⟩]⟩ := by
      unfold ScopeTree.insert
      rw [hid]
      rfl
    rw [List.foldl_cons, List.foldl_cons, hinsert]
    exact ih _

/-- A draft starts with the scope of the package and that of the first file. -/
theorem surroundings_start (defs : Definitions) (module fileName : String) :
    (start defs module fileName).surroundings =
      ⟨⟨[⟨none, packageNames defs module⟩, ⟨some ⟨0⟩, .empty⟩]⟩, ⟨0⟩, ⟨1⟩, [], [], []⟩ := by
  have hbound := foldl_insert_single (CompilationUnit.empty module).scopes.nextId rfl
    (packageBindings defs module) none .empty
  unfold start surroundings
  dsimp only
  rw [show (CompilationUnit.empty module).scopes.add none = ⟨[⟨none, .empty⟩]⟩ from rfl, hbound]
  rfl

/-! ## Files, scopes and bindings while a unit is drafted -/

/-- A file has an import. -/
def Surroundings.Imports (s : Surroundings) (file : Nat) (item : Import) : Prop :=
  ∃ imports, (s.finished ++ [s.imports])[file]? = some imports ∧ item ∈ imports

/-- How a file comes by a module under a name: it imports it, or the name was bound to it in a way
that is counted as `Bound`. -/
def Surroundings.Accounts (s : Surroundings) (Bound : Nat → String → Object → Prop) (file : Nat)
    (name : String) (object : Object) : Prop :=
  (∃ item, s.Imports file item ∧ item.localName = name ∧ object = .module name item.path) ∨
    Bound file name object

/-- A module that is bound in a scope is accounted for by the file of the scope. -/
def Surroundings.ModulesAccounted (s : Surroundings) (Bound : Nat → String → Object → Prop)
    (homes : List Nat) : Prop :=
  ∀ (j : Nat) (scope : Scope) (name : String) (object : Object), j ≠ 0 →
    s.scopes.scopes[j]? = some scope → scope.names.find? name = some object →
    object.modulePath? ≠ none → ∃ file, homes[j]? = some file ∧ s.Accounts Bound file name object

/-- What is true of files, scopes and bindings while a unit is drafted. -/
structure InOrder (package : FinMap String Object) (Bound : Nat → String → Object → Prop)
    (homes : List Nat) (s : Surroundings) : Prop where
  nested : s.scopes.Nested package homes
  root : s.packageScope.index = 0
  /-- Each open scope lies in the one that was open before it, and the first in that of the file. -/
  linked : (s.openScopes ++ [s.fileScope, s.packageScope]).IsChain s.scopes.HasParent
  /-- Open scopes are of the current file. -/
  current : ∀ id ∈ s.openScopes ++ [s.fileScope],
    id.index ≠ 0 ∧ homes[id.index]? = some s.finished.length
  modules : s.ModulesAccounted Bound homes

variable {package : FinMap String Object} {Bound : Nat → String → Object → Prop}
  {homes : List Nat} {s s' : Surroundings}

theorem inOrder_start (Bound : Nat → String → Object → Prop) (defs : Definitions)
    (module fileName : String) :
    InOrder (packageNames defs module) Bound [0, 0] (start defs module fileName).surroundings := by
  rw [surroundings_start]
  refine ⟨⟨rfl, rfl, ?_⟩, rfl, ?_, ?_, ?_⟩
  · intro j scope p hscope hp
    match j, hscope with
    | 0, hscope => cases hscope; cases hp
    | 1, hscope => cases hscope; cases hp; exact ⟨by decide, .inl rfl⟩
  · exact List.isChain_cons_cons.2 ⟨⟨_, rfl, rfl⟩, .singleton _⟩
  · intro id hid
    obtain rfl : id = ⟨1⟩ := by simpa using hid
    exact ⟨by decide, rfl⟩
  · intro j scope name object hj hscope hname
    match j, hscope with
    | 0, _ => exact absurd rfl hj
    | 1, hscope => cases hscope; cases hname

theorem Surroundings.Accounts.mono {file : Nat} {name : String} {object : Object}
    (himports : ∀ item, s.Imports file item → s'.Imports file item)
    (h : s.Accounts Bound file name object) : s'.Accounts Bound file name object := by
  rcases h with ⟨item, himport, hname⟩ | hbound
  · exact .inl ⟨item, himports item himport, hname⟩
  · exact .inr hbound

/-- Imports stay with their files when the current file gets further ones. -/
theorem Surroundings.Imports.extend {file : Nat} {item : Import} (h : s.Imports file item)
    {scopes : ScopeTree} {imports : List Import} (hsub : s.imports ⊆ imports) :
    ({ s with scopes, imports } : Surroundings).Imports file item := by
  obtain ⟨found, hfound, hitem⟩ := h
  by_cases hlt : file < s.finished.length
  · rw [List.getElem?_append_left hlt] at hfound
    exact ⟨found, by rw [← hfound]; exact List.getElem?_append_left hlt, hitem⟩
  · rw [List.getElem?_append_right (by omega), List.getElem?_singleton] at hfound
    split at hfound
    · rename_i hzero
      cases hfound
      obtain rfl : file = s.finished.length := by omega
      exact ⟨imports, List.getElem?_concat_length, hsub hitem⟩
    · cases hfound

/-- Imports stay with their files when another file is started. -/
theorem Surroundings.Imports.next {file : Nat} {item : Import} (h : s.Imports file item)
    (hnext : s'.finished = s.finished ++ [s.imports]) : s'.Imports file item := by
  obtain ⟨found, hfound, hitem⟩ := h
  refine ⟨found, ?_, hitem⟩
  rw [hnext, List.getElem?_append_left (List.getElem?_eq_some_iff.1 hfound).1]
  exact hfound

namespace InOrder

/-! ## Single calls -/

/-- **Binding a name** in a scope of the current file, with imports added perhaps. A module has to
be accounted for by that file. -/
theorem bind (h : InOrder package Bound homes s) {id : ScopeId}
    (hid : id ∈ s.openScopes ++ [s.fileScope]) {name : String} {object : Object}
    {imports : List Import} (hsub : s.imports ⊆ imports)
    (hobject : object.modulePath? ≠ none →
      ({ s with imports } : Surroundings).Accounts Bound s.finished.length name object) :
    InOrder package Bound homes
      { s with scopes := s.scopes.insert id name object, imports } where
  nested := h.nested.insert (h.current id hid).1 name object
  root := h.root
  linked := h.linked.imp fun _ _ hparent => hparent.insert id name object
  current := h.current
  modules := by
    intro j scope name' object' hj hscope hname hmodule
    replace hscope : (s.scopes.insert id name object).scopes[j]? = some scope := hscope
    rw [ScopeTree.getElem?_insert, Option.map_eq_some_iff] at hscope
    obtain ⟨old, hold, rfl⟩ := hscope
    have hkept : old.names.find? name' = some object' → ∃ file, homes[j]? = some file ∧
        ({ s with scopes := s.scopes.insert id name object, imports } : Surroundings).Accounts
          Bound file name' object' := by
      intro hfound
      obtain ⟨file, hfile, haccounts⟩ := h.modules j old name' object' hj hold hfound hmodule
      exact ⟨file, hfile, haccounts.mono fun item himport => himport.extend hsub⟩
    by_cases hhere : id.index = j
    · rw [if_pos hhere] at hname
      dsimp only at hname
      rw [FinMap.find?_insert] at hname
      split at hname
      · -- the name that is bound now
        rename_i hsame
        cases hname
        subst hsame
        refine ⟨s.finished.length, hhere ▸ (h.current id hid).2, ?_⟩
        exact (hobject hmodule).mono fun item himport => himport
      · exact hkept hname
    · rw [if_neg hhere] at hname
      exact hkept hname

/-- A scope that was just added binds no module. -/
theorem modules_add (h : InOrder package Bound homes s) {parent : Option ScopeId} (file : Nat)
    (hscopes : s'.scopes = s.scopes.add parent)
    (himports : ∀ file item, s.Imports file item → s'.Imports file item) :
    s'.ModulesAccounted Bound (homes ++ [file]) := by
  intro j scope name object hj hscope hname hmodule
  rw [hscopes] at hscope
  rcases ScopeTree.getElem?_add_cases hscope with hold | ⟨-, rfl⟩
  · obtain ⟨home, hhome, haccounts⟩ := h.modules j scope name object hj hold hname hmodule
    exact ⟨home, ScopeTree.home_mono (List.prefix_append _ _) hhome,
      haccounts.mono (himports home)⟩
  · cases hname

/-- The home of the scope that is added. -/
theorem home_nextId (h : InOrder package Bound homes s) (hroom : s.scopes.size < UInt32.size)
    (file : Nat) :
    s.scopes.nextId.index ≠ 0 ∧ (homes ++ [file])[s.scopes.nextId.index]? = some file := by
  have hindex : s.scopes.nextId.index = s.scopes.size := ScopeId.index_ofIndex hroom
  have hpos := h.nested.size_pos
  refine ⟨by omega, ?_⟩
  rw [hindex, ← h.nested.length]
  exact List.getElem?_concat_length

/-- **Starting another file.** The open scopes are left behind. -/
theorem nextFile (h : InOrder package Bound homes s) (hroom : s.scopes.size < UInt32.size) :
    InOrder package Bound (homes ++ [s.finished.length + 1])
      { s with
        scopes := s.scopes.add (some s.packageScope)
        fileScope := s.scopes.nextId
        openScopes := []
        finished := s.finished ++ [s.imports]
        imports := [] } where
  nested := h.nested.add (.inl h.root)
  root := h.root
  linked := List.isChain_cons_cons.2
    ⟨ScopeTree.hasParent_nextId hroom s.packageScope, .singleton _⟩
  current := by
    intro id hid
    obtain rfl : id = s.scopes.nextId := List.mem_singleton.1 hid
    rw [List.length_append, List.length_singleton]
    exact h.home_nextId hroom _
  modules := h.modules_add _ rfl fun file item himport => himport.next rfl

theorem innermost_mem (openScopes : List ScopeId) (fileScope : ScopeId) :
    openScopes.headD fileScope ∈ openScopes ++ [fileScope] := by
  cases openScopes <;> simp

/-- **Opening a scope.** -/
theorem openScope (h : InOrder package Bound homes s) (hroom : s.scopes.size < UInt32.size) :
    InOrder package Bound (homes ++ [s.finished.length])
      { s with
        scopes := s.scopes.add (some (s.openScopes.headD s.fileScope))
        openScopes := s.scopes.nextId :: s.openScopes } where
  nested := h.nested.add (.inr (h.current _ (innermost_mem _ _)).2)
  root := h.root
  linked := by
    have hnew := ScopeTree.hasParent_nextId hroom (s.openScopes.headD s.fileScope)
    have hold := h.linked.imp fun _ _ hparent =>
      hparent.add (some (s.openScopes.headD s.fileScope))
    show (s.scopes.nextId :: (s.openScopes ++ [s.fileScope, s.packageScope])).IsChain _
    revert hnew hold
    cases s.openScopes with
    | nil => exact fun hnew hold => List.isChain_cons_cons.2 ⟨hnew, hold⟩
    | cons id rest => exact fun hnew hold => List.isChain_cons_cons.2 ⟨hnew, hold⟩
  current := by
    intro id hid
    rcases List.mem_cons.1 hid with rfl | hold
    · exact h.home_nextId hroom _
    · obtain ⟨hne, hhome⟩ := h.current id hold
      exact ⟨hne, ScopeTree.home_mono (List.prefix_append _ _) hhome⟩
  modules := h.modules_add _ rfl fun file item himport => himport

/-- **Closing a scope.** -/
theorem closeScope (h : InOrder package Bound homes s) :
    InOrder package Bound homes { s with openScopes := s.openScopes.tail } where
  nested := h.nested
  root := h.root
  linked := by
    have hlinked := h.linked
    revert hlinked
    cases s.openScopes with
    | nil => exact id
    | cons scope rest => exact List.IsChain.tail
  current := by
    intro id hid
    apply h.current id
    rcases List.mem_append.1 hid with hopen | hfile
    · exact List.mem_append_left _ (List.mem_of_mem_tail hopen)
    · exact List.mem_append_right _ hfile
  modules := h.modules

/-- **Every scope call keeps drafts in order**, if its scope can be numbered and if what it binds is
counted. Scopes stay in their files. -/
theorem scopeCall {b : Draft} (h : InOrder package Bound homes b.surroundings) (c : ScopeCall)
    (hroom : (c.apply b).unit.scopes.size ≤ UInt32.size)
    (hbound : ∀ name object, c = .bindName name object → Bound b.unit.files.length name object) :
    ∃ homes', homes <+: homes' ∧ InOrder package Bound homes' (c.apply b).surroundings := by
  have hfiles : b.surroundings.finished.length = b.unit.files.length := List.length_map _
  cases c with
  | nextFile name =>
    replace hroom : (b.unit.scopes.add (some b.packageScope)).size ≤ UInt32.size := hroom
    rw [ScopeTree.size_add] at hroom
    have hfinished : (b.unit.files ++ [b.file]).map SourceFile.imports =
        b.surroundings.finished ++ [b.surroundings.imports] := List.map_append
    refine ⟨homes ++ [b.surroundings.finished.length + 1], List.prefix_append _ _, ?_⟩
    show InOrder package Bound _ ⟨_, _, _, [], (b.unit.files ++ [b.file]).map _, []⟩
    rw [hfinished]
    exact h.nextFile hroom
  | importModule givenName path =>
    refine ⟨homes, List.prefix_rfl, ?_⟩
    refine h.bind (List.mem_append_right _ (List.mem_singleton_self _))
      (List.subset_append_left _ _) fun _ => .inl ⟨⟨givenName, path, b.span⟩, ?_, rfl, rfl⟩
    exact ⟨_, List.getElem?_concat_length, List.mem_append_right _ (List.mem_singleton_self _)⟩
  | openScope =>
    replace hroom : (b.unit.scopes.add (some b.innermost)).size ≤ UInt32.size := hroom
    rw [ScopeTree.size_add] at hroom
    exact ⟨_, List.prefix_append _ _, h.openScope hroom⟩
  | closeScope => exact ⟨homes, List.prefix_rfl, h.closeScope⟩
  | bindName name object =>
    refine ⟨homes, List.prefix_rfl, ?_⟩
    refine h.bind (innermost_mem _ _) (List.Subset.refl _) fun _ => .inr ?_
    rw [hfiles]
    exact hbound name object rfl
  | declareVar name ty =>
    refine ⟨homes, List.prefix_rfl, ?_⟩
    exact h.bind (innermost_mem _ _) (List.Subset.refl _) fun hmodule => absurd rfl hmodule

end InOrder

/-! ## All calls -/

/-- Scopes are added and never taken away. -/
theorem size_le_apply (b : Draft) (c : DraftCall) :
    b.unit.scopes.size ≤ (c.apply b).unit.scopes.size := by
  by_cases hscope : ∃ s, c = .scope s
  · obtain ⟨s, rfl⟩ := hscope
    cases s with
    | nextFile | openScope => exact (Nat.le_succ _).trans (ScopeTree.size_add _ _).ge
    | closeScope => exact Nat.le_refl _
    | importModule | bindName | declareVar => exact (ScopeTree.size_insert _ _ _ _).ge
  · have hsame := surroundings_apply b c fun s hs => hscope ⟨s, hs⟩
    exact (congrArg (fun s => s.scopes.size) hsame).ge

theorem size_le_after (b : Draft) (calls : List DraftCall) :
    b.unit.scopes.size ≤ (b.after calls).unit.scopes.size := by
  induction calls generalizing b with
  | nil => exact Nat.le_refl _
  | cons c calls ih => exact (size_le_apply b c).trans (ih _)

/-- **Drafts stay in order**, as long as scopes can be numbered. -/
theorem exists_inOrder_after {b : Draft} {calls : List DraftCall}
    (h : InOrder package Bound homes b.surroundings)
    (hroom : (b.after calls).unit.scopes.size ≤ UInt32.size)
    (hbound : ∀ before later name object,
      calls = before ++ .scope (.bindName name object) :: later →
      Bound (b.after before).unit.files.length name object) :
    ∃ homes', homes <+: homes' ∧ InOrder package Bound homes' (b.after calls).surroundings := by
  induction calls generalizing b homes with
  | nil => exact ⟨homes, List.prefix_rfl, h⟩
  | cons c calls ih =>
    have hfirst : ∃ homes', homes <+: homes' ∧
        InOrder package Bound homes' (c.apply b).surroundings := by
      by_cases hscope : ∃ s, c = .scope s
      · obtain ⟨s, rfl⟩ := hscope
        refine h.scopeCall s ((size_le_after _ calls).trans hroom) ?_
        rintro name object rfl
        exact hbound [] calls name object rfl
      · rw [surroundings_apply b c fun s hs => hscope ⟨s, hs⟩]
        exact ⟨homes, List.prefix_rfl, h⟩
    obtain ⟨homes₁, hhomes₁, h₁⟩ := hfirst
    obtain ⟨homes₂, hhomes₂, h₂⟩ := ih h₁ hroom fun before later name object hcalls =>
      hbound (c :: before) later name object (by rw [hcalls]; rfl)
    exact ⟨homes₂, hhomes₁.trans hhomes₂, h₂⟩

/-! ## The stack of scopes -/

/-- The scope of the file and the open scopes in it, outermost first. -/
def scopeStack (b : Draft) : List ScopeId := b.fileScope :: b.openScopes.reverse

/-- What a call does to a stack of scopes, given the number of a scope that it adds. Another file
starts a stack of its own, and the last scope of a stack is popped unless it is the only one. -/
def onStack (fresh : ScopeId) (stack : List ScopeId) : DraftCall → List ScopeId
  | .scope (.nextFile _) => [fresh]
  | .scope .openScope => stack ++ [fresh]
  | .scope .closeScope => if 1 < stack.length then stack.dropLast else stack
  | _ => stack

/-- The stack after a sequence of calls on a draft, when each call adds scopes to the draft that the
calls before it have left. -/
def stackAfter (b : Draft) (stack : List ScopeId) : List DraftCall → List ScopeId
  | [] => stack
  | c :: calls => (c.apply b).stackAfter (onStack b.unit.scopes.nextId stack c) calls

/-- The innermost scope is the last one of the stack. -/
theorem getLast?_scopeStack (b : Draft) : b.scopeStack.getLast? = some b.innermost := by
  have hstack : b.scopeStack = (b.openScopes ++ [b.fileScope]).reverse := by
    rw [List.reverse_append]
    rfl
  rw [hstack, List.getLast?_reverse]
  unfold innermost
  cases b.openScopes <;> rfl

/-- **One call** does to the scopes of a draft what it does to a stack. -/
theorem scopeStack_apply (b : Draft) (c : DraftCall) :
    (c.apply b).scopeStack = onStack b.unit.scopes.nextId b.scopeStack c := by
  by_cases hscope : ∃ s, c = .scope s
  · obtain ⟨s, rfl⟩ := hscope
    cases s with
    | nextFile | importModule | bindName | declareVar => rfl
    | openScope =>
      show b.fileScope :: (b.unit.scopes.nextId :: b.openScopes).reverse = _
      rw [List.reverse_cons]
      rfl
    | closeScope =>
      show b.fileScope :: b.openScopes.tail.reverse = _
      unfold onStack scopeStack
      cases b.openScopes with
      | nil => rfl
      | cons id rest =>
        have hmany : 1 < (b.fileScope :: (id :: rest).reverse).length := by simp
        rw [if_pos hmany, List.reverse_cons, ← List.cons_append, List.dropLast_concat]
        rfl
  · have hsame := surroundings_apply b c fun s hs => hscope ⟨s, hs⟩
    have hkept : (c.apply b).scopeStack = b.scopeStack :=
      congrArg (fun s : Surroundings => s.fileScope :: s.openScopes.reverse) hsame
    cases c with
    | scope s => exact absurd ⟨s, rfl⟩ hscope
    | _ => exact hkept

/-- A draft starts with a stack that holds the scope of its first file. -/
theorem scopeStack_start (defs : Definitions) (module fileName : String) :
    (start defs module fileName).scopeStack = [(start defs module fileName).fileScope] := rfl

/-- **All calls** keep the scopes of a draft as one stack. -/
theorem scopeStack_after (b : Draft) (calls : List DraftCall) :
    (b.after calls).scopeStack = b.stackAfter b.scopeStack calls := by
  induction calls generalizing b with
  | nil => rfl
  | cons c calls ih =>
    rw [stackAfter, ← scopeStack_apply]
    exact ih (c.apply b)

/-! ## Modules and their files -/

/-- How the scopes of a draft lie, if it was started for a module. -/
structure WellScoped (defs : Definitions) (module fileName : String) (b : Draft) : Prop where
  /-- The stack of scopes starts with that of the file and ends with the innermost one. -/
  first : b.scopeStack.head? = some b.fileScope
  last : b.scopeStack.getLast? = some b.innermost
  /-- Each scope of the stack lies in the one before it, and that of the file in that of the
  package. -/
  linked : (b.packageScope :: b.scopeStack).IsChain fun outer inner =>
    b.unit.scopes.HasParent inner outer
  /-- Scopes lie in earlier ones. -/
  parents : ∀ (j : Nat) (scope : Scope) (p : ScopeId), b.unit.scopes.scopes[j]? = some scope →
    scope.parent = some p → p.index < j
  /-- The scope of the package binds what it was started with. -/
  package : b.packageScope = (start defs module fileName).packageScope
  packageKept : b.unit.scopes.get? b.packageScope = some ⟨none, packageNames defs module⟩

theorem InOrder.wellScoped {defs : Definitions} {module : String} {b : Draft}
    (h : InOrder (packageNames defs module) Bound homes b.surroundings) (fileName : String) :
    WellScoped defs module fileName b where
  first := rfl
  last := getLast?_scopeStack b
  linked := by
    have hlinked := List.isChain_reverse.2 h.linked
    simpa [scopeStack, surroundings, flip] using hlinked
  parents := fun j scope p hscope hp => (h.nested.parents j scope p hscope hp).1
  package := by
    have hstart := (inOrder_start Bound defs module fileName).root
    exact ScopeId.index_inj.1 (h.root.trans hstart.symm)
  packageKept := by
    have hroot : b.packageScope.index = 0 := h.root
    unfold ScopeTree.get?
    rw [hroot]
    exact h.nested.root

/-- Some call bound a name to an object while a file was written. Files are numbered in the order of
the unit. -/
def BoundBy (b : Draft) (calls : List DraftCall) (file : Nat) (name : String) (object : Object) :
    Prop :=
  ∃ before later, calls = before ++ .scope (.bindName name object) :: later ∧
    (b.after before).unit.files.length = file

/-- A file was given a module under a name: it imports the module under this name, or a call bound
the name to it while the file was written. -/
def Given (b : Draft) (calls : List DraftCall) (file : Nat) (name : String) (object : Object) :
    Prop :=
  (∃ source item, (b.after calls).finish.files[file]? = some source ∧ item ∈ source.imports ∧
      item.localName = name ∧ object = .module name item.path) ∨
    b.BoundBy calls file name object

theorem given_of_accounts {b : Draft} {calls : List DraftCall} {file : Nat} {name : String}
    {object : Object}
    (h : (b.after calls).surroundings.Accounts (b.BoundBy calls) file name object) :
    b.Given calls file name object := by
  rcases h with ⟨item, ⟨imports, hfound, hitem⟩, hname⟩ | hbound
  · have hfiles : ((b.after calls).finish.files.map SourceFile.imports)[file]? = some imports := by
      rw [← hfound]
      exact congrArg (·[file]?) List.map_append
    rw [List.getElem?_map, Option.map_eq_some_iff] at hfiles
    obtain ⟨source, hsource, rfl⟩ := hfiles
    exact .inl ⟨source, item, hsource, hitem, hname⟩
  · exact .inr hbound

/-- **Names look for modules in their own files.** From a scope of a file, the look-up of a name
ends at a module only if the file was given it. -/
theorem given_of_lookup {defs : Definitions} {module : String} {b : Draft} {calls : List DraftCall}
    (h : InOrder (packageNames defs module) (b.BoundBy calls) homes (b.after calls).surroundings)
    {id : ScopeId} {file : Nat} (hid : homes[id.index]? = some file) {name : String}
    {object : Object}
    (hfound : ((b.after calls).unit.scopes.lookup id name).map Prod.snd = some object)
    (hmodule : object.modulePath? ≠ none) : b.Given calls file name object := by
  obtain ⟨⟨found, _⟩, hlookup, rfl⟩ := Option.map_eq_some_iff.1 hfound
  obtain ⟨scope, hscope, hname, hhome⟩ := h.nested.exists_of_lookupWithin (.inr hid) hlookup
  by_cases hzero : found.index = 0
  · -- the scope of the package binds no modules
    rw [hzero, h.nested.root] at hscope
    cases hscope
    exact absurd (modulePath?_of_packageNames hname) hmodule
  · have hhere := hhome.resolve_left hzero
    obtain ⟨home, hfile, haccounts⟩ := h.modules _ scope name _ hzero hscope hname hmodule
    obtain rfl : home = file := Option.some.inj (hfile.symm.trans hhere)
    exact given_of_accounts haccounts

/-- What is bound in a part of the calls is bound in all of them. -/
theorem boundBy_of_part (b : Draft) (done rest : List DraftCall) {part first last : List DraftCall}
    {name : String} {object : Object}
    (hpart : part = first ++ .scope (.bindName name object) :: last) :
    b.BoundBy (done ++ part ++ rest) ((b.after done).after first).unit.files.length name
      object := by
  refine ⟨done ++ first, last ++ rest, ?_, by rw [after_append]⟩
  rw [hpart]
  simp

/-- A scope that is innermost at some time is of the file that is written then, and stays so. -/
theorem exists_home_innermost {defs : Definitions} {module fileName : String} {b : Draft}
    (hstart : b = start defs module fileName) (before rest : List DraftCall)
    (hroom : (b.after (before ++ rest)).unit.scopes.size ≤ UInt32.size) :
    ∃ homes, InOrder (packageNames defs module) (b.BoundBy (before ++ rest)) homes
        (b.after (before ++ rest)).surroundings ∧
      homes[(b.after before).innermost.index]? = some (b.after before).unit.files.length := by
  rw [after_append] at hroom ⊢
  have h : InOrder (packageNames defs module) (b.BoundBy (before ++ rest)) [0, 0] b.surroundings :=
    hstart ▸ inOrder_start _ defs module fileName
  obtain ⟨homes₁, -, h₁⟩ := exists_inOrder_after h ((size_le_after _ _).trans hroom)
    fun _ _ _ _ hcalls => b.boundBy_of_part [] rest hcalls
  obtain ⟨homes₂, hhomes, h₂⟩ := exists_inOrder_after h₁ hroom
    fun _ _ _ _ hcalls => by simpa using b.boundBy_of_part before [] hcalls
  refine ⟨homes₂, h₂, ScopeTree.home_mono hhomes ?_⟩
  have hhome := (h₁.current _ (InOrder.innermost_mem _ _)).2
  rwa [show (b.after before).surroundings.finished.length = (b.after before).unit.files.length from
    List.length_map _] at hhome

/-- **An identifier means a module only if its own file was given it**, whatever is drafted after
the identifier. -/
theorem given_of_meaningOf? {defs : Definitions} {module fileName : String} {b : Draft}
    (hstart : b = start defs module fileName) {before later : List DraftCall} {c : DraftCall}
    (hnodup : ((b.madeBy (before ++ c :: later)).map Expr.id).Nodup)
    (hroom : (b.after (before ++ c :: later)).unit.scopes.size ≤ UInt32.size)
    {node : Node} {name : String} (hmade : .ident node name ∈ c.made (b.after before))
    {object : Object} (hmodule : object.modulePath? ≠ none)
    (hmeaning : (b.after (before ++ c :: later)).finish.meaningOf? (.ident node name) =
      some object) :
    b.Given (before ++ c :: later) (b.after before).unit.files.length name object := by
  obtain ⟨homes, h, hhome⟩ := exists_home_innermost hstart before (c :: later) hroom
  have hrecorded := recorded_ident (fun id => by rw [hstart]; rfl) (fun id => by rw [hstart]; rfl)
    hnodup hmade
  unfold CompilationUnit.meaningOf? at hmeaning
  rw [show (Expr.ident node name).name? = some name from rfl, Option.bind_some] at hmeaning
  rcases hrecorded with hin | ⟨hout, huses⟩
  · have hscope : (b.after (before ++ c :: later)).finish.info.recordedScope? (.ident node name) =
        some (b.after before).innermost := hin
    rw [hscope] at hmeaning
    exact given_of_lookup h hhome hmeaning hmodule
  · have hnowhere : (b.after (before ++ c :: later)).finish.info.recordedScope?
        (.ident node name) = none := hout
    rw [hnowhere] at hmeaning
    exact absurd (huses object hmeaning) hmodule

/-- An identifier means a module in the finished unit only if the file in which it was made was
given the module under its name. -/
def KeepsFilesApart (b : Draft) (calls : List DraftCall) : Prop :=
  ∀ before c later, calls = before ++ c :: later →
    ∀ node name, .ident node name ∈ c.made (b.after before) →
    ∀ m path, (b.after calls).finish.meaningOf? (.ident node name) = some (.module m path) →
      b.Given calls (b.after before).unit.files.length name (.module m path)

/-- **Scopes, numbers and modules of a draft.** After any calls on a draft that was started for a
module, as long as there are numbers for its expressions and scopes: scopes lie in each other as
they were opened, and the scope of the package is as it was at the start; expressions have different
numbers; and no file sees the imports of another. -/
theorem after_wellScoped (defs : Definitions) (module fileName : String) (calls : List DraftCall)
    (hnodes : ((start defs module fileName).madeBy calls).length < UInt32.size)
    (hscopes : ((start defs module fileName).after calls).unit.scopes.size ≤ UInt32.size) :
    WellScoped defs module fileName ((start defs module fileName).after calls) ∧
      (((start defs module fileName).madeBy calls).map Expr.id).Nodup ∧
      (start defs module fileName).KeepsFilesApart calls := by
  have hnodup := nodup_madeBy (start defs module fileName) hnodes.le
  refine ⟨?_, hnodup, ?_⟩
  · obtain ⟨homes, h, -⟩ := exists_home_innermost rfl [] calls hscopes
    exact h.wellScoped fileName
  · rintro before c later rfl node name hmade m path hmeaning
    exact given_of_meaningOf? rfl hnodup hscopes hmade (by simp [Object.modulePath?]) hmeaning

/-- A unit before anything is drafted in it. -/
def client : Draft := start .predeclared "app" "client.go"

/-- Two files that import different modules under one name, the second after it was used. -/
def twoFiles : List DraftCall :=
  [.scope (.importModule (some "web") "net/http"), .scope .openScope, .ident "web",
    .scope (.nextFile "server.go"), .scope .closeScope, .scope .openScope, .ident "web",
    .scope (.importModule (some "web") "app/web"), .scope (.declareVar "port" ⟨3⟩)]

/-- Each file means its own module. -/
theorem twoFiles_wellScoped :
    WellScoped .predeclared "app" "client.go" (client.after twoFiles) ∧
      (client.after twoFiles).finish.meaningOf? (.ident ⟨⟨0⟩, .start⟩ "web") =
        some (.module "web" "net/http") ∧
      client.Given twoFiles 0 "web" (.module "web" "net/http") ∧
      (client.after twoFiles).finish.meaningOf? (.ident ⟨⟨1⟩, .start⟩ "web") =
        some (.module "web" "app/web") ∧
      client.Given twoFiles 1 "web" (.module "web" "app/web") := by
  obtain ⟨hscoped, -, hgiven⟩ :=
    after_wellScoped .predeclared "app" "client.go" twoFiles (by decide) (by decide)
  have hclient : (client.after twoFiles).finish.meaningOf? (.ident ⟨⟨0⟩, .start⟩ "web") =
      some (.module "web" "net/http") := by decide
  have hserver : (client.after twoFiles).finish.meaningOf? (.ident ⟨⟨1⟩, .start⟩ "web") =
      some (.module "web" "app/web") := by decide
  exact ⟨hscoped, hclient, hgiven (twoFiles.take 2) _ _ rfl _ _ (.head _) _ _ hclient,
    hserver, hgiven (twoFiles.take 6) _ _ rfl _ _ (.head _) _ _ hserver⟩

end Draft

end BindingAudit
