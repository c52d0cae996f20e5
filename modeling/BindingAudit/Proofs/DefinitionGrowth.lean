/-
# Definitions only grow

The types and the declarations of a program stand in two tables that point into each other. They are
built by editing: types are added, named types get their underlying type and their methods,
functions and methods are declared, declarations are placed. Whatever is edited, an identifier that
was given out keeps its meaning.

An edit is a sequence of three kinds of changes, and everything here is shown for one change first:
the type table grows, a declaration is made, or a declaration is placed.

* `Definitions.Change` : the three kinds of changes;
* `Definitions.Edit.apply_changes` : every edit consists of them;
* `Definitions.Grows` : what stays as it is, from one state to a later one;
* `Definitions.Coherent` : what is true of each state;
* `Definitions.ofEdits_coherent` : all of it for every sequence of edits.
-/
import Mathlib.Data.List.Induction
import Mathlib.Logic.Relation
import BindingAudit.Program.Definitions

namespace BindingAudit

open Relation

/-! ## Type tables that grow -/

/-- What an entry of a type table may become: a named type keeps its module and its name and may get
further methods, every other type stays as it is. -/
inductive TypeKind.Evolves : TypeKind → TypeKind → Prop where
  | same (kind : TypeKind) : Evolves kind kind
  | named {n n' : NamedType} (hmodule : n'.module = n.module) (hname : n'.name = n.name)
      (hmethods : n.methods <+: n'.methods) : Evolves (.named n) (.named n')

theorem TypeKind.Evolves.trans {a b c : TypeKind} (hab : a.Evolves b) (hbc : b.Evolves c) :
    a.Evolves c := by
  cases hab with
  | same => exact hbc
  | named hmodule hname hmethods =>
    cases hbc with
    | same => exact .named hmodule hname hmethods
    | named hmodule' hname' hmethods' =>
      exact .named (hmodule'.trans hmodule) (hname'.trans hname) (hmethods.trans hmethods')

namespace TypeTable

variable {t t' : TypeTable} {id : TypeId}

/-- Every entry of the first table is in the second, as what it may become. -/
structure Grows (t t' : TypeTable) : Prop where
  size_le : t.size ≤ t'.size
  entry : ∀ id kind, t.get? id = some kind → ∃ kind', t'.get? id = some kind' ∧ kind.Evolves kind'

theorem Grows.refl (t : TypeTable) : t.Grows t :=
  ⟨Nat.le_refl _, fun _ kind h => ⟨kind, h, .same kind⟩⟩

theorem Grows.trans {t'' : TypeTable} (h : t.Grows t') (h' : t'.Grows t'') : t.Grows t'' := by
  refine ⟨Nat.le_trans h.size_le h'.size_le, fun id kind hkind => ?_⟩
  obtain ⟨kind', hkind', hevolves⟩ := h.entry id kind hkind
  obtain ⟨kind'', hkind'', hevolves'⟩ := h'.entry id kind' hkind'
  exact ⟨kind'', hkind'', hevolves.trans hevolves'⟩

theorem named?_eq_some_iff {n : NamedType} :
    t.named? id = some n ↔ t.get? id = some (.named n) := by
  unfold named?
  split <;> simp_all

/-- An entry that is not named stays as it is. -/
theorem Grows.get?_eq (h : t.Grows t') {kind : TypeKind} (hkind : t.get? id = some kind)
    (hunnamed : ∀ n, kind ≠ .named n) : t'.get? id = some kind := by
  obtain ⟨kind', hkind', hevolves⟩ := h.entry id kind hkind
  cases hevolves with
  | same => exact hkind'
  | named => exact absurd rfl (hunnamed _)

/-- A named type stays one, with its module, its name and its methods. -/
theorem Grows.named? (h : t.Grows t') {n : NamedType} (hn : t.named? id = some n) :
    ∃ n', t'.named? id = some n' ∧ n'.module = n.module ∧ n'.name = n.name ∧
      n.methods <+: n'.methods := by
  obtain ⟨kind', hkind', hevolves⟩ := h.entry id _ (named?_eq_some_iff.1 hn)
  cases hevolves with
  | same => exact ⟨n, named?_eq_some_iff.2 hkind', rfl, rfl, List.prefix_refl _⟩
  | named hmodule hname hmethods =>
    exact ⟨_, named?_eq_some_iff.2 hkind', hmodule, hname, hmethods⟩

theorem behindPointer_of_get? {elem : TypeId} (h : t.get? id = some (.pointer elem)) :
    t.behindPointer id = elem := by
  unfold behindPointer pointerElem
  rw [h]
  rfl

theorem behindPointer_of_named? {n : NamedType} (h : t.named? id = some n) :
    t.behindPointer id = id := by
  unfold behindPointer pointerElem
  rw [named?_eq_some_iff.1 h]
  rfl

/-- What stands behind a type that leads to a named one stays there. -/
theorem Grows.behindPointer_eq (h : t.Grows t') {r : TypeId} {n : NamedType}
    (hr : t.behindPointer r = id) (hn : t.named? id = some n) : t'.behindPointer r = id := by
  obtain ⟨n', hn', -⟩ := h.named? hn
  unfold behindPointer pointerElem at hr ⊢
  split at hr
  · -- `r` is a pointer to the named type
    rename_i elem helem
    obtain rfl : elem = id := hr
    exact behindPointer_of_get? (h.get?_eq helem (by simp))
  · -- `r` is the named type
    obtain rfl : r = id := hr
    exact behindPointer_of_named? hn'

/-- An added type leaves the others as they are. -/
theorem grows_add (t : TypeTable) (kind : TypeKind) : t.Grows (t.add kind) := by
  refine ⟨by simp [add, size], fun id old hold => ⟨old, ?_, .same old⟩⟩
  unfold get? add at *
  rw [List.getElem?_append_left (List.getElem?_eq_some_iff.1 hold).1]
  exact hold

/-- As long as there are identifiers left, the added type is found under the next one. -/
theorem get?_add_nextId (hroom : t.size < UInt32.size) (kind : TypeKind) :
    (t.add kind).get? t.nextId = some kind := by
  unfold get? add nextId
  rw [TypeId.index_ofIndex hroom]
  exact List.getElem?_concat_length

/-- A named type that is replaced by what it may become. -/
theorem grows_modifyNamed? {f : NamedType → NamedType} (h : t.modifyNamed? id f = some t')
    (hf : ∀ n, (f n).module = n.module ∧ (f n).name = n.name ∧ n.methods <+: (f n).methods) :
    t.Grows t' := by
  obtain ⟨n, hn, rfl⟩ := Option.map_eq_some_iff.1 h
  rw [named?_eq_some_iff] at hn
  refine ⟨by simp [size], fun other kind hkind => ?_⟩
  have hlt : id.index < t.kinds.length := (List.getElem?_eq_some_iff.1 hn).1
  by_cases hsame : id.index = other.index
  · have hkind' : some kind = some (.named n) := by
      rw [← hkind, ← hn]
      unfold get?
      rw [hsame]
    cases hkind'
    refine ⟨.named (f n), ?_, .named (hf n).1 (hf n).2.1 (hf n).2.2⟩
    unfold get?
    rw [← hsame, List.getElem?_set_self hlt]
  · refine ⟨kind, ?_, .same kind⟩
    unfold get? at hkind ⊢
    rw [List.getElem?_set_ne hsame]
    exact hkind

theorem grows_withUnderlying? {underlying : TypeId}
    (h : t.withUnderlying? id underlying = some t') : t.Grows t' :=
  grows_modifyNamed? h fun n => ⟨rfl, rfl, List.prefix_refl n.methods⟩

theorem grows_attachMethod? {m : Method} (h : t.attachMethod? id m = some t') : t.Grows t' :=
  grows_modifyNamed? h fun n => ⟨rfl, rfl, List.prefix_append n.methods [m]⟩

/-- A method can be attached to every named type. -/
theorem exists_attachMethod? {n : NamedType} (hn : t.named? id = some n) (m : Method) :
    ∃ t', t.attachMethod? id m = some t' ∧
      t'.named? id = some { n with methods := n.methods ++ [m] } := by
  have hlt : id.index < t.kinds.length :=
    (List.getElem?_eq_some_iff.1 (named?_eq_some_iff.1 hn)).1
  refine ⟨_, by rw [attachMethod?, modifyNamed?, hn]; rfl, named?_eq_some_iff.2 ?_⟩
  exact List.getElem?_set_self hlt

end TypeTable

namespace Definitions

/-! ## Edits -/

/-- An operation on the definitions of a program. -/
inductive Edit where
  | addType (kind : TypeKind)
  | setUnderlying (named underlying : TypeId)
  | attachMethod (named : TypeId) (method : Method)
  | declareFunction (module name : String) (signature : Signature)
  | declareMethod (receiver : TypeId) (pointerReceiver : Bool) (name : String)
      (signature : Signature)
  | placeDecl (id : DeclId) (span : Span)

/-- What an edit makes of definitions. Edits of a named type leave everything as it is where there
is no named type. -/
def Edit.apply (defs : Definitions) : Edit → Definitions
  | addType kind => { defs with types := defs.types.add kind }
  | setUnderlying named underlying =>
      { defs with types := (defs.types.withUnderlying? named underlying).getD defs.types }
  | attachMethod named method =>
      { defs with types := (defs.types.attachMethod? named method).getD defs.types }
  | declareFunction module name signature => defs.declareFunction module name signature
  | declareMethod receiver pointerReceiver name signature =>
      defs.declareMethod receiver pointerReceiver name signature
  | placeDecl id span => defs.placeDecl id span

/-- The definitions that a sequence of edits makes out of the predeclared ones. -/
def ofEdits (edits : List Edit) : Definitions := edits.foldl Edit.apply predeclared

/-! ## Changes -/

/-- The changes that edits consist of. -/
inductive Change (defs : Definitions) : Definitions → Prop where
  | types {t : TypeTable} (h : defs.types.Grows t) : Change defs { defs with types := t }
  | declare (module name : String) (receiver : Option TypeId) (signature : Signature) :
      Change defs (defs.declare module name receiver signature)
  | place (id : DeclId) (span : Span) : Change defs (defs.placeDecl id span)

/-- An update of the type table that may fail is a change, also if it fails. -/
theorem Change.ofOption {defs : Definitions} {update : Option TypeTable}
    (h : ∀ t, update = some t → defs.types.Grows t) :
    Change defs { defs with types := update.getD defs.types } := by
  refine .types ?_
  cases update with
  | none => exact .refl _
  | some t => exact h t rfl

/-- **Every edit consists of changes.** -/
theorem Edit.apply_changes (defs : Definitions) (e : Edit) :
    ReflTransGen Change defs (e.apply defs) := by
  cases e with
  | addType kind => exact .single (.types (TypeTable.grows_add _ kind))
  | setUnderlying named underlying =>
    exact .single (.ofOption fun t => TypeTable.grows_withUnderlying?)
  | attachMethod named method =>
    exact .single (.ofOption fun t => TypeTable.grows_attachMethod?)
  | declareFunction module name signature => exact .single (.declare module name none signature)
  | declareMethod receiver pointerReceiver name signature =>
    -- the pointer type if there is one, then the declaration, then the method
    have hreceiver : ReflTransGen Change defs (if pointerReceiver then
        { defs with types := defs.types.add (.pointer receiver) } else defs) := by
      split
      · exact .single (.types (TypeTable.grows_add _ _))
      · exact .refl
    exact (hreceiver.tail (.declare _ _ _ _)).tail
      (.ofOption fun t => TypeTable.grows_attachMethod?)
  | placeDecl id span => exact .single (.place id span)

theorem foldl_apply_changes (edits : List Edit) (defs : Definitions) :
    ReflTransGen Change defs (edits.foldl Edit.apply defs) := by
  induction edits generalizing defs with
  | nil => exact .refl
  | cons e edits ih => exact (Edit.apply_changes defs e).trans (ih _)

/-! ## What stays -/

variable {defs defs' : Definitions}

/-- What is kept from one state of the definitions to a later one: types as what they may become,
and declarations up to where they are placed. -/
structure Grows (defs defs' : Definitions) : Prop where
  types : defs.types.Grows defs'.types
  length_le : defs.decls.length ≤ defs'.decls.length
  decl : ∀ id d, defs.decl? id = some d → ∃ span, defs'.decl? id = some { d with span }

theorem Grows.refl (defs : Definitions) : defs.Grows defs :=
  ⟨.refl _, Nat.le_refl _, fun _ d h => ⟨d.span, h⟩⟩

theorem Grows.trans {defs'' : Definitions} (h : defs.Grows defs') (h' : defs'.Grows defs'') :
    defs.Grows defs'' := by
  refine ⟨h.types.trans h'.types, Nat.le_trans h.length_le h'.length_le, fun id d hd => ?_⟩
  obtain ⟨span, hd'⟩ := h.decl id d hd
  exact h'.decl id { d with span } hd'

/-- A declaration that is made leaves the others as they are. -/
theorem decl?_declare_of_decl? {id : DeclId} {d : Declaration} (h : defs.decl? id = some d)
    (module name : String) (receiver : Option TypeId) (signature : Signature) :
    (defs.declare module name receiver signature).decl? id = some d := by
  unfold decl? declare at *
  rw [List.getElem?_append_left (List.getElem?_eq_some_iff.1 h).1]
  exact h

/-- What is declared after a declaration has been placed. -/
theorem decl?_placeDecl (id other : DeclId) (span : Span) :
    (defs.placeDecl id span).decl? other =
      (defs.decl? other).map fun d => if id.index = other.index then { d with span } else d := by
  unfold decl? placeDecl
  rw [List.getElem?_modify]
  rfl

/-- **A change keeps everything.** -/
theorem Change.grows (h : Change defs defs') : defs.Grows defs' := by
  cases h with
  | types h => exact ⟨h, Nat.le_refl _, fun _ d hd => ⟨d.span, hd⟩⟩
  | declare module name receiver signature =>
    refine ⟨TypeTable.grows_add _ _, by simp [Definitions.declare], fun id d hd => ⟨d.span, ?_⟩⟩
    exact decl?_declare_of_decl? hd module name receiver signature
  | place id span =>
    refine ⟨.refl _, by simp [placeDecl], fun other d hd => ?_⟩
    rw [decl?_placeDecl, hd]
    by_cases h : id.index = other.index
    · exact ⟨span, by rw [Option.map_some, if_pos h]⟩
    · exact ⟨d.span, by rw [Option.map_some, if_neg h]⟩

theorem grows_of_changes (h : ReflTransGen Change defs defs') : defs.Grows defs' := by
  induction h with
  | refl => exact .refl _
  | tail _ hchange ih => exact ih.trans hchange.grows

/-! ## What is true of each state -/

/-- Every type and every declaration has an identifier of its own. -/
def Identifiable (defs : Definitions) : Prop :=
  defs.types.size ≤ UInt32.size ∧ defs.decls.length ≤ UInt32.size

/-- What had identifiers later had them before. -/
theorem Grows.identifiable (h : defs.Grows defs') (hids : defs'.Identifiable) :
    defs.Identifiable :=
  ⟨Nat.le_trans h.types.size_le hids.1, Nat.le_trans h.length_le hids.2⟩

/-- The two tables of definitions agree with each other and with their identifiers. -/
structure Coherent (defs : Definitions) : Prop where
  /-- Predeclared types are where they are looked for. -/
  basic : ∀ kind, defs.types.get? (TypeTable.basic kind) = some (.basic kind)
  /-- A declaration carries the identifier under which it is found. -/
  numbered : ∀ id d, defs.decl? id = some d → d.id = id
  /-- The type of a declaration is an entry that holds its signature. -/
  typed : ∀ id d, defs.decl? id = some d → defs.types.get? d.ty = some (.signature d.signature)

theorem coherent_predeclared : Coherent predeclared := by
  refine ⟨fun kind => ?_, fun id d h => ?_, fun id d h => ?_⟩
  · cases kind <;> rfl
  · simp [decl?, predeclared] at h
  · simp [decl?, predeclared] at h

/-- A declaration that is found after another has been made is an old one or the new one. -/
theorem decl?_declare_cases {module name : String} {receiver : Option TypeId}
    {signature : Signature} {id : DeclId} {d : Declaration}
    (hroom : defs.decls.length < UInt32.size)
    (h : (defs.declare module name receiver signature).decl? id = some d) :
    defs.decl? id = some d ∨
      id = defs.nextDeclId ∧
        d = ⟨id, name, module, receiver, signature, defs.types.nextId, .unknown⟩ := by
  unfold decl? declare at h
  rcases Nat.lt_trichotomy id.index defs.decls.length with hlt | heq | hgt
  · rw [List.getElem?_append_left hlt] at h
    exact .inl h
  · have hid : id = defs.nextDeclId := by
      rw [← DeclId.index_inj, nextDeclId, DeclId.index_ofIndex hroom, heq]
    rw [heq, List.getElem?_concat_length, Option.some.injEq] at h
    exact .inr ⟨hid, by rw [← h, hid]⟩
  · rw [List.getElem?_eq_none (by simp; omega)] at h
    cases h

/-- The declaration that is made is found under the next identifier. -/
theorem decl?_declare_nextDeclId (hroom : defs.decls.length < UInt32.size) (module name : String)
    (receiver : Option TypeId) (signature : Signature) :
    (defs.declare module name receiver signature).decl? defs.nextDeclId =
      some ⟨defs.nextDeclId, name, module, receiver, signature, defs.types.nextId, .unknown⟩ := by
  have hindex : defs.nextDeclId.index = defs.decls.length := DeclId.index_ofIndex hroom
  unfold decl? declare
  rw [hindex]
  exact List.getElem?_concat_length

/-- Where a declaration has been made, there was room for it and for its signature. -/
theorem room_of_declare {module name : String} {receiver : Option TypeId} {signature : Signature}
    (h : (defs.declare module name receiver signature).Identifiable) :
    defs.types.size < UInt32.size ∧ defs.decls.length < UInt32.size := by
  have htypes : (defs.types.kinds ++ [TypeKind.signature signature]).length ≤ UInt32.size := h.1
  have hdecls := h.2
  unfold declare at hdecls
  rw [List.length_append, List.length_singleton] at htypes hdecls
  exact ⟨htypes, hdecls⟩

/-- **A change keeps definitions coherent**, if there are identifiers enough. -/
theorem Coherent.change (h : Coherent defs) (hchange : Change defs defs')
    (hids : defs'.Identifiable) : Coherent defs' := by
  have hbasic : ∀ kind, defs'.types.get? (TypeTable.basic kind) = some (.basic kind) :=
    fun kind => hchange.grows.types.get?_eq (h.basic kind) (by simp)
  cases hchange with
  | types hgrows =>
    refine ⟨hbasic, h.numbered, fun id d hd => ?_⟩
    exact hgrows.get?_eq (h.typed id d hd) (by simp)
  | declare module name receiver signature =>
    have hroom := room_of_declare hids
    refine ⟨hbasic, fun id d hd => ?_, fun id d hd => ?_⟩
    · rcases decl?_declare_cases hroom.2 hd with hold | ⟨-, rfl⟩
      · exact h.numbered id d hold
      · rfl
    · rcases decl?_declare_cases hroom.2 hd with hold | ⟨-, rfl⟩
      · exact (TypeTable.grows_add _ _).get?_eq (h.typed id d hold) (by simp)
      · exact TypeTable.get?_add_nextId hroom.1 _
  | place id span =>
    have hold : ∀ other d, (defs.placeDecl id span).decl? other = some d →
        ∃ e, defs.decl? other = some e ∧ d.id = e.id ∧ d.ty = e.ty ∧ d.signature = e.signature := by
      intro other d hd
      rw [decl?_placeDecl, Option.map_eq_some_iff] at hd
      obtain ⟨e, he, rfl⟩ := hd
      refine ⟨e, he, ?_⟩
      split <;> exact ⟨rfl, rfl, rfl⟩
    refine ⟨hbasic, fun other d hd => ?_, fun other d hd => ?_⟩
    · obtain ⟨e, he, hid, -⟩ := hold other d hd
      rw [hid]
      exact h.numbered other e he
    · obtain ⟨e, he, -, hty, hsignature⟩ := hold other d hd
      rw [hty, hsignature]
      exact h.typed other e he

theorem Coherent.changes (h : Coherent defs) (hchanges : ReflTransGen Change defs defs')
    (hids : defs'.Identifiable) : Coherent defs' := by
  induction hchanges with
  | refl => exact h
  | tail _ hchange ih => exact (ih (hchange.grows.identifiable hids)).change hchange hids

/-! ## Methods -/

/-- A declaration is that of a method of a named type: its receiver is the type or a pointer to it,
it belongs to the module of the type, and the type has a method of its name that leads to it. -/
structure MethodOf (defs : Definitions) (type : TypeId) (d : Declaration) : Prop where
  receiver : ∃ r, d.receiver = some r ∧ defs.types.behindPointer r = type
  attached : ∃ n, defs.types.named? type = some n ∧ d.module = n.module ∧
    ∃ m ∈ n.methods, m.name = d.name ∧ m.decl = some d.id

/-- A method stays a method of its type, wherever it is placed. -/
theorem MethodOf.grows {type : TypeId} {d : Declaration} (h : defs.MethodOf type d)
    (hgrows : defs.Grows defs') (span : Span) : defs'.MethodOf type { d with span } := by
  obtain ⟨n, hn, hmodule, m, hm, hname, hdecl⟩ := h.attached
  obtain ⟨n', hn', hmodule', -, hmethods⟩ := hgrows.types.named? hn
  obtain ⟨r, hr, hbehind⟩ := h.receiver
  refine ⟨⟨r, hr, hgrows.types.behindPointer_eq hbehind hn⟩, n', hn', ?_, m, ?_, hname, hdecl⟩
  · rw [hmodule', ← hmodule]
  · exact hmethods.subset hm

/-- A declaration whose receiver leads to a named type is that of a method of the type as soon as it
is attached there. -/
theorem exists_methodOf_attachMethod {type r : TypeId} {n : NamedType} {name : String}
    {signature : Signature} {m : Method} (hn : defs.types.named? type = some n)
    (hr : defs.types.behindPointer r = type)
    (hm : m.name = name ∧ m.decl = some defs.nextDeclId)
    (hroom : defs.decls.length < UInt32.size) :
    ∃ d, ((Edit.attachMethod type m).apply (defs.declare n.module name (some r) signature)).decl?
        defs.nextDeclId = some d ∧ d.name = name ∧ d.signature = signature ∧
      ((Edit.attachMethod type m).apply
        (defs.declare n.module name (some r) signature)).MethodOf type d := by
  have hadd : defs.types.Grows (defs.types.add (.signature signature)) := TypeTable.grows_add _ _
  obtain ⟨n', hn', hmodule, -, -⟩ := hadd.named? hn
  obtain ⟨t, ht, hnamed⟩ := TypeTable.exists_attachMethod? hn' m
  have hgrows : defs.types.Grows t := hadd.trans (TypeTable.grows_attachMethod? ht)
  have happly : (Edit.attachMethod type m).apply (defs.declare n.module name (some r) signature) =
      { defs.declare n.module name (some r) signature with types := t } := by
    show Definitions.mk ((TypeTable.attachMethod? (defs.types.add _) type m).getD _) _ = _
    rw [ht]
    rfl
  have hdecl := decl?_declare_nextDeclId hroom n.module name (some r) signature
  rw [happly]
  refine ⟨_, hdecl, rfl, rfl, ⟨r, rfl, hgrows.behindPointer_eq hr hn⟩, _, hnamed, hmodule.symm, m,
    ?_⟩
  exact ⟨List.mem_append_right _ List.mem_cons_self, hm⟩

/-- The declaration of a method with a plain receiver: it is declared, then attached. -/
theorem declareMethod_false {type : TypeId} {n : NamedType} (hn : defs.types.named? type = some n)
    (name : String) (signature : Signature) :
    defs.declareMethod type false name signature =
      (Edit.attachMethod type ⟨name, false, some defs.nextDeclId⟩).apply
        (defs.declare n.module name (some type) signature) := by
  unfold declareMethod
  rw [hn]
  rfl

/-- The declaration of a method with a pointer receiver: the pointer type comes first. -/
theorem declareMethod_true {type : TypeId} {n : NamedType} (hn : defs.types.named? type = some n)
    (name : String) (signature : Signature) :
    defs.declareMethod type true name signature =
      (Edit.attachMethod type ⟨name, true, some defs.nextDeclId⟩).apply
        (((Edit.addType (.pointer type)).apply defs).declare n.module name
          (some defs.types.nextId) signature) := by
  unfold declareMethod
  rw [hn]
  rfl

/-- **What the declaration of a method makes** on a named type. -/
theorem exists_methodOf_declareMethod {type : TypeId} {n : NamedType}
    (hn : defs.types.named? type = some n) (pointerReceiver : Bool) (name : String)
    (signature : Signature)
    (hids : (defs.declareMethod type pointerReceiver name signature).Identifiable) :
    ∃ d, (defs.declareMethod type pointerReceiver name signature).decl? defs.nextDeclId = some d ∧
      d.name = name ∧ d.signature = signature ∧
      (defs.declareMethod type pointerReceiver name signature).MethodOf type d := by
  cases pointerReceiver with
  | false =>
    rw [declareMethod_false hn] at hids ⊢
    have hdeclared := (grows_of_changes (Edit.apply_changes _ _)).identifiable hids
    exact exists_methodOf_attachMethod hn (TypeTable.behindPointer_of_named? hn) ⟨rfl, rfl⟩
      (room_of_declare hdeclared).2
  | true =>
    rw [declareMethod_true hn] at hids ⊢
    have hdeclared := (grows_of_changes (Edit.apply_changes _ _)).identifiable hids
    obtain ⟨htypes, hdecls⟩ := room_of_declare hdeclared
    have hadd : defs.types.Grows (defs.types.add (.pointer type)) := TypeTable.grows_add _ _
    have hpointer := TypeTable.get?_add_nextId (Nat.lt_of_le_of_lt hadd.size_le htypes)
      (.pointer type)
    obtain ⟨n', hn', hmodule, -, -⟩ := hadd.named? hn
    have hnamed : ((Edit.addType (.pointer type)).apply defs).types.named? type = some n' := hn'
    rw [← hmodule]
    exact exists_methodOf_attachMethod hnamed (TypeTable.behindPointer_of_get? hpointer) ⟨rfl, rfl⟩
      hdecls

/-! ## All edits -/

theorem ofEdits_append (before after : List Edit) :
    ofEdits (before ++ after) = after.foldl Edit.apply (ofEdits before) :=
  List.foldl_append

/-- **Definitions stay coherent** through every sequence of edits, as long as there are identifiers
for all types and declarations: in each state the tables agree, from each state to each later one
everything is kept, and the declaration of a method on a named type has made a method of that type,
under the identifier that was next. -/
theorem ofEdits_coherent (edits : List Edit) (hids : (ofEdits edits).Identifiable) :
    Coherent (ofEdits edits) ∧
      (∀ before after, edits = before ++ after → (ofEdits before).Grows (ofEdits edits)) ∧
      ∀ before type pointerReceiver name signature after,
        edits = before ++ .declareMethod type pointerReceiver name signature :: after →
        ∀ n, (ofEdits before).types.named? type = some n →
          ∃ d, (ofEdits edits).decl? (ofEdits before).nextDeclId = some d ∧
            d.name = name ∧ d.signature = signature ∧ (ofEdits edits).MethodOf type d := by
  refine ⟨coherent_predeclared.changes (foldl_apply_changes edits _) hids, ?_, ?_⟩
  · rintro before after rfl
    rw [ofEdits_append]
    exact grows_of_changes (foldl_apply_changes after _)
  · rintro before type pointerReceiver name signature after rfl n hn
    rw [ofEdits_append, List.foldl_cons] at hids ⊢
    have hgrows := grows_of_changes
      (foldl_apply_changes after
        ((ofEdits before).declareMethod type pointerReceiver name signature))
    obtain ⟨d, hd, hname, hsignature, hmethod⟩ := exists_methodOf_declareMethod hn pointerReceiver
      name signature (hgrows.identifiable hids)
    obtain ⟨span, hd'⟩ := hgrows.decl _ d hd
    exact ⟨{ d with span }, hd', hname, hsignature, hmethod.grows hgrows span⟩

/-- A named type gets a method on a pointer and one on itself, and is completed and added to
afterwards. -/
def greeterEdits : List Edit :=
  [.addType (.named ⟨"app", "Greeter", none, []⟩),
    .declareMethod ⟨19⟩ true "Greet" ⟨[TypeTable.basic .string], [], false⟩,
    .declareMethod ⟨19⟩ false "Name" ⟨[], [TypeTable.basic .string], false⟩,
    .addType (.struct []), .setUnderlying ⟨19⟩ ⟨23⟩, .attachMethod ⟨19⟩ ⟨"Close", false, none⟩,
    .setUnderlying ⟨20⟩ ⟨23⟩, .placeDecl ⟨0⟩ ⟨7, 3⟩, .declareFunction "app" "Greet" ⟨[], [], false⟩]

/-- The first method is still one of its type when everything has been done. -/
theorem greeterEdits_coherent :
    (ofEdits greeterEdits).Identifiable ∧ Coherent (ofEdits greeterEdits) ∧
      ∃ d, (ofEdits greeterEdits).decl? ⟨0⟩ = some d ∧ d.name = "Greet" ∧ d.module = "app" ∧
        (ofEdits greeterEdits).MethodOf ⟨19⟩ d := by
  have hids : (ofEdits greeterEdits).Identifiable := ⟨by decide, by decide⟩
  obtain ⟨hcoherent, -, hmethods⟩ := ofEdits_coherent greeterEdits hids
  obtain ⟨d, hd, hname, -, hmethod⟩ := hmethods [_] ⟨19⟩ true "Greet" _ _ rfl _ rfl
  refine ⟨hids, hcoherent, d, hd, hname, ?_, hmethod⟩
  cases hd
  rfl

end Definitions

end BindingAudit
