/-
# Identifiers of program parts

Types, declarations, expressions and scopes are referred to by 32-bit numbers. An identifier may
name nothing: whether it does is for the table it indexes to say.
-/

namespace BindingAudit

/-- Identifies a type of a type table. -/
structure TypeId where
  raw : UInt32
  deriving DecidableEq, Repr, Inhabited

/-- Identifies a declaration by its definition site. -/
structure DeclId where
  raw : UInt32
  deriving DecidableEq, Repr, Inhabited

/-- Identifies an expression node of a unit. -/
structure ExprId where
  raw : UInt32
  deriving DecidableEq, Repr, Inhabited

/-- Identifies a lexical scope of a unit. -/
structure ScopeId where
  raw : UInt32
  deriving DecidableEq, Repr, Inhabited

/-! ## Positions in a table -/

/-- The place of a type in its table. -/
def TypeId.index (id : TypeId) : Nat := id.raw.toNat

/-- The place of a declaration in its table. -/
def DeclId.index (id : DeclId) : Nat := id.raw.toNat

/-- The number of an expression. -/
def ExprId.index (id : ExprId) : Nat := id.raw.toNat

/-- The place of a scope in its tree. -/
def ScopeId.index (id : ScopeId) : Nat := id.raw.toNat

/-- The type at a place of a table. Places past the 32-bit range wrap around. -/
def TypeId.ofIndex (n : Nat) : TypeId := ⟨UInt32.ofNat n⟩

/-- The declaration at a place of a table. -/
def DeclId.ofIndex (n : Nat) : DeclId := ⟨UInt32.ofNat n⟩

/-- The scope at a place of a tree. -/
def ScopeId.ofIndex (n : Nat) : ScopeId := ⟨UInt32.ofNat n⟩

/-- Within the 32 bits of an identifier the entry at a place stands at that place. -/
theorem TypeId.index_ofIndex {n : Nat} (h : n < 4294967296) : (TypeId.ofIndex n).index = n :=
  UInt32.toNat_ofNat_of_lt h

@[inherit_doc TypeId.index_ofIndex]
theorem DeclId.index_ofIndex {n : Nat} (h : n < 4294967296) : (DeclId.ofIndex n).index = n :=
  UInt32.toNat_ofNat_of_lt h

@[inherit_doc TypeId.index_ofIndex]
theorem ScopeId.index_ofIndex {n : Nat} (h : n < 4294967296) : (ScopeId.ofIndex n).index = n :=
  UInt32.toNat_ofNat_of_lt h

/-- Types are told apart by their places. -/
theorem TypeId.index_inj {a b : TypeId} : a.index = b.index ↔ a = b := by
  cases a
  cases b
  simp [TypeId.index, UInt32.toNat_inj]

/-- Declarations are told apart by their places. -/
theorem DeclId.index_inj {a b : DeclId} : a.index = b.index ↔ a = b := by
  cases a
  cases b
  simp [DeclId.index, UInt32.toNat_inj]

/-- Scopes are told apart by their places. -/
theorem ScopeId.index_inj {a b : ScopeId} : a.index = b.index ↔ a = b := by
  cases a
  cases b
  simp [ScopeId.index, UInt32.toNat_inj]

/-! ## Labels -/

/-- A type identifier as shown to a developer. -/
def TypeId.label (id : TypeId) : String := "TypeId(" ++ toString id.index ++ ")"

/-- A declaration identifier as shown to a developer. -/
def DeclId.label (id : DeclId) : String := "DeclId(" ++ toString id.index ++ ")"

/-- An expression identifier as shown to a developer. -/
def ExprId.label (id : ExprId) : String := "ExprId(" ++ toString id.index ++ ")"

/-- A scope identifier as shown to a developer. -/
def ScopeId.label (id : ScopeId) : String := "ScopeId(" ++ toString id.index ++ ")"

end BindingAudit
