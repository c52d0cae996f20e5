/-
# Self-describing values

Both encodings of snapshots are self-describing: a document says of each value what it is before
anyone asks for a particular type. `Wire τ` is that common ground. Texts are kept in their
written form `τ`, because only a value that is asked for has to be legible.

What differs between the encodings is collected in a `Dialect`. On top of it stand the readers
and writers of records, choices, lists and tables. Readers take the number of containers that
may still be entered, so that a document nested too deeply is refused.
-/
import BindingAudit.FinMap

namespace BindingAudit

/-- A self-describing value whose texts are in written form `τ`. -/
inductive Wire (τ : Type) where
  | null
  | flag (b : Bool)
  /-- An integer without sign. -/
  | natural (n : Nat)
  /-- An integer in a form that has a sign. -/
  | signed (i : Int)
  /-- A scalar that no part of a snapshot is made of, such as a fraction. -/
  | other
  /-- A value of a type that only its sender knows. Its content is of no use, but it is a
  container. -/
  | extension
  | text (t : τ)
  | bytes (bs : List UInt8)
  | list (ws : List (Wire τ))
  | table (es : List (Wire τ × Wire τ))

namespace Wire

variable {τ : Type}

instance : Inhabited (Wire τ) := ⟨null⟩

mutual

/-- How deeply containers are nested in a value. -/
def height : Wire τ → Nat
  | extension => 1
  | list ws => heightList ws + 1
  | table es => heightTable es + 1
  | _ => 0

/-- The greatest height in a list. -/
def heightList : List (Wire τ) → Nat
  | [] => 0
  | w :: ws => max w.height (heightList ws)

/-- The greatest height in a table. -/
def heightTable : List (Wire τ × Wire τ) → Nat
  | [] => 0
  | (k, v) :: es => max (max k.height v.height) (heightTable es)

end

/-- The truth value that a value is. -/
def flag? : Wire τ → Option Bool
  | flag b => some b
  | _ => none

/-- The natural number that a value is. -/
def natural? : Wire τ → Option Nat
  | natural n => some n
  | signed i => if 0 ≤ i then some i.toNat else none
  | _ => none

/-- The 32-bit number that a value is. -/
def word32? (w : Wire τ) : Option UInt32 :=
  w.natural?.bind fun n => if n < UInt32.size then some (UInt32.ofNat n) else none

/-- The 64-bit number that a value is. -/
def word64? (w : Wire τ) : Option UInt64 :=
  w.natural?.bind fun n => if n < UInt64.size then some (UInt64.ofNat n) else none

end Wire

/-! ## Dialects -/

/-- What a key says about the field or variant it stands for. -/
inductive Label where
  | name (s : String)
  /-- The place among the fields or variants. -/
  | position (n : Nat)
  /-- Some name that is not known. -/
  | foreign
  /-- No name at all. -/
  | invalid

/-- What tells one encoding from another. -/
structure Dialect (τ : Type) where
  /-- The written form of a text. -/
  write : String → τ
  /-- The text that a value spells. -/
  text? : Wire τ → Option String
  /-- The key of a table whose keys are numbers. -/
  idKey : Nat → Wire τ
  /-- The number that such a key is. -/
  idKey? : Wire τ → Option Nat
  /-- What the key of a record or a choice stands for. -/
  label : Wire τ → Label
  /-- The number of containers that a choice with a payload counts for. -/
  choiceCost : Nat
  /-- The number of containers that may be nested. -/
  limit : Nat
  /-- Whether the limit holds inside values that nobody asks for. -/
  limitsIgnored : Bool

namespace Dialect

variable {τ : Type} (d : Dialect τ)

/-! ## Writing -/

/-- A text. -/
def text (s : String) : Wire τ := .text (d.write s)

/-- A record: its fields under their names. -/
def record (fields : List (String × Wire τ)) : Wire τ :=
  .table (fields.map fun (name, w) => (d.text name, w))

/-- A variant with a payload. -/
def variant (name : String) (payload : Wire τ) : Wire τ := .table [(d.text name, payload)]

/-- A value that may be missing. -/
def option {α : Type} (write : α → Wire τ) : Option α → Wire τ
  | none => .null
  | some a => write a

/-- A table with numbers as keys. -/
def idTable {κ ν : Type} (key : κ → Nat) (write : ν → Wire τ) (m : FinMap κ ν) : Wire τ :=
  .table (m.entries.map fun (k, v) => (d.idKey (key k), write v))

/-- A table with texts as keys. -/
def nameTable {ν : Type} (write : ν → Wire τ) (m : FinMap String ν) : Wire τ :=
  .table (m.entries.map fun (k, v) => (d.text k, write v))

/-! ## Reading -/

/-- Reads a value, given how many containers may still be entered. -/
abbrev Reader (τ α : Type) := Nat → Wire τ → Option α

/-- Whether a value that nobody asks for may stand where it does. -/
def ignorable (room : Nat) (w : Wire τ) : Bool := !d.limitsIgnored || w.height ≤ room

/-- Puts one entry of a table into its place among the fields of a record. A field may be given
once only; entries with unknown names are passed over. -/
def putField (names : List String) (room : Nat) (fields : List (Option (Wire τ)))
    (e : Wire τ × Wire τ) : Option (List (Option (Wire τ))) :=
  let place : Option (Option Nat) := match d.label e.1 with
    | .name s => some (names.idxOf? s)
    | .position n => some (if n < names.length then some n else none)
    | .foreign => some none
    | .invalid => none
  match place with
  | none => none
  | some none => if d.ignorable room e.2 then some fields else none
  | some (some i) =>
      match fields[i]? with
      | some none => some (fields.set i (some e.2))
      | _ => none

/-- The fields of a record in the order of their names, missing ones empty. A record is a table
of its fields, the list of all of them, or a row of bytes that starts with one for each. -/
def record? (names : List String) : Reader τ (List (Option (Wire τ)) × Nat)
  | room + 1, .list ws =>
      if ws.length = names.length then some (ws.map some, room) else none
  | room + 1, .table es =>
      (es.foldlM (d.putField names room) (names.map fun _ => none)).map (·, room)
  | room, .bytes bs =>
      if names.length ≤ bs.length then
        some ((bs.take names.length).map fun b => some (.natural b.toNat), room)
      else none
  | _, _ => none

/-- The name of the variant that a key stands for. -/
def variantName? (names : List String) (key : Wire τ) : Option String :=
  match d.label key with
  | .name s => if s ∈ names then some s else none
  | .position n => names[n]?
  | _ => none

/-- The chosen variant with its payload. A variant is a table with one entry, or, without a
payload, the bare name. -/
def choice? (names : List String) : Reader τ (String × Option (Wire τ) × Nat)
  | room, .table [(key, payload)] =>
      if d.choiceCost ≤ room then
        (d.variantName? names key).map (·, some payload, room - d.choiceCost)
      else none
  | _, .table _ => none
  | room, key => (d.variantName? names key).map (·, none, room)

/-- Reads one of several constants, each a variant without a payload. -/
def constant? {α : Type} (tag : α → String) (all : List α) : Reader τ α := fun room w =>
  match d.choice? (all.map tag) room w with
  | some (name, none, _) => all.find? (tag · == name)
  | some (name, some .null, _) => all.find? (tag · == name)
  | _ => none

/-- Reads a value that may be missing. -/
def optional? {α : Type} (read : Reader τ α) : Reader τ (Option α)
  | _, .null => some none
  | room, w => (read room w).map some

/-- Reads a field that may be left out. -/
def optionalField? {α : Type} (read : Reader τ α) (room : Nat) : Option (Wire τ) → Option (Option α)
  | none => some none
  | some w => optional? read room w

/-- Reads a list. A row of bytes is a list of numbers. -/
def many? {α : Type} (read : Reader τ α) : Reader τ (List α)
  | room + 1, .list ws => ws.mapM (read room)
  | room, .bytes bs => bs.mapM fun b => read room (.natural b.toNat)
  | _, _ => none

/-- Reads a table. Of two entries with one key the later counts. -/
def tableOf? {κ ν : Type} [DecidableEq κ] (key? : Wire τ → Option κ) (read : Reader τ ν) :
    Reader τ (FinMap κ ν)
  | room + 1, .table es =>
      (es.mapM fun (k, v) => do return (← key? k, ← read room v)).map FinMap.ofList
  | _, _ => none

/-- Reads a table with 32-bit numbers as keys. -/
def idTable? {κ ν : Type} [DecidableEq κ] (ofRaw : UInt32 → κ) (read : Reader τ ν) :
    Reader τ (FinMap κ ν) :=
  tableOf? (fun k => (d.idKey? k).bind fun n =>
    if n < UInt32.size then some (ofRaw (UInt32.ofNat n)) else none) read

/-- Reads a table with texts as keys. -/
def nameTable? {ν : Type} (read : Reader τ ν) : Reader τ (FinMap String ν) :=
  tableOf? d.text? read

end Dialect

end BindingAudit
