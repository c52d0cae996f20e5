/-
# Reading back what was written

Records, choices, lists and tables are read back as they were written, provided that the dialect
reads back its own texts and keys: `Dialect.Faithful`.

A reader is given the number of containers that it may still enter. So what is read back is said
with `within`: a value that takes `levels` nested containers is read if and only if there is room
for that many.

* `record?_record` : the fields of a record come back in order;
* `choice?_variant` : a variant comes back with its payload;
* `optionalField?_option` : a scalar that may be missing comes back;
* `many?_map`, `idTable?_idTable`, `nameTable?_nameTable` : lists and tables come back if there is
  room for their items.
-/
import BindingAudit.Codec.Reading
import BindingAudit.Codec.Writing

namespace BindingAudit

/-! ## Room for containers -/

/-- A value that is there if there is room for `levels` nested containers. -/
def within {α : Type} (levels : Nat) (a : α) (room : Nat) : Option α :=
  if levels ≤ room then some a else none

/-- The levels of a container, given those of its parts. -/
def enclosing (parts : List Nat) : Nat := parts.foldr max 0 + 1

section Within

variable {α β : Type} {a : α} {levels room : Nat}

theorem within_of_le (h : levels ≤ room) : within levels a room = some a := if_pos h

theorem within_of_lt (h : room < levels) : within levels a room = none :=
  if_neg (Nat.not_le.2 h)

@[simp] theorem within_zero : within 0 a room = some a := within_of_le (Nat.zero_le room)

@[simp] theorem map_within (f : α → β) :
    (within levels a room).map f = within levels (f a) room := by
  unfold within
  split <;> rfl

@[simp] theorem within_bind (f : α → Option β) :
    (within levels a room).bind f = if levels ≤ room then f a else none := by
  unfold within
  split <;> rfl

/-- A part that stands behind `cost` containers needs room for these, too. -/
theorem within_add (cost : Nat) : within (cost + levels) a (cost + room) = within levels a room := by
  simp [within]

theorem enclosing_cons (n : Nat) (parts : List Nat) :
    enclosing (n :: parts) = max (n + 1) (enclosing parts) := by
  simp only [enclosing, List.foldr_cons]
  omega

theorem enclosing_pos (parts : List Nat) : 0 < enclosing parts := Nat.succ_pos _

/-- There is room for a container if there is room for each of its parts inside. -/
theorem enclosing_le_succ_iff {parts : List Nat} :
    enclosing parts ≤ room + 1 ↔ ∀ n ∈ parts, n ≤ room := by
  induction parts with
  | nil => simp [enclosing]
  | cons n parts ih =>
    rw [enclosing_cons, Nat.max_le, ih, List.forall_mem_cons, Nat.add_le_add_iff_right]

/-- A reader of a container, given how it goes on inside. -/
theorem eq_within_of_container {read : Nat → β → Option α} {w : β} {parts : List Nat}
    (hclosed : read 0 w = none)
    (hopen : ∀ r, r + 1 = room →
      read (r + 1) w = if ∀ n ∈ parts, n ≤ r then some a else none) :
    read room w = within (enclosing parts) a room := by
  cases room with
  | zero => rw [hclosed, within_of_lt (enclosing_pos parts)]
  | succ room => simp only [hopen room rfl, within, enclosing_le_succ_iff]

/-- A reader behind `cost` containers, given how it goes on there. -/
theorem eq_within_of_cost {read : Nat → β → Option α} {w : β} {cost : Nat} (levels : Nat)
    (hclosed : ∀ r < cost, read r w = none)
    (hopen : ∀ r, cost + r = room → read (cost + r) w = within levels a r) :
    read room w = within (cost + levels) a room := by
  by_cases h : cost ≤ room
  · obtain ⟨r, rfl⟩ := Nat.exists_eq_add_of_le h
    rw [hopen r rfl, within_add]
  · rw [hclosed room (Nat.not_le.1 h), within_of_lt (by omega)]

/-- A reader of a container behind `cost` others, given how it goes on inside. -/
theorem eq_within_of_cost_container {read : Nat → β → Option α} {w : β} {cost : Nat}
    {parts : List Nat} (hclosed : ∀ r < cost, read r w = none) (hfull : read cost w = none)
    (hopen : ∀ r, cost + (r + 1) = room →
      read (cost + (r + 1)) w = if ∀ n ∈ parts, n ≤ r then some a else none) :
    read room w = within (cost + enclosing parts) a room := by
  refine eq_within_of_cost _ hclosed fun r hr => ?_
  cases r with
  | zero => rw [Nat.add_zero, hfull, within_of_lt (enclosing_pos parts)]
  | succ r => simp only [hopen r hr, within, enclosing_le_succ_iff]

end Within

namespace Dialect

variable {τ : Type} {d : Dialect τ}

/-- A dialect that reads back the texts and keys that it writes, and has no containers for keys. -/
structure Faithful (d : Dialect τ) : Prop where
  text?_text : ∀ s, d.text? (d.text s) = some s
  label_text : ∀ s, d.label (d.text s) = .name s
  idKey?_idKey : ∀ n < UInt32.size, d.idKey? (d.idKey n) = some n
  height_idKey : ∀ n, (d.idKey n).height = 0

/-! ## Records -/

/-- The next field of a record goes to its own place, which is still free. -/
theorem putField_next (hd : d.Faithful) {before after : List String} {name : String}
    (hname : name ∉ before) (room : Nat) {done : List (Option (Wire τ))}
    (hlength : done.length = before.length) (free : List (Option (Wire τ))) (w : Wire τ) :
    d.putField (before ++ name :: after) room (done ++ none :: free) (d.text name, w) =
      some (done ++ some w :: free) := by
  have hplace : (before ++ name :: after).idxOf? name = some done.length := by
    rw [List.idxOf?_eq_some_iff, hlength]
    refine ⟨by simp, by simp, fun j hj => ?_⟩
    rw [List.getElem_append_left hj]
    exact fun h => hname (h ▸ List.getElem_mem hj)
  simp [putField, hd.label_text, hplace]

/-- The fields that are still to come go to the places that are still free. -/
theorem foldlM_putField (hd : d.Faithful) (room : Nat) (fields : List (String × Wire τ))
    (before : List String) (done : List (Option (Wire τ))) (hlength : done.length = before.length)
    (hnodup : (before ++ fields.map Prod.fst).Nodup) :
    (fields.map fun f => (d.text f.1, f.2)).foldlM
        (d.putField (before ++ fields.map Prod.fst) room) (done ++ fields.map fun _ => none) =
      some (done ++ fields.map fun f => some f.2) := by
  induction fields generalizing before done with
  | nil => rfl
  | cons f fields ih =>
    have hname : f.1 ∉ before := fun h =>
      (List.nodup_append.1 hnodup).2.2 f.1 h f.1 (by simp) rfl
    have hnodup' : ((before ++ [f.1]) ++ fields.map Prod.fst).Nodup := by
      simpa using hnodup
    have hstep : d.putField (before ++ f.1 :: fields.map Prod.fst) room
        (done ++ none :: fields.map fun _ => none) (d.text f.1, f.2) =
          some (done ++ some f.2 :: fields.map fun _ => none) :=
      putField_next hd hname room hlength _ f.2
    have hrest := ih (before ++ [f.1]) (done ++ [some f.2]) (by simp [hlength]) hnodup'
    simp only [List.map_cons, List.foldlM_cons, hstep]
    simpa using hrest

/-- **The fields of a record come back in order**, one container further in. -/
theorem record?_record (hd : d.Faithful) {names : List String} {fields : List (String × Wire τ)}
    (hnames : fields.map Prod.fst = names) (hnodup : names.Nodup) (room : Nat) :
    d.record? names (room + 1) (d.record fields) =
      some (fields.map fun f => some f.2, room) := by
  subst hnames
  have hfold := foldlM_putField hd room fields [] [] rfl hnodup
  simp only [List.nil_append] at hfold
  have hfree : ((fields.map Prod.fst).map fun _ => (none : Option (Wire τ))) =
      fields.map fun _ => none := by
    rw [List.map_map]
    rfl
  simp only [record?, record, hfree, hfold, Option.map_some]

/-- There is no record where no container may be entered. -/
@[simp] theorem record?_zero_record (names : List String) (fields : List (String × Wire τ)) :
    d.record? names 0 (d.record fields) = none := rfl

/-! ## Choices -/

/-- **A variant comes back with its payload**, behind the containers that a choice counts for. -/
theorem choice?_variant (hd : d.Faithful) {names : List String} {name : String}
    (hname : name ∈ names) (room : Nat) (payload : Wire τ) :
    d.choice? names (d.choiceCost + room) (d.variant name payload) =
      some (name, some payload, room) := by
  simp [choice?, variant, variantName?, hd.label_text, hname]

/-- The same, where the payload must not be a container. -/
theorem choice?_variant_self (hd : d.Faithful) {names : List String} {name : String}
    (hname : name ∈ names) (payload : Wire τ) :
    d.choice? names d.choiceCost (d.variant name payload) = some (name, some payload, 0) :=
  choice?_variant hd hname 0 payload

/-- There is no variant where a choice cannot be entered. -/
theorem choice?_variant_of_lt {names : List String} {room : Nat} (h : room < d.choiceCost)
    (name : String) (payload : Wire τ) :
    d.choice? names room (d.variant name payload) = none := by
  simp [choice?, variant, Nat.not_le.2 h]

/-- A constant comes back, if no two constants share their name. -/
theorem constant?_text (hd : d.Faithful) {α : Type} {tag : α → String} {all : List α} {a : α}
    (ha : a ∈ all) (htag : ∀ b ∈ all, tag b = tag a → b = a) (room : Nat) :
    d.constant? tag all room (d.text (tag a)) = some a := by
  have hname : tag a ∈ all.map tag := List.mem_map_of_mem ha
  have hchoice : d.choice? (all.map tag) room (d.text (tag a)) = some (tag a, none, room) := by
    have hlabel := hd.label_text (tag a)
    rw [text] at hlabel ⊢
    simp [choice?, variantName?, hlabel, hname]
  have hfind : all.find? (tag · == tag a) = some a := by
    cases hfound : all.find? (tag · == tag a) with
    | none => simpa using List.find?_eq_none.1 hfound a ha
    | some b =>
      have hb := List.mem_of_find?_eq_some hfound
      have hsame : tag b = tag a := by simpa using List.find?_some hfound
      rw [htag b hb hsame]
  simp only [constant?, hchoice, hfind]

/-! ## Values that may be missing -/

/-- A value that is there is read as such. -/
theorem optional?_of_ne_null {α : Type} {read : Reader τ α} {w : Wire τ} (h : w ≠ .null)
    (room : Nat) : optional? read room w = (read room w).map some := by
  cases w with
  | null => exact absurd rfl h
  | _ => rfl

/-- **A scalar that may be missing comes back.** -/
theorem optionalField?_option {α : Type} {read : Reader τ α} {write : α → Wire τ}
    (hthere : ∀ a, write a ≠ .null) {room : Nat} (hread : ∀ a, read room (write a) = some a)
    (o : Option α) : optionalField? read room (some (option write o)) = some o := by
  cases o with
  | none => rfl
  | some a => rw [optionalField?, option, optional?_of_ne_null (hthere a), hread, Option.map_some]

/-! ## Lists and tables -/

/-- Items that each take their own levels are all read if there is room for each of them. -/
theorem mapM_within {α : Type} {read : α → Option α} {levels : α → Nat} {room : Nat}
    {items : List α} (hread : ∀ x ∈ items, read x = within (levels x) x room) :
    items.mapM read = within (enclosing (items.map levels)) items (room + 1) := by
  induction items with
  | nil => rfl
  | cons x items ih =>
    have hx := hread x (by simp)
    have hitems := ih fun y hy => hread y (by simp [hy])
    rw [List.mapM_cons, hx, hitems]
    simp only [Option.bind_eq_bind, Option.pure_def, List.map_cons, enclosing_cons, within,
      Nat.max_le, Nat.add_le_add_iff_right]
    split <;> split <;> simp_all

/-- A list comes back if there is room for its items, given that these come back one container
further in. -/
theorem many?_map_of_lt {α : Type} {read : Reader τ α} {write : α → Wire τ} {levels : α → Nat}
    {room : Nat} (hread : ∀ x, ∀ r < room, read r (write x) = within (levels x) x r)
    (xs : List α) :
    many? read room (.list (xs.map write)) = within (enclosing (xs.map levels)) xs room := by
  cases room with
  | zero =>
    rw [within_of_lt (enclosing_pos _)]
    rfl
  | succ room =>
    rw [many?, List.mapM_map]
    exact mapM_within fun x _ => hread x room (Nat.lt_succ_self room)

/-- **A list comes back** if there is room for its items. -/
theorem many?_map {α : Type} {read : Reader τ α} {write : α → Wire τ} {levels : α → Nat}
    (hread : ∀ x room, read room (write x) = within (levels x) x room) (xs : List α) (room : Nat) :
    many? read room (.list (xs.map write)) = within (enclosing (xs.map levels)) xs room :=
  many?_map_of_lt (fun x r _ => hread x r) xs

/-- A table comes back if its keys do and there is room for its values. -/
theorem tableOf?_table {κ ν : Type} [DecidableEq κ] {key? : Wire τ → Option κ}
    {read : Reader τ ν} {write : ν → Wire τ} {levels : ν → Nat} (key : κ → Wire τ)
    (hkey : ∀ k, key? (key k) = some k)
    (hread : ∀ v room, read room (write v) = within (levels v) v room) (m : FinMap κ ν)
    (room : Nat) :
    tableOf? key? read room (.table (m.entries.map fun e => (key e.1, write e.2))) =
      within (enclosing (m.entries.map fun e => levels e.2)) m room := by
  cases room with
  | zero =>
    rw [within_of_lt (enclosing_pos _)]
    rfl
  | succ room =>
    have hentries : (m.entries.map fun e => (key e.1, write e.2)).mapM
        (fun e => do return (← key? e.1, ← read room e.2)) =
          within (enclosing (m.entries.map fun e => levels e.2)) m.entries (room + 1) := by
      rw [List.mapM_map]
      refine mapM_within fun e _ => ?_
      simp only [Function.comp_apply, hkey, hread, Option.bind_eq_bind, Option.bind_some,
        Option.pure_def, within_bind]
      rfl
    rw [tableOf?, hentries, map_within, FinMap.ofList_entries]

/-- **A table with texts as keys comes back.** -/
theorem nameTable?_nameTable (hd : d.Faithful) {ν : Type} {read : Reader τ ν}
    {write : ν → Wire τ} {levels : ν → Nat}
    (hread : ∀ v room, read room (write v) = within (levels v) v room) (m : FinMap String ν)
    (room : Nat) :
    d.nameTable? read room (d.nameTable write m) =
      within (enclosing (m.entries.map fun e => levels e.2)) m room :=
  tableOf?_table d.text hd.text?_text hread m room

/-- **A table with numbers as keys comes back.** -/
theorem idTable?_idTable (hd : d.Faithful) {ν : Type} {read : Reader τ ν} {write : ν → Wire τ}
    {levels : ν → Nat} (hread : ∀ v room, read room (write v) = within (levels v) v room)
    (m : FinMap ExprId ν) (room : Nat) :
    d.idTable? ExprId.mk read room (d.idTable ExprId.index write m) =
      within (enclosing (m.entries.map fun e => levels e.2)) m room := by
  refine tableOf?_table (fun k => d.idKey k.index) (fun k => ?_) hread m room
  have hlt : k.index < UInt32.size := k.raw.toNat_lt_size
  rw [hd.idKey?_idKey k.index hlt, Option.bind_some, if_pos hlt]
  simp [ExprId.index]

end Dialect

end BindingAudit
