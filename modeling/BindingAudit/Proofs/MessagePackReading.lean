/-
# Reading MessagePack

What is written as MessagePack is read back, whatever follows it, as long as every text, list and
table is short enough for the length in its head: `fits`. Reading does not look past the value that
it reads, so a value whose last bytes are missing is not read at all.

* `parse?_print` : a plain value comes back, whatever follows it;
* `extends_valueWithin` : what was read from some bytes is read from the front of more bytes;
* `parse?_eq_none_of_cut` : a value that is cut short is refused.
-/
import Mathlib.Algebra.Ring.Nat
import Mathlib.Tactic.SplitIfs
import BindingAudit.Codec.MessagePack
import BindingAudit.Proofs.Nesting

namespace BindingAudit.MessagePack

/-- MessagePack reads back its own texts and keys. -/
theorem faithful : dialect.Faithful where
  text?_text s := Text.Utf8.decode?_encode s
  label_text s := by simp [dialect, Dialect.text]
  idKey?_idKey _ _ := rfl
  height_idKey _ := rfl

/-! ## Numbers of bytes -/

@[simp] theorem length_bigEndian (count n : Nat) : (bigEndian count n).length = count := by
  induction count generalizing n with
  | zero => rfl
  | succ count ih => simp [bigEndian, ih]

/-- The bytes of a number spell it, if there are enough of them. -/
theorem ofBigEndian_bigEndian {count n : Nat} (h : n < 256 ^ count) :
    ofBigEndian (bigEndian count n) = n := by
  induction count generalizing n with
  | zero =>
    obtain rfl : n = 0 := by simpa using h
    rfl
  | succ count ih =>
    have hhigh : n / 256 < 256 ^ count := by
      rw [Nat.div_lt_iff_lt_mul (by decide)]
      rwa [Nat.pow_succ] at h
    have hstep : ofBigEndian (bigEndian count (n / 256) ++ [UInt8.ofNat n]) =
        ofBigEndian (bigEndian count (n / 256)) * 256 + n % 256 := by
      simp [ofBigEndian]
    rw [bigEndian, hstep, ih hhigh]
    omega

theorem takeOnto_append (done bs rest : List UInt8) :
    takeOnto done bs.length (bs ++ rest) = some (done.reverse ++ bs, rest) := by
  induction bs generalizing done with
  | nil => simp [takeOnto]
  | cons b bs ih => simp [takeOnto, ih]

theorem take?_append {n : Nat} {bs : List UInt8} (h : bs.length = n) (rest : List UInt8) :
    take? n (bs ++ rest) = some (bs, rest) := by
  subst h
  exact takeOnto_append [] bs rest

theorem sized_bigEndian {count n : Nat} (h : n < 256 ^ count) (build : Nat → Head)
    (rest : List UInt8) : sized build count (bigEndian count n ++ rest) = some (build n, rest) := by
  simp [sized, word?, take?_append, ofBigEndian_bigEndian h]

/-! ## Heads -/

/-- The number in the one byte of a short head. -/
theorem toNat_ofNat_of_lt {n : Nat} (h : n < 256) : (UInt8.ofNat n).toNat = n := by
  rw [UInt8.toNat_ofNat', Nat.mod_eq_of_lt h]

theorem head?_natural {n : Nat} (h : n < UInt64.size) (rest : List UInt8) :
    head? (natural n ++ rest) = some (.scalar (.natural n), rest) := by
  unfold natural
  split_ifs with h7 h8 h16 h32
  · have hbyte : (UInt8.ofNat n).toNat = n := toNat_ofNat_of_lt (by omega)
    generalize UInt8.ofNat n = b at hbyte
    simp [head?, UInt8.lt_iff_toNat_lt, hbyte, h7]
  · simp [head?, sized_bigEndian (show n < 256 ^ 1 from h8)]
  · simp [head?, sized_bigEndian (show n < 256 ^ 2 from h16)]
  · simp [head?, sized_bigEndian (show n < 256 ^ 4 from h32)]
  · simp [head?, sized_bigEndian (show n < 256 ^ 8 from h)]

theorem head?_textHead {n : Nat} (h : n < UInt32.size) (rest : List UInt8) :
    head? (textHead n ++ rest) = some (.text n, rest) := by
  unfold textHead
  split_ifs with h5 h8 h16
  · have hbyte : (UInt8.ofNat (0xa0 + n)).toNat = 0xa0 + n := toNat_ofNat_of_lt (by omega)
    rw [List.singleton_append, head?, if_neg, if_neg, if_neg, if_pos, hbyte, Nat.add_sub_cancel_left]
    all_goals rw [UInt8.lt_iff_toNat_lt, hbyte]
    all_goals simp only [UInt8.reduceToNat]; omega
  · simp [head?, sized_bigEndian (show n < 256 ^ 1 from h8)]
  · simp [head?, sized_bigEndian (show n < 256 ^ 2 from h16)]
  · simp [head?, sized_bigEndian (show n < 256 ^ 4 from h)]

theorem head?_listHead {n : Nat} (h : n < UInt32.size) (rest : List UInt8) :
    head? (listHead n ++ rest) = some (.list n, rest) := by
  unfold listHead
  split_ifs with h4 h16
  · have hbyte : (UInt8.ofNat (0x90 + n)).toNat = 0x90 + n := toNat_ofNat_of_lt (by omega)
    rw [List.singleton_append, head?, if_neg, if_neg, if_pos, hbyte, Nat.add_sub_cancel_left]
    all_goals rw [UInt8.lt_iff_toNat_lt, hbyte]
    all_goals simp only [UInt8.reduceToNat]; omega
  · simp [head?, sized_bigEndian (show n < 256 ^ 2 from h16)]
  · simp [head?, sized_bigEndian (show n < 256 ^ 4 from h)]

theorem head?_tableHead {n : Nat} (h : n < UInt32.size) (rest : List UInt8) :
    head? (tableHead n ++ rest) = some (.table n, rest) := by
  unfold tableHead
  split_ifs with h4 h16
  · have hbyte : (UInt8.ofNat (0x80 + n)).toNat = 0x80 + n := toNat_ofNat_of_lt (by omega)
    rw [List.singleton_append, head?, if_neg, if_pos, hbyte, Nat.add_sub_cancel_left]
    all_goals rw [UInt8.lt_iff_toNat_lt, hbyte]
    all_goals simp only [UInt8.reduceToNat]; omega
  · simp [head?, sized_bigEndian (show n < 256 ^ 2 from h16)]
  · simp [head?, sized_bigEndian (show n < 256 ^ 4 from h)]

/-- A head has at least one byte. -/
theorem length_listHead_pos (n : Nat) : 0 < (listHead n).length := by
  unfold listHead
  split_ifs <;> simp

theorem length_tableHead_pos (n : Nat) : 0 < (tableHead n).length := by
  unfold tableHead
  split_ifs <;> simp

/-! ## Values -/

mutual

/-- Whether every text, list and table in a value is short enough for the length in its head. -/
def fits : Value → Bool
  | .text bs => bs.length < UInt32.size
  | .bytes bs => bs.length < UInt32.size
  | .list ws => ws.length < UInt32.size && fitsItems ws
  | .table es => es.length < UInt32.size && fitsEntries es
  | _ => true

/-- Whether the items of a list fit. -/
def fitsItems : List Value → Bool
  | [] => true
  | w :: ws => fits w && fitsItems ws

/-- Whether the keys and values of a table fit. -/
def fitsEntries : List (Value × Value) → Bool
  | [] => true
  | (k, v) :: es => fits k && fits v && fitsEntries es

end

theorem fitsItems_iff {ws : List Value} : fitsItems ws ↔ ∀ w ∈ ws, fits w := by
  induction ws with
  | nil => simp [fitsItems]
  | cons w ws ih => simp [fitsItems, ih]

theorem fitsEntries_iff {es : List (Value × Value)} :
    fitsEntries es ↔ ∀ e ∈ es, fits e.1 ∧ fits e.2 := by
  induction es with
  | nil => simp [fitsEntries]
  | cons e es ih => simp [fitsEntries, ih]

theorem printItems_eq_flatMap (ws : List Value) : printItems ws = ws.flatMap print := by
  induction ws with
  | nil => rfl
  | cons w ws ih => rw [printItems, ih, List.flatMap_cons]

theorem printEntries_eq_flatMap (es : List (Value × Value)) :
    printEntries es = es.flatMap fun e => print e.1 ++ print e.2 := by
  induction es with
  | nil => rfl
  | cons e es ih => rw [printEntries, ih, List.flatMap_cons]

theorem length_le_length_flatMap {α : Type} (write : α → List UInt8) {x : α} {xs : List α}
    (hx : x ∈ xs) : (write x).length ≤ (xs.flatMap write).length := by
  obtain ⟨front, back, rfl⟩ := List.append_of_mem hx
  simp only [List.flatMap_append, List.flatMap_cons, List.length_append]
  omega

/-- Items that are read back one by one are read back together. -/
theorem itemsOnto_flatMap {α : Type} {item : Scanner α} {write : α → List UInt8} {xs : List α}
    (h : ∀ x ∈ xs, ∀ rest, item (write x ++ rest) = some (x, rest)) (done : List α)
    (rest : List UInt8) :
    itemsOnto item done xs.length (xs.flatMap write ++ rest) = some (done.reverse ++ xs, rest) := by
  induction xs generalizing done with
  | nil => simp [itemsOnto]
  | cons x xs ih =>
    have hxs : ∀ y ∈ xs, ∀ rest, item (write y ++ rest) = some (y, rest) :=
      fun y hy => h y (List.mem_cons_of_mem x hy)
    rw [List.length_cons, List.flatMap_cons, List.append_assoc, itemsOnto,
      h x List.mem_cons_self]
    simpa using ih hxs (x :: done)

theorem valueWithin_natural {n : Nat} (h : n < UInt64.size) (levels : Nat) (rest : List UInt8) :
    valueWithin (levels + 1) (print (.natural n) ++ rest) = some (.natural n, rest) := by
  rw [print, valueWithin, head?_natural h]

theorem valueWithin_text {bs : List UInt8} (h : fits (.text bs)) (levels : Nat)
    (rest : List UInt8) :
    valueWithin (levels + 1) (print (.text bs) ++ rest) = some (.text bs, rest) := by
  have hsize : bs.length < UInt32.size := by simpa [fits] using h
  simp [print, valueWithin, head?_textHead hsize, take?_append]

theorem valueWithin_key {k : Value} (hkey : dialect.IsKey k) (h : fits k) (levels : Nat)
    (rest : List UInt8) : valueWithin (levels + 1) (print k ++ rest) = some (k, rest) := by
  rcases hkey with ⟨s, rfl⟩ | ⟨n, hn, rfl⟩
  · exact valueWithin_text h levels rest
  · exact valueWithin_natural (Nat.lt_trans hn (by decide)) levels rest

/-- **A plain value is read back**, with what follows it, if its texts, lists and tables fit. -/
theorem valueWithin_print {w : Value} (hplain : dialect.Plain w) (hfits : fits w) {levels : Nat}
    (hlevels : (print w).length ≤ levels) (rest : List UInt8) :
    valueWithin (levels + 1) (print w ++ rest) = some (w, rest) := by
  -- Each item is shorter than its container, which has a head as well: that many levels are enough.
  induction hplain generalizing levels rest with
  | null => rfl
  | flag b => cases b <;> rfl
  | natural h => exact valueWithin_natural h levels rest
  | text s => exact valueWithin_text hfits levels rest
  | @list ws _ ih =>
    obtain ⟨hsize, hitems⟩ : ws.length < UInt32.size ∧ fitsItems ws := by simpa [fits] using hfits
    rw [print, printItems_eq_flatMap, List.length_append] at hlevels
    have hhead := length_listHead_pos ws.length
    obtain ⟨levels, rfl⟩ : ∃ l, levels = l + 1 := Nat.exists_eq_add_one.2 (by omega)
    have hread : ∀ w ∈ ws, ∀ rest, valueWithin (levels + 1) (print w ++ rest) = some (w, rest) := by
      intro w hw rest
      have hshort := length_le_length_flatMap print hw
      exact ih w hw (fitsItems_iff.1 hitems w hw) (by omega) rest
    rw [print, printItems_eq_flatMap, valueWithin, List.append_assoc, head?_listHead hsize]
    simp [itemsOnto_flatMap hread]
  | @table es hkeys _ ih =>
    obtain ⟨hsize, hentries⟩ : es.length < UInt32.size ∧ fitsEntries es := by
      simpa [fits] using hfits
    rw [print, printEntries_eq_flatMap, List.length_append] at hlevels
    have hhead := length_tableHead_pos es.length
    obtain ⟨levels, rfl⟩ : ∃ l, levels = l + 1 := Nat.exists_eq_add_one.2 (by omega)
    have hread : ∀ e ∈ es, ∀ rest, pair (valueWithin (levels + 1)) (valueWithin (levels + 1))
        ((print e.1 ++ print e.2) ++ rest) = some (e, rest) := by
      intro e he rest
      obtain ⟨hkey, hvalue⟩ := fitsEntries_iff.1 hentries e he
      have hshort := length_le_length_flatMap (fun e : Value × Value => print e.1 ++ print e.2) he
      rw [List.length_append] at hshort
      have hread := ih e he hvalue (show (print e.2).length ≤ levels by omega) rest
      simp [pair, valueWithin_key (hkeys e he) hkey, hread]
    rw [print, printEntries_eq_flatMap, valueWithin, List.append_assoc, head?_tableHead hsize]
    simp [itemsOnto_flatMap hread]

/-- **A plain value is parsed back**, whatever follows it. -/
theorem parse?_print {w : Value} (hplain : dialect.Plain w) (hfits : fits w)
    (rest : List UInt8) : parse? (print w ++ rest) = some w := by
  have hlevels : (print w).length ≤ (print w ++ rest).length := by simp
  rw [parse?, valueWithin_print hplain hfits hlevels, Option.map_some]

/-! ## Reading from more bytes -/

/-- What one scanner reads from some bytes, the other reads from the front of more bytes. -/
def Extends {α : Type} (scan scan' : Scanner α) : Prop :=
  ∀ ⦃bs : List UInt8⦄ ⦃a : α⦄ ⦃rest : List UInt8⦄, scan bs = some (a, rest) →
    ∀ more, scan' (bs ++ more) = some (a, rest ++ more)

theorem Extends.map {α β : Type} {scan scan' : Scanner α} (h : Extends scan scan') (f : α → β) :
    Extends (fun bs => (scan bs).map fun (a, rest) => (f a, rest))
      (fun bs => (scan' bs).map fun (a, rest) => (f a, rest)) := by
  intro bs b rest hread more
  obtain ⟨⟨a, rest⟩, hscan, heq⟩ := Option.map_eq_some_iff.1 hread
  cases heq
  simp [h hscan more]

theorem Extends.pair {α β : Type} {first first' : Scanner α} {second second' : Scanner β}
    (h : Extends first first') (h' : Extends second second') :
    Extends (pair first second) (pair first' second') := by
  intro bs ab rest hread more
  obtain ⟨⟨a, middle⟩, hfirst, hread⟩ := Option.bind_eq_some_iff.1 hread
  obtain ⟨⟨b, rest⟩, hsecond, heq⟩ := Option.map_eq_some_iff.1 hread
  cases heq
  simp [MessagePack.pair, h hfirst more, h' hsecond more]

theorem Extends.itemsOnto {α : Type} {item item' : Scanner α} (h : Extends item item')
    (done : List α) (n : Nat) : Extends (itemsOnto item done n) (itemsOnto item' done n) := by
  induction n generalizing done with
  | zero =>
    intro bs as rest hread more
    cases hread
    rfl
  | succ n ih =>
    intro bs as rest hread more
    rw [MessagePack.itemsOnto] at hread ⊢
    split at hread
    · cases hread
    · rename_i a middle hitem
      rw [h hitem more]
      exact ih (a :: done) hread more

theorem extends_takeOnto (done : List UInt8) (n : Nat) :
    Extends (takeOnto done n) (takeOnto done n) := by
  induction n generalizing done with
  | zero =>
    intro bs taken rest hread more
    simpa [takeOnto] using hread
  | succ n ih =>
    intro bs taken rest hread more
    cases bs with
    | nil => cases hread
    | cons b bs => exact ih (b :: done) hread more

theorem extends_sized (build : Nat → Head) (count : Nat) :
    Extends (sized build count) (sized build count) :=
  ((extends_takeOnto [] count).map ofBigEndian).map build

/-- Both sides take the same branch. -/
theorem ite_imp_ite {α β : Type} {p : Prop} [Decidable p] {x x' a : α} {y y' b : β}
    (ht : x = a → y = b) (hf : x' = a → y' = b) :
    (if p then x else x') = a → (if p then y else y') = b := by
  split_ifs
  · exact ht
  · exact hf

theorem extends_head? : Extends head? head? := by
  intro bs head rest hread more
  cases bs with
  | nil => cases hread
  | cons b bs =>
    rw [List.cons_append]
    revert hread
    unfold head?
    repeat' refine ite_imp_ite ?_ ?_
    all_goals intro hread
    all_goals first
      | exact extends_sized _ _ hread more
      | (cases hread; rfl)
      | cases hread

/-- **A value that was read is read from more bytes as well**, with more levels if need be. -/
theorem extends_valueWithin {levels levels' : Nat} (hle : levels ≤ levels') :
    Extends (valueWithin levels) (valueWithin levels') := by
  induction levels generalizing levels' with
  | zero =>
    intro bs w rest hread
    cases hread
  | succ levels ih =>
    obtain ⟨levels', rfl⟩ : ∃ l, levels' = l + 1 := Nat.exists_eq_add_one.2 (by omega)
    have hitem : Extends (valueWithin levels) (valueWithin levels') := ih (by omega)
    intro bs w rest hread more
    rw [valueWithin] at hread ⊢
    split at hread <;> rename_i hhead
    · cases hread
    all_goals rw [extends_head? hhead more]
    · cases hread
      rfl
    · exact (extends_takeOnto [] _).map _ hread more
    · exact (extends_takeOnto [] _).map _ hread more
    · exact (extends_takeOnto [] _).map (fun _ => Wire.extension) hread more
    · exact (hitem.itemsOnto [] _).map _ hread more
    · exact ((hitem.pair hitem).itemsOnto [] _).map _ hread more

/-- **A value that is cut short is refused**: whatever is read of it would leave the missing bytes
behind, but the value leaves none. -/
theorem parse?_eq_none_of_cut {w : Value} (hplain : dialect.Plain w) (hfits : fits w)
    {bs missing : List UInt8} (hcut : bs ++ missing = print w) (hmissing : missing ≠ []) :
    parse? bs = none := by
  by_contra hparse
  obtain ⟨⟨v, rest⟩, hread⟩ : ∃ r, valueWithin (bs.length + 1) bs = some r :=
    Option.ne_none_iff_exists'.1 fun h => hparse (by rw [parse?, h, Option.map_none])
  have hshort : bs.length ≤ (print w).length := by simp [← hcut]
  have hwhole : valueWithin ((print w).length + 1) (print w) = some (v, rest ++ missing) := by
    have hread := extends_valueWithin (Nat.add_le_add_right hshort 1) hread missing
    rwa [hcut] at hread
  have hback := valueWithin_print hplain hfits (Nat.le_refl _) []
  rw [List.append_nil, hwhole] at hback
  have hrest : rest ++ missing = [] := (Prod.mk.inj (Option.some.inj hback)).2
  exact hmissing (List.append_eq_nil_iff.1 hrest).2

end BindingAudit.MessagePack
