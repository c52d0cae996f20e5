/-
# Reading JSON

What is printed as JSON is parsed back. A number ends where something else starts, so the values
that are read back are those with a suitable character behind them, or nothing.

* `print_list`, `print_table` : what is printed for containers;
* `bracketed_intercalate` : things between brackets come back if each of them does;
* `parse?_print` : a plain value comes back.
-/
import BindingAudit.Proofs.JsonTexts

namespace BindingAudit.Json

/-! ## Printed forms -/

theorem print_natural (n : Nat) : print (.natural n) = Nat.toDigits 10 n := rfl

theorem print_text (t : List Char) : print (.text t) = '"' :: t ++ ['"'] := rfl

theorem printItems_eq_intercalate (ws : List Value) :
    printItems ws = [','].intercalate (ws.map print) := by
  induction ws with
  | nil => rfl
  | cons w ws ih =>
    cases ws with
    | nil => exact List.intercalate_singleton.symm
    | cons w' ws =>
      have hprint : printItems (w :: w' :: ws) = print w ++ ',' :: printItems (w' :: ws) := rfl
      simp [hprint, ih]

/-- A list is printed as its items between brackets. -/
theorem print_list (ws : List Value) :
    print (.list ws) = '[' :: [','].intercalate (ws.map print) ++ [']'] := by
  rw [← printItems_eq_intercalate]
  rfl

/-- The written form of a key and its value. -/
def printMember (e : Value × Value) : List Char := print e.1 ++ ':' :: print e.2

theorem printMembers_eq_intercalate (es : List (Value × Value)) :
    printMembers es = [','].intercalate (es.map printMember) := by
  induction es with
  | nil => rfl
  | cons e es ih =>
    cases es with
    | nil => exact List.intercalate_singleton.symm
    | cons e' es =>
      have hprint : printMembers (e :: e' :: es) =
          printMember e ++ ',' :: printMembers (e' :: es) := rfl
      simp [hprint, ih]

/-- A table is printed as its members between braces. -/
theorem print_table (es : List (Value × Value)) :
    print (.table es) = '{' :: [','].intercalate (es.map printMember) ++ ['}'] := by
  rw [← printMembers_eq_intercalate]
  rfl

/-! ## Scalars -/

/-- A number does not go on here. -/
def Delimited (rest : List Char) : Prop :=
  ∀ c ∈ rest.head?, ¬c.isDigit ∧ c ≠ '.' ∧ c ≠ 'e' ∧ c ≠ 'E'

theorem delimited_nil : Delimited [] := by simp [Delimited]

theorem delimited_comma (rest : List Char) : Delimited (',' :: rest) := by
  simp [Delimited]

theorem delimited_bracket (rest : List Char) : Delimited (']' :: rest) := by
  simp [Delimited]

theorem delimited_brace (rest : List Char) : Delimited ('}' :: rest) := by
  simp [Delimited]

theorem magnitude?_toDigits (n : Nat) {rest : List Char} (hrest : Delimited rest) :
    magnitude? (Nat.toDigits 10 n ++ rest) = some (some n, rest) := by
  have hdigits : ∀ c ∈ Nat.toDigits 10 n, c.isDigit := fun c hc => isDigit_of_mem_toDigits hc
  have htake : (Nat.toDigits 10 n ++ rest).takeWhile Char.isDigit = Nat.toDigits 10 n := by
    rw [List.takeWhile_append_of_pos hdigits]
    cases rest with
    | nil => simp
    | cons c rest => simp [(hrest c rfl).1]
  have hdrop : (Nat.toDigits 10 n ++ rest).dropWhile Char.isDigit = rest := by
    rw [List.dropWhile_append_of_pos hdigits]
    cases rest with
    | nil => rfl
    | cons c rest => simp [(hrest c rfl).1]
  rw [magnitude?, htake, hdrop, decimal?_toDigits]
  cases rest with
  | nil => rfl
  | cons c rest =>
    obtain ⟨-, hpoint, he, hE⟩ := hrest c rfl
    simp [hpoint, he, hE]

theorem skipBlanks_cons {c : Char} (hc : isBlank c = false) (cs : List Char) :
    skipBlanks (c :: cs) = c :: cs := by
  simp [skipBlanks, hc]

/-- What starts like a number is read as one. -/
theorem valueWithin_of_number {c : Char} (hc : c = '-' ∨ c.isDigit) {cs rest : List Char}
    (hcs : skipBlanks cs = c :: rest) (steps levels : Nat) :
    valueWithin steps (levels + 1) cs = number? (c :: rest) := by
  rw [valueWithin, hcs]
  split <;> simp_all

theorem isBlank_of_isDigit {c : Char} (h : c.isDigit) : isBlank c = false := by
  have hrange : 48 ≤ c.toNat := (Char.isDigit_iff_toNat.1 h).1
  have hne {b : Char} (hb : b.toNat < 48) : c ≠ b := by
    rintro rfl
    omega
  simp [isBlank, hne (b := ' ') (by decide), hne (b := '\t') (by decide), hne (b := '\n') (by decide),
    hne (b := '\r') (by decide)]

theorem exists_toDigits_eq_cons (n : Nat) :
    ∃ c cs, Nat.toDigits 10 n = c :: cs ∧ c.isDigit := by
  obtain ⟨c, cs, h⟩ := List.exists_cons_of_ne_nil (Nat.toDigits_ne_nil : Nat.toDigits 10 n ≠ [])
  exact ⟨c, cs, h, isDigit_of_mem_toDigits (h ▸ List.mem_cons_self)⟩

theorem valueWithin_natural (n : Nat) {rest : List Char} (hrest : Delimited rest)
    (steps levels : Nat) :
    valueWithin steps (levels + 1) (print (.natural n) ++ rest) = some (.natural n, rest) := by
  obtain ⟨c, cs, hcs, hc⟩ := exists_toDigits_eq_cons n
  have hskip : skipBlanks (print (.natural n) ++ rest) = c :: (cs ++ rest) := by
    rw [print_natural, hcs, List.cons_append, skipBlanks_cons (isBlank_of_isDigit hc)]
  have hmagnitude := magnitude?_toDigits n hrest
  rw [hcs, List.cons_append] at hmagnitude
  rw [valueWithin_of_number (.inr hc) hskip, number?]
  · rw [hmagnitude, Option.map_some]
  · rintro rest' hminus
    cases hminus
    simp at hc

theorem valueWithin_text {t cs : List Char} (h : Spells t cs) (steps levels : Nat)
    (rest : List Char) :
    valueWithin steps (levels + 1) (print (.text t) ++ rest) = some (.text t, rest) := by
  simp [print_text, valueWithin, skipBlanks_cons, isBlank, textOnto_of_spells h]

/-! ## Containers -/

/-- A part is no longer than the whole. -/
theorem length_le_intercalate {part : List Char} {parts : List (List Char)} (h : part ∈ parts) :
    part.length ≤ ([','].intercalate parts).length := by
  induction parts with
  | nil => cases h
  | cons first parts ih =>
    cases parts with
    | nil => simp_all
    | cons second parts =>
      rw [List.intercalate_cons_cons, List.length_append, List.length_append]
      rcases List.mem_cons.1 h with rfl | h
      · omega
      · have := ih h
        omega

/-- Between the parts are commas. -/
theorem length_le_length_intercalate (parts : List (List Char)) :
    parts.length ≤ ([','].intercalate parts).length + 1 := by
  induction parts with
  | nil => simp
  | cons first parts ih =>
    cases parts with
    | nil => simp
    | cons second parts =>
      simp only [List.intercalate_cons_cons, List.length_append, List.length_cons,
        List.length_nil] at ih ⊢
      omega

/-- What the first part starts with is what the whole starts with. -/
theorem skipBlanks_intercalate {α : Type} {write : α → List Char} {x : α} {c : Char}
    {cs : List Char} (hcs : write x = c :: cs) (hblank : isBlank c = false) (xs : List α)
    (rest : List Char) :
    skipBlanks ([','].intercalate ((x :: xs).map write) ++ rest) =
      c :: ([','].intercalate (cs :: xs.map write) ++ rest) := by
  rw [List.map_cons, hcs, List.intercalate_cons_cons_left, List.cons_append, skipBlanks_cons hblank]

/-- Things that are read back one by one are read back together. -/
theorem separatedOnto_intercalate {α : Type} {item : Scanner α} {write : α → List Char}
    {close : Char} (hclose : close ≠ ',') (hblank : isBlank close = false)
    (hnumber : ∀ rest, Delimited (close :: rest)) {x : α} {xs : List α}
    (h : ∀ y ∈ x :: xs, ∀ rest, Delimited rest → item (write y ++ rest) = some (y, rest))
    {steps : Nat} (hsteps : xs.length < steps) (done : List α) (rest : List Char) :
    separatedOnto item close steps done ([','].intercalate ((x :: xs).map write) ++ close :: rest) =
      some (done.reverse ++ x :: xs, rest) := by
  induction xs generalizing x steps done with
  | nil =>
    obtain ⟨steps, rfl⟩ : ∃ n, steps = n + 1 := Nat.exists_eq_add_one.2 (by omega)
    have hx := h x List.mem_cons_self (close :: rest) (hnumber rest)
    simp [separatedOnto, hx, skipBlanks_cons hblank, hclose]
  | cons x' xs ih =>
    obtain ⟨steps, rfl⟩ : ∃ n, steps = n + 1 := Nat.exists_eq_add_one.2 (by omega)
    have hx := h x List.mem_cons_self
      (',' :: ([','].intercalate ((x' :: xs).map write) ++ close :: rest)) (delimited_comma _)
    have hxs := ih (fun y hy => h y (List.mem_cons_of_mem x hy))
      (show xs.length < steps by simpa using hsteps) (x :: done)
    simp only [List.map_cons, List.intercalate_cons_cons, List.append_assoc,
      List.cons_append, separatedOnto] at hx hxs ⊢
    simp [hx, hxs, skipBlanks_cons, isBlank]

/-- Something between brackets is read back. -/
theorem bracketed_intercalate {α : Type} {item : Scanner α} {write : α → List Char} {close : Char}
    (hclose : close ≠ ',') (hblank : isBlank close = false)
    (hnumber : ∀ rest, Delimited (close :: rest)) {xs : List α}
    (hstart : ∀ x ∈ xs, ∃ c cs, write x = c :: cs ∧ isBlank c = false ∧ c ≠ close)
    (h : ∀ x ∈ xs, ∀ rest, Delimited rest → item (write x ++ rest) = some (x, rest))
    {steps : Nat} (hsteps : xs.length ≤ steps) (rest : List Char) :
    bracketed item close steps ([','].intercalate (xs.map write) ++ close :: rest) =
      some (xs, rest) := by
  cases xs with
  | nil => simp [bracketed, skipBlanks_cons hblank]
  | cons x xs =>
    obtain ⟨c, cs, hcs, hc, hne⟩ := hstart x List.mem_cons_self
    have hread := separatedOnto_intercalate hclose hblank hnumber h hsteps [] rest
    rw [bracketed, skipBlanks_intercalate hcs hc]
    simpa [hne] using hread

theorem exists_spells_of_isKey {k : Value} (h : dialect.IsKey k) :
    ∃ t cs, k = .text t ∧ Spells t cs := by
  rcases h with ⟨s, rfl⟩ | ⟨n, -, rfl⟩
  · exact ⟨_, _, rfl, spells_escape s⟩
  · exact ⟨_, _, rfl, spells_of_digits fun c hc => isDigit_of_mem_toDigits hc⟩

/-- What is printed for a member starts with the quote of its key. -/
theorem exists_printMember_eq_cons {e : Value × Value} (hkey : dialect.IsKey e.1) :
    ∃ c cs, printMember e = c :: cs ∧ isBlank c = false ∧ c ≠ '}' := by
  obtain ⟨t, -, ht, -⟩ := exists_spells_of_isKey hkey
  exact ⟨'"', t ++ ['"'] ++ ':' :: print e.2, by rw [printMember, ht, print_text]; rfl, rfl, by decide⟩

theorem member_printMember {value : Scanner Value} {e : Value × Value} (hkey : dialect.IsKey e.1)
    {rest : List Char} (h : value (print e.2 ++ rest) = some (e.2, rest)) :
    member value (printMember e ++ rest) = some (e, rest) := by
  obtain ⟨k, v⟩ := e
  obtain ⟨t, cs, rfl, ht⟩ := exists_spells_of_isKey hkey
  have hkey : key? (printMember (.text t, v) ++ rest) = some (.text t, print v ++ rest) := by
    simp [key?, printMember, print_text, skipBlanks_cons, isBlank, textOnto_of_spells ht]
  simp [member, hkey, h]

/-! ## Values -/

/-- What is printed starts neither with a blank nor with the end of a list. -/
theorem exists_print_eq_cons {w : Value} (hplain : dialect.Plain w) :
    ∃ c cs, print w = c :: cs ∧ isBlank c = false ∧ c ≠ ']' := by
  cases hplain with
  | null => exact ⟨'n', ['u', 'l', 'l'], rfl, rfl, by decide⟩
  | flag b =>
    cases b with
    | true => exact ⟨'t', ['r', 'u', 'e'], rfl, rfl, by decide⟩
    | false => exact ⟨'f', ['a', 'l', 's', 'e'], rfl, rfl, by decide⟩
  | @natural n _ =>
    obtain ⟨c, cs, hcs, hc⟩ := exists_toDigits_eq_cons n
    refine ⟨c, cs, by rw [print_natural, hcs], isBlank_of_isDigit hc, ?_⟩
    rintro rfl
    simp at hc
  | text s => exact ⟨'"', _, rfl, rfl, by decide⟩
  | list _ => exact ⟨'[', _, rfl, rfl, by decide⟩
  | table _ _ => exact ⟨'{', _, rfl, rfl, by decide⟩

theorem valueWithin_bracket (steps levels : Nat) {text cs : List Char}
    (htext : skipBlanks text = '[' :: cs) :
    valueWithin steps (levels + 1) text = (bracketed (valueWithin steps levels) ']' steps cs).map
      fun (ws, rest) => (.list ws, rest) := by
  rw [valueWithin, htext]
  rfl

theorem valueWithin_brace (steps levels : Nat) {text cs : List Char}
    (htext : skipBlanks text = '{' :: cs) :
    valueWithin steps (levels + 1) text =
      (bracketed (member (valueWithin steps levels)) '}' steps cs).map
        fun (es, rest) => (.table es, rest) := by
  rw [valueWithin, htext]
  rfl

/-- **A plain value is read back**, with what follows it, if a number could not go on there. -/
theorem valueWithin_print {w : Value} (hplain : dialect.Plain w) {steps levels : Nat}
    (hsteps : (print w).length ≤ steps) (hlevels : (print w).length ≤ levels) {rest : List Char}
    (hrest : Delimited rest) : valueWithin steps (levels + 1) (print w ++ rest) = some (w, rest) := by
  -- Each item is shorter than its container, which has brackets as well.
  induction hplain generalizing levels rest with
  | null => rfl
  | flag b => cases b <;> rfl
  | natural _ => exact valueWithin_natural _ hrest steps levels
  | text s => exact valueWithin_text (spells_escape s) steps levels rest
  | @list ws hws ih =>
    rw [print_list] at hsteps hlevels ⊢
    simp only [List.length_append, List.length_cons, List.length_nil] at hsteps hlevels
    obtain ⟨levels, rfl⟩ : ∃ l, levels = l + 1 := Nat.exists_eq_add_one.2 (by omega)
    have hread : ∀ w ∈ ws, ∀ rest, Delimited rest →
        valueWithin steps (levels + 1) (print w ++ rest) = some (w, rest) := by
      intro w hw rest hrest
      have hshort := length_le_intercalate (List.mem_map_of_mem (f := print) hw)
      exact ih w hw (by omega) (by omega) hrest
    have hlength := length_le_length_intercalate (ws.map print)
    rw [List.length_map] at hlength
    have hitems : bracketed (valueWithin steps (levels + 1)) ']' steps
        ([','].intercalate (ws.map print) ++ ']' :: rest) = some (ws, rest) :=
      bracketed_intercalate (by decide) rfl delimited_bracket
        (fun w hw => exists_print_eq_cons (hws w hw)) hread (by omega) rest
    rw [List.append_assoc, List.cons_append, valueWithin_bracket steps _ rfl]
    exact congrArg (Option.map _) hitems
  | @table es hkeys _ ih =>
    rw [print_table] at hsteps hlevels ⊢
    simp only [List.length_append, List.length_cons, List.length_nil] at hsteps hlevels
    obtain ⟨levels, rfl⟩ : ∃ l, levels = l + 1 := Nat.exists_eq_add_one.2 (by omega)
    have hread : ∀ e ∈ es, ∀ rest, Delimited rest →
        member (valueWithin steps (levels + 1)) (printMember e ++ rest) = some (e, rest) := by
      intro e he rest hrest
      have hshort := length_le_intercalate (List.mem_map_of_mem (f := printMember) he)
      simp only [printMember, List.length_append, List.length_cons] at hshort
      exact member_printMember (hkeys e he) (ih e he (by omega) (by omega) hrest)
    have hlength := length_le_length_intercalate (es.map printMember)
    rw [List.length_map] at hlength
    have hmembers : bracketed (member (valueWithin steps (levels + 1))) '}' steps
        ([','].intercalate (es.map printMember) ++ '}' :: rest) = some (es, rest) :=
      bracketed_intercalate (by decide) rfl delimited_brace
        (fun e he => exists_printMember_eq_cons (hkeys e he)) hread (by omega) rest
    rw [List.append_assoc, List.cons_append, valueWithin_brace steps _ rfl]
    exact congrArg (Option.map _) hmembers

/-- **A plain value is parsed back.** -/
theorem parse?_print {w : Value} (hplain : dialect.Plain w) : parse? (print w) = some w := by
  have hread := valueWithin_print hplain (Nat.le_succ _) (Nat.le_refl _) delimited_nil
  rw [List.append_nil] at hread
  simp [parse?, hread, skipBlanks]

end BindingAudit.Json
