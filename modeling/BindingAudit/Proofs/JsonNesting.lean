/-
# How deeply a JSON document is nested

The nesting of a document can be told from its text alone, by counting the brackets and braces that
are open outside of texts. For a printed value it is the height of the value.

* `nesting` : the deepest nesting of objects and arrays in a text;
* `nesting_print` : what it is for a printed value.
-/
import BindingAudit.Proofs.JsonReading

namespace BindingAudit.Json

/-! ## Counting brackets -/

/-- Where in a document a character stands. -/
inductive Place where
  | outside
  | inText
  /-- Right behind a backslash. -/
  | escaped

/-- A count of brackets on its way through a document. -/
structure BracketCount where
  place : Place
  /-- The number of brackets that are open. -/
  depth : Nat
  /-- The greatest number of brackets that were open so far. -/
  deepest : Nat

namespace BracketCount

/-- Counts one more character. -/
def next (b : BracketCount) (c : Char) : BracketCount :=
  match b.place with
  | .escaped => { b with place := .inText }
  | .inText =>
      if c = '"' then { b with place := .outside }
      else if c = '\\' then { b with place := .escaped }
      else b
  | .outside =>
      if c = '"' then { b with place := .inText }
      else if c = '[' ∨ c = '{' then
        { b with depth := b.depth + 1, deepest := max b.deepest (b.depth + 1) }
      else if c = ']' ∨ c = '}' then { b with depth := b.depth - 1 }
      else b

end BracketCount

/-- The deepest nesting of objects and arrays in a document. -/
def nesting (document : List Char) : Nat :=
  (document.foldl BracketCount.next ⟨.outside, 0, 0⟩).deepest

open BracketCount

/-! ## Counting in printed values -/

variable {depth deepest : Nat}

theorem ne_of_hexValue? {c : Char} {n : Nat} (h : hexValue? c = some n) : c ≠ '"' ∧ c ≠ '\\' := by
  constructor
  · rintro rfl
    cases h
  · rintro rfl
    cases h

theorem next_inText {c : Char} (h : c ≠ '"' ∧ c ≠ '\\') :
    next ⟨.inText, depth, deepest⟩ c = ⟨.inText, depth, deepest⟩ := by
  simp [next, h]

/-- A piece of a text does not end it. -/
theorem foldl_next_piece {p : List Char} {c : Char} (hp : Piece p c) :
    p.foldl next ⟨.inText, depth, deepest⟩ = ⟨.inText, depth, deepest⟩ := by
  cases hp with
  | plain hquote hslash _ => exact next_inText ⟨hquote, hslash⟩
  | short _ => simp [next]
  | hex h _ =>
    unfold hexNumber? at h
    split at h
    · rename_i hx hy hz hw
      have hu : next (next ⟨.inText, depth, deepest⟩ '\\') 'u' = ⟨.inText, depth, deepest⟩ := rfl
      simp only [List.foldl_cons, List.foldl_nil, hu, next_inText (ne_of_hexValue? hx),
        next_inText (ne_of_hexValue? hy), next_inText (ne_of_hexValue? hz),
        next_inText (ne_of_hexValue? hw)]
    · cases h

/-- Brackets in texts do not count. -/
theorem foldl_next_text {t cs : List Char} (h : Spells t cs) :
    (print (.text t)).foldl next ⟨.outside, depth, deepest⟩ = ⟨.outside, depth, deepest⟩ := by
  have hinner : t.foldl next ⟨.inText, depth, deepest⟩ = ⟨.inText, depth, deepest⟩ := by
    induction h with
    | nil => rfl
    | cons hp _ ih => rw [List.foldl_append, foldl_next_piece hp, ih]
  have hquote : next ⟨.outside, depth, deepest⟩ '"' = ⟨.inText, depth, deepest⟩ := rfl
  rw [print_text, List.cons_append, List.foldl_cons, hquote, List.foldl_append, hinner]
  rfl

theorem foldl_next_digits {cs : List Char} (h : ∀ c ∈ cs, c.isDigit) :
    cs.foldl next ⟨.outside, depth, deepest⟩ = ⟨.outside, depth, deepest⟩ := by
  induction cs with
  | nil => rfl
  | cons c cs ih =>
    obtain ⟨hc, hcs⟩ := List.forall_mem_cons.1 h
    have hne {b : Char} (hb : ¬b.isDigit) : c ≠ b := by
      rintro rfl
      exact hb hc
    have hstep : next ⟨.outside, depth, deepest⟩ c = ⟨.outside, depth, deepest⟩ := by
      simp [next, hne (b := '"') (by decide), hne (b := '[') (by decide), hne (b := ']') (by decide),
        hne (b := '{') (by decide), hne (b := '}') (by decide)]
    rw [List.foldl_cons, hstep, ih hcs]

/-- The parts of a container are counted one after the other. -/
theorem foldl_next_intercalate {α : Type} {write : α → List Char} {height : α → Nat} {xs : List α}
    (h : ∀ x ∈ xs, ∀ deepest, depth ≤ deepest → (write x).foldl next ⟨.outside, depth, deepest⟩ =
      ⟨.outside, depth, max deepest (depth + height x)⟩) (hdepth : depth ≤ deepest) :
    ([','].intercalate (xs.map write)).foldl next ⟨.outside, depth, deepest⟩ =
      ⟨.outside, depth, max deepest (depth + (xs.map height).foldr max 0)⟩ := by
  induction xs generalizing deepest with
  | nil => simp [hdepth]
  | cons x xs ih =>
    have hx := h x List.mem_cons_self deepest hdepth
    have hxs := ih (fun y hy => h y (List.mem_cons_of_mem x hy))
      (show depth ≤ max deepest (depth + height x) by omega)
    cases xs with
    | nil => simpa using hx
    | cons y ys =>
      have hcomma (b : Nat) : [','].foldl next ⟨.outside, depth, b⟩ = ⟨.outside, depth, b⟩ := rfl
      have hparts : [','].intercalate ((x :: y :: ys).map write) =
          write x ++ [','] ++ [','].intercalate ((y :: ys).map write) := List.intercalate_cons_cons
      rw [hparts, List.foldl_append, List.foldl_append, hx, hcomma, hxs]
      simp only [List.map_cons, List.foldr_cons, BracketCount.mk.injEq, true_and]
      omega

/-- Brackets make what is between them one level deeper. -/
theorem foldl_next_bracketed {first last : Char} (hfirst : first = '[' ∨ first = '{')
    (hlast : last = ']' ∨ last = '}') {inner : List Char} {height : Nat}
    (h : inner.foldl next ⟨.outside, depth + 1, max deepest (depth + 1)⟩ =
      ⟨.outside, depth + 1, max (max deepest (depth + 1)) (depth + 1 + height)⟩) :
    (first :: inner ++ [last]).foldl next ⟨.outside, depth, deepest⟩ =
      ⟨.outside, depth, max deepest (depth + (height + 1))⟩ := by
  have hopen : next ⟨.outside, depth, deepest⟩ first =
      ⟨.outside, depth + 1, max deepest (depth + 1)⟩ := by
    rcases hfirst with rfl | rfl <;> rfl
  have hclose (b : Nat) : [last].foldl next ⟨.outside, depth + 1, b⟩ = ⟨.outside, depth, b⟩ := by
    rcases hlast with rfl | rfl <;> rfl
  rw [List.cons_append, List.foldl_cons, hopen, List.foldl_append, h, hclose]
  simp only [BracketCount.mk.injEq, true_and]
  omega

theorem heightList_eq (ws : List Value) : Wire.heightList ws = (ws.map Wire.height).foldr max 0 := by
  induction ws with
  | nil => rfl
  | cons w ws ih => simp [Wire.heightList, ih]

/-- The keys of a table are no containers. -/
theorem heightTable_eq {es : List (Value × Value)} (h : ∀ e ∈ es, dialect.IsKey e.1) :
    Wire.heightTable es = (es.map fun e => e.2.height).foldr max 0 := by
  induction es with
  | nil => rfl
  | cons e es ih =>
    obtain ⟨hkey, hkeys⟩ := List.forall_mem_cons.1 h
    simp [Wire.heightTable, faithful.height_of_isKey hkey, ih hkeys]

/-- Counting through a printed value leaves the open brackets as they were. -/
theorem foldl_next_print {w : Value} (hplain : dialect.Plain w) (hdepth : depth ≤ deepest) :
    (print w).foldl next ⟨.outside, depth, deepest⟩ =
      ⟨.outside, depth, max deepest (depth + w.height)⟩ := by
  have hscalar {depth deepest : Nat} (hdepth : depth ≤ deepest) :
      (⟨.outside, depth, deepest⟩ : BracketCount) = ⟨.outside, depth, max deepest (depth + 0)⟩ := by
    rw [Nat.add_zero, Nat.max_eq_left hdepth]
  induction hplain generalizing depth deepest with
  | null => exact hscalar hdepth
  | flag b => cases b <;> exact hscalar hdepth
  | natural _ =>
    rw [print_natural, foldl_next_digits fun c hc => isDigit_of_mem_toDigits hc]
    exact hscalar hdepth
  | text s => exact (foldl_next_text (spells_escape s)).trans (hscalar hdepth)
  | @list ws _ ih =>
    rw [print_list, Wire.height, heightList_eq]
    refine foldl_next_bracketed (.inl rfl) (.inl rfl) (foldl_next_intercalate ?_ (by omega))
    exact fun w hw deepest hdepth => ih w hw hdepth
  | @table es hkeys _ ih =>
    rw [print_table, Wire.height, heightTable_eq hkeys]
    refine foldl_next_bracketed (.inr rfl) (.inr rfl) (foldl_next_intercalate ?_ (by omega))
    intro e he deepest hdepth
    obtain ⟨t, cs, hkey, ht⟩ := exists_spells_of_isKey (hkeys e he)
    rw [printMember, hkey, List.foldl_append, foldl_next_text ht, List.foldl_cons]
    exact ih e he hdepth

/-- **The nesting of a printed value** is its height. -/
theorem nesting_print {w : Value} (hplain : dialect.Plain w) : nesting (print w) = w.height := by
  rw [nesting, foldl_next_print hplain (Nat.le_refl 0)]
  simp

end BindingAudit.Json
