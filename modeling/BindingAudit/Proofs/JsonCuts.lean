/-
# JSON texts that are cut short

Reading does not look past the value that it reads, except behind a number, which could go on. So a
table that was read from the first part of a text is the table that is read from the whole text, and
leaves the rest of it unread.

* `extends_valueWithin` : what was read from a text is read from the front of a longer text;
* `parse?_eq_none_of_cut` : a table that is cut short is refused. A number may not be, since what is
  left of it can be a number as well.
-/
import BindingAudit.Proofs.JsonReading

namespace BindingAudit.Json

/-- What one scanner reads from a text without reaching its end, the other reads from the front of
a longer text. At the end of a text a number could go on. -/
def Extends {α : Type} (scan scan' : Scanner α) : Prop :=
  ∀ ⦃cs : List Char⦄ ⦃a : α⦄ ⦃c : Char⦄ ⦃rest : List Char⦄, scan cs = some (a, c :: rest) →
    ∀ more, scan' (cs ++ more) = some (a, c :: (rest ++ more))

/-! ## Texts and numbers -/

theorem dropWhile_append_of_eq_cons {p : Char → Bool} {cs : List Char} {c : Char} {rest : List Char}
    (h : cs.dropWhile p = c :: rest) (more : List Char) :
    (cs ++ more).dropWhile p = c :: (rest ++ more) := by
  simp [List.dropWhile_append, h]

theorem takeWhile_append_of_eq_cons {p : Char → Bool} {cs : List Char} {c : Char} {rest : List Char}
    (h : cs.dropWhile p = c :: rest) (more : List Char) :
    (cs ++ more).takeWhile p = cs.takeWhile p := by
  have hsplit : cs.takeWhile p ++ cs.dropWhile p = cs := List.takeWhile_append_dropWhile
  have hlength : (cs.takeWhile p).length ≠ cs.length := by
    rw [h] at hsplit
    have := congrArg List.length hsplit
    simp at this
    omega
  rw [List.takeWhile_append, if_neg hlength]

theorem skipBlanks_append {cs : List Char} {c : Char} {rest : List Char}
    (h : skipBlanks cs = c :: rest) (more : List Char) :
    skipBlanks (cs ++ more) = c :: (rest ++ more) := dropWhile_append_of_eq_cons h more

theorem textOnto_append {done cs t rest : List Char} (h : textOnto done cs = some (t, rest))
    (more : List Char) : textOnto done (cs ++ more) = some (t, rest ++ more) := by
  fun_induction textOnto done cs with
  | case1 => cases h
  | case2 =>
    cases h
    simp [textOnto]
  -- An escape is read as a whole or not at all, so that no text ends in the middle of one.
  | case3 done a b c d cs hhex ih => simp [textOnto, hhex, ih h]
  | case4 => cases h
  | case5 done letter cs _ hshort ih =>
    have hu := ne_u_of_shortEscaped? hshort
    simp [textOnto, hshort, hu, ih h]
  | case6 => cases h
  | case7 => cases h
  | case8 done c cs hquote _ _ hplain ih =>
    have hslash : c ≠ '\\' := by
      rintro rfl
      simp at hplain
    simp_all [textOnto]

theorem dropDigits?_append {cs : List Char} {c : Char} {rest : List Char}
    (h : dropDigits? cs = some (c :: rest)) (more : List Char) :
    dropDigits? (cs ++ more) = some (c :: (rest ++ more)) := by
  cases cs with
  | nil => cases h
  | cons d cs =>
    rw [dropDigits?] at h
    split_ifs at h with hd
    have hdrop := dropWhile_append_of_eq_cons (Option.some.inj h) more
    rw [List.cons_append] at hdrop ⊢
    rw [dropDigits?, if_pos hd, hdrop]

theorem dropExponent?_append {cs : List Char} {c : Char} {rest : List Char}
    (h : dropExponent? cs = some (c :: rest)) (more : List Char) :
    dropExponent? (cs ++ more) = some (c :: (rest ++ more)) := by
  revert h
  fun_cases dropExponent? cs with
  | case1 => rintro ⟨⟩
  | case2 e he cs =>
    intro h
    simpa [dropExponent?, he] using dropDigits?_append h more
  | case3 e he cs =>
    intro h
    simpa [dropExponent?, he] using dropDigits?_append h more
  | case4 e cs he hplus hminus =>
    intro h
    cases cs with
    | nil => cases h
    | cons d cs =>
      have hd : d ≠ '+' := fun h => hplus cs (by rw [h])
      have hd' : d ≠ '-' := fun h => hminus cs (by rw [h])
      simpa [dropExponent?, he, hd, hd'] using dropDigits?_append h more
  | case5 d cs he =>
    rintro ⟨⟩
    simp [dropExponent?, he]

theorem dropFraction?_append {cs : List Char} {c : Char} {rest : List Char}
    (h : dropFraction? cs = some (c :: rest)) (more : List Char) :
    dropFraction? (cs ++ more) = some (c :: (rest ++ more)) := by
  revert h
  fun_cases dropFraction? cs with
  | case1 cs =>
    intro h
    obtain ⟨middle, hdigits, hexponent⟩ := Option.bind_eq_some_iff.1 h
    cases middle with
    | nil => cases hexponent
    | cons d middle =>
      simpa [dropFraction?, dropDigits?_append hdigits more] using
        dropExponent?_append hexponent more
  | case2 cs hpoint =>
    intro h
    cases cs with
    | nil => cases h
    | cons d cs =>
      have hd : d ≠ '.' := fun h => hpoint cs (by rw [h])
      simpa [dropFraction?, hd] using dropExponent?_append h more

theorem magnitude?_append {cs : List Char} {n : Option Nat} {c : Char} {rest : List Char}
    (h : magnitude? cs = some (n, c :: rest)) (more : List Char) :
    magnitude? (cs ++ more) = some (n, c :: (rest ++ more)) := by
  obtain ⟨m, hdigits, h⟩ := Option.bind_eq_some_iff.1 h
  cases hdrop : cs.dropWhile Char.isDigit with
  | nil => simp [hdrop] at h
  | cons d tail =>
    rw [magnitude?, takeWhile_append_of_eq_cons hdrop, dropWhile_append_of_eq_cons hdrop, hdigits,
      Option.bind_some]
    simp only [hdrop] at h ⊢
    split_ifs at h ⊢ with hd
    · obtain ⟨rest', hfraction, heq⟩ := Option.map_eq_some_iff.1 h
      cases heq
      have := dropFraction?_append hfraction more
      rw [List.cons_append] at this
      rw [this, Option.map_some]
    · cases h
      rfl

theorem number?_append {cs : List Char} {w : Value} {c : Char} {rest : List Char}
    (h : number? cs = some (w, c :: rest)) (more : List Char) :
    number? (cs ++ more) = some (w, c :: (rest ++ more)) := by
  revert h
  fun_cases number? cs with
  | case1 cs =>
    intro h
    obtain ⟨⟨n, rest'⟩, hmagnitude, heq⟩ := Option.map_eq_some_iff.1 h
    rcases n with _ | _ | n <;> cases heq <;>
      simp [number?, magnitude?_append hmagnitude more]
  | case2 cs hminus =>
    intro h
    obtain ⟨⟨n, rest'⟩, hmagnitude, heq⟩ := Option.map_eq_some_iff.1 h
    cases cs with
    | nil => cases hmagnitude
    | cons d cs =>
      have hd : d ≠ '-' := fun h => hminus cs (by rw [h])
      rcases n with _ | n
      all_goals
        cases heq
        have hlong := magnitude?_append hmagnitude more
        rw [List.cons_append] at hlong
        simp [number?, hd, hlong]

/-- A number starts with its sign or with a digit. -/
theorem exists_of_number? {cs : List Char} {r : Value × List Char} (h : number? cs = some r) :
    ∃ c tail, cs = c :: tail ∧ (c = '-' ∨ c.isDigit) := by
  revert h
  fun_cases number? cs with
  | case1 cs => exact fun _ => ⟨'-', cs, rfl, .inl rfl⟩
  | case2 cs hminus =>
    intro h
    obtain ⟨_, hmagnitude, -⟩ := Option.map_eq_some_iff.1 h
    obtain ⟨_, hdigits, -⟩ := Option.bind_eq_some_iff.1 hmagnitude
    cases cs with
    | nil => cases hdigits
    | cons c cs =>
      refine ⟨c, cs, rfl, .inr ?_⟩
      by_contra hc
      simp [hc, decimal?] at hdigits

/-! ## Containers -/

theorem Extends.separatedOnto {α : Type} {item item' : Scanner α} (h : Extends item item')
    (close : Char) {steps steps' : Nat} (hle : steps ≤ steps') {done xs : List α}
    {cs rest : List Char} (hread : separatedOnto item close steps done cs = some (xs, rest))
    (more : List Char) :
    separatedOnto item' close steps' done (cs ++ more) = some (xs, rest ++ more) := by
  induction steps generalizing steps' done cs with
  | zero => cases hread
  | succ steps ih =>
    obtain ⟨steps', rfl⟩ : ∃ n, steps' = n + 1 := Nat.exists_eq_add_one.2 (by omega)
    rw [Json.separatedOnto] at hread ⊢
    split at hread
    · cases hread
    · rename_i a behind hitem
      split at hread
      · cases hread
      · rename_i c tail hskip
        -- What follows the item is not the end of the text, so that the item is read again.
        cases behind with
        | nil => cases hskip
        | cons d behind =>
          rw [h hitem more]
          have hskip := skipBlanks_append hskip more
          rw [List.cons_append] at hskip
          simp only [hskip]
          split_ifs at hread ⊢
          · exact ih (by omega) hread
          · cases hread
            rfl

theorem Extends.bracketed {α : Type} {item item' : Scanner α} (h : Extends item item')
    (close : Char) {steps steps' : Nat} (hle : steps ≤ steps') {xs : List α} {cs rest : List Char}
    (hread : bracketed item close steps cs = some (xs, rest)) (more : List Char) :
    bracketed item' close steps' (cs ++ more) = some (xs, rest ++ more) := by
  rw [Json.bracketed] at hread ⊢
  split at hread
  · cases hread
  · rename_i c tail hskip
    simp only [skipBlanks_append hskip more]
    split_ifs at hread ⊢
    · cases hread
      rfl
    · exact h.separatedOnto close hle hread more

theorem key?_append {cs rest : List Char} {k : Value} (h : key? cs = some (k, rest))
    (more : List Char) : key? (cs ++ more) = some (k, rest ++ more) := by
  revert h
  fun_cases key? cs with
  | case1 => rintro ⟨⟩
  | case2 inner hquote t behind htext rest hcolon =>
    rintro ⟨⟩
    simp [key?, skipBlanks_append hquote more, textOnto_append htext more,
      skipBlanks_append hcolon more]
  | case3 => rintro ⟨⟩
  | case4 => rintro ⟨⟩

theorem Extends.member {value value' : Scanner Value} (h : Extends value value') :
    Extends (member value) (member value') := by
  intro cs e c rest hread more
  obtain ⟨⟨k, middle⟩, hkey, hread⟩ := Option.bind_eq_some_iff.1 hread
  obtain ⟨⟨v, rest⟩, hvalue, heq⟩ := Option.map_eq_some_iff.1 hread
  cases heq
  simp [Json.member, key?_append hkey more, h hvalue more]

/-! ## Values -/

/-- A table is read again, even at the end of the text. -/
theorem valueWithin_append_of_brace {steps steps' levels levels' : Nat}
    (hvalue : Extends (valueWithin steps levels) (valueWithin steps' levels'))
    (hsteps : steps ≤ steps') {cs inner rest : List Char} (hcs : skipBlanks cs = '{' :: inner)
    {w : Value} (hread : valueWithin steps (levels + 1) cs = some (w, rest)) (more : List Char) :
    valueWithin steps' (levels' + 1) (cs ++ more) = some (w, rest ++ more) := by
  rw [valueWithin_brace steps levels hcs] at hread
  obtain ⟨⟨es, rest⟩, hmembers, heq⟩ := Option.map_eq_some_iff.1 hread
  cases heq
  rw [valueWithin_brace steps' levels' (skipBlanks_append hcs more),
    hvalue.member.bracketed _ hsteps hmembers more]
  rfl

/-- **A value that was read is read from a longer text as well**, with more steps and levels if need
be. -/
theorem extends_valueWithin {steps steps' levels levels' : Nat} (hsteps : steps ≤ steps')
    (hlevels : levels ≤ levels') : Extends (valueWithin steps levels) (valueWithin steps' levels') := by
  induction levels generalizing levels' with
  | zero =>
    intro cs w c rest hread
    cases hread
  | succ levels ih =>
    obtain ⟨levels', rfl⟩ : ∃ l, levels' = l + 1 := Nat.exists_eq_add_one.2 (by omega)
    have hvalue : Extends (valueWithin steps levels) (valueWithin steps' levels') := ih (by omega)
    intro cs w c rest hread more
    have hall := hread
    rw [valueWithin] at hread
    split at hread
    case h_1 inner hskip => exact valueWithin_append_of_brace hvalue hsteps hskip hall more
    case h_2 inner hskip =>
      obtain ⟨⟨ws, behind⟩, hitems, heq⟩ := Option.map_eq_some_iff.1 hread
      cases heq
      rw [valueWithin_bracket steps' levels' (skipBlanks_append hskip more),
        hvalue.bracketed _ hsteps hitems more]
      rfl
    case h_3 inner hskip =>
      obtain ⟨⟨t, behind⟩, htext, heq⟩ := Option.map_eq_some_iff.1 hread
      cases heq
      simp [valueWithin, skipBlanks_append hskip more, textOnto_append htext more]
    case h_7 =>
      -- Whatever starts like nothing else has to start like a number.
      obtain ⟨d, tail, hskip, hd⟩ := exists_of_number? hread
      rw [valueWithin_of_number hd (skipBlanks_append hskip more), ← List.cons_append, ← hskip]
      exact number?_append hread more
    all_goals
      rename_i hskip
      cases hread
      simp [valueWithin, skipBlanks_append hskip more]

/-- **A table that is cut short is refused**: whatever is read of it would leave the missing text
behind, but the table leaves none. -/
theorem parse?_eq_none_of_cut {es : List (Value × Value)} (hplain : dialect.Plain (.table es))
    {cs missing : List Char} (hcut : cs ++ missing = print (.table es)) (hmissing : missing ≠ []) :
    parse? cs = none := by
  cases cs with
  | nil => rfl
  | cons c cs =>
    obtain rfl : c = '{' := by
      rw [print_table] at hcut
      exact (List.cons.inj hcut).1
    generalize hdocument : '{' :: cs = document at hcut ⊢
    have hshort : document.length ≤ (print (.table es)).length := by simp [← hcut]
    cases hread : valueWithin (document.length + 1) (document.length + 1) document with
    | none => simp [parse?, hread]
    | some r =>
      obtain ⟨v, rest⟩ := r
      have hlong := valueWithin_append_of_brace
        (extends_valueWithin (Nat.add_le_add_right hshort 1) hshort) (Nat.add_le_add_right hshort 1)
        (by rw [← hdocument]; rfl) hread missing
      have hback := valueWithin_print hplain (Nat.le_succ _) (Nat.le_refl _) delimited_nil
      rw [hcut] at hlong
      rw [List.append_nil, hlong] at hback
      have hrest : rest ++ missing = [] := (Prod.mk.inj (Option.some.inj hback)).2
      exact absurd (List.append_eq_nil_iff.1 hrest).2 hmissing

end BindingAudit.Json
