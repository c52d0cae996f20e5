/-
# JSON texts and numerals

What is written between quotes is made of pieces, one for each character of the text. Each reader of
written texts takes them piece by piece, so that one lemma about pieces serves them all.

* `Spells` : a written form stands for a text;
* `unescape?_of_spells`, `textOnto_of_spells` : it is decoded to that text, and it ends at its quote;
* `faithful` : JSON reads back its own texts and keys.
-/
import Mathlib.Tactic.SplitIfs
import BindingAudit.Codec.Json
import BindingAudit.Proofs.Nesting

namespace BindingAudit.Json

/-! ## Pieces of written texts -/

/-- A part of a written text that stands for one character. -/
inductive Piece : List Char → Char → Prop where
  | plain {c : Char} (hquote : c ≠ '"') (hslash : c ≠ '\\') (hcontrol : ¬c < ' ') : Piece [c] c
  | short {letter c : Char} (h : shortEscaped? letter = some c) : Piece ['\\', letter] c
  | hex {x y z w : Char} {n : Nat} (h : hexNumber? x y z w = some n) (hlow : n < 0xD800) :
      Piece ['\\', 'u', x, y, z, w] (Char.ofNat n)

/-- A written form and the text it stands for. -/
inductive Spells : List Char → List Char → Prop where
  | nil : Spells [] []
  | cons {p : List Char} {c : Char} {t cs : List Char} (hp : Piece p c) (ht : Spells t cs) :
      Spells (p ++ t) (c :: cs)

/-- A control character is told by the last two of its four digits. -/
theorem hexNumber?_control {n : Nat} (h : n < 32) :
    hexNumber? '0' '0' (hexDigit (n / 16)) (hexDigit (n % 16)) = some n := by
  revert n
  decide

theorem shortEscaped?_of_shortEscape? {c letter : Char} (h : shortEscape? c = some letter) :
    shortEscaped? letter = some c := by
  unfold shortEscape? at h
  split_ifs at h with h₁ h₂ h₃ h₄ h₅ h₆ h₇ <;> cases h <;> subst c <;> rfl

/-- The letter of four digits is not a short escape. -/
theorem ne_u_of_shortEscaped? {letter : Char} (h : (shortEscaped? letter).isSome) :
    letter ≠ 'u' := by
  rintro rfl
  cases h

theorem piece_escapeChar (c : Char) : Piece (escapeChar c) c := by
  unfold escapeChar
  cases hshort : shortEscape? c with
  | some letter => exact .short (shortEscaped?_of_shortEscape? hshort)
  | none =>
    by_cases hcontrol : c < ' '
    · have hlow : c.toNat < 32 := hcontrol
      have hpiece := Piece.hex (hexNumber?_control hlow) (by omega)
      simpa [hcontrol] using hpiece
    · have hquote : c ≠ '"' := by
        rintro rfl
        cases hshort
      have hslash : c ≠ '\\' := by
        rintro rfl
        cases hshort
      simpa [hcontrol] using Piece.plain hquote hslash hcontrol

/-- What is written for a text stands for it. -/
theorem spells_escape (s : String) : Spells (escape s) s.toList := by
  unfold escape
  induction s.toList with
  | nil => exact .nil
  | cons c cs ih => exact .cons (piece_escapeChar c) ih

theorem piece_of_isDigit {c : Char} (h : c.isDigit) : Piece [c] c := by
  have hrange : 48 ≤ c.toNat ∧ c.toNat ≤ 57 := Char.isDigit_iff_toNat.1 h
  refine .plain ?_ ?_ fun hlt => ?_
  · rintro rfl
    simp at h
  · rintro rfl
    simp at h
  · have : c.toNat < 32 := hlt
    omega

/-- Digits stand for themselves. -/
theorem spells_of_digits {cs : List Char} (h : ∀ c ∈ cs, c.isDigit) : Spells cs cs := by
  induction cs with
  | nil => exact .nil
  | cons c cs ih =>
    obtain ⟨hc, hcs⟩ := List.forall_mem_cons.1 h
    exact .cons (piece_of_isDigit hc) (ih hcs)

/-! ## Reading pieces -/

theorem unescapeOnto_piece {p : List Char} {c : Char} (hp : Piece p c) (done rest : List Char) :
    unescapeOnto done (p ++ rest) = unescapeOnto (c :: done) rest := by
  cases hp with
  | plain hquote hslash hcontrol => simp [unescapeOnto, hslash]
  | short h =>
    have hu := ne_u_of_shortEscaped? (Option.isSome_of_eq_some h)
    simp [unescapeOnto, h, hu]
  | @hex _ _ _ _ n h hlow =>
    have hhigh : ¬0xD800 ≤ n := by omega
    have hhigh' : ¬0xDC00 ≤ n := by omega
    simp [unescapeOnto, h, hhigh, hhigh']

theorem textOnto_piece {p : List Char} {c : Char} (hp : Piece p c) (done rest : List Char) :
    textOnto done (p ++ rest) = textOnto (p.reverse ++ done) rest := by
  cases hp with
  | plain hquote hslash hcontrol => simp [textOnto, hslash, hcontrol]
  | short h =>
    have hu := ne_u_of_shortEscaped? (Option.isSome_of_eq_some h)
    simp [textOnto, h, hu]
  | hex h hlow => simp [textOnto, h]

/-- A written text is decoded to the text it stands for. -/
theorem unescape?_of_spells {t cs : List Char} (h : Spells t cs) :
    unescape? t = some (String.ofList cs) := by
  have honto (done : List Char) : unescapeOnto done t = some (done.reverse ++ cs) := by
    induction h generalizing done with
    | nil => simp [unescapeOnto]
    | cons hp _ ih => simp [unescapeOnto_piece hp, ih]
  simp [unescape?, honto]

/-- A written text is read up to its quote. -/
theorem textOnto_of_spells {t cs : List Char} (h : Spells t cs) (rest : List Char) :
    textOnto [] (t ++ '"' :: rest) = some (t, rest) := by
  have honto (done : List Char) :
      textOnto done (t ++ '"' :: rest) = some (done.reverse ++ t, rest) := by
    induction h generalizing done with
    | nil => simp [textOnto]
    | cons hp _ ih => simp [textOnto_piece hp, ih]
  exact honto []

/-! ## Numerals -/

theorem isDigit_of_mem_toDigits {n : Nat} {c : Char} (h : c ∈ Nat.toDigits 10 n) : c.isDigit :=
  Nat.isDigit_of_mem_toDigits (by decide) (by decide) h

/-- Only zero starts with a zero. -/
theorem head?_toDigits {n : Nat} (hn : n ≠ 0) : (Nat.toDigits 10 n).head? ≠ some '0' := by
  induction n using Nat.strongRecOn with
  | ind n ih =>
    by_cases hlt : n < 10
    · rw [Nat.toDigits_of_lt_base hlt]
      simpa using fun h => hn (Nat.digitChar_eq_zero.1 h)
    · have htail : (Nat.toDigits 10 (n / 10)).head? ≠ some '0' := ih (n / 10) (by omega) (by omega)
      rw [Nat.toDigits_of_base_le (by decide) (by omega)]
      rwa [List.head?_append_of_ne_nil _ Nat.toDigits_ne_nil]

/-- The digits of a number spell it. -/
theorem decimal?_toDigits (n : Nat) : decimal? (Nat.toDigits 10 n) = some n := by
  have hdigits : (Nat.toDigits 10 n).all Char.isDigit := by
    simpa using fun c hc => isDigit_of_mem_toDigits hc
  have hstart : Nat.toDigits 10 n = ['0'] ∨ (Nat.toDigits 10 n).head? ≠ some '0' := by
    by_cases hn : n = 0
    · exact .inl (by rw [hn, Nat.toDigits_zero])
    · exact .inr (head?_toDigits hn)
  rw [decimal?, if_pos, Nat.ofDigitChars_ten_toDigits]
  simpa [hdigits, Nat.toDigits_ne_nil] using hstart

/-- JSON reads back its own texts and keys. -/
theorem faithful : dialect.Faithful where
  text?_text s := by simp [dialect, Dialect.text, unescape?_of_spells (spells_escape s)]
  label_text s := by simp [dialect, Dialect.text, unescape?_of_spells (spells_escape s)]
  idKey?_idKey n _ := decimal?_toDigits n
  height_idKey _ := rfl

end BindingAudit.Json
