/-
# The walk in source order

A *place* in a syntax tree is a list of numbers that leads from the root down to an expression, each
number picking one of the parts of the expression reached so far. Two equal expressions at different
places are different occurrences. In a unit the first number of a place picks a file, the second a
function of that file and the third an expression in its body.

The walk through a unit enters and leaves the expression at every place once, and visits every place
at which a call stands once more in between. In what order it does so can be said by looking at the
places only: `Mark.Precedes`.

* `CompilationUnit.at?` : the expression at a place;
* `Traces` : the steps of a walk belong to places, one by one and in order;
* `Traces.below`, `Traces.node` : walks put together, side by side and around an expression;
* `CompilationUnit.visits_inSourceOrder` : the walk, its calls and their number.
-/
import Mathlib.Data.List.Forall2
import Mathlib.Data.List.Nodup
import Mathlib.Tactic.Choose
import BindingAudit.Proofs.SyntaxParts

namespace BindingAudit

/-! ## Places -/

/-- The expression at a place in an expression. -/
def Expr.at? (e : Expr) : List Nat → Option Expr
  | [] => some e
  | i :: place => e.parts[i]?.bind fun part => part.at? place

/-- The expression at a place below a list, where the first number picks an item of the list. -/
def below {α : Type} (at? : α → List Nat → Option Expr) (xs : List α) : List Nat → Option Expr
  | [] => none
  | i :: place => xs[i]?.bind fun x => at? x place

/-- The expression at a place in a function. -/
def FunctionDef.at? (f : FunctionDef) : List Nat → Option Expr :=
  below Expr.at? (partsOfStmts f.body)

/-- The expression at a place in a file. -/
def SourceFile.at? (file : SourceFile) : List Nat → Option Expr :=
  below FunctionDef.at? file.functions

/-- The expression at a place in a unit. -/
def CompilationUnit.at? (unit : CompilationUnit) : List Nat → Option Expr :=
  below SourceFile.at? unit.files

theorem exists_below_iff {α : Type} {at? : α → List Nat → Option Expr} {xs : List α} {e : Expr} :
    (∃ place, below at? xs place = some e) ↔ ∃ x ∈ xs, ∃ place, at? x place = some e := by
  constructor
  · rintro ⟨place, h⟩
    cases place with
    | nil => cases h
    | cons i place =>
      obtain ⟨x, hx, hplace⟩ := Option.bind_eq_some_iff.1 h
      exact ⟨x, List.mem_of_getElem? hx, place, hplace⟩
  · rintro ⟨x, hx, place, hplace⟩
    obtain ⟨i, hi⟩ := List.mem_iff_getElem?.1 hx
    exact ⟨i :: place, Option.bind_eq_some_iff.2 ⟨x, hi, hplace⟩⟩

/-- Every occurrence has a place, and at a place there is an occurrence. -/
theorem Expr.exists_at?_iff {x : Expr} (e : Expr) :
    (∃ place, e.at? place = some x) ↔ x.OccursIn e := by
  induction e using Expr.of_parts with
  | h e ih =>
    have hparts : (∃ place, below Expr.at? e.parts place = some x) ↔
        ∃ y ∈ e.parts, x.OccursIn y := by
      rw [exists_below_iff]
      exact exists_congr fun y => and_congr_right fun hy => ih y hy
    rw [Expr.occursIn_iff_parts, ← hparts]
    constructor
    · rintro ⟨place, h⟩
      cases place with
      | nil => exact .inl (Option.some.inj h).symm
      | cons i place => exact .inr ⟨i :: place, h⟩
    · rintro (rfl | ⟨place, h⟩)
      · exact ⟨[], rfl⟩
      · cases place with
        | nil => cases h
        | cons i place => exact ⟨i :: place, h⟩

theorem CompilationUnit.exists_at?_iff {x : Expr} (unit : CompilationUnit) :
    (∃ place, unit.at? place = some x) ↔ x.OccursInUnit unit := by
  unfold CompilationUnit.at? SourceFile.at? FunctionDef.at? Expr.OccursInUnit Expr.OccursInFile
  simp only [exists_below_iff, Expr.exists_at?_iff, Expr.occursInStmts_iff_parts]

/-! ## Marks -/

/-- What happens to an expression in a walk. -/
inductive Moment where
  | enter | call | leave
  deriving DecidableEq, Repr

/-- A step of a walk: what happens, and at which place. -/
structure Mark where
  moment : Moment
  place : List Nat
  deriving DecidableEq, Repr

/-- The same step one level further down, in the item with the number `i`. -/
def Mark.under (i : Nat) (m : Mark) : Mark := ⟨m.moment, i :: m.place⟩

/-- The order of the steps of a walk. -/
inductive Mark.Precedes : Mark → Mark → Prop where
  /-- An expression is entered before it is visited as a call -/
  | enter_call (p : List Nat) : Precedes ⟨.enter, p⟩ ⟨.call, p⟩
  /-- and left after both. -/
  | enter_leave (p : List Nat) : Precedes ⟨.enter, p⟩ ⟨.leave, p⟩
  | call_leave (p : List Nat) : Precedes ⟨.call, p⟩ ⟨.leave, p⟩
  /-- It is entered, and visited as a call, before anything happens below it -/
  | downward {m : Moment} (hm : m ≠ .leave) (n : Moment) (p : List Nat) (i : Nat) (q : List Nat) :
      Precedes ⟨m, p⟩ ⟨n, p ++ i :: q⟩
  /-- and left after everything that happens below it. -/
  | upward (m : Moment) (p : List Nat) (i : Nat) (q : List Nat) :
      Precedes ⟨m, p ++ i :: q⟩ ⟨.leave, p⟩
  /-- What happens in a part comes before what happens in a later part. -/
  | across (m n : Moment) (p : List Nat) {i j : Nat} (hij : i < j) (q r : List Nat) :
      Precedes ⟨m, p ++ i :: q⟩ ⟨n, p ++ j :: r⟩

/-- `Shows at? m v` : the mark `m` belongs to the step `v` of a walk, because the expression at its
place is the one that the step is about. -/
inductive Shows (at? : List Nat → Option Expr) : Mark → Visit → Prop where
  | enter {p : List Nat} {e : Expr} (h : at? p = some e) : Shows at? ⟨.enter, p⟩ (.enterExpr e)
  | call {p : List Nat} {e : Expr} (h : at? p = some e) : Shows at? ⟨.call, p⟩ (.call e)
  | leave {p : List Nat} {e : Expr} (h : at? p = some e) : Shows at? ⟨.leave, p⟩ (.leaveExpr e)

/-- The steps of a walk that are about expressions belong to places. They come in order, each place
with an expression has its marks, and no other place has. -/
structure Traces (at? : List Nat → Option Expr) (marks : List Mark) (visits : List Visit) :
    Prop where
  shows : List.Forall₂ (Shows at?) marks visits
  ordered : marks.Pairwise Mark.Precedes
  mem_iff : ∀ m : Mark, m ∈ marks ↔
    ∃ e, at? m.place = some e ∧ (m.moment = .call → e.isCall = true)

/-- A step is shown at another place, if the same expression stands there. -/
theorem Shows.move {at? at?' : List Nat → Option Expr} {m : Mark} {v : Visit} {place : List Nat}
    (h : Shows at? m v) (hat : ∀ e, at? m.place = some e → at?' place = some e) :
    Shows at?' ⟨m.moment, place⟩ v := by
  cases h with
  | enter hp => exact .enter (hat _ hp)
  | call hp => exact .call (hat _ hp)
  | leave hp => exact .leave (hat _ hp)

theorem Mark.Precedes.ne {a b : Mark} (h : a.Precedes b) : a ≠ b := by
  intro hab
  cases h with
  | enter_call | enter_leave | call_leave => cases hab
  | downward | upward => simp at hab
  | across m n p hij q r =>
    simp at hab
    omega

theorem Mark.Precedes.under {a b : Mark} (h : a.Precedes b) (i : Nat) :
    (a.under i).Precedes (b.under i) := by
  cases h with
  | enter_call p => exact .enter_call (i :: p)
  | enter_leave p => exact .enter_leave (i :: p)
  | call_leave p => exact .call_leave (i :: p)
  | downward hm n p j q => exact .downward hm n (i :: p) j q
  | upward m p j q => exact .upward m (i :: p) j q
  | across m n p hij q r => exact .across m n (i :: p) hij q r

/-! ## Walks side by side -/

/-- The marks of a list of walks, each below the number of its item. -/
def numbered {α : Type} (marks : α → List Mark) (xs : List α) : List Mark :=
  xs.zipIdx.flatMap fun x => (marks x.1).map (Mark.under x.2)

/-- The numbers of the items of a list increase. -/
theorem pairwise_snd_zipIdx {α : Type} (xs : List α) :
    xs.zipIdx.Pairwise fun a b => a.2 < b.2 := by
  have hrange : (xs.zipIdx.map Prod.snd).Pairwise (· < ·) := by
    rw [List.zipIdx_map_snd]
    exact List.pairwise_lt_range'
  exact List.pairwise_map.1 hrange

/-- **Walks one after the other.** -/
theorem Traces.below {α : Type} {at? : α → List Nat → Option Expr} {marks : α → List Mark}
    {visits : α → List Visit} {xs : List α}
    (h : ∀ x ∈ xs, Traces (at? x) (marks x) (visits x)) :
    Traces (below at? xs) (numbered marks xs) (xs.flatMap visits) where
  shows := by
    have hvisits : xs.flatMap visits = xs.zipIdx.flatMap fun x => visits x.1 := by
      conv_lhs => rw [← List.zipIdx_map_fst 0 xs, List.flatMap_map]
    rw [hvisits]
    refine List.rel_flatMap (R := fun a b => a = b ∧ a ∈ xs.zipIdx)
      (List.forall₂_same.2 fun x hx => ⟨rfl, hx⟩) ?_
    rintro ⟨x, i⟩ _ ⟨rfl, hx⟩
    have hi : xs[i]? = some x := List.mk_mem_zipIdx_iff_getElem?.1 hx
    refine List.forall₂_map_left_iff.2 ((h x (List.mem_of_getElem? hi)).shows.imp ?_)
    intro m v hshows
    exact hshows.move fun e he => Option.bind_eq_some_iff.2 ⟨x, hi, he⟩
  ordered := by
    refine List.pairwise_flatMap.2 ⟨?_, ?_⟩
    · rintro ⟨x, i⟩ hx
      have hi : xs[i]? = some x := List.mk_mem_zipIdx_iff_getElem?.1 hx
      refine List.pairwise_map.2 ((h x (List.mem_of_getElem? hi)).ordered.imp ?_)
      intro a b hab
      exact hab.under i
    · refine (pairwise_snd_zipIdx xs).imp ?_
      rintro ⟨x, i⟩ ⟨y, j⟩ hij a ha b hb
      obtain ⟨a, -, rfl⟩ := List.mem_map.1 ha
      obtain ⟨b, -, rfl⟩ := List.mem_map.1 hb
      exact .across a.moment b.moment [] hij a.place b.place
  mem_iff := by
    rintro ⟨moment, place⟩
    constructor
    · intro hm
      obtain ⟨⟨x, i⟩, hx, hm⟩ := List.mem_flatMap.1 hm
      obtain ⟨m, hm, hunder⟩ := List.mem_map.1 hm
      have hi : xs[i]? = some x := List.mk_mem_zipIdx_iff_getElem?.1 hx
      obtain ⟨e, he, hcall⟩ := ((h x (List.mem_of_getElem? hi)).mem_iff m).1 hm
      cases hunder
      exact ⟨e, Option.bind_eq_some_iff.2 ⟨x, hi, he⟩, hcall⟩
    · rintro ⟨e, he, hcall⟩
      cases place with
      | nil => cases he
      | cons i place =>
        obtain ⟨x, hi, he⟩ := Option.bind_eq_some_iff.1 he
        have hm : (⟨moment, place⟩ : Mark) ∈ marks x :=
          ((h x (List.mem_of_getElem? hi)).mem_iff _).2 ⟨e, he, hcall⟩
        exact List.mem_flatMap.2 ⟨(x, i), List.mk_mem_zipIdx_iff_getElem?.2 hi,
          List.mem_map.2 ⟨_, hm, rfl⟩⟩

/-! ## The walk through an expression -/

/-- The mark of the step at which an expression is visited as a call. -/
def Expr.callMark (e : Expr) : List Mark := if e.isCall then [⟨.call, []⟩] else []

theorem Expr.mem_callMark_iff {e : Expr} {m : Mark} :
    m ∈ e.callMark ↔ e.isCall = true ∧ m = ⟨.call, []⟩ := by
  unfold Expr.callMark
  split
  · rename_i hcall
    simp [hcall]
  · rename_i hcall
    simp [hcall]

theorem Expr.forall₂_callMark (e : Expr) :
    List.Forall₂ (Shows e.at?) e.callMark e.callVisit := by
  unfold Expr.callMark Expr.callVisit
  split
  · exact .cons (.call rfl) .nil
  · exact .nil

/-- A place below the parts of an expression is a place in it, but not that of the expression
itself. -/
theorem Expr.below_parts_eq_some_iff {e x : Expr} {place : List Nat} :
    below Expr.at? e.parts place = some x ↔ e.at? place = some x ∧ place ≠ [] := by
  cases place with
  | nil => simp [below]
  | cons i place => simp [below, Expr.at?]

/-- Everything below the root comes after the steps with which the root begins -/
theorem Mark.Precedes.of_root {moment : Moment} (hmoment : moment ≠ .leave) {m : Mark}
    (hm : m.place ≠ []) : Mark.Precedes ⟨moment, []⟩ m := by
  obtain ⟨n, place⟩ := m
  obtain ⟨i, q, rfl⟩ := List.exists_cons_of_ne_nil hm
  exact .downward hmoment n [] i q

/-- and before the root is left. -/
theorem Mark.Precedes.to_root {m : Mark} (hm : m.place ≠ []) : m.Precedes ⟨.leave, []⟩ := by
  obtain ⟨n, place⟩ := m
  obtain ⟨i, q, rfl⟩ := List.exists_cons_of_ne_nil hm
  exact .upward n [] i q

theorem Expr.pairwise_around (e : Expr) {marks : List Mark} (hbelow : ∀ m ∈ marks, m.place ≠ [])
    (h : marks.Pairwise Mark.Precedes) :
    List.Pairwise Mark.Precedes (⟨.enter, []⟩ :: (e.callMark ++ marks) ++ [⟨.leave, []⟩]) := by
  have hinner : (e.callMark ++ marks).Pairwise Mark.Precedes := by
    refine List.pairwise_append.2 ⟨?_, h, ?_⟩
    · unfold Expr.callMark
      split
      · exact List.pairwise_singleton _ _
      · exact .nil
    · intro a ha b hb
      obtain ⟨-, rfl⟩ := Expr.mem_callMark_iff.1 ha
      exact .of_root (by decide) (hbelow b hb)
  have hfirst : ∀ b ∈ e.callMark ++ marks, Mark.Precedes ⟨.enter, []⟩ b := by
    intro b hb
    rcases List.mem_append.1 hb with hb | hb
    · obtain ⟨-, rfl⟩ := Expr.mem_callMark_iff.1 hb
      exact .enter_call []
    · exact .of_root (by decide) (hbelow b hb)
  have hlast : ∀ a ∈ (⟨.enter, []⟩ : Mark) :: (e.callMark ++ marks), a.Precedes ⟨.leave, []⟩ := by
    intro a ha
    rcases List.mem_cons.1 ha with rfl | ha
    · exact .enter_leave []
    · rcases List.mem_append.1 ha with ha | ha
      · obtain ⟨-, rfl⟩ := Expr.mem_callMark_iff.1 ha
        exact .call_leave []
      · exact .to_root (hbelow a ha)
  refine List.pairwise_append.2
    ⟨List.pairwise_cons.2 ⟨hfirst, hinner⟩, List.pairwise_singleton _ _, ?_⟩
  intro a ha b hb
  rw [List.mem_singleton.1 hb]
  exact hlast a ha

/-- **A walk around the walks through the parts.** -/
theorem Traces.node {e : Expr} {marks : List Mark} {visits : List Visit}
    (h : Traces (BindingAudit.below Expr.at? e.parts) marks visits) :
    Traces e.at? (⟨.enter, []⟩ :: (e.callMark ++ marks) ++ [⟨.leave, []⟩])
      (.enterExpr e :: (e.callVisit ++ visits) ++ [.leaveExpr e]) where
  shows := by
    have hparts : List.Forall₂ (Shows e.at?) marks visits := by
      refine h.shows.imp ?_
      intro m v hshows
      exact hshows.move fun x hx => (Expr.below_parts_eq_some_iff.1 hx).1
    exact List.rel_append (.cons (.enter rfl) (List.rel_append e.forall₂_callMark hparts))
      (.cons (.leave rfl) .nil)
  ordered := by
    refine e.pairwise_around ?_ h.ordered
    intro m hm
    obtain ⟨x, hx, -⟩ := (h.mem_iff m).1 hm
    exact (Expr.below_parts_eq_some_iff.1 hx).2
  mem_iff := by
    rintro ⟨moment, place⟩
    have hmarks := h.mem_iff ⟨moment, place⟩
    simp only [Expr.below_parts_eq_some_iff] at hmarks
    rw [List.mem_append, List.mem_cons, List.mem_append, List.mem_singleton, hmarks,
      Expr.mem_callMark_iff]
    cases place with
    | nil => cases moment <;> simp [Expr.at?]
    | cons i place => simp

/-- **The walk through an expression** enters and leaves the expression at each place once. -/
theorem Expr.exists_traces (e : Expr) : ∃ marks, Traces e.at? marks e.visits := by
  induction e using Expr.of_parts with
  | h e ih =>
    choose! marks hmarks using ih
    rw [Expr.visits_eq_parts]
    exact ⟨_, (Traces.below hmarks).node⟩

/-! ## The walk through a unit -/

/-- Whether a step of a walk is about an expression. -/
def Visit.isOfExpr : Visit → Bool
  | .enterExpr _ | .leaveExpr _ | .call _ => true
  | .enterFile _ | .leaveFile _ | .enterFunction _ | .leaveFunction _ => false

theorem Traces.filter_isOfExpr {at? : List Nat → Option Expr} {marks : List Mark}
    {visits : List Visit} (h : Traces at? marks visits) :
    visits.filter Visit.isOfExpr = visits := by
  have hshows := h.shows
  clear h
  induction hshows with
  | nil => rfl
  | cons hshows _ ih =>
    cases hshows with
    | enter | call | leave => rw [List.filter_cons_of_pos rfl, ih]

theorem FunctionDef.exists_traces (f : FunctionDef) :
    ∃ marks, Traces f.at? marks (f.visits.filter Visit.isOfExpr) := by
  choose marks hmarks using Expr.exists_traces
  have hbody : Traces f.at? (numbered marks (partsOfStmts f.body))
      ((partsOfStmts f.body).flatMap Expr.visits) :=
    Traces.below fun e _ => hmarks e
  have hvisits : f.visits.filter Visit.isOfExpr = (partsOfStmts f.body).flatMap Expr.visits := by
    rw [FunctionDef.visits, visitStmts_eq_flatMap, List.filter_append,
      List.filter_cons_of_neg Bool.false_ne_true, hbody.filter_isOfExpr,
      List.filter_cons_of_neg Bool.false_ne_true, List.filter_nil, List.append_nil]
  exact ⟨_, hvisits ▸ hbody⟩

theorem SourceFile.exists_traces (file : SourceFile) :
    ∃ marks, Traces file.at? marks (file.visits.filter Visit.isOfExpr) := by
  choose marks hmarks using FunctionDef.exists_traces
  have hvisits : file.visits.filter Visit.isOfExpr =
      file.functions.flatMap fun f => f.visits.filter Visit.isOfExpr := by
    rw [SourceFile.visits, List.filter_append, List.filter_cons_of_neg Bool.false_ne_true,
      List.filter_flatMap, List.filter_cons_of_neg Bool.false_ne_true, List.filter_nil,
      List.append_nil]
  rw [hvisits]
  exact ⟨_, Traces.below fun f _ => hmarks f⟩

/-- **The walk through a unit** enters and leaves the expression at each place once. -/
theorem CompilationUnit.exists_traces (unit : CompilationUnit) :
    ∃ marks, Traces unit.at? marks (unit.visits.filter Visit.isOfExpr) := by
  choose marks hmarks using SourceFile.exists_traces
  rw [CompilationUnit.visits, List.filter_flatMap]
  exact ⟨_, Traces.below fun file _ => hmarks file⟩

/-! ## The calls of a walk -/

/-- The place of a mark that belongs to the visit of a call. -/
def Mark.callPlace? : Mark → Option (List Nat)
  | ⟨.call, place⟩ => some place
  | _ => none

theorem Mark.callPlace?_eq_some_iff {m : Mark} {place : List Nat} :
    m.callPlace? = some place ↔ m = ⟨.call, place⟩ := by
  obtain ⟨moment, p⟩ := m
  cases moment <;> simp [Mark.callPlace?]

/-- Calls are visited in the lexicographic order of their places: the outer one of two nested calls
comes first, and the left one of two that stand side by side. -/
theorem Mark.Precedes.lt {p q : List Nat} (h : Mark.Precedes ⟨.call, p⟩ ⟨.call, q⟩) : p < q := by
  cases h with
  | downward hm n p i q =>
    have hlt : p ++ [] < p ++ i :: q := List.append_left_lt (List.nil_lt_cons i q)
    rwa [List.append_nil] at hlt
  | across m n p hij q r => exact List.append_left_lt (List.cons_lt_cons_iff.2 (.inl hij))

/-- The calls of a traced walk stand at the places at which a call stands, in pre-order. -/
theorem Traces.exists_callPlaces {at? : List Nat → Option Expr} {marks : List Mark}
    {visits : List Visit} (h : Traces at? marks visits) :
    ∃ places : List (List Nat), places.Pairwise (· < ·) ∧
      (∀ place, place ∈ places ↔ ∃ e, at? place = some e ∧ e.isCall = true) ∧
      List.Forall₂ (fun place e => at? place = some e) places (visits.filterMap Visit.call?) := by
  refine ⟨marks.filterMap Mark.callPlace?, ?_, ?_, ?_⟩
  · refine List.pairwise_filterMap.2 (h.ordered.imp ?_)
    intro a b hab p hp q hq
    rw [Mark.callPlace?_eq_some_iff] at hp hq
    rw [hp, hq] at hab
    exact hab.lt
  · intro place
    have hmem : place ∈ marks.filterMap Mark.callPlace? ↔ ⟨.call, place⟩ ∈ marks := by
      simp [List.mem_filterMap, Mark.callPlace?_eq_some_iff]
    rw [hmem, h.mem_iff]
    simp
  · refine List.rel_filterMap ?_ h.shows
    intro m v hshows
    cases hshows with
    | call hp => exact .some hp
    | enter | leave => exact .none

theorem Visit.filterMap_call?_filter (visits : List Visit) :
    (visits.filter Visit.isOfExpr).filterMap Visit.call? = visits.filterMap Visit.call? := by
  rw [List.filterMap_filter]
  congr 1
  funext v
  cases v <;> rfl

/-- The counter counts the visits of calls. -/
theorem NodeCount.calls_foldl_step (visits : List Visit) (n : NodeCount) :
    (visits.foldl NodeCount.step n).calls = n.calls + (visits.filterMap Visit.call?).length := by
  induction visits generalizing n with
  | nil => rfl
  | cons v visits ih =>
    rw [List.foldl_cons, ih]
    cases v with
    | call e =>
      simp only [NodeCount.step, Visit.call?, List.filterMap_cons, List.length_cons]
      omega
    | enterExpr e => cases e <;> rfl
    | _ => rfl

/-- **The walk misses nothing and repeats nothing.** The places of a unit are where expressions
occur in it. The steps of the walk that are about expressions belong to these places: at each place
the expression is entered once and left once, and visited as a call once if it is one, in the order
of `Mark.Precedes`. So the calls of the unit are the calls at all places, each once and in
pre-order. They are those of the files, one file after the other, and as many as the counter says.
-/
theorem CompilationUnit.visits_inSourceOrder (unit : CompilationUnit) :
    (∀ e, (∃ place, unit.at? place = some e) ↔ e.OccursInUnit unit) ∧
      (∃ marks, Traces unit.at? marks (unit.visits.filter Visit.isOfExpr) ∧ marks.Nodup) ∧
      (∃ places : List (List Nat), places.Pairwise (· < ·) ∧
        (∀ place, place ∈ places ↔ ∃ e, unit.at? place = some e ∧ e.isCall = true) ∧
        List.Forall₂ (fun place e => unit.at? place = some e) places unit.calls) ∧
      unit.calls = unit.files.flatMap SourceFile.calls ∧
      unit.nodeCount.calls = unit.calls.length := by
  obtain ⟨marks, hmarks⟩ := unit.exists_traces
  have hnodup : marks.Nodup := hmarks.ordered.imp Mark.Precedes.ne
  refine ⟨fun e => unit.exists_at?_iff, ⟨marks, hmarks, hnodup⟩, ?_, ?_, ?_⟩
  · have hcalls := hmarks.exists_callPlaces
    rwa [Visit.filterMap_call?_filter] at hcalls
  · exact List.filterMap_flatMap
  · have hcount := NodeCount.calls_foldl_step unit.visits {}
    rwa [Nat.zero_add] at hcount

end BindingAudit
