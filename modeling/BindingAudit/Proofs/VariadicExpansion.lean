/-
# Variadic declarations and their expansions

A declaration that takes any number of further arguments is checked like one that does not: like the
declaration in which the variadic parameter is written out as often as there are arguments for it.
A spread argument is one argument, for the slice that the variadic parameter is.

What remains is the check against parameters that are all fixed. It finds a wrong number of
arguments, and each argument of a known type that does not fit the parameter behind the context
carrier with its index.

* `Declaration.TakesRest` : a context carrier, fixed parameters and a variadic one;
* `Arguments.ChecksOneByOne` : what the check against fixed parameters has to find;
* `Arguments.findings_expand` : the two together, for every declaration.
-/
import Mathlib.Data.List.Basic
import Mathlib.Data.Set.List
import BindingAudit.Binding.Arguments

namespace BindingAudit

/-! ## Declarations -/

/-- The same declaration with other parameters, none of them variadic. -/
def Declaration.withFixed (d : Declaration) (params : List TypeId) : Declaration :=
  { d with signature := { d.signature with params := params, variadic := false } }

@[simp] theorem Declaration.isVariadic_withFixed (d : Declaration) (params : List TypeId) :
    (d.withFixed params).isVariadic = false := rfl

/-- The parameters of `d` are the context carrier, those in `fixed`, and a variadic one of the slice
type `rest`, whose elements are of the type `elem`. -/
structure Declaration.TakesRest (types : TypeTable) (d : Declaration) (carrier : TypeId)
    (fixed : List TypeId) (rest elem : TypeId) : Prop where
  variadic : d.isVariadic = true
  params : d.params = carrier :: (fixed ++ [rest])
  elem : types.sliceElement rest = some elem

namespace Arguments

/-! ## What is to be found about fixed parameters -/

/-- An argument whose type is not the one that is expected at its index. -/
structure Misfit where
  index : Nat
  expected : TypeId
  actual : TypeId

/-- The finding about a misfit. -/
def Misfit.finding (m : Misfit) : ArgumentFinding := .mismatch m.index m.expected m.actual

theorem Misfit.finding_injective : Function.Injective Misfit.finding := by
  intro m m' h
  cases m
  cases m'
  simpa [Misfit.finding] using h

/-- There is an argument and a parameter for it, the type of the argument is known, and it does not
fit. -/
structure Misfit.StandsIn (types : TypeTable) (settings : Settings) (params : List TypeId)
    (args : List (Option TypeId)) (m : Misfit) : Prop where
  lt_min : m.index < min args.length (params.length - 1)
  expected : params[m.index + 1]? = some m.expected
  actual : args[m.index]? = some (some m.actual)
  unfit : fits types settings m.expected m.actual = false

/-- The findings say first whether the number of arguments is wrong and then, by increasing index,
which arguments are misfits. -/
def ChecksOneByOne (types : TypeTable) (settings : Settings) (params : List TypeId)
    (args : List (Option TypeId)) (found : List ArgumentFinding) : Prop :=
  ∃ misfits : List Misfit,
    found =
      (if args.length = params.length - 1 then []
        else if params.length - 1 < args.length then
          [.tooMany (params.length - 1) args.length]
        else [.tooFew (params.length - 1) args.length false]) ++
      misfits.map Misfit.finding ∧
    misfits.Pairwise (fun m m' => m.index < m'.index) ∧
    ∀ m, m ∈ misfits ↔ m.StandsIn types settings params args

/-! ## The types that are expected -/

section

variable {types : TypeTable} {d : Declaration} {carrier rest elem : TypeId} {fixed : List TypeId}

/-- Without a variadic parameter, the parameter behind the carrier with the same index. -/
theorem expectedAt_of_not_variadic (h : d.isVariadic = false) (count : Nat) (spread : Bool)
    (index : Nat) : expectedAt types d count spread index = d.params[index + 1]? := by
  simp [expectedAt, h]

theorem expectedAt_withFixed (params : List TypeId) (count : Nat) (spread : Bool) (index : Nat) :
    expectedAt types (d.withFixed (carrier :: params)) count spread index = params[index]? :=
  expectedAt_of_not_variadic rfl count spread index

theorem expectedCount_withFixed (params : List TypeId) :
    expectedCount (d.withFixed (carrier :: params)) = params.length := rfl

section

variable (h : d.TakesRest types carrier fixed rest elem)
include h

theorem expectedCount_of_takesRest : expectedCount d = fixed.length + 1 := by
  simp [expectedCount, h.params]

theorem restElement_of_takesRest : d.restElement types = some elem := by
  have hlast : d.params.getLast? = some rest := by simp [h.params, List.getLast?_cons]
  rw [Declaration.restElement, if_pos h.variadic, hlast, Option.bind_some, h.elem]

/-- In front of the variadic slot the parameters are expected as they stand. -/
theorem expectedAt_of_lt {index : Nat} (hlt : index < fixed.length) (count : Nat) (spread : Bool) :
    expectedAt types d count spread index = fixed[index]? := by
  have hslot : ¬ fixed.length ≤ index := by omega
  simp [expectedAt, expectedCount_of_takesRest h, hslot, h.params, List.getElem?_append_left hlt]

/-- From the variadic slot on, arguments that are not spread are elements. -/
theorem expectedAt_of_le {index : Nat} (hle : fixed.length ≤ index) (count : Nat) :
    expectedAt types d count false index = some elem := by
  simp [expectedAt, expectedCount_of_takesRest h, h.variadic, hle, restElement_of_takesRest h]

/-- The last argument is spread: in the variadic slot it is the slice. -/
theorem expectedAt_slot :
    expectedAt types d (fixed.length + 1) true fixed.length = some rest := by
  simp [expectedAt, expectedCount_of_takesRest h, h.params]

end

end

/-! ## Findings, from the expected types -/

section

variable (types : TypeTable) (settings : Settings) {d d' : Declaration}
  (args : List (Option TypeId)) {spread spread' : Bool}

/-- The types of the arguments are compared with what is expected at their indices and with nothing
else. -/
theorem typeFindings_of_expectedAt
    (h : ∀ index < args.length, expectedAt types d args.length spread index =
      expectedAt types d' args.length spread' index) :
    typeFindings types settings d args spread = typeFindings types settings d' args spread' := by
  unfold typeFindings
  apply List.filterMap_congr
  intro index hindex
  have hlt : index < args.length := List.mem_range.1 hindex
  unfold mismatchAt?
  rw [h index hlt]

/-- The mismatch at an index, for a declaration without a variadic parameter. -/
theorem mismatchAt?_eq_some_iff (h : d.isVariadic = false) (index : Nat) (f : ArgumentFinding) :
    mismatchAt? types settings d args spread index = some f ↔
      ∃ m : Misfit, m.finding = f ∧ m.index = index ∧ m.StandsIn types settings d.params args := by
  unfold mismatchAt?
  rw [expectedAt_of_not_variadic h]
  constructor
  · intro hfound
    split at hfound
    · rename_i expected actual hexpected hactual
      rw [Option.join_eq_some_iff] at hactual
      split_ifs at hfound with hfits
      cases hfound
      have hargs : index < args.length := (List.getElem?_eq_some_iff.1 hactual).1
      have hparams : index + 1 < d.params.length := (List.getElem?_eq_some_iff.1 hexpected).1
      have hmin : index < min args.length (d.params.length - 1) := by omega
      exact ⟨⟨index, expected, actual⟩, rfl, rfl, hmin, hexpected, hactual, by simpa using hfits⟩
    · cases hfound
  · rintro ⟨m, rfl, rfl, hm⟩
    simp [hm.expected, hm.actual, hm.unfit, Misfit.finding]

variable {types settings args}

theorem finding_mem_typeFindings_iff (h : d.isVariadic = false) (m : Misfit) :
    m.finding ∈ typeFindings types settings d args spread ↔
      m.StandsIn types settings d.params args := by
  unfold typeFindings
  rw [List.mem_filterMap]
  constructor
  · rintro ⟨index, -, hindex⟩
    obtain ⟨m', hfinding, -, hm'⟩ :=
      (mismatchAt?_eq_some_iff types settings args h index _).1 hindex
    rwa [← Misfit.finding_injective hfinding]
  · intro hm
    have hlt : m.index < args.length := (List.getElem?_eq_some_iff.1 hm.actual).1
    refine ⟨m.index, List.mem_range.2 hlt, ?_⟩
    exact (mismatchAt?_eq_some_iff types settings args h m.index _).2 ⟨m, rfl, rfl, hm⟩

/-- Arguments are looked at from left to right. -/
theorem pairwise_typeFindings (h : d.isVariadic = false) :
    (typeFindings types settings d args spread).Pairwise
      (fun f f' => ∀ m m' : Misfit, m.finding = f → m'.finding = f' → m.index < m'.index) := by
  unfold typeFindings
  rw [List.pairwise_filterMap]
  refine List.pairwise_lt_range.imp ?_
  intro i j hlt f hf f' hf' m m' hm hm'
  obtain ⟨n, hn, rfl, -⟩ := (mismatchAt?_eq_some_iff types settings args h i f).1 hf
  obtain ⟨n', hn', rfl, -⟩ := (mismatchAt?_eq_some_iff types settings args h j f').1 hf'
  rw [Misfit.finding_injective (hm.trans hn.symm), Misfit.finding_injective (hm'.trans hn'.symm)]
  exact hlt

/-- There is one right number of arguments. -/
theorem toList_countFinding? (h : d.isVariadic = false) (supplied : Nat) :
    (countFinding? d supplied spread).toList =
      if supplied = d.params.length - 1 then []
      else if d.params.length - 1 < supplied then [.tooMany (d.params.length - 1) supplied]
      else [.tooFew (d.params.length - 1) supplied false] := by
  unfold countFinding? expectedCount
  generalize d.params.length - 1 = expected
  rcases Nat.lt_trichotomy supplied expected with hfew | rfl | hmany
  · have hne : supplied ≠ expected := by omega
    have hnot : ¬ expected < supplied := by omega
    simp [h, hfew, hne, hnot]
  · simp [h]
  · have hne : supplied ≠ expected := by omega
    simp [h, hmany, hne]

/-- **Fixed parameters.** The number of arguments is compared first, then each argument with the
parameter it is for. -/
theorem checksOneByOne_findings (h : d.isVariadic = false) :
    ChecksOneByOne types settings d.params args (findings types settings d args spread) := by
  have hrange : typeFindings types settings d args spread ∈
      Set.range (List.map Misfit.finding) := by
    rw [Set.range_list_map]
    intro f hf
    obtain ⟨index, -, hindex⟩ := List.mem_filterMap.1 hf
    obtain ⟨m, hm, -⟩ := (mismatchAt?_eq_some_iff types settings args h index f).1 hindex
    exact ⟨m, hm⟩
  obtain ⟨misfits, hmisfits⟩ := hrange
  refine ⟨misfits, ?_, ?_, ?_⟩
  · rw [findings, toList_countFinding? h, hmisfits]
  · have hpairwise : (misfits.map Misfit.finding).Pairwise (fun f f' => ∀ m m' : Misfit,
        m.finding = f → m'.finding = f' → m.index < m'.index) := by
      rw [hmisfits]
      exact pairwise_typeFindings h
    rw [List.pairwise_map] at hpairwise
    exact hpairwise.imp fun hlt => hlt _ _ rfl rfl
  · intro m
    rw [← List.mem_map_of_injective Misfit.finding_injective, hmisfits]
    exact finding_mem_typeFindings_iff h m

end

/-! ## Variadic parameters -/

section

variable {types : TypeTable} {settings : Settings} {d : Declaration} {carrier rest elem : TypeId}
  {fixed : List TypeId} (h : d.TakesRest types carrier fixed rest elem)
  {args : List (Option TypeId)}
include h

/-- **Expansions.** In front of the variadic slot an expansion expects what the declaration does. So
the types are compared alike if this also holds from the slot on. -/
theorem typeFindings_expanded {more : List TypeId} {spread spread' : Bool}
    (hbehind : ∀ index < args.length, fixed.length ≤ index →
      expectedAt types d args.length spread index = more[index - fixed.length]?) :
    typeFindings types settings d args spread =
      typeFindings types settings (d.withFixed (carrier :: (fixed ++ more))) args spread' := by
  apply typeFindings_of_expectedAt
  intro index hindex
  rw [expectedAt_withFixed]
  by_cases hslot : index < fixed.length
  · rw [expectedAt_of_lt h hslot, List.getElem?_append_left hslot]
  · have hslot' : fixed.length ≤ index := by omega
    rw [hbehind index hindex hslot', List.getElem?_append_right hslot']

/-- **Enough arguments.** The variadic parameter is written out as an element for each argument that
the fixed parameters leave over. -/
theorem findings_expanded (hle : fixed.length ≤ args.length) :
    findings types settings d args false =
      findings types settings
        (d.withFixed (carrier :: (fixed ++ List.replicate (args.length - fixed.length) elem)))
        args false := by
  have hcount : countFinding? d args.length false = none := by
    have hminimum : ¬ args.length < fixed.length := by omega
    simp [countFinding?, h.variadic, expectedCount_of_takesRest h, hminimum]
  have hlength : (fixed ++ List.replicate (args.length - fixed.length) elem).length =
      args.length := by
    rw [List.length_append, List.length_replicate]
    omega
  have hcount' : countFinding? (d.withFixed (carrier :: (fixed ++
      List.replicate (args.length - fixed.length) elem))) args.length false = none := by
    simp [countFinding?, expectedCount_withFixed, hlength]
  rw [findings, findings, hcount, hcount']
  congr 1
  apply typeFindings_expanded h
  intro index hindex hslot
  have hrest : index - fixed.length < args.length - fixed.length := by omega
  rw [expectedAt_of_le h hslot, List.getElem?_replicate_of_lt hrest]

/-- **Too few arguments.** They are compared with the fixed parameters. -/
theorem findings_of_lt (hlt : args.length < fixed.length) :
    findings types settings d args false =
      .tooFew fixed.length args.length true ::
        typeFindings types settings (d.withFixed (carrier :: fixed)) args false := by
  have hcount : countFinding? d args.length false =
      some (.tooFew fixed.length args.length true) := by
    simp [countFinding?, h.variadic, expectedCount_of_takesRest h, hlt]
  have htypes : typeFindings types settings d args false =
      typeFindings types settings (d.withFixed (carrier :: (fixed ++ []))) args false :=
    typeFindings_expanded h fun index hindex hslot => absurd hindex (by omega)
  rw [findings, hcount, Option.toList_some, List.singleton_append, htypes, List.append_nil]

/-- **A spread argument.** It is compared with the slice itself, if there are no more arguments than
parameters. -/
theorem findings_spread (hle : args.length ≤ fixed.length + 1) (spread : Bool) :
    findings types settings d args true =
      findings types settings (d.withFixed (carrier :: (fixed ++ [rest]))) args spread := by
  have hcount : countFinding? d args.length true =
      countFinding? (d.withFixed (carrier :: (fixed ++ [rest]))) args.length spread := by
    simp [countFinding?, h.variadic, expectedCount_of_takesRest h, expectedCount_withFixed]
  rw [findings, findings, hcount]
  congr 1
  apply typeFindings_expanded h
  intro index hindex hslot
  -- the argument at the slot is the last one, because there is no room behind it
  have hindex' : index = fixed.length := by omega
  have hlast : args.length = fixed.length + 1 := by omega
  rw [hindex', hlast, expectedAt_slot h, Nat.sub_self, List.getElem?_cons_zero]

end

/-- **A variadic declaration is checked as its expansion.** Without a spread argument that is the
declaration with an element in place of the variadic parameter for each argument behind the fixed
ones; if the arguments do not suffice for these, their number is reported and they are compared with
the fixed parameters. With a spread argument, and no more arguments than parameters, it is the
declaration with the slice as one more fixed parameter.

A declaration without a variadic parameter is checked argument by argument, whether or not the last
one is spread. -/
theorem findings_expand (types : TypeTable) (settings : Settings) (d : Declaration)
    (args : List (Option TypeId)) :
    (∀ carrier fixed rest elem, d.TakesRest types carrier fixed rest elem →
      (fixed.length ≤ args.length →
        findings types settings d args false =
          findings types settings
            (d.withFixed (carrier :: (fixed ++ List.replicate (args.length - fixed.length) elem)))
            args false) ∧
      (args.length < fixed.length →
        findings types settings d args false =
          .tooFew fixed.length args.length true ::
            typeFindings types settings (d.withFixed (carrier :: fixed)) args false) ∧
      (args.length ≤ fixed.length + 1 → ∀ spread,
        findings types settings d args true =
          findings types settings (d.withFixed (carrier :: (fixed ++ [rest]))) args spread)) ∧
    (d.isVariadic = false → ∀ spread,
      ChecksOneByOne types settings d.params args (findings types settings d args spread)) := by
  constructor
  · intro carrier fixed rest elem h
    exact ⟨findings_expanded h, findings_of_lt h, findings_spread h⟩
  · intro h spread
    exact checksOneByOne_findings h

/-- A table with a slice of strings. -/
def tableOfStrings : TypeTable := TypeTable.predeclared.add (.slice (TypeTable.basic .string))

/-- A function of an integer and any number of strings. -/
def labelAll : Declaration :=
  { (default : Declaration) with
    signature := ⟨[TypeTable.basic .bool, TypeTable.basic .int, .ofIndex 19], [], true⟩ }

/-- Three arguments, the last of which should be a string and is an integer; none at all; an integer
and a string that is spread as if it were a slice. -/
theorem labelAll_findings_expand :
    let int := TypeTable.basic .int
    let string := TypeTable.basic .string
    let strings := TypeId.ofIndex 19
    let carrier := TypeTable.basic .bool
    labelAll.TakesRest tableOfStrings carrier [int] strings string ∧
      findings tableOfStrings {} labelAll [some int, none, some int] false =
        [.mismatch 2 string int] ∧
      findings tableOfStrings {} labelAll [some int, none, some int] false =
        findings tableOfStrings {} (labelAll.withFixed [carrier, int, string, string])
          [some int, none, some int] false ∧
      findings tableOfStrings {} labelAll [] false = [.tooFew 1 0 true] ∧
      findings tableOfStrings {} labelAll [some int, some string] true =
        [.mismatch 1 strings string] ∧
      ChecksOneByOne tableOfStrings {} [carrier, int, strings] [some int, some string]
        (findings tableOfStrings {} (labelAll.withFixed [carrier, int, strings])
          [some int, some string] true) := by
  intro int string strings carrier
  have hrest : labelAll.TakesRest tableOfStrings carrier [int] strings string :=
    ⟨rfl, rfl, by decide +kernel⟩
  have hthree := (findings_expand tableOfStrings {} labelAll [some int, none, some int]).1
    carrier [int] strings string hrest
  have hnone := (findings_expand tableOfStrings {} labelAll []).1
    carrier [int] strings string hrest
  have hspread := (findings_expand tableOfStrings {} labelAll [some int, some string]).1
    carrier [int] strings string hrest
  have hfixed := (findings_expand tableOfStrings {}
    (labelAll.withFixed [carrier, int, strings]) [some int, some string]).2 rfl true
  refine ⟨hrest, ?_, hthree.1 (by decide), ?_, ?_, hfixed⟩
  · rw [hthree.1 (by decide)]
    decide +kernel
  · rw [hnone.2.1 (by decide)]
    decide +kernel
  · rw [hspread.2.2 (by decide) true]
    decide +kernel

end Arguments

end BindingAudit
