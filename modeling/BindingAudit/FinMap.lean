/-
# Finite maps

A finite map is a list of entries whose keys are pairwise distinct, in the order in which the
keys were first inserted. Two maps are the same map when they bind the same keys to the same
values, whatever the order: `FinMap.sameAs`.

* `find?_insert` : looking a key up after an insertion sees the insertion;
* `keys_insert` : a key keeps its place, a new key goes to the end;
* `ofList_entries` : binding the entries of a map one by one makes the map again;
* `eq_of_keys_of_find?` : a map is determined by its keys and what it binds them to.
-/

namespace BindingAudit

universe u v

/-- A finite map from keys `κ` to values `ν`. -/
structure FinMap (κ : Type u) (ν : Type v) where
  entries : List (κ × ν)
  nodup : (entries.map Prod.fst).Nodup

namespace FinMap

variable {κ : Type u} {ν : Type v}

/-! ## Construction and lookup -/

/-- The map that binds nothing. -/
def empty : FinMap κ ν := ⟨[], by simp⟩

instance : Inhabited (FinMap κ ν) := ⟨empty⟩

/-- The bound keys, in order of their first insertion. -/
def keys (m : FinMap κ ν) : List κ := m.entries.map Prod.fst

/-- The number of bound keys. -/
def size (m : FinMap κ ν) : Nat := m.entries.length

/-- A map is determined by its entries. -/
theorem eq_of_entries {m n : FinMap κ ν} (h : m.entries = n.entries) : m = n := by
  cases m
  cases n
  simpa using h

variable [DecidableEq κ]

/-- The value bound to a key. -/
def find? (m : FinMap κ ν) (k : κ) : Option ν := m.entries.lookup k

/-- Binds `k` to `v` in a list of entries: an entry with that key is replaced where it stands,
and without one a new entry goes to the end. -/
def insertEntry (k : κ) (v : ν) : List (κ × ν) → List (κ × ν)
  | [] => [(k, v)]
  | e :: es => if e.1 = k then (k, v) :: es else e :: insertEntry k v es

/-- The keys after an insertion. -/
theorem map_fst_insertEntry (k : κ) (v : ν) (es : List (κ × ν)) :
    (insertEntry k v es).map Prod.fst =
      if k ∈ es.map Prod.fst then es.map Prod.fst else es.map Prod.fst ++ [k] := by
  induction es with
  | nil => simp [insertEntry]
  | cons e es ih =>
    by_cases h : e.1 = k
    · simp [insertEntry, h]
    · have h' : k ≠ e.1 := fun hk => h hk.symm
      simp only [insertEntry, h, if_false, List.map_cons, ih, List.mem_cons, h', false_or]
      split <;> simp

/-- An insertion keeps the keys distinct. -/
theorem nodup_insertEntry (k : κ) (v : ν) {es : List (κ × ν)} (h : (es.map Prod.fst).Nodup) :
    ((insertEntry k v es).map Prod.fst).Nodup := by
  rw [map_fst_insertEntry]
  split
  · exact h
  · rename_i hk
    refine List.nodup_append.2 ⟨h, by simp, ?_⟩
    intro a ha b hb hab
    rw [List.mem_singleton] at hb
    exact hk (by rw [← hb, ← hab]; exact ha)

/-- Binds a key, replacing what it was bound to. -/
def insert (m : FinMap κ ν) (k : κ) (v : ν) : FinMap κ ν :=
  ⟨insertEntry k v m.entries, nodup_insertEntry k v m.nodup⟩

/-- The map that binds each pair of a list in turn; of two pairs with one key the later wins. -/
def ofList (es : List (κ × ν)) : FinMap κ ν :=
  es.foldl (fun m e => m.insert e.1 e.2) empty

/-- Whether two maps bind the same keys to the same values. -/
def sameAs [BEq ν] (m n : FinMap κ ν) : Bool :=
  m.size == n.size && m.entries.all fun e => n.find? e.1 == some e.2

instance [BEq ν] : BEq (FinMap κ ν) := ⟨sameAs⟩

/-! ## What insertion does to lookup and to the keys -/

@[simp] theorem find?_empty (k : κ) : (empty : FinMap κ ν).find? k = none := rfl

/-- Looking up a key in the entries after an insertion. -/
theorem lookup_insertEntry (k j : κ) (v : ν) (es : List (κ × ν)) :
    (insertEntry k v es).lookup j = if j = k then some v else es.lookup j := by
  induction es with
  | nil =>
    by_cases h : j = k
    · simp [insertEntry, h]
    · simp [insertEntry, List.lookup_cons, h, beq_eq_false_iff_ne.2 h]
  | cons e es ih =>
    obtain ⟨a, b⟩ := e
    by_cases ha : a = k
    · subst ha
      by_cases h : j = a
      · simp [insertEntry, h]
      · simp [insertEntry, List.lookup_cons, h, beq_eq_false_iff_ne.2 h]
    · by_cases hj : j = a
      · subst hj
        simp [insertEntry, ha]
      · simp [insertEntry, List.lookup_cons, ha, beq_eq_false_iff_ne.2 hj, ih]

/-- Looking a key up after an insertion sees the insertion and nothing else. -/
@[simp] theorem find?_insert (m : FinMap κ ν) (k j : κ) (v : ν) :
    (m.insert k v).find? j = if j = k then some v else m.find? j :=
  lookup_insertEntry k j v m.entries

/-- A bound key keeps its place and a new key goes to the end. -/
theorem keys_insert (m : FinMap κ ν) (k : κ) (v : ν) :
    (m.insert k v).keys = if k ∈ m.keys then m.keys else m.keys ++ [k] :=
  map_fst_insertEntry k v m.entries

/-! ## Binding the entries of a map again -/

/-- An entry with a new key goes to the end. -/
theorem insertEntry_of_notMem {k : κ} {es : List (κ × ν)} (v : ν) (h : k ∉ es.map Prod.fst) :
    insertEntry k v es = es ++ [(k, v)] := by
  induction es with
  | nil => rfl
  | cons e es ih =>
    simp only [List.map_cons, List.mem_cons, not_or] at h
    rw [insertEntry, if_neg (fun he => h.1 he.symm), ih h.2]
    rfl

/-- Entries with new keys go to the end, one after the other. -/
theorem entries_foldl_insert (es : List (κ × ν)) (m : FinMap κ ν)
    (h : ((m.entries ++ es).map Prod.fst).Nodup) :
    (es.foldl (fun m e => m.insert e.1 e.2) m).entries = m.entries ++ es := by
  induction es generalizing m with
  | nil => simp
  | cons e es ih =>
    have hnew : e.1 ∉ m.entries.map Prod.fst := by
      rw [List.map_append, List.map_cons] at h
      exact fun hmem => (List.nodup_append.1 h).2.2 e.1 hmem e.1 (by simp) rfl
    have hentries : (m.insert e.1 e.2).entries = m.entries ++ [e] :=
      insertEntry_of_notMem e.2 hnew
    rw [List.foldl_cons, ih (m.insert e.1 e.2) (by rw [hentries]; simpa using h), hentries]
    simp

/-- Binding the entries of a map one by one makes the map again. -/
theorem ofList_entries (m : FinMap κ ν) : ofList m.entries = m :=
  eq_of_entries (entries_foldl_insert m.entries empty m.nodup)

/-- What is bound after pairs have been bound in turn is one of them or was bound before. -/
theorem mem_of_find?_foldl_insert {es : List (κ × ν)} {m : FinMap κ ν} {k : κ} {v : ν}
    (h : (es.foldl (fun m e => m.insert e.1 e.2) m).find? k = some v) :
    (k, v) ∈ es ∨ m.find? k = some v := by
  induction es generalizing m with
  | nil => exact .inr h
  | cons e es ih =>
    rcases ih h with hlater | hbefore
    · exact .inl (List.mem_cons_of_mem e hlater)
    · rw [find?_insert] at hbefore
      split at hbefore
      · rename_i hk
        cases hbefore
        exact .inl (by rw [hk]; exact List.mem_cons_self)
      · exact .inr hbefore

/-- What a map made from pairs binds is one of the pairs. -/
theorem mem_of_find?_ofList {es : List (κ × ν)} {k : κ} {v : ν}
    (h : (ofList es).find? k = some v) : (k, v) ∈ es :=
  (mem_of_find?_foldl_insert h).resolve_right (by simp)

/-- Keys stay bound while pairs are bound in turn, and the key of each pair is bound by it. -/
theorem exists_find?_foldl_insert {es : List (κ × ν)} {m : FinMap κ ν} {k : κ}
    (h : (∃ v, (k, v) ∈ es) ∨ ∃ v, m.find? k = some v) :
    ∃ v, (es.foldl (fun m e => m.insert e.1 e.2) m).find? k = some v := by
  induction es generalizing m with
  | nil => exact h.resolve_left (by simp)
  | cons e es ih =>
    apply ih
    by_cases hk : k = e.1
    · exact .inr ⟨e.2, by rw [find?_insert, if_pos hk]⟩
    · rcases h with ⟨v, hlater⟩ | ⟨v, hbefore⟩
      · refine .inl ⟨v, (List.mem_cons.1 hlater).resolve_left ?_⟩
        rintro rfl
        exact hk rfl
      · exact .inr ⟨v, by rw [find?_insert, if_neg hk, hbefore]⟩

/-- A map made from pairs binds the key of each pair. -/
theorem exists_find?_ofList {es : List (κ × ν)} {k : κ} {v : ν} (h : (k, v) ∈ es) :
    ∃ v, (ofList es).find? k = some v :=
  exists_find?_foldl_insert (.inl ⟨v, h⟩)

/-! ## Maps as lists of entries -/

/-- Among entries with distinct keys, looking a key up finds the entry with that key. -/
theorem lookup_eq_some_iff_mem {k : κ} {v : ν} {es : List (κ × ν)}
    (hnodup : (es.map Prod.fst).Nodup) : es.lookup k = some v ↔ (k, v) ∈ es := by
  induction es with
  | nil => simp
  | cons e es ih =>
    obtain ⟨a, b⟩ := e
    rw [List.map_cons, List.nodup_cons] at hnodup
    by_cases h : k = a
    · subst h
      have hnot : (k, v) ∉ es := fun hmem => hnodup.1 (List.mem_map.2 ⟨_, hmem, rfl⟩)
      simp [hnot, eq_comm]
    · simp [List.lookup_cons, beq_eq_false_iff_ne.2 h, h, ih hnodup.2]

/-- A key is bound to a value by an entry. -/
theorem find?_eq_some_iff (m : FinMap κ ν) {k : κ} {v : ν} :
    m.find? k = some v ↔ (k, v) ∈ m.entries :=
  lookup_eq_some_iff_mem m.nodup

/-- A key is bound if it is bound to something. -/
theorem mem_keys_iff (m : FinMap κ ν) {k : κ} : k ∈ m.keys ↔ ∃ v, m.find? k = some v := by
  simp [keys, find?_eq_some_iff]

/-- Entries with the same distinct keys in the same order and the same answers are the same. -/
theorem eq_of_map_fst_of_lookup {es fs : List (κ × ν)} (hkeys : es.map Prod.fst = fs.map Prod.fst)
    (hnodup : (es.map Prod.fst).Nodup)
    (h : ∀ k ∈ es.map Prod.fst, es.lookup k = fs.lookup k) : es = fs := by
  induction es generalizing fs with
  | nil => exact (List.map_eq_nil_iff.1 hkeys.symm).symm
  | cons e es ih =>
    obtain ⟨a, b⟩ := e
    obtain ⟨⟨c, d⟩, fs', rfl, rfl, hrest⟩ := List.map_eq_cons_iff.1 hkeys.symm
    rw [List.map_cons, List.nodup_cons] at hnodup
    have hhead : b = d := by simpa using h c List.mem_cons_self
    have htail : es = fs' := by
      refine ih hrest.symm hnodup.2 fun k hk => ?_
      have hne : k ≠ c := fun heq => hnodup.1 (heq ▸ hk)
      simpa [List.lookup_cons, beq_eq_false_iff_ne.2 hne] using h k (List.mem_cons_of_mem c hk)
    rw [hhead, htail]

/-- Two maps with the same keys in the same order and the same bindings are equal. -/
theorem eq_of_keys_of_find? {m n : FinMap κ ν} (hkeys : m.keys = n.keys)
    (hfind : ∀ k, m.find? k = n.find? k) : m = n :=
  eq_of_entries (eq_of_map_fst_of_lookup hkeys m.nodup fun k _ => hfind k)

end FinMap

end BindingAudit
