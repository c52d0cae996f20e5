/-
# The grammar of field tags

An entry of a field tag is any number of spaces, a name, a colon and a value between double quotes.
The value may be spelled with backslashes, each of which takes the character behind it literally.
Looking a name up answers from the first entry with that name, if there are only entries in front of
it. What stands behind it does not matter.

* `TagEntry.IsEntry` : the grammar, said without the reader;
* `TagEntry.read_eq_some_iff` : an entry is read if and only if the text begins with one;
* `FieldTag.valueIn?_eq_some_iff` : the value that a look-up finds;
* `FieldTag.value?_exact` : look-ups in any tag, and in tags that are written from pairs.
-/
import BindingAudit.Program.FieldTag

namespace BindingAudit

namespace TagEntry

/-! ## Entries -/

/-- `Body text value` : the text is a sequence of items, each of which is a character other than a
double quote and a backslash, or a backslash and the character behind it. The value is the text
without these backslashes. -/
inductive Body : List Char → List Char → Prop where
  | nil : Body [] []
  | plain {c : Char} {text value : List Char} (hquote : c ≠ '"') (hbackslash : c ≠ '\\')
      (h : Body text value) : Body (c :: text) (c :: value)
  | escaped (c : Char) {text value : List Char} (h : Body text value) :
      Body ('\\' :: c :: text) (c :: value)

/-- A name has no character up to the space, no colon and no double quote. It may be empty. -/
def IsName (name : List Char) : Prop := ∀ c ∈ name, ¬ c ≤ ' ' ∧ c ≠ ':' ∧ c ≠ '"'

/-- `IsEntry text name value` : the text is an entry with this name and this value. -/
inductive IsEntry : List Char → List Char → List Char → Prop where
  | intro (blanks : Nat) {name body value : List Char} (hname : IsName name)
      (hbody : Body body value) :
      IsEntry (List.replicate blanks ' ' ++ (name ++ ':' :: '"' :: (body ++ ['"']))) name value

/-! ## Reading a value -/

/-- A body in front of a double quote is read as a whole. -/
theorem readValue_of_body {body value : List Char} (h : Body body value) (rest : List Char) :
    readValue (body ++ '"' :: rest) = some (value, rest) := by
  induction h with
  | nil => rw [List.nil_append, readValue]
  | plain hquote hbackslash _ ih =>
    rw [List.cons_append, readValue, ih]
    · rfl
    · exact hquote
    · intro hc
      exact absurd hc hbackslash
    · intro c cs hc
      exact absurd hc hbackslash
  | escaped c _ ih =>
    rw [List.cons_append, List.cons_append, readValue, ih]
    rfl

/-- What is read as a value is a body and the double quote behind it. -/
theorem exists_body_of_readValue {cs value rest : List Char}
    (h : readValue cs = some (value, rest)) :
    ∃ body, Body body value ∧ cs = body ++ '"' :: rest := by
  fun_induction readValue cs generalizing value rest with
  | case1 => cases h
  | case2 cs =>
    cases h
    exact ⟨[], .nil, rfl⟩
  | case3 => cases h
  | case4 c cs ih =>
    obtain ⟨⟨v, r⟩, hread, hpair⟩ := Option.map_eq_some_iff.1 h
    cases hpair
    obtain ⟨body, hbody, rfl⟩ := ih hread
    exact ⟨'\\' :: c :: body, .escaped c hbody, rfl⟩
  | case5 c cs hquote hlast hescape ih =>
    obtain ⟨⟨v, r⟩, hread, hpair⟩ := Option.map_eq_some_iff.1 h
    cases hpair
    obtain ⟨body, hbody, rfl⟩ := ih hread
    -- a backslash would have been read with the character behind it
    have hbackslash : c ≠ '\\' := by
      intro hc
      have hne : body ++ '"' :: rest ≠ [] := by simp
      obtain ⟨a, as, hcons⟩ := List.exists_cons_of_ne_nil hne
      exact hescape a as hc hcons
    exact ⟨c :: body, .plain hquote hbackslash hbody, rfl⟩

/-! ## Reading an entry -/

theorem isNameChar_iff {c : Char} : isNameChar c = true ↔ ¬ c ≤ ' ' ∧ c ≠ ':' ∧ c ≠ '"' := by
  simp only [isNameChar, Bool.and_eq_true, decide_eq_true_eq, bne_iff_ne, Char.not_le, and_assoc]

theorem isName_iff {name : List Char} : IsName name ↔ name.all isNameChar = true := by
  simp only [IsName, List.all_eq_true, isNameChar_iff]

instance (name : List Char) : Decidable (IsName name) := decidable_of_iff _ isName_iff.symm

/-- A name in front of a colon is what the longest run of name characters is. -/
theorem span_name {name : List Char} (h : IsName name) (rest : List Char) :
    (name ++ ':' :: rest).takeWhile isNameChar = name ∧
      (name ++ ':' :: rest).dropWhile isNameChar = ':' :: rest := by
  have hname : ∀ c ∈ name, isNameChar c = true := List.all_eq_true.1 (isName_iff.1 h)
  have hcolon : ¬ isNameChar ':' = true := by decide
  constructor
  · rw [List.takeWhile_append_of_pos hname, List.takeWhile_cons_of_neg hcolon, List.append_nil]
  · rw [List.dropWhile_append_of_pos hname, List.dropWhile_cons_of_neg hcolon]

/-- The spaces in front of a name are dropped, and nothing of the name is. -/
theorem dropWhile_blanks (blanks : Nat) {name : List Char} (h : IsName name) (rest : List Char) :
    (List.replicate blanks ' ' ++ (name ++ ':' :: rest)).dropWhile (· == ' ') =
      name ++ ':' :: rest := by
  have hblanks : ∀ c ∈ List.replicate blanks ' ', (c == ' ') = true := by
    intro c hc
    rw [List.eq_of_mem_replicate hc]
    decide
  rw [List.dropWhile_append_of_pos hblanks]
  cases name with
  | nil => rfl
  | cons c cs =>
    have hc : ¬ (c == ' ') = true := by
      intro heq
      have hle : ¬ c ≤ ' ' := (h c List.mem_cons_self).1
      rw [beq_iff_eq.1 heq] at hle
      exact hle (by decide)
    rw [List.cons_append, List.dropWhile_cons_of_neg (p := (· == ' ')) hc]

/-- **An entry is read as a whole**, whatever stands behind it. -/
theorem read_of_isEntry {text name value : List Char} (h : IsEntry text name value)
    (rest : List Char) : read (text ++ rest) = some ⟨name, value, rest⟩ := by
  cases h with
  | intro blanks hname hbody =>
    rename_i body
    have htext : List.replicate blanks ' ' ++ (name ++ ':' :: '"' :: (body ++ ['"'])) ++ rest =
        List.replicate blanks ' ' ++ (name ++ ':' :: ('"' :: (body ++ '"' :: rest))) := by
      simp
    obtain ⟨htake, hdrop⟩ := span_name hname ('"' :: (body ++ '"' :: rest))
    unfold read
    rw [htext, dropWhile_blanks blanks hname]
    unfold readHere
    rw [htake, hdrop]
    simp only [readValue_of_body hbody, Option.map_some]

/-- **What is read is an entry** at the start of the text. -/
theorem exists_isEntry_of_read {cs : List Char} {e : TagEntry} (h : read cs = some e) :
    ∃ text, IsEntry text e.name e.value ∧ cs = text ++ e.rest := by
  unfold read readHere at h
  split at h
  · rename_i behind hdrop
    obtain ⟨⟨value, rest⟩, hread, rfl⟩ := Option.map_eq_some_iff.1 h
    obtain ⟨body, hbody, rfl⟩ := exists_body_of_readValue hread
    have hblanks : cs.takeWhile (· == ' ') =
        List.replicate (cs.takeWhile (· == ' ')).length ' ' := by
      refine List.eq_replicate_iff.2 ⟨rfl, ?_⟩
      intro c hc
      exact beq_iff_eq.1 (List.all_eq_true.1 List.all_takeWhile c hc)
    have hname : IsName ((cs.dropWhile (· == ' ')).takeWhile isNameChar) :=
      isName_iff.2 List.all_takeWhile
    refine ⟨_, .intro (cs.takeWhile (· == ' ')).length hname hbody, ?_⟩
    calc cs = cs.takeWhile (· == ' ') ++ cs.dropWhile (· == ' ') :=
          List.takeWhile_append_dropWhile.symm
      _ = cs.takeWhile (· == ' ') ++ ((cs.dropWhile (· == ' ')).takeWhile isNameChar ++
            (cs.dropWhile (· == ' ')).dropWhile isNameChar) := by
          rw [List.takeWhile_append_dropWhile (p := isNameChar)]
      _ = _ := by
          rw [hdrop, ← hblanks]
          simp
  · cases h

theorem read_eq_some_iff {cs : List Char} {e : TagEntry} :
    read cs = some e ↔ ∃ text, IsEntry text e.name e.value ∧ cs = text ++ e.rest := by
  constructor
  · exact exists_isEntry_of_read
  · rintro ⟨text, hentry, rfl⟩
    exact read_of_isEntry hentry e.rest

end TagEntry

namespace FieldTag

/-! ## Looking a name up -/

/-- The tag is a sequence of entries with other names, an entry with the name `key` and the value
`value`, and any text behind it. -/
def Stores (tag key value : List Char) : Prop :=
  ∃ (passed : List (List Char)) (entry rest : List Char),
    tag = passed.flatten ++ (entry ++ rest) ∧
    (∀ text ∈ passed, ∃ name other, TagEntry.IsEntry text name other ∧ name ≠ key) ∧
    TagEntry.IsEntry entry key value

/-- One step of a look-up, at an entry. -/
theorem valueIn?_of_isEntry {text name value : List Char} (h : TagEntry.IsEntry text name value)
    (key rest : List Char) :
    valueIn? key (text ++ rest) = if name = key then some value else valueIn? key rest := by
  have hread := TagEntry.read_of_isEntry h rest
  rw [valueIn?]
  split
  · rename_i hnone
    rw [hread] at hnone
    cases hnone
  · rename_i e he
    rw [hread] at he
    cases he
    rfl

/-- **Look-ups.** The value that is found is that of the first entry with the name, with entries
only in front of it. -/
theorem valueIn?_eq_some_iff {key cs value : List Char} :
    valueIn? key cs = some value ↔ Stores cs key value := by
  constructor
  · intro h
    fun_induction valueIn? key cs with
    | case1 => cases h
    | case2 cs e hread hname =>
      cases h
      obtain ⟨text, hentry, rfl⟩ := TagEntry.read_eq_some_iff.1 hread
      rw [hname] at hentry
      exact ⟨[], text, e.rest, rfl, by simp, hentry⟩
    | case3 cs e hread hname ih =>
      obtain ⟨text, hentry, rfl⟩ := TagEntry.read_eq_some_iff.1 hread
      obtain ⟨passed, entry, rest, hrest, hpassed, hfound⟩ := ih h
      refine ⟨text :: passed, entry, rest, ?_, ?_, hfound⟩
      · rw [hrest, List.flatten_cons, List.append_assoc]
      · intro t ht
        rcases List.mem_cons.1 ht with rfl | ht
        · exact ⟨e.name, e.value, hentry, hname⟩
        · exact hpassed t ht
  · rintro ⟨passed, entry, rest, rfl, hpassed, hentry⟩
    induction passed with
    | nil => rw [List.flatten_nil, List.nil_append, valueIn?_of_isEntry hentry, if_pos rfl]
    | cons text passed ih =>
      obtain ⟨name, other, htext, hname⟩ := hpassed text List.mem_cons_self
      have hrest := ih fun t ht => hpassed t (List.mem_cons_of_mem _ ht)
      rw [List.flatten_cons, List.append_assoc, valueIn?_of_isEntry htext, if_neg hname, hrest]

/-! ## Writing a tag -/

/-- A value as it is written: with a backslash in front of each double quote and backslash. -/
def escape (value : List Char) : List Char :=
  value.flatMap fun c => if c = '"' ∨ c = '\\' then ['\\', c] else [c]

/-- A written value is a body with that value. -/
theorem body_escape (value : List Char) : TagEntry.Body (escape value) value := by
  induction value with
  | nil => exact .nil
  | cons c cs ih =>
    unfold escape at ih ⊢
    rw [List.flatMap_cons]
    by_cases h : c = '"' ∨ c = '\\'
    · rw [if_pos h]
      exact .escaped c ih
    · rw [if_neg h]
      obtain ⟨hquote, hbackslash⟩ := not_or.1 h
      exact .plain hquote hbackslash ih

/-- An entry as it is written, behind a number of spaces. -/
def writeEntry (blanks : Nat) (name value : List Char) : List Char :=
  List.replicate blanks ' ' ++ (name ++ ':' :: '"' :: (escape value ++ ['"']))

/-- The tag with these names and values, in this order. The spacing gives the number of spaces in
front of each entry. -/
def write (spacing : Nat → Nat) (pairs : List (String × String)) : String :=
  String.ofList
    (pairs.mapIdx fun i pair => writeEntry (spacing i) pair.1.toList pair.2.toList).flatten

/-- **A tag that is written from pairs** has the value of the first pair with a name, whatever the
values are and however the entries are spaced. -/
theorem value?_write (spacing : Nat → Nat) {pairs : List (String × String)}
    (h : ∀ pair ∈ pairs, TagEntry.IsName pair.1.toList) (key : String) :
    value? (write spacing pairs) key = pairs.lookup key := by
  unfold value? write
  rw [String.toList_ofList]
  induction pairs generalizing spacing with
  | nil =>
    rw [List.mapIdx_nil, List.flatten_nil, valueIn?]
    rfl
  | cons pair pairs ih =>
    obtain ⟨name, value⟩ := pair
    have hentry : TagEntry.IsEntry (writeEntry (spacing 0) name.toList value.toList) name.toList
        value.toList :=
      .intro (spacing 0) (h _ List.mem_cons_self) (body_escape value.toList)
    have hrest := ih (fun i => spacing (i + 1)) fun p hp => h p (List.mem_cons_of_mem _ hp)
    rw [List.mapIdx_cons, List.flatten_cons, valueIn?_of_isEntry hentry, List.lookup_cons]
    by_cases hkey : key = name
    · subst hkey
      simp
    · have hne : ¬ name.toList = key.toList := by
        intro heq
        exact hkey (String.toList_inj.1 heq).symm
      rw [if_neg hne, beq_false_of_ne hkey]
      exact hrest

/-- **What a look-up in a tag finds.** A value is found if and only if the tag is a sequence of
entries with other names, an entry with the name and that value, and any text behind it; otherwise
nothing is found. In a tag that is written from pairs of a name and an arbitrary value, it is the
value of the first pair with the name, or nothing if there is none. -/
theorem value?_exact (tag key : String) :
    (∀ value, value? tag key = some value ↔ Stores tag.toList key.toList value.toList) ∧
      (value? tag key = none ↔ ∀ value, ¬ Stores tag.toList key.toList value) ∧
      ∀ (spacing : Nat → Nat) (pairs : List (String × String)),
        (∀ pair ∈ pairs, TagEntry.IsName pair.1.toList) →
        value? (write spacing pairs) key = pairs.lookup key := by
  have hsome : ∀ value, value? tag key = some value ↔
      Stores tag.toList key.toList value.toList := by
    intro value
    rw [← valueIn?_eq_some_iff]
    unfold value?
    rw [Option.map_eq_some_iff]
    constructor
    · rintro ⟨v, hv, rfl⟩
      rw [hv, String.toList_ofList]
    · intro hv
      exact ⟨_, hv, String.ofList_toList⟩
  refine ⟨hsome, ?_, fun spacing pairs h => value?_write spacing h key⟩
  unfold value?
  rw [Option.map_eq_none_iff, Option.eq_none_iff_forall_ne_some]
  exact forall_congr' fun value => not_congr valueIn?_eq_some_iff

/-- The name `json` stands twice, the first time with a quote and a backslash in its value. -/
theorem value?_write_twice :
    let pairs := [("db", "id"), ("json", "a\"b\\c"), ("json", "-")]
    (∀ pair ∈ pairs, TagEntry.IsName pair.1.toList) ∧
      write (fun i => min i 1) pairs = "db:\"id\" json:\"a\\\"b\\\\c\" json:\"-\"" ∧
      value? (write (fun i => min i 1) pairs) "json" = some "a\"b\\c" ∧
      value? (write (fun i => min i 1) pairs) "xml" = none := by
  intro pairs
  have hnames : ∀ pair ∈ pairs, TagEntry.IsName pair.1.toList := by decide +kernel
  have hjson := (value?_exact "" "json").2.2 (fun i => min i 1) pairs hnames
  have hxml := (value?_exact "" "xml").2.2 (fun i => min i 1) pairs hnames
  refine ⟨hnames, by decide +kernel, hjson.trans ?_, hxml.trans ?_⟩
  · decide
  · decide

end FieldTag

end BindingAudit
