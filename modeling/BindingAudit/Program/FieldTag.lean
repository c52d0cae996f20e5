/-
# Field tags

A field tag is a sequence of entries `name:"value"` separated by spaces, such as
`json:"id,omitempty" db:"id"`. Inside a value a backslash takes the next character literally.
Looking a name up reads entries from the left and stops at the first text that is no entry.

* `TagEntry.length_rest_lt` : an entry uses up text, so the search ends.
-/

namespace BindingAudit

/-- The first entry of a tag and the text behind it. -/
structure TagEntry where
  name : List Char
  value : List Char
  rest : List Char

namespace TagEntry

/-- A name runs up to a blank, a control, a colon or a double quote. -/
def isNameChar (c : Char) : Bool :=
  ' ' < c && c != ':' && c != '"'

/-- The value whose opening quote has been read, and the text after the closing quote. -/
def readValue : List Char → Option (List Char × List Char)
  | [] => none
  | '"' :: cs => some ([], cs)
  | ['\\'] => none
  | '\\' :: c :: cs => (readValue cs).map fun (v, rest) => (c :: v, rest)
  | c :: cs => (readValue cs).map fun (v, rest) => (c :: v, rest)

/-- Reads the entry at the start of a text. -/
def readHere (cs : List Char) : Option TagEntry :=
  match cs.dropWhile isNameChar with
  | ':' :: '"' :: body =>
      (readValue body).map fun (v, rest) => ⟨cs.takeWhile isNameChar, v, rest⟩
  | _ => none

/-- Reads one entry, after any number of spaces. -/
def read (cs : List Char) : Option TagEntry :=
  readHere (cs.dropWhile (· == ' '))

/-- What follows a value is shorter than what the value was read from. -/
theorem length_readValue_lt {cs v rest : List Char} (h : readValue cs = some (v, rest)) :
    rest.length < cs.length := by
  fun_induction readValue cs generalizing v rest with
  | case1 => simp at h
  | case2 cs => simp_all
  | case3 => simp at h
  | case4 c cs ih =>
    obtain ⟨⟨w, r⟩, hw, he⟩ := Option.map_eq_some_iff.1 h
    have hr := ih hw
    simp_all
    omega
  | case5 c cs _ _ _ ih =>
    obtain ⟨⟨w, r⟩, hw, he⟩ := Option.map_eq_some_iff.1 h
    have hr := ih hw
    simp_all
    omega

/-- An entry at the start of a text uses up text. -/
theorem length_rest_readHere_lt {cs : List Char} {e : TagEntry} (h : readHere cs = some e) :
    e.rest.length < cs.length := by
  unfold readHere at h
  split at h
  · rename_i body heq
    obtain ⟨⟨v, rest⟩, hv, rfl⟩ := Option.map_eq_some_iff.1 h
    have h1 := (List.dropWhile_sublist (l := cs) isNameChar).length_le
    have h2 := length_readValue_lt hv
    rw [heq] at h1
    simp only [List.length_cons] at h1 ⊢
    omega
  · simp at h

/-- An entry uses up text. -/
theorem length_rest_lt {cs : List Char} {e : TagEntry} (h : read cs = some e) :
    e.rest.length < cs.length :=
  Nat.lt_of_lt_of_le (length_rest_readHere_lt h)
    (List.dropWhile_sublist (l := cs) (· == ' ')).length_le

end TagEntry

namespace FieldTag

/-- The value of the first entry with a given name. -/
def valueIn? (key : List Char) (cs : List Char) : Option (List Char) :=
  match _h : TagEntry.read cs with
  | none => none
  | some e => if e.name = key then some e.value else valueIn? key e.rest
termination_by cs.length
decreasing_by exact TagEntry.length_rest_lt ‹_›

/-- The value stored under `key` in a field tag. -/
def value? (tag key : String) : Option String :=
  (valueIn? key.toList tag.toList).map String.ofList

end FieldTag

end BindingAudit
