/-
# JSON

Self-describing values as JSON text. A text is kept between its quotes as it was written: reading
a document checks that every escape is well formed, and only a text that is asked for is decoded,
which refuses surrogates without a partner. Names of fields may use escapes, while the keys of
tables whose keys are numbers must be written out as plain decimal numerals.
-/
import BindingAudit.Codec.Wire

namespace BindingAudit.Json

/-- A JSON value; texts are what stands between the quotes. -/
abbrev Value := Wire (List Char)

/-! ## Texts -/

/-- The letter after a backslash that stands for a character. -/
def shortEscape? (c : Char) : Option Char :=
  if c = '"' then some '"'
  else if c = '\\' then some '\\'
  else if c = '\x08' then some 'b'
  else if c = '\t' then some 't'
  else if c = '\n' then some 'n'
  else if c = '\x0c' then some 'f'
  else if c = '\r' then some 'r'
  else none

/-- The character that a letter after a backslash stands for. -/
def shortEscaped? (c : Char) : Option Char :=
  match c with
  | '"' => some '"'
  | '\\' => some '\\'
  | '/' => some '/'
  | 'b' => some '\x08'
  | 't' => some '\t'
  | 'n' => some '\n'
  | 'f' => some '\x0c'
  | 'r' => some '\r'
  | _ => none

/-- The digit for a number below sixteen. -/
def hexDigit (n : Nat) : Char := Nat.digitChar n

/-- The value of a hexadecimal digit of either case. -/
def hexValue? (c : Char) : Option Nat :=
  if '0' ≤ c ∧ c ≤ '9' then some (c.toNat - '0'.toNat)
  else if 'a' ≤ c ∧ c ≤ 'f' then some (c.toNat - 'a'.toNat + 10)
  else if 'A' ≤ c ∧ c ≤ 'F' then some (c.toNat - 'A'.toNat + 10)
  else none

/-- The number that four hexadecimal digits spell. -/
def hexNumber? (a b c d : Char) : Option Nat :=
  match hexValue? a, hexValue? b, hexValue? c, hexValue? d with
  | some w, some x, some y, some z => some (((w * 16 + x) * 16 + y) * 16 + z)
  | _, _, _, _ => none

/-- The written form of a character: quote, backslash and controls are escaped. -/
def escapeChar (c : Char) : List Char :=
  match shortEscape? c with
  | some letter => ['\\', letter]
  | none =>
      if c < ' ' then ['\\', 'u', '0', '0', hexDigit (c.toNat / 16), hexDigit (c.toNat % 16)]
      else [c]

/-- The written form of a text. -/
def escape (s : String) : List Char := s.toList.flatMap escapeChar

/-- Decodes a written text onto the characters decoded before, last first. -/
def unescapeOnto (done : List Char) : List Char → Option (List Char)
  | [] => some done.reverse
  | '\\' :: 'u' :: a :: b :: c :: d :: rest =>
      match hexNumber? a b c d with
      | none => none
      | some n =>
          if 0xD800 ≤ n ∧ n < 0xDC00 then
            match rest with
            | '\\' :: 'u' :: e :: f :: g :: h :: rest =>
                match hexNumber? e f g h with
                | some m =>
                    if 0xDC00 ≤ m ∧ m < 0xE000 then
                      unescapeOnto
                        (Char.ofNat (0x10000 + (n - 0xD800) * 0x400 + (m - 0xDC00)) :: done) rest
                    else none
                | none => none
            | _ => none
          else if 0xDC00 ≤ n ∧ n < 0xE000 then none
          else unescapeOnto (Char.ofNat n :: done) rest
  | '\\' :: c :: rest =>
      match shortEscaped? c with
      | some x => unescapeOnto (x :: done) rest
      | none => none
  | c :: rest => if c = '\\' then none else unescapeOnto (c :: done) rest

/-- The text that a written form spells. -/
def unescape? (written : List Char) : Option String :=
  (unescapeOnto [] written).map String.ofList

/-! ## Numerals -/

/-- The number that a decimal numeral without sign and leading zeros spells. -/
def decimal? (cs : List Char) : Option Nat :=
  if cs.all Char.isDigit && !cs.isEmpty && (cs == ['0'] || cs.head? != some '0') then
    some (Nat.ofDigitChars 10 cs 0)
  else none

/-- What tells JSON from other encodings. -/
def dialect : Dialect (List Char) where
  write := escape
  text?
    | .text t => unescape? t
    | _ => none
  idKey n := .text (Nat.toDigits 10 n)
  idKey?
    | .text t => decimal? t
    | _ => none
  label
    | .text t => match unescape? t with
        | some s => .name s
        | none => .invalid
    | _ => .invalid
  choiceCost := 1
  limit := 127
  limitsIgnored := false

/-! ## Printing -/

mutual

/-- A value as compact JSON. A row of bytes has no JSON form. -/
def print : Value → List Char
  | .null => "null".toList
  | .flag true => "true".toList
  | .flag false => "false".toList
  | .natural n => Nat.toDigits 10 n
  | .signed i => (toString i).toList
  | .other => "null".toList
  | .extension => "null".toList
  | .text t => '"' :: t ++ ['"']
  | .bytes _ => "null".toList
  | .list ws => '[' :: printItems ws ++ [']']
  | .table es => '{' :: printMembers es ++ ['}']

/-- The items of a list, separated by commas. -/
def printItems : List Value → List Char
  | [] => []
  | [w] => print w
  | w :: ws => print w ++ ',' :: printItems ws

/-- The members of a table, separated by commas. -/
def printMembers : List (Value × Value) → List Char
  | [] => []
  | [(k, v)] => print k ++ ':' :: print v
  | (k, v) :: es => print k ++ ':' :: print v ++ ',' :: printMembers es

end

/-! ## Parsing -/

/-- The blanks between the parts of a document. -/
def isBlank (c : Char) : Bool := c == ' ' || c == '\t' || c == '\n' || c == '\r'

/-- The text from the first character that is no blank. -/
def skipBlanks (cs : List Char) : List Char := cs.dropWhile isBlank

/-- Reads a written text up to its closing quote, onto what was read before, last first. -/
def textOnto (done : List Char) : List Char → Option (List Char × List Char)
  | [] => none
  | '"' :: rest => some (done.reverse, rest)
  | '\\' :: 'u' :: a :: b :: c :: d :: rest =>
      if (hexNumber? a b c d).isSome then
        textOnto (d :: c :: b :: a :: 'u' :: '\\' :: done) rest
      else none
  | '\\' :: c :: rest =>
      if (shortEscaped? c).isSome then textOnto (c :: '\\' :: done) rest else none
  | c :: rest => if c < ' ' || c = '\\' then none else textOnto (c :: done) rest

/-- Drops at least one digit. -/
def dropDigits? (cs : List Char) : Option (List Char) :=
  match cs with
  | c :: _ => if c.isDigit then some (cs.dropWhile Char.isDigit) else none
  | [] => none

/-- Drops an exponent, if there is any. -/
def dropExponent? : List Char → Option (List Char)
  | [] => some []
  | c :: cs =>
      if c = 'e' || c = 'E' then
        match cs with
        | '+' :: rest => dropDigits? rest
        | '-' :: rest => dropDigits? rest
        | _ => dropDigits? cs
      else some (c :: cs)

/-- Drops a fraction and an exponent, if there are any. -/
def dropFraction? (cs : List Char) : Option (List Char) :=
  match cs with
  | '.' :: rest => (dropDigits? rest).bind dropExponent?
  | _ => dropExponent? cs

/-- Reads a number without its sign. Only a number without fraction and exponent is told. -/
def magnitude? (cs : List Char) : Option (Option Nat × List Char) :=
  (decimal? (cs.takeWhile Char.isDigit)).bind fun n =>
    match cs.dropWhile Char.isDigit with
    | [] => some (some n, [])
    | c :: rest =>
        if c = '.' || c = 'e' || c = 'E' then (dropFraction? (c :: rest)).map (none, ·)
        else some (some n, c :: rest)

/-- Reads a number. A negative zero is no integer. -/
def number? : List Char → Option (Value × List Char)
  | '-' :: cs => (magnitude? cs).map fun
      | (some (n + 1), rest) => (.signed (-(n + 1 : Nat)), rest)
      | (_, rest) => (.other, rest)
  | cs => (magnitude? cs).map fun
      | (some n, rest) => (.natural n, rest)
      | (none, rest) => (.other, rest)

/-- Reads something from the front of a text. -/
abbrev Scanner (α : Type) := List Char → Option (α × List Char)

/-- Reads things separated by commas up to a closing character, onto those read before, last
first. -/
def separatedOnto {α : Type} (item : Scanner α) (close : Char) : Nat → List α → Scanner (List α)
  | 0, _, _ => none
  | steps + 1, done, cs =>
      match item cs with
      | none => none
      | some (a, rest) =>
          match skipBlanks rest with
          | [] => none
          | c :: rest =>
              if c = ',' then separatedOnto item close steps (a :: done) rest
              else if c = close then some ((a :: done).reverse, rest)
              else none

/-- Reads what stands between brackets: nothing, or at most `steps` things. -/
def bracketed {α : Type} (item : Scanner α) (close : Char) (steps : Nat) : Scanner (List α) :=
  fun cs =>
    match skipBlanks cs with
    | [] => none
    | c :: rest => if c = close then some ([], rest) else separatedOnto item close steps [] cs

/-- Reads a key with its colon. -/
def key? (cs : List Char) : Option (Value × List Char) :=
  match skipBlanks cs with
  | '"' :: rest =>
      match textOnto [] rest with
      | none => none
      | some (t, rest) =>
          match skipBlanks rest with
          | ':' :: rest => some (.text t, rest)
          | _ => none
  | _ => none

/-- Reads a key and its value. -/
def member (value : Scanner Value) : Scanner (Value × Value) := fun cs =>
  (key? cs).bind fun (k, rest) => (value rest).map fun (v, rest) => ((k, v), rest)

/-- Reads a value whose containers are nested less than `levels` deep and have at most `steps`
entries each. -/
def valueWithin (steps : Nat) : Nat → Scanner Value
  | 0, _ => none
  | levels + 1, cs =>
      match skipBlanks cs with
      | '{' :: rest =>
          (bracketed (member (valueWithin steps levels)) '}' steps rest).map
            fun (es, rest) => (.table es, rest)
      | '[' :: rest =>
          (bracketed (valueWithin steps levels) ']' steps rest).map
            fun (ws, rest) => (.list ws, rest)
      | '"' :: rest => (textOnto [] rest).map fun (t, rest) => (.text t, rest)
      | 'n' :: 'u' :: 'l' :: 'l' :: rest => some (.null, rest)
      | 't' :: 'r' :: 'u' :: 'e' :: rest => some (.flag true, rest)
      | 'f' :: 'a' :: 'l' :: 's' :: 'e' :: rest => some (.flag false, rest)
      | rest => number? rest

/-- Parses a document: one value with nothing but blanks after it. A document has fewer levels
and entries than characters. -/
def parse? (cs : List Char) : Option Value :=
  let bound := cs.length + 1
  match valueWithin bound bound cs with
  | some (w, rest) => if (skipBlanks rest).isEmpty then some w else none
  | none => none

end BindingAudit.Json
