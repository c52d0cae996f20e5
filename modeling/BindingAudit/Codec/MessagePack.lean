/-
# MessagePack

Self-describing values as MessagePack bytes. Writing uses the shortest form of every number and
length; reading takes any form. Texts are kept as bytes: one that is not UTF-8 is refused only
where it is asked for.
-/
import BindingAudit.Codec.Wire
import BindingAudit.Text.Utf8

namespace BindingAudit.MessagePack

/-- A MessagePack value; texts are their UTF-8 bytes. -/
abbrev Value := Wire (List UInt8)

/-- What tells MessagePack from other encodings. Fields and variants may be given by their place,
and a row of bytes may stand for a text. -/
def dialect : Dialect (List UInt8) where
  write := Text.Utf8.encode
  text?
    | .text bs => Text.Utf8.decode? bs
    | .bytes bs => Text.Utf8.decode? bs
    | _ => none
  idKey n := .natural n
  idKey? := Wire.natural?
  label
    | .text bs => match Text.Utf8.decode? bs with
        | some s => .name s
        | none => .foreign
    | .bytes bs => match Text.Utf8.decode? bs with
        | some s => .name s
        | none => .foreign
    | .natural n => .position n
    | _ => .invalid
  choiceCost := 0
  limit := 1023
  limitsIgnored := true

/-! ## Writing -/

/-- The lowest `count` bytes of a number, highest first. -/
def bigEndian : Nat → Nat → List UInt8
  | 0, _ => []
  | count + 1, n => bigEndian count (n / 256) ++ [UInt8.ofNat n]

/-- The shortest form of a number. -/
def natural (n : Nat) : List UInt8 :=
  if n < 0x80 then [UInt8.ofNat n]
  else if n < UInt8.size then 0xcc :: bigEndian 1 n
  else if n < UInt16.size then 0xcd :: bigEndian 2 n
  else if n < UInt32.size then 0xce :: bigEndian 4 n
  else 0xcf :: bigEndian 8 n

/-- The shortest head of a text with a given number of bytes. -/
def textHead (n : Nat) : List UInt8 :=
  if n < 32 then [UInt8.ofNat (0xa0 + n)]
  else if n < UInt8.size then 0xd9 :: bigEndian 1 n
  else if n < UInt16.size then 0xda :: bigEndian 2 n
  else 0xdb :: bigEndian 4 n

/-- The shortest head of a row of bytes. -/
def bytesHead (n : Nat) : List UInt8 :=
  if n < UInt8.size then 0xc4 :: bigEndian 1 n
  else if n < UInt16.size then 0xc5 :: bigEndian 2 n
  else 0xc6 :: bigEndian 4 n

/-- The shortest head of a list with a given number of items. -/
def listHead (n : Nat) : List UInt8 :=
  if n < 16 then [UInt8.ofNat (0x90 + n)]
  else if n < UInt16.size then 0xdc :: bigEndian 2 n
  else 0xdd :: bigEndian 4 n

/-- The shortest head of a table with a given number of entries. -/
def tableHead (n : Nat) : List UInt8 :=
  if n < 16 then [UInt8.ofNat (0x80 + n)]
  else if n < UInt16.size then 0xde :: bigEndian 2 n
  else 0xdf :: bigEndian 4 n

mutual

/-- A value as bytes. -/
def print : Value → List UInt8
  | .null => [0xc0]
  | .flag false => [0xc2]
  | .flag true => [0xc3]
  | .natural n => natural n
  | .signed i => 0xd3 :: bigEndian 8 (i % (UInt64.size : Nat)).toNat
  | .other => [0xc0]
  | .extension => [0xd4, 0x00, 0x00]
  | .text bs => textHead bs.length ++ bs
  | .bytes bs => bytesHead bs.length ++ bs
  | .list ws => listHead ws.length ++ printItems ws
  | .table es => tableHead es.length ++ printEntries es

/-- The items of a list, one after the other. -/
def printItems : List Value → List UInt8
  | [] => []
  | w :: ws => print w ++ printItems ws

/-- The entries of a table, each key before its value. -/
def printEntries : List (Value × Value) → List UInt8
  | [] => []
  | (k, v) :: es => print k ++ print v ++ printEntries es

end

/-! ## Reading -/

/-- Reads something from the front of a row of bytes. -/
abbrev Scanner (α : Type) := List UInt8 → Option (α × List UInt8)

/-- Splits off a given number of bytes, onto those split off before, last first. -/
def takeOnto (done : List UInt8) : Nat → Scanner (List UInt8)
  | 0, bs => some (done.reverse, bs)
  | _ + 1, [] => none
  | n + 1, b :: bs => takeOnto (b :: done) n bs

/-- Splits off exactly `n` bytes. -/
def take? (n : Nat) : Scanner (List UInt8) := takeOnto [] n

/-- The number that bytes spell, highest first. -/
def ofBigEndian (bs : List UInt8) : Nat := bs.foldl (fun n b => n * 256 + b.toNat) 0

/-- Reads a number of `count` bytes. -/
def word? (count : Nat) : Scanner Nat := fun bs =>
  (take? count bs).map fun (word, rest) => (ofBigEndian word, rest)

/-- The number of `count` bytes in two's complement. -/
def twosComplement (count n : Nat) : Int :=
  if n < Nat.pow 2 (8 * count - 1) then n else (n : Int) - Nat.pow 2 (8 * count)

/-- The start of a value: a whole scalar, or the kind and size of what follows. -/
inductive Head where
  | scalar (w : Value)
  | text (size : Nat)
  | bytes (size : Nat)
  | list (size : Nat)
  | table (size : Nat)
  /-- An extension, whose content is of no use. -/
  | extension (size : Nat)

/-- Reads a number of `count` bytes that completes the start of a value. -/
def sized (build : Nat → Head) (count : Nat) : Scanner Head := fun bs =>
  (word? count bs).map fun (n, rest) => (build n, rest)

/-- Reads the start of a value. -/
def head? : Scanner Head
  | [] => none
  | b :: bs =>
      if b < 0x80 then some (.scalar (.natural b.toNat), bs)
      else if b < 0x90 then some (.table (b.toNat - 0x80), bs)
      else if b < 0xa0 then some (.list (b.toNat - 0x90), bs)
      else if b < 0xc0 then some (.text (b.toNat - 0xa0), bs)
      else if 0xe0 ≤ b then some (.scalar (.signed ((b.toNat : Int) - 256)), bs)
      else if b = 0xc0 then some (.scalar .null, bs)
      else if b = 0xc2 then some (.scalar (.flag false), bs)
      else if b = 0xc3 then some (.scalar (.flag true), bs)
      else if b = 0xc4 then sized .bytes 1 bs
      else if b = 0xc5 then sized .bytes 2 bs
      else if b = 0xc6 then sized .bytes 4 bs
      else if b = 0xc7 then sized .extension 1 bs
      else if b = 0xc8 then sized .extension 2 bs
      else if b = 0xc9 then sized .extension 4 bs
      else if b = 0xca then sized (fun _ => .scalar .other) 4 bs
      else if b = 0xcb then sized (fun _ => .scalar .other) 8 bs
      else if b = 0xcc then sized (fun n => .scalar (.natural n)) 1 bs
      else if b = 0xcd then sized (fun n => .scalar (.natural n)) 2 bs
      else if b = 0xce then sized (fun n => .scalar (.natural n)) 4 bs
      else if b = 0xcf then sized (fun n => .scalar (.natural n)) 8 bs
      else if b = 0xd0 then sized (fun n => .scalar (.signed (twosComplement 1 n))) 1 bs
      else if b = 0xd1 then sized (fun n => .scalar (.signed (twosComplement 2 n))) 2 bs
      else if b = 0xd2 then sized (fun n => .scalar (.signed (twosComplement 4 n))) 4 bs
      else if b = 0xd3 then sized (fun n => .scalar (.signed (twosComplement 8 n))) 8 bs
      else if b = 0xd4 then some (.extension 1, bs)
      else if b = 0xd5 then some (.extension 2, bs)
      else if b = 0xd6 then some (.extension 4, bs)
      else if b = 0xd7 then some (.extension 8, bs)
      else if b = 0xd8 then some (.extension 16, bs)
      else if b = 0xd9 then sized .text 1 bs
      else if b = 0xda then sized .text 2 bs
      else if b = 0xdb then sized .text 4 bs
      else if b = 0xdc then sized .list 2 bs
      else if b = 0xdd then sized .list 4 bs
      else if b = 0xde then sized .table 2 bs
      else if b = 0xdf then sized .table 4 bs
      else none

/-- Reads a given number of items, onto those read before, last first. -/
def itemsOnto {α : Type} (item : Scanner α) (done : List α) : Nat → Scanner (List α)
  | 0, bs => some (done.reverse, bs)
  | n + 1, bs =>
      match item bs with
      | none => none
      | some (a, rest) => itemsOnto item (a :: done) n rest

/-- Reads one thing, then another. -/
def pair {α β : Type} (first : Scanner α) (second : Scanner β) : Scanner (α × β) := fun bs =>
  (first bs).bind fun (a, rest) => (second rest).map fun (b, rest) => ((a, b), rest)

/-- Reads a value whose containers are nested less than `levels` deep. -/
def valueWithin : Nat → Scanner Value
  | 0, _ => none
  | levels + 1, bs =>
      match head? bs with
      | none => none
      | some (.scalar w, rest) => some (w, rest)
      | some (.text n, rest) => (take? n rest).map fun (t, rest) => (.text t, rest)
      | some (.bytes n, rest) => (take? n rest).map fun (t, rest) => (.bytes t, rest)
      | some (.extension n, rest) => (take? (n + 1) rest).map fun (_, rest) => (.extension, rest)
      | some (.list n, rest) =>
          (itemsOnto (valueWithin levels) [] n rest).map fun (ws, rest) => (.list ws, rest)
      | some (.table n, rest) =>
          (itemsOnto (pair (valueWithin levels) (valueWithin levels)) [] n rest).map
            fun (es, rest) => (.table es, rest)

/-- Reads the value at the front of a row of bytes. What follows it is of no concern. -/
def parse? (bs : List UInt8) : Option Value :=
  (valueWithin (bs.length + 1) bs).map Prod.fst

end BindingAudit.MessagePack
