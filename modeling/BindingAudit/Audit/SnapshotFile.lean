/-
# Snapshot files

Snapshots are kept in files, as JSON if the name of the file says so and as MessagePack
otherwise. What went wrong with a file is told together with its path.
-/
import BindingAudit.Codec.Json
import BindingAudit.Codec.MessagePack
import BindingAudit.Codec.Reading
import BindingAudit.Codec.Writing
import BindingAudit.Fault
import BindingAudit.Journal
import BindingAudit.Text.Path

namespace BindingAudit

/-! ## The two encodings -/

/-- A snapshot as JSON. -/
def Snapshot.toJson (s : Snapshot) : String :=
  String.ofList (Json.print (s.toWire Json.dialect))

/-- The snapshot that a JSON document describes. -/
def Snapshot.ofJson? (text : String) : Option Snapshot :=
  (Json.parse? text.toList).bind (Snapshot.ofWire? Json.dialect Json.dialect.limit)

/-- A snapshot as MessagePack. -/
def Snapshot.toMessagePack (s : Snapshot) : List UInt8 :=
  MessagePack.print (s.toWire MessagePack.dialect)

/-- The snapshot that bytes in MessagePack describe. -/
def Snapshot.ofMessagePack? (bs : List UInt8) : Option Snapshot :=
  (MessagePack.parse? bs).bind (Snapshot.ofWire? MessagePack.dialect MessagePack.dialect.limit)

/-! ## Formats -/

/-- How a snapshot is encoded in a file. -/
inductive SnapshotEncoding where
  | messagePack
  | json
  deriving DecidableEq, Repr

/-- The name of the file that a path leads to. Empty parts and single dots lead nowhere, and the
parent directory has no name. -/
def fileName? (path : String) : Option String :=
  ((Text.pathParts path).filter fun part => part != "" && part != ".").getLast?.filter (· != "..")

/-- The part of a file name behind its last dot. A dot in front of the name does not count. -/
def fileExtension? (name : String) : Option String :=
  let ext := (name.toList.reverse.takeWhile (· != '.')).reverse
  if ext.length + 1 < name.length then some (String.ofList ext) else none

namespace SnapshotEncoding

/-- The format of the file at a path: JSON if its extension is `json` in any case. -/
def ofPath (path : String) : SnapshotEncoding :=
  match (fileName? path).bind fileExtension? with
  | some ext => if ext.toLower = "json" then json else messagePack
  | none => messagePack

/-- A snapshot as the content of a file. -/
def encode : SnapshotEncoding → Snapshot → List UInt8
  | json, s => Text.Utf8.encode s.toJson
  | messagePack, s => s.toMessagePack

/-- The snapshot that the content of a file describes. -/
def decode? : SnapshotEncoding → List UInt8 → Option Snapshot
  | json, bs => (Text.Utf8.decode? bs).bind Snapshot.ofJson?
  | messagePack, bs => Snapshot.ofMessagePack? bs

end SnapshotEncoding

/-! ## Saving and loading -/

/-- The fault of a document that describes no snapshot. -/
def undecodable : Fault := ⟨.snapshot "the document does not describe a snapshot", none⟩

/-- The snapshot that a document describes. -/
def Snapshot.decode (format : SnapshotEncoding) (bs : List UInt8) : Except Fault Snapshot :=
  match format.decode? bs with
  | some s => .ok s
  | none => .error undecodable

/-- Saves a snapshot at a path, given how files are written: the content in the format that the
path asks for. A file that cannot be written gives the reason in words. -/
def Snapshot.save {α : Type} (write : String → List UInt8 → Except String α) (path : String)
    (s : Snapshot) : Except Fault α :=
  match write path ((SnapshotEncoding.ofPath path).encode s) with
  | .error detail => .error ⟨.io path detail, none⟩
  | .ok done => .ok done

/-- Loads the snapshot at a path, given how files are read. A file that cannot be read gives the
reason in words. -/
def Snapshot.load (read : String → Except String (List UInt8)) (path : String) :
    Except Fault Snapshot :=
  match read path with
  | .error detail => .error ⟨.io path detail, none⟩
  | .ok bs =>
      match Snapshot.decode (.ofPath path) bs with
      | .ok s => .ok s
      | .error fault => .error (fault.inContext { source := some path })

/-- The events of loading a snapshot. -/
def Snapshot.loadJournal (path : String) (s : Snapshot) : List Event :=
  [⟨.debug, "snapshot loaded", [("path", path), ("units", toString s.units.length)]⟩]

end BindingAudit
