/-
# Snapshots come back

A snapshot that was written comes back when it is read, up to the order of the entries in its maps,
as long as it is not nested too deeply for its reader. The order in which a map is written is of no
concern: `t` below is any snapshot that is the same as `s`, and so any way to list the entries of the
maps of `s`.

* `Snapshot.ofMessagePack?_toMessagePack_append`, `Snapshot.ofJson?_toJson` : exactly the snapshots
  that are nested within the limit come back;
* `Snapshot.decode_toMessagePack_append` : in MessagePack, whatever follows the snapshot;
* `Snapshot.decode_toJson` : in JSON, where the nesting can be told from the text;
* `Snapshot.load_of_saved` : what was saved at a path is loaded from there.
-/
import BindingAudit.Audit.SnapshotFile
import BindingAudit.Proofs.JsonNesting
import BindingAudit.Proofs.MessagePackReading
import BindingAudit.Proofs.SnapshotReading

namespace BindingAudit.Snapshot

theorem decode_of_decode? {format : SnapshotEncoding} {bs : List UInt8} {s : Snapshot}
    (h : format.decode? bs = some s) : decode format bs = .ok s := by
  rw [decode, h]

theorem decode_of_decode?_eq_none {format : SnapshotEncoding} {bs : List UInt8}
    (h : format.decode? bs = none) : decode format bs = .error undecodable := by
  rw [decode, h]

/-! ## Chained calls

A program with a chain of calls, `f()()()…`, and a map with two entries that can be written in two
orders. In JSON each call takes three levels, so that the longest chain that comes back has 38 calls. -/

/-- A chain of calls, each of what the one before returns. -/
def callChain : Nat → Expr
  | 0 => .ident ⟨⟨0⟩, .start⟩ "f"
  | calls + 1 => .call ⟨⟨1⟩, .start⟩ (callChain calls) [] false

/-- A program with a chain of calls, in which the types of some expressions are known. -/
def chained (types : FinMap ExprId TypeId) (calls : Nat) : Snapshot :=
  ⟨.predeclared, [{ CompilationUnit.empty "app" with
    files := [⟨"app.go", [], [⟨"main", none, [.expr (callChain calls)], .start⟩]⟩]
    info := ⟨types, .empty, .empty⟩ }]⟩

/-- The types of two expressions. -/
def forwards : FinMap ExprId TypeId := (FinMap.empty.insert ⟨0⟩ ⟨5⟩).insert ⟨1⟩ ⟨6⟩

/-- The same types in another order. -/
def backwards : FinMap ExprId TypeId := (FinMap.empty.insert ⟨1⟩ ⟨6⟩).insert ⟨0⟩ ⟨5⟩

/-! ## MessagePack -/

/-- What is read back from MessagePack: the snapshot itself if there is room for it. -/
theorem ofMessagePack?_toMessagePack_append {s : Snapshot}
    (hfits : MessagePack.fits (s.toWire MessagePack.dialect)) (rest : List UInt8) :
    ofMessagePack? (s.toMessagePack ++ rest) =
      within (s.levels MessagePack.dialect.choiceCost) s MessagePack.dialect.limit := by
  have hplain := (nests_toWire MessagePack.faithful s).plain
  rw [ofMessagePack?, toMessagePack, MessagePack.parse?_print hplain hfits, Option.bind_some,
    ofWire?_toWire MessagePack.faithful]

/-- **Snapshots in MessagePack come back**, whatever follows them. -/
theorem decode_toMessagePack_append {s t : Snapshot} (hsame : t == s)
    (hfits : MessagePack.fits (t.toWire MessagePack.dialect))
    (hroom : t.levels MessagePack.dialect.choiceCost ≤ MessagePack.dialect.limit)
    (rest : List UInt8) :
    ∃ u, decode .messagePack (t.toMessagePack ++ rest) = .ok u ∧ u == s := by
  have hread := ofMessagePack?_toMessagePack_append hfits rest
  rw [within_of_le hroom] at hread
  exact ⟨t, decode_of_decode? hread, hsame⟩

/-- A chain comes back with its map in another order and a byte behind it. -/
theorem chained_decode_toMessagePack_append :
    (chained backwards 40 == chained forwards 40) = true ∧
    ∃ u, decode .messagePack ((chained backwards 40).toMessagePack ++ [0xc1]) = .ok u ∧
      u == chained forwards 40 := by
  have hsame : (chained backwards 40 == chained forwards 40) = true := by decide +kernel
  exact ⟨hsame, decode_toMessagePack_append hsame (by decide +kernel) (by decide +kernel) [0xc1]⟩

/-! ## JSON -/

/-- The nesting of a written snapshot is the number of its levels. -/
theorem nesting_toJson (s : Snapshot) :
    Json.nesting s.toJson.toList = s.levels Json.dialect.choiceCost := by
  have hnests := nests_toWire Json.faithful s
  rw [toJson, String.toList_ofList, Json.nesting_print hnests.plain, hnests.height rfl]

/-- What is read back from JSON: the snapshot itself if it is not nested too deeply. -/
theorem ofJson?_toJson (s : Snapshot) :
    ofJson? s.toJson = within (Json.nesting s.toJson.toList) s Json.dialect.limit := by
  have hplain := (nests_toWire Json.faithful s).plain
  rw [nesting_toJson, ofJson?, toJson, String.toList_ofList, Json.parse?_print hplain,
    Option.bind_some, ofWire?_toWire Json.faithful]

theorem decode?_toJson (s : Snapshot) :
    SnapshotEncoding.json.decode? (Text.Utf8.encode s.toJson) =
      within (Json.nesting s.toJson.toList) s Json.dialect.limit := by
  rw [SnapshotEncoding.decode?, Text.Utf8.decode?_encode, Option.bind_some, ofJson?_toJson]

/-- **Snapshots in JSON come back up to the limit of nesting**, and not beyond. -/
theorem decode_toJson {s t : Snapshot} (hsame : t == s) :
    (Json.nesting t.toJson.toList ≤ 127 →
      ∃ u, decode .json (Text.Utf8.encode t.toJson) = .ok u ∧ u == s) ∧
    (127 < Json.nesting t.toJson.toList →
      ∃ detail, decode .json (Text.Utf8.encode t.toJson) = .error ⟨.snapshot detail, none⟩) := by
  have hread : SnapshotEncoding.json.decode? (Text.Utf8.encode t.toJson) =
      within (Json.nesting t.toJson.toList) t 127 := decode?_toJson t
  refine ⟨fun hroom => ?_, fun hdeep => ?_⟩
  · rw [within_of_le hroom] at hread
    exact ⟨t, decode_of_decode? hread, hsame⟩
  · rw [within_of_lt hdeep] at hread
    exact ⟨_, decode_of_decode?_eq_none hread⟩

/-- A chain of 38 calls comes back, one of 39 calls does not. -/
theorem chained_decode_toJson :
    (chained backwards 38 == chained forwards 38) = true ∧
    (∃ u, decode .json (Text.Utf8.encode (chained backwards 38).toJson) = .ok u ∧
      u == chained forwards 38) ∧
    ∃ detail, decode .json (Text.Utf8.encode (chained backwards 39).toJson) =
      .error ⟨.snapshot detail, none⟩ := by
  have hsame : (chained backwards 38 == chained forwards 38) = true := by decide +kernel
  have hsame' : (chained backwards 39 == chained forwards 39) = true := by decide +kernel
  refine ⟨hsame, (decode_toJson hsame).1 ?_, (decode_toJson hsame').2 ?_⟩
  · rw [nesting_toJson]
    decide +kernel
  · rw [nesting_toJson]
    decide +kernel

end BindingAudit.Snapshot

/-! ## Files -/

namespace BindingAudit

/-- Whether a format has room for a snapshot: it is not nested too deeply for the reader, and in
MessagePack there is a head for each length. -/
def SnapshotEncoding.HasRoomFor : SnapshotEncoding → Snapshot → Prop
  | .json, s => s.levels Json.dialect.choiceCost ≤ Json.dialect.limit
  | .messagePack, s => MessagePack.fits (s.toWire MessagePack.dialect) ∧
      s.levels MessagePack.dialect.choiceCost ≤ MessagePack.dialect.limit

theorem SnapshotEncoding.decode?_encode {format : SnapshotEncoding} {s : Snapshot}
    (h : format.HasRoomFor s) : format.decode? (format.encode s) = some s := by
  cases format with
  | json =>
    rw [encode, Snapshot.decode?_toJson, Snapshot.nesting_toJson]
    exact within_of_le h
  | messagePack =>
    obtain ⟨hfits, hroom⟩ := h
    have hread := Snapshot.ofMessagePack?_toMessagePack_append hfits []
    rw [List.append_nil, within_of_le hroom] at hread
    exact hread

/-- **What was saved is loaded**, in the format that the path asks for. -/
theorem Snapshot.load_of_saved {s : Snapshot} {path : String}
    {read : String → Except String (List UInt8)}
    (hread : read path = .ok ((SnapshotEncoding.ofPath path).encode s))
    (hroom : (SnapshotEncoding.ofPath path).HasRoomFor s) : load read path = .ok s := by
  have hdecode := decode_of_decode? (SnapshotEncoding.decode?_encode hroom)
  rw [load, hread]
  simp only [hdecode]

end BindingAudit
