/-
# Snapshot files that are cut short

A file is written in place, so that a write that fails half way leaves the first part of a snapshot
behind. Such a file is never taken for a snapshot, wherever it ends: in both encodings a reader that
is content with the first part would be content with it in the whole file too, and leave the other
part unread.

* `SnapshotEncoding.decode?_eq_none_of_cut` : the first part of a snapshot is no snapshot;
* `Snapshot.load_of_cut` : loading a file that is cut short fails and tells the path.
-/
import BindingAudit.Proofs.JsonCuts
import BindingAudit.Proofs.SnapshotRoundTrip

namespace BindingAudit

theorem Snapshot.ofMessagePack?_eq_none_of_cut {s : Snapshot}
    (hfits : MessagePack.fits (s.toWire MessagePack.dialect)) {bs missing : List UInt8}
    (hcut : bs ++ missing = s.toMessagePack) (hmissing : missing ≠ []) :
    ofMessagePack? bs = none := by
  have hplain := (nests_toWire MessagePack.faithful s).plain
  rw [ofMessagePack?, MessagePack.parse?_eq_none_of_cut hplain hfits hcut hmissing,
    Option.bind_none]

theorem Snapshot.ofJson?_eq_none_of_cut {s : Snapshot} {text : String} {missing : List Char}
    (hcut : text.toList ++ missing = s.toJson.toList) (hmissing : missing ≠ []) :
    ofJson? text = none := by
  have hplain := (nests_toWire Json.faithful s).plain
  rw [toJson, String.toList_ofList] at hcut
  rw [ofJson?, Json.parse?_eq_none_of_cut hplain hcut hmissing, Option.bind_none]

/-- **The first part of a snapshot is no snapshot.** In JSON it may not even be a text, if the cut
goes through a character. -/
theorem SnapshotEncoding.decode?_eq_none_of_cut {s : Snapshot} (format : SnapshotEncoding)
    (hfits : format = .messagePack → MessagePack.fits (s.toWire MessagePack.dialect))
    {bs missing : List UInt8} (hcut : bs ++ missing = format.encode s) (hmissing : missing ≠ []) :
    format.decode? bs = none := by
  cases format with
  | messagePack => exact Snapshot.ofMessagePack?_eq_none_of_cut (hfits rfl) hcut hmissing
  | json =>
    rw [decode?, Option.bind_eq_none_iff]
    intro text htext
    have hbytes : Text.Utf8.encode text = bs := Text.Utf8.encode_of_decode? htext
    rw [← hbytes] at hcut
    obtain ⟨rest, hrest⟩ := Text.Utf8.isPrefix_of_encode_append hcut
    refine Snapshot.ofJson?_eq_none_of_cut hrest ?_
    rintro rfl
    -- Nothing is missing from the text, so nothing is missing from the bytes either.
    have hwhole : text = s.toJson := String.toList_inj.1 (by simpa using hrest)
    rw [hwhole, encode] at hcut
    exact hmissing (List.append_right_eq_self.1 hcut)

/-- **A file that is cut short is refused**, and the fault tells the path. MessagePack has heads for
lengths below `2 ^ 32` only: a longer text, list or table has no form in it. -/
theorem Snapshot.load_of_cut {s : Snapshot} {path : String} {written content : List UInt8}
    {read : String → Except String (List UInt8)}
    (hsave : s.save (fun _ bs => .ok bs) path = .ok written)
    (hfits : SnapshotEncoding.ofPath path = .messagePack →
      MessagePack.fits (s.toWire MessagePack.dialect))
    (hcut : content <+: written) (hne : content ≠ written) (hread : read path = .ok content) :
    ∃ detail, load read path = .error ⟨.snapshot detail, some { source := some path }⟩ := by
  obtain rfl : (SnapshotEncoding.ofPath path).encode s = written := by simpa [save] using hsave
  obtain ⟨missing, hmissing⟩ := hcut
  have hnone : (SnapshotEncoding.ofPath path).decode? content = none := by
    refine SnapshotEncoding.decode?_eq_none_of_cut _ hfits hmissing ?_
    rintro rfl
    exact hne (by simpa using hmissing)
  have hdecode := decode_of_decode?_eq_none hnone
  refine ⟨_, show load read path = .error (undecodable.inContext { source := some path }) from ?_⟩
  rw [load, hread]
  simp only [hdecode]

/-- A program with nothing in it. -/
def Snapshot.bare : Snapshot := ⟨⟨⟨[]⟩, []⟩, []⟩

/-- A program without its last byte is refused in both encodings. -/
theorem Snapshot.load_of_lastByteMissing :
    (∃ detail, load (fun _ => .ok (SnapshotEncoding.json.encode bare).dropLast) "bare.JSON" =
      .error ⟨.snapshot detail, some { source := some "bare.JSON" }⟩) ∧
    ∃ detail, load (fun _ => .ok (SnapshotEncoding.messagePack.encode bare).dropLast) "bare.bin" =
      .error ⟨.snapshot detail, some { source := some "bare.bin" }⟩ := by
  have hjson : SnapshotEncoding.ofPath "bare.JSON" = .json := by decide +kernel
  have hbin : SnapshotEncoding.ofPath "bare.bin" = .messagePack := by decide +kernel
  have hsaveJson : bare.save (fun _ bs => .ok bs) "bare.JSON" =
      .ok (SnapshotEncoding.json.encode bare) := by
    rw [save, hjson]
  have hsaveBin : bare.save (fun _ bs => .ok bs) "bare.bin" =
      .ok (SnapshotEncoding.messagePack.encode bare) := by
    rw [save, hbin]
  constructor
  · exact load_of_cut hsaveJson (by simp [hjson]) (List.dropLast_prefix _) (by decide +kernel) rfl
  · exact load_of_cut hsaveBin (fun _ => by decide +kernel) (List.dropLast_prefix _)
      (by decide +kernel) rfl

end BindingAudit
