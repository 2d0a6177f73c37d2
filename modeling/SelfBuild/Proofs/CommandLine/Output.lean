import SelfBuild.CommandLine.Run
import SelfBuild.Proofs.Disk.Files
import SelfBuild.Proofs.Text.Wide

/-!
# What a run puts out

A text is printed as a whole or not at all.  A file is first opened, which empties it, and then filled; once
it is open only the text itself can be in the way, and then the file stays empty.
-/

namespace SelfBuild

namespace Disk

variable {disk opened after : Disk} {path : Path} {content : ByteArray}

/-- The file at a path holds these bytes, and all other files are as they were before. -/
def Writes (before after : Disk) (path : Path) (content : ByteArray) : Prop :=
  ∃ location, before.place? path = some location ∧
    ∀ other, after.file? other = if other = location then some content else before.file? other

theorem Writes.file?_eq (h : disk.Writes after path content) {other : Location}
    (hother : disk.place? path ≠ some other) : after.file? other = disk.file? other := by
  obtain ⟨location, hplace, hfiles⟩ := h
  have hne : other ≠ location := by
    rintro rfl
    exact hother hplace
  rw [hfiles, if_neg hne]

/-- A file that was opened can be filled. -/
theorem exists_fill (h : disk.write path content = .ok opened) (bytes : ByteArray) :
    ∃ after, opened.write path bytes = .ok after ∧ disk.Writes after path bytes := by
  obtain ⟨location, hplace, hfolder, rfl⟩ := write_eq_ok h
  have hroot := (getLast?_of_place? hplace).2
  have hopened := (keeps_put hfolder (.file content)).place?_eq_some hplace
  have hnode : (disk.put location (.file content)).node? location ≠ some .folder := by
    simp [node?_put disk (.file content) hroot]
  refine ⟨_, write_of_place? hopened hnode bytes, location, hplace, fun other => ?_⟩
  rw [file?_put _ hroot, file?_put _ hroot]
  split <;> rfl

end Disk

namespace CommandLine

/-- What a fault makes of what was there before. -/
theorem exit_fail (outcome : Outcome) (fault : Fault) :
    (outcome.fail fault).exit = if fault.isReported then .code 2 else .crash fault := by
  unfold Outcome.fail
  split <;> rfl

@[simp] theorem disk_fail (outcome : Outcome) (fault : Fault) :
    (outcome.fail fault).disk = outcome.disk := by
  unfold Outcome.fail
  split <;> rfl

theorem Outcome.print_plain (outcome : Outcome) (text ending : String) :
    outcome.print text ending = { outcome with stdout := text ++ ending } := rfl

theorem Outcome.print_of_fault {outcome : Outcome} {text : WideText} {fault : EncodingFault}
    (h : text.toPlain = .error fault) (ending : String) :
    outcome.print text ending = outcome.fail (.encoding fault) := by
  simp only [print, h]

variable {outcome : Outcome} {path : Path} {text : WideText} {opened : Disk}

theorem Outcome.write_of_open_error {fault : Disk.Fault}
    (h : outcome.disk.write path ByteArray.empty = .error fault) (text : WideText) (report : String) :
    outcome.write path text report = outcome.fail (.disk fault) := by
  simp only [write, h]

theorem Outcome.write_of_fault {fault : EncodingFault}
    (hopen : outcome.disk.write path ByteArray.empty = .ok opened) (h : text.encode = .error fault)
    (report : String) :
    outcome.write path text report = { outcome with disk := opened }.fail (.encoding fault) := by
  simp only [write, hopen, h]

/-- A file that can be opened is filled with a text that can be encoded. -/
theorem Outcome.exists_write {bytes : ByteArray}
    (hopen : outcome.disk.write path ByteArray.empty = .ok opened) (h : text.encode = .ok bytes)
    (report : String) :
    ∃ after, outcome.write path text report = { outcome with disk := after, stdout := report } ∧
      outcome.disk.Writes after path bytes := by
  obtain ⟨after, hfill, hwrites⟩ := Disk.exists_fill hopen bytes
  refine ⟨after, ?_, hwrites⟩
  simp only [write, hopen, h, hfill]

end CommandLine

end SelfBuild
