import SelfBuild.Proofs.Delivery.Ready
import SelfBuild.Proofs.FileName

/-!
# Deliveries that nothing disturbs

Where no replacement is denied and no folder is in the way, the first attempt goes through.  In a folder
that is there this needs no more than room for the file beside the destination, and in the working folder no
more than a name that is short enough for its ending.
-/

namespace SelfBuild

theorem Path.text_name (name : String) : (Path.mk .here [name]).text = name := by
  simp [Path.text, Path.Anchor.text]

namespace Disk

theorem resolve_here (disk : Disk) :
    disk.resolve ⟨.here, []⟩ = .ok (.entered disk.workingFolder) := by
  have hsize : ¬ (Path.mk .here []).text.utf8ByteSize > pathLimit := by decide
  unfold resolve
  rw [if_neg hsize]
  rfl

theorem isFolder_here (disk : Disk) : disk.isFolder ⟨.here, []⟩ = .ok true := by
  simp [isFolder, check, Path.hasNul, find, resolve_here]

/-- A name alone names a place in the working folder. -/
theorem place?_name (disk : Disk) (name : String) (hnul : Char.ofNat 0 ∉ name.toList) (hup : name ≠ up)
    (hsize : name.utf8ByteSize ≤ nameLimit) :
    disk.place? ⟨.here, [name]⟩ = some (disk.workingFolder ++ [name]) := by
  have hnul' : (Path.mk .here [name]).hasNul = false := by simp [Path.hasNul, hnul]
  have hpath : (Path.mk .here [name]).text.utf8ByteSize ≤ pathLimit := by
    rw [Path.text_name]
    exact Nat.le_trans hsize (by decide)
  exact place?_child disk.isFolder_here hup hnul' hpath hsize

end Disk

namespace Delivery

variable {destination : Path} {content : ByteArray} {session : Session}
variable {target location : Location}

/-- The files after a delivery that nothing disturbed. -/
def filesAfter (disk : Disk) (content : ByteArray) (target location : Location) (other : Location) :
    Option ByteArray :=
  if other = target then some content
  else if other = location then none
  else disk.file? other

theorem Moved.file?_eq {made now : Disk} (h : Moved made location target content now)
    (other : Location) : now.file? other = filesAfter made content target location other := by
  unfold filesAfter
  split
  · rename_i htarget
    rw [htarget, Disk.file?_eq_some_iff, h.target_eq]
  · rename_i htarget
    split
    · rename_i hbeside
      rw [hbeside, Disk.file?_eq_none_of_node? (.inl h.beside_eq)]
    · rename_i hbeside
      rw [Disk.file?, Disk.file?, h.node?_eq other hbeside htarget]

/-- The first attempt goes through. -/
theorem attempt_of_places (hplace : session.disk.place? (beside destination) = some location)
    (htarget : session.disk.place? destination = some target)
    (hfolder : session.disk.node? location ≠ some .folder)
    (hfolder' : session.disk.node? target ≠ some .folder)
    (hdenied : session.denials.headD false = false) :
    ∃ after, attempt destination (.ok content) session = (.ok (), after) ∧
      ∀ other, after.disk.file? other = filesAfter session.disk content target location other := by
  have hresolve := (Disk.place?_eq_some_iff.1 htarget).2
  have hready : Ready session.disk destination location := ⟨hplace, hfolder, _, hresolve⟩
  have hallowed : refusal? session.disk destination false = none := by
    simp only [refusal?, hresolve, hfolder', Bool.false_eq_true, if_false]
  obtain ⟨onto, filled, moved, honto, hattempt, -, -, hmoved⟩ :=
    hready.attempt_moved hready.beside_made content hdenied hallowed
  obtain rfl : target = onto := Option.some.inj (htarget.symm.trans honto)
  exact ⟨filled.reach moved, hattempt, hmoved.file?_eq⟩

/-- A destination that a file can be put to: once the folders on the way are made, it and the file beside it
name places, and no folder is in the way at either. -/
structure Open (disk made : Disk) (destination : Path) (target location : Location) : Prop where
  folders : disk.makeFolders destination.parent true = (.ok (), made)
  place : made.place? destination = some target
  beside_place : made.place? (beside destination) = some location
  free : made.node? target ≠ some .folder
  beside_free : made.node? location ≠ some .folder

theorem Open.sameFiles {disk made : Disk} (h : Open disk made destination target location) :
    disk.SameFiles made := by
  have hsame := disk.sameFiles_makeFolders destination.parent true
  rwa [h.folders] at hsame

/-- One attempt that goes through is enough. -/
theorem writeText_of_open (text : String) {retries : Int} {made : Disk} (pause : Pause)
    (hretries : 0 < retries) (h : Open session.disk made destination target location)
    (hdenied : session.denials.headD false = false) :
    ∃ after, writeText destination text retries pause session = (.ok (), after) ∧
      ∀ other, after.disk.file? other =
        filesAfter session.disk (Text.Utf8.encode text) target location other := by
  obtain ⟨left, hleft⟩ : ∃ left, retries.toNat = left + 1 := ⟨retries.toNat - 1, by omega⟩
  have hattempts : ∃ after,
      attempt destination (.ok (Text.Utf8.encode text)) (session.reach made) = (.ok (), after) ∧
        ∀ other, after.disk.file? other =
          filesAfter made (Text.Utf8.encode text) target location other :=
    attempt_of_places h.beside_place h.place h.beside_free h.free hdenied
  obtain ⟨after, hattempt, hfiles⟩ := hattempts
  refine ⟨after, ?_, fun other => ?_⟩
  · unfold writeText
    rw [h.folders]
    simp only [hleft, WideText.encode_plain, attempts, hattempt]
  · rw [hfiles other, filesAfter, filesAfter, h.sameFiles.file?_eq other]

section Destinations

variable {disk made : Disk} {folder : Path} {project : Project} {name? : Option String}
variable {overwrite : Bool}

/-- An open destination can be looked at, and what is found there does not forbid a delivery that is
allowed. -/
theorem Open.exists_found (h : Open disk made destination target location)
    (hover : overwrite = false → disk.isThere destination = .ok false) :
    ∃ found, disk.isThere destination = .ok found ∧ (found && !overwrite) = false := by
  obtain ⟨found, hfound⟩ := h.sameFiles.toKeeps.exists_isThere h.place
  refine ⟨found, hfound, ?_⟩
  cases overwrite with
  | true => simp
  | false =>
      rw [hover rfl] at hfound
      cases hfound
      rfl

/-- A delivery to an open destination goes through, unless something is there that must not be replaced. -/
theorem deliver_of_open (artifact : String)
    (h : Open disk made (Delivery.destination folder project name?) target location)
    (hover : overwrite = false →
      disk.isThere (Delivery.destination folder project name?) = .ok false) :
    ∃ after, deliver artifact folder project name? overwrite { disk := disk } =
        (.ok (Delivery.destination folder project name?), after) ∧
      ∀ other, after.disk.file? other =
        filesAfter disk (Text.Utf8.encode artifact) target location other := by
  obtain ⟨found, hfound, hallowed⟩ := h.exists_found hover
  have hwritten : ∃ after,
      writeText (Delivery.destination folder project name?) artifact standardAttempts standardPause
          { disk := disk } = (.ok (), after) ∧
        ∀ other, after.disk.file? other =
          filesAfter disk (Text.Utf8.encode artifact) target location other :=
    writeText_of_open artifact standardPause (by decide) h rfl
  obtain ⟨after, hwrite, hfiles⟩ := hwritten
  refine ⟨after, ?_, hfiles⟩
  unfold deliver
  simp only [hfound, hallowed, Bool.false_eq_true, if_false, hwrite]

end Destinations

/-! ## Room for the file beside -/

section Folder

variable {disk : Disk} {folder : Path} {name : String}

theorem beside_child (folder : Path) (name : String) :
    beside (folder.child name) = folder.child (name ++ besideEnding) := by
  simp [beside, Path.parent, Path.child, Path.name]

/-- A folder has room for the file beside a name: the longer name and its path keep to the limits, and no
folder has that name. -/
structure RoomBeside (disk : Disk) (folder : Path) (name : String) : Prop where
  name_le : (name ++ besideEnding).utf8ByteSize ≤ Disk.nameLimit
  path_le : (folder.child (name ++ besideEnding)).text.utf8ByteSize ≤ Disk.pathLimit
  free : disk.node? (disk.locate folder ++ [name ++ besideEnding]) ≠ some .folder

theorem hasNul_child_beside (hnul : (folder.child name).hasNul = false) :
    (folder.child (name ++ besideEnding)).hasNul = false := by
  rw [← beside_child, hasNul_beside, hnul]

theorem download_ne_up (project : Project) (name? : Option String) :
    FileName.download project name? ≠ Disk.up := by
  intro hup
  have hedge := (FileName.safe_download project name?).head '.' (by rw [hup]; rfl)
  exact absurd hedge (by decide)

theorem hasNul_destination (hfolder : folder.hasNul = false) (project : Project) (name? : Option String) :
    (Delivery.destination folder project name?).hasNul = false := by
  have hnul : Char.ofNat 0 ∉ (FileName.download project name?).toList :=
    (FileName.safe_download project name?).not_mem (by decide)
  have hchild : (Delivery.destination folder project name?).hasNul = folder.hasNul := by
    simp [Delivery.destination, Path.hasNul, Path.child, hnul]
  rw [hchild, hfolder]

/-- In a folder that has room for the file beside it, a destination is open unless a folder has its name. -/
theorem open_of_room {project : Project} {name? : Option String} (hfolder : disk.isFolder folder = .ok true)
    (hfree : disk.node? (disk.locate folder ++ [FileName.download project name?]) ≠ some .folder)
    (hroom : RoomBeside disk folder (FileName.download project name?)) :
    Open disk disk (Delivery.destination folder project name?)
      (disk.locate folder ++ [FileName.download project name?])
      (disk.locate folder ++ [FileName.download project name? ++ besideEnding]) := by
  have hnul : (Delivery.destination folder project name?).hasNul = false :=
    hasNul_destination (Disk.hasNul_of_isFolder hfolder) project name?
  have hpath : (Delivery.destination folder project name?).text.utf8ByteSize ≤ Disk.pathLimit := by
    refine Nat.le_trans (utf8ByteSize_text_le_beside _) ?_
    rw [Delivery.destination, beside_child]
    exact hroom.path_le
  have hname : (FileName.download project name?).utf8ByteSize ≤ Disk.nameLimit := by
    have hle := hroom.name_le
    rw [String.utf8ByteSize_append] at hle
    exact Nat.le_trans (Nat.le_add_right _ _) hle
  have hplace : disk.place? (beside (folder.child (FileName.download project name?))) =
      some (disk.locate folder ++ [FileName.download project name? ++ besideEnding]) := by
    rw [beside_child]
    exact Disk.place?_child hfolder (besideName_ne_up _) (hasNul_child_beside hnul) hroom.path_le
      hroom.name_le
  exact
    { folders := by
        rw [Delivery.destination, Path.parent_child]
        exact Disk.makeFolders_of_isFolder hfolder
      place := Disk.place?_child hfolder (download_ne_up project name?) hnul hpath hname
      beside_place := hplace
      free := hfree
      beside_free := hroom.free }

end Folder

/-! ## In the working folder -/

/-- No folder takes the place of a file with this name, nor of the file beside it. -/
def Room (disk : Disk) (name : String) : Prop :=
  disk.node? (disk.workingFolder ++ [name]) ≠ some .folder ∧
    disk.node? (disk.workingFolder ++ [name ++ besideEnding]) ≠ some .folder

theorem Room.beside {disk : Disk} {name : String} (h : Room disk name) (hsize : name.utf8ByteSize ≤ 240) :
    RoomBeside disk ⟨.here, []⟩ name := by
  have hending : besideEnding.utf8ByteSize = 15 := by decide
  have hname : (name ++ besideEnding).utf8ByteSize ≤ Disk.nameLimit := by
    rw [String.utf8ByteSize_append, hending]
    exact Nat.add_le_add_right hsize 15
  have hpath : (Path.mk .here [name ++ besideEnding]).text.utf8ByteSize ≤ Disk.pathLimit := by
    rw [Path.text_name]
    exact Nat.le_trans hname (by decide)
  exact ⟨hname, hpath, h.2⟩

/-- A name that leaves room for the ending is an open destination in the working folder. -/
theorem open_here (disk : Disk) (project : Project) (name? : Option String)
    (hsize : (FileName.download project name?).utf8ByteSize ≤ 240)
    (hroom : Room disk (FileName.download project name?)) :
    Open disk disk (Delivery.destination ⟨.here, []⟩ project name?)
      (disk.workingFolder ++ [FileName.download project name?])
      (disk.workingFolder ++ [FileName.download project name? ++ besideEnding]) :=
  open_of_room disk.isFolder_here hroom.1 (hroom.beside hsize)

/-- Delivering to the working folder goes through when the name leaves room for the ending. -/
theorem deliver_here (artifact : String) (project : Project) (name? : Option String) (disk : Disk)
    (hsize : (FileName.download project name?).utf8ByteSize ≤ 240)
    (hroom : Room disk (FileName.download project name?)) :
    ∃ after, deliver artifact ⟨.here, []⟩ project name? true { disk := disk } =
        (.ok ⟨.here, [FileName.download project name?]⟩, after) ∧
      ∀ other, after.disk.file? other = filesAfter disk (Text.Utf8.encode artifact)
        (disk.workingFolder ++ [FileName.download project name?])
        (disk.workingFolder ++ [FileName.download project name? ++ besideEnding]) other :=
  deliver_of_open artifact (open_here disk project name? hsize hroom) nofun

end Delivery

end SelfBuild
