import SelfBuild.Proofs.Delivery.Fresh
import SelfBuild.Proofs.Delivery.Name

/-!
# Names at the limit

A file system takes names up to a limit, but a file is written beside its destination first, under a longer
name.  In a folder where nothing has the name of a delivery yet, the delivery goes through exactly if there
is room for the longer name as well.  Otherwise every attempt is refused in the same way, so is the look at
the file beside once the attempts are given up, and the disk is left as it was.
-/

namespace SelfBuild

namespace Disk

variable {disk : Disk} {path : Path} {reason : Reason} {name : String}

/-- Why no file can be put where a path leads: the path cannot be that long, or a folder stands there. -/
inductive Blocked (disk : Disk) (path : Path) : Reason → Prop
  | tooLong (h : disk.find path = .error .nameTooLong) : Blocked disk path .nameTooLong
  | folder (h : disk.find path = .ok .folder) : Blocked disk path .isFolder

theorem Blocked.reason_eq (h : disk.Blocked path reason) : reason = .nameTooLong ∨ reason = .isFolder := by
  cases h with
  | tooLong => exact .inl rfl
  | folder => exact .inr rfl

/-- Following a path fails for the reason for which nothing is found, unless there is nothing. -/
theorem resolve_eq_error_of_find (h : disk.find path = .error reason) (hentry : reason ≠ .noEntry) :
    disk.resolve path = .error reason := by
  unfold find at h
  split at h
  · rename_i found hresolve
    rw [hresolve, Except.error.inj h]
  · cases h
  · split at h
    · cases h
    · exact absurd (Except.error.inj h).symm hentry

theorem Blocked.write_eq (h : disk.Blocked path reason) (hnul : path.hasNul = false) (content : ByteArray) :
    disk.write path content = .error (.system reason path none) := by
  cases h with
  | tooLong h => simp [write, hnul, resolve_eq_error_of_find h (by decide)]
  | folder h =>
      rcases resolve_of_find_folder h with ⟨location, hresolve⟩ | ⟨location, hresolve, hnode⟩
      · simp [write, hnul, hresolve]
      · simp [write, hnul, hresolve, hnode]

theorem Blocked.remove_eq (h : disk.Blocked path reason) (hnul : path.hasNul = false) :
    disk.remove path = .error (.system reason path none) := by
  cases h with
  | tooLong h => simp [remove, hnul, resolve_eq_error_of_find h (by decide)]
  | folder h =>
      rcases resolve_of_find_folder h with ⟨location, hresolve⟩ | ⟨location, hresolve, hnode⟩
      · simp [remove, hnul, hresolve]
      · simp [remove, hnul, hresolve, hnode]

end Disk

namespace Delivery

variable {disk : Disk} {destination folder : Path} {session : Session} {reason : Disk.Reason}
variable {name : String}

/-! ## No room beside -/

/-- When the file beside cannot be opened, all attempts are refused and nothing changes. -/
theorem attempts_of_blocked (h : session.disk.Blocked (beside destination) reason)
    (hnul : (beside destination).hasNul = false) (content : Except EncodingFault ByteArray)
    (pause : Pause) (left done : Nat) (last : Option Fault) :
    ∃ last' after, attempts destination content pause left done last session = (.givenUp last', after) ∧
      after.disk = session.disk := by
  induction left generalizing done last session with
  | zero => exact ⟨last, session, rfl, rfl⟩
  | succ left ih =>
      have hattempt : attempt destination content session =
          (.error (.disk (.system reason (beside destination) none)), session) := by
        simp only [attempt, h.write_eq hnul]
      let rested : Session := { session with pauses := session.pauses ++ [pause.after (done + 1)] }
      have hrested : rested.disk.Blocked (beside destination) reason := h
      obtain ⟨last', after, hattempts, hafter⟩ :=
        ih hrested (done + 1) (some (.disk (.system reason (beside destination) none)))
      refine ⟨last', after, ?_, hafter⟩
      simp only [attempts, hattempt, Fault.isSystem, Disk.Fault.isSystem, if_true]
      exact hattempts

theorem tidy_of_blocked (h : session.disk.Blocked (beside destination) reason)
    (hnul : (beside destination).hasNul = false) :
    tidy destination session = (.error (.system reason (beside destination) none), session) := by
  have hremove := h.remove_eq hnul
  cases h with
  | tooLong h => simp [tidy, Disk.isThere, Disk.check, hnul, h]
  | folder h => simp [tidy, Disk.isThere, Disk.check, hnul, h, hremove]

/-- A delivery into a folder whose file beside cannot be opened fails for that reason. -/
theorem writeText_of_blocked (hfolder : session.disk.isFolder destination.parent = .ok true)
    (h : session.disk.Blocked (beside destination) reason) (hnul : (beside destination).hasNul = false)
    (text : WideText) (retries : Int) (pause : Pause) :
    ∃ after, writeText destination text retries pause session =
        (.error (.disk (.system reason (beside destination) none)), after) ∧ after.disk = session.disk := by
  let reached : Session := session.reach session.disk
  have hreached : reached.disk.Blocked (beside destination) reason := h
  obtain ⟨last, after, hattempts, hafter⟩ :=
    attempts_of_blocked hreached hnul text.encode pause retries.toNat 0 none
  have htidy : tidy destination after = (.error (.system reason (beside destination) none), after) :=
    tidy_of_blocked (hafter ▸ hreached) hnul
  refine ⟨after, ?_, hafter⟩
  simp only [writeText, Disk.makeFolders_of_isFolder hfolder, reached] at hattempts ⊢
  simp only [hattempts, htidy]

/-- Without room the file beside cannot be opened. -/
theorem exists_blocked (hroom : ¬ RoomBeside disk folder name) (hfolder : disk.isFolder folder = .ok true)
    (hnul : (folder.child name).hasNul = false) :
    ∃ reason, disk.Blocked (beside (folder.child name)) reason := by
  have hup := besideName_ne_up name
  rw [beside_child]
  by_cases hlong : (folder.child (name ++ besideEnding)).text.utf8ByteSize > Disk.pathLimit ∨
      (name ++ besideEnding).utf8ByteSize > Disk.nameLimit
  · exact ⟨_, .tooLong (Disk.find_child_tooLong hfolder hup hlong)⟩
  · obtain ⟨hpath, hname⟩ := not_or.1 hlong
    have hplace := Disk.place?_child hfolder hup (hasNul_child_beside hnul) (Nat.not_lt.1 hpath)
      (Nat.not_lt.1 hname)
    by_cases hfind : disk.find (folder.child (name ++ besideEnding)) = .ok .folder
    · exact ⟨_, .folder hfind⟩
    · exact absurd ⟨Nat.not_lt.1 hname, Nat.not_lt.1 hpath, Disk.free_of_find hplace hfind⟩ hroom

/-! ## New names -/

variable {project : Project} {name? : Option String}

/-- With room for the file beside, a delivery under a new name goes through. -/
theorem deliver_of_room (hfolder : disk.isFolder folder = .ok true)
    (hfree : disk.node? (disk.locate folder ++ [FileName.download project name?]) = none)
    (hroom : RoomBeside disk folder (FileName.download project name?)) (artifact : String)
    (overwrite : Bool) :
    ∃ after, deliver artifact folder project name? overwrite { disk := disk } =
        (.ok (Delivery.destination folder project name?), after) ∧
      ∀ other, after.disk.file? other = filesAfter disk (Text.Utf8.encode artifact)
        (disk.locate folder ++ [FileName.download project name?])
        (disk.locate folder ++ [FileName.download project name? ++ besideEnding]) other := by
  have hopen : Open disk disk (Delivery.destination folder project name?) _ _ :=
    open_of_room hfolder (by simp [hfree]) hroom
  exact deliver_of_open artifact hopen fun _ => Disk.isThere_of_free hopen.place hfree

/-- Without room for the file beside, a delivery under a new name is refused by the system. -/
theorem deliver_of_no_room (hfolder : disk.isFolder folder = .ok true)
    (hname : (FileName.download project name?).utf8ByteSize ≤ Disk.nameLimit)
    (hfree : disk.node? (disk.locate folder ++ [FileName.download project name?]) = none)
    (hroom : ¬ RoomBeside disk folder (FileName.download project name?)) (artifact : WideText)
    (overwrite : Bool) :
    ∃ reason path after, (reason = .nameTooLong ∨ reason = .isFolder) ∧
      (path = Delivery.destination folder project name? ∨
        path = beside (Delivery.destination folder project name?)) ∧
      deliver artifact folder project name? overwrite { disk := disk } =
        (.error (.disk (.system reason path none)), after) ∧
      after.disk = disk := by
  have hnul : (Delivery.destination folder project name?).hasNul = false :=
    hasNul_destination (Disk.hasNul_of_isFolder hfolder) project name?
  have hup := download_ne_up project name?
  by_cases hpath : (Delivery.destination folder project name?).text.utf8ByteSize > Disk.pathLimit
  · have hfind := Disk.find_child_tooLong hfolder hup (.inl hpath)
    refine ⟨.nameTooLong, Delivery.destination folder project name?, { disk := disk }, .inl rfl, .inl rfl,
      ?_, rfl⟩
    have hthere : disk.isThere (Delivery.destination folder project name?) =
        .error (.system .nameTooLong (Delivery.destination folder project name?) none) := by
      simp only [Disk.isThere, Disk.check, hnul, Bool.false_eq_true, if_false]
      rw [Delivery.destination, hfind]
    simp only [deliver, hthere]
  · obtain ⟨reason, hblocked⟩ := exists_blocked hroom hfolder hnul
    have hplace := Disk.place?_child hfolder hup hnul (Nat.not_lt.1 hpath) hname
    have hthere : disk.isThere (Delivery.destination folder project name?) = .ok false :=
      Disk.isThere_of_free hplace hfree
    have hparent : disk.isFolder (Delivery.destination folder project name?).parent = .ok true := by
      rw [Delivery.destination, Path.parent_child, hfolder]
    have hwritten : ∃ after,
        writeText (Delivery.destination folder project name?) artifact standardAttempts standardPause
            { disk := disk } =
          (.error (.disk (.system reason (beside (Delivery.destination folder project name?)) none)), after) ∧
          after.disk = disk :=
      writeText_of_blocked hparent hblocked ((hasNul_beside _).trans hnul) artifact _ _
    obtain ⟨after, hwrite, hafter⟩ := hwritten
    refine ⟨reason, _, after, hblocked.reason_eq, .inr rfl, ?_, hafter⟩
    simp only [deliver, hthere, Bool.false_and, Bool.false_eq_true, if_false, hwrite]

/-- Whatever is delivered under a new name, in a folder that is there, arrives as a whole if the folder has
room for the file beside it; then only that file and the new one differ.  Without room the system refuses it
for the length of a name or path, or for a folder that stands beside, and the disk is left as it was.  The
longer name has 15 bytes more, so names of more than 240 bytes are never delivered, though names may have
255. -/
theorem deliver_new_name (artifact : String) (project : Project) (name? : Option String) (overwrite : Bool)
    (hfolder : disk.isFolder folder = .ok true)
    (hname : (FileName.download project name?).utf8ByteSize ≤ Disk.nameLimit)
    (hfree : disk.node? (disk.locate folder ++ [FileName.download project name?]) = none) :
    let name := FileName.download project name?
    let destination := Delivery.destination folder project name?
    let sent := deliver artifact folder project name? overwrite { disk := disk }
    (RoomBeside disk folder name →
        sent.1 = .ok destination ∧
          sent.2.disk.readBytes destination = .ok (Text.Utf8.encode artifact) ∧
          ∀ other, sent.2.disk.file? other = filesAfter disk (Text.Utf8.encode artifact)
            (disk.locate folder ++ [name]) (disk.locate folder ++ [name ++ besideEnding]) other) ∧
      (¬ RoomBeside disk folder name →
        (∃ reason path, (reason = .nameTooLong ∨ reason = .isFolder) ∧
          (path = destination ∨ path = beside destination) ∧
          sent.1 = .error (.disk (.system reason path none))) ∧
        sent.2.disk = disk) ∧
      (240 < name.utf8ByteSize → ¬ RoomBeside disk folder name) := by
  intro name destination sent
  refine ⟨fun hroom => ?_, fun hroom => ?_, fun hlong hroom => ?_⟩
  · obtain ⟨after, hsent, hfiles⟩ := deliver_of_room hfolder hfree hroom artifact overwrite
    obtain ⟨-, bytes, hencode, location, hplace, hfile⟩ := holds_of_deliver hsent
    obtain rfl : Text.Utf8.encode artifact = bytes := Except.ok.inj hencode
    have heq : sent = (.ok destination, after) := hsent
    rw [heq]
    exact ⟨rfl, Disk.readBytes_of_place? hplace hfile, hfiles⟩
  · obtain ⟨reason, path, after, hreason, hpath, hsent, hafter⟩ :=
      deliver_of_no_room hfolder hname hfree hroom artifact overwrite
    have heq : sent = (.error (.disk (.system reason path none)), after) := hsent
    rw [heq]
    exact ⟨⟨reason, path, hreason, hpath, rfl⟩, hafter⟩
  · have hending : besideEnding.utf8ByteSize = 15 := by decide
    have hle := hroom.name_le
    rw [String.utf8ByteSize_append, hending, Disk.nameLimit] at hle
    omega

/-- A name of 240 bytes is the longest one that can be delivered. -/
theorem deliver_new_name_of_longest :
    let disk : Disk := ⟨[(["out"], .folder)], []⟩
    let name := String.ofList (List.replicate 240 'a')
    FileName.download {} (some name) = name ∧ disk.isFolder ⟨.here, ["out"]⟩ = .ok true ∧
      name.utf8ByteSize ≤ Disk.nameLimit ∧ disk.node? ["out", name] = none ∧
      RoomBeside disk ⟨.here, ["out"]⟩ name ∧
      ∃ after, deliver "x" ⟨.here, ["out"]⟩ {} (some name) false { disk := disk } =
          (.ok ⟨.here, ["out", name]⟩, after) ∧
        after.disk.readBytes ⟨.here, ["out", name]⟩ = .ok (Text.Utf8.encode "x") := by
  intro disk name
  have hdownload : FileName.download {} (some name) = name :=
    FileName.download_of_safe (FileName.safe_row (by decide)) {}
  have hdestination : Delivery.destination ⟨.here, ["out"]⟩ {} (some name) = ⟨.here, ["out", name]⟩ := by
    rw [Delivery.destination, hdownload]
    rfl
  have hfolder : disk.isFolder ⟨.here, ["out"]⟩ = .ok true := rfl
  have hsize : name.utf8ByteSize ≤ Disk.nameLimit := by decide +kernel
  have hlocate : disk.locate ⟨.here, ["out"]⟩ = ["out"] := rfl
  have hfree : disk.node? ["out", name] = none := by decide +kernel
  have hroom : RoomBeside disk ⟨.here, ["out"]⟩ name :=
    ⟨by decide +kernel, by decide +kernel, by rw [hlocate]; decide +kernel⟩
  obtain ⟨hsent, -, -⟩ := deliver_new_name "x" {} (some name) false hfolder (hdownload.symm ▸ hsize)
    (hdownload.symm ▸ hfree)
  rw [hdownload, hdestination] at hsent
  cases hcall : deliver "x" ⟨.here, ["out"]⟩ {} (some name) false { disk := disk } with
  | mk result after =>
      rw [hcall] at hsent
      obtain ⟨rfl, hread, -⟩ := hsent hroom
      exact ⟨hdownload, hfolder, hsize, hfree, hroom, after, rfl, hread⟩

/-- A name that a file may have is refused, since the name of the file beside would be too long. -/
theorem new_name_refused :
    let disk : Disk := ⟨[], []⟩
    let name := String.ofList (List.replicate 241 'a')
    FileName.download {} (some name) = name ∧ disk.isFolder ⟨.here, []⟩ = .ok true ∧
      name.utf8ByteSize ≤ Disk.nameLimit ∧ disk.node? [name] = none ∧
      ∃ fault, (deliver "x" ⟨.here, []⟩ {} (some name) true { disk := disk }).1 = .error fault := by
  intro disk name
  have hdownload : FileName.download {} (some name) = name :=
    FileName.download_of_safe (FileName.safe_row (by decide)) {}
  have hfolder : disk.isFolder ⟨.here, []⟩ = .ok true := rfl
  have hsize : name.utf8ByteSize ≤ Disk.nameLimit := by decide +kernel
  have hfree : disk.node? [name] = none := by decide +kernel
  have hroom : ¬ RoomBeside disk ⟨.here, []⟩ name := fun h => absurd h.name_le (by decide +kernel)
  obtain ⟨reason, path, after, -, -, hsent, -⟩ := deliver_of_no_room hfolder (hdownload.symm ▸ hsize)
    (hdownload.symm ▸ hfree) (hdownload.symm ▸ hroom) "x" true
  exact ⟨hdownload, hfolder, hsize, hfree, _, congrArg Prod.fst hsent⟩

end Delivery

end SelfBuild
