import SelfBuild.Delivery
import SelfBuild.Proofs.Disk.Locations

/-!
# One delivery

A delivery either goes through or leaves no trace among the files.  While it is under way, the file
beside the destination is the only one that may differ from those at the start; an attempt that goes
through moves it onto the destination, and when the last attempt is refused it is removed.

The exception is a text that has no encoding.  This is found out between opening the file beside and
filling it, and counts neither as refused nor as worth another attempt, so nobody removes the file.
-/

namespace SelfBuild

namespace Delivery

variable {destination path : Path} {content : ByteArray} {start now after : Disk} {fault : Fault}
variable {session : Session} {location : Location}

/-- The files while a delivery is under way. -/
structure Pending (destination : Path) (start now : Disk) : Prop extends start.Keeps now where
  file?_eq : ∀ location, now.place? (beside destination) ≠ some location →
    now.file? location = start.file? location

/-- The files after a delivery: the destination's, and all others as they were. -/
structure Delivered (destination : Path) (content : ByteArray) (start now : Disk) : Prop
    extends start.Keeps now where
  exists_place : ∃ location, now.place? destination = some location ∧
    ∀ other, now.file? other = if other = location then some content else start.file? other

/-- The failure of a text that has no encoding, and the files behind it: the one beside the destination is
there and empty, and all others are as they were. -/
structure Unencoded (destination : Path) (content : Except EncodingFault ByteArray) (fault : Fault)
    (start now : Disk) : Prop extends start.Keeps now where
  exists_reason : ∃ reason, content = .error reason ∧ fault = .encoding reason
  exists_place : ∃ location, now.place? (beside destination) = some location ∧
    ∀ other, now.file? other = if other = location then some ByteArray.empty else start.file? other

/-- No file stands where a destination's file beside goes. -/
def Vacant (destination : Path) (disk : Disk) : Prop :=
  disk.file? (disk.locate (beside destination)) = none

/-! ## The file beside a destination -/

theorem names_beside (destination : Path) :
    (beside destination).names =
      destination.names.dropLast ++ [destination.name ++ besideEnding] := rfl

theorem besideName_ne_up (name : String) : name ++ besideEnding ≠ Disk.up := by
  intro hup
  have hlength := congrArg (fun s => s.toList.length) hup
  simp [besideEnding, Disk.up] at hlength

theorem locate_beside (disk : Disk) (destination : Path) :
    disk.locate (beside destination) =
      disk.locate destination.parent ++ [destination.name ++ besideEnding] :=
  disk.locate_child _ (besideName_ne_up _)

theorem hasNul_beside (destination : Path) :
    (beside destination).hasNul = destination.hasNul := by
  have hending : Char.ofNat 0 ∉ besideEnding.toList := by decide
  unfold Path.hasNul
  rw [names_beside]
  rcases List.eq_nil_or_concat destination.names with hnil | ⟨parents, name, hnames⟩
  · simp [Path.name, hnil, hending]
  · rw [List.concat_eq_append] at hnames
    rw [Path.name, hnames, List.dropLast_concat, List.getLast?_concat, Option.getD_some,
      List.any_append, List.any_append]
    simp [hending]

theorem getLast?_place?_beside (h : now.place? (beside destination) = some location) :
    location.getLast? = some (destination.name ++ besideEnding) := by
  rw [(Disk.getLast?_of_place? h).1, names_beside, List.getLast?_concat]

theorem Vacant.file?_eq_none (h : Vacant destination start) (hkeeps : start.Keeps now)
    (hplace : now.place? (beside destination) = some location) : start.file? location = none := by
  rw [← Disk.locate_of_place? hplace, hkeeps.locate_eq]
  exact h

/-- A destination is never the file beside it. -/
theorem place?_beside_ne {onto : Location} (h : now.place? (beside destination) = some location)
    (honto : now.place? destination = some onto) : location ≠ onto := by
  rintro rfl
  have hbeside := getLast?_place?_beside h
  have hname := (Disk.getLast?_of_place? honto).1
  rw [hbeside] at hname
  have hsame : destination.name = destination.name ++ besideEnding := calc
    destination.name = destination.names.getLast?.getD "" := rfl
    _ = destination.name ++ besideEnding := by rw [← hname, Option.getD_some]
  have hlength := congrArg (fun s => s.toList.length) hsame
  simp [besideEnding] at hlength

/-! ## While a delivery is under way -/

theorem Pending.of_sameFiles (h : start.SameFiles now) : Pending destination start now :=
  ⟨h.toKeeps, fun location _ => h.file?_eq location⟩

/-- With no file beside the destination, all files are as they were. -/
theorem Pending.sameFiles (h : Pending destination start now) (hvacant : Vacant destination start)
    (hgone : ∀ location, now.place? (beside destination) = some location →
      now.file? location = none) : start.SameFiles now := by
  refine ⟨h.toKeeps, fun location => ?_⟩
  by_cases hbeside : now.place? (beside destination) = some location
  · rw [hgone location hbeside, hvacant.file?_eq_none h.toKeeps hbeside]
  · exact h.file?_eq location hbeside

theorem Pending.write (h : Pending destination start now)
    (hwrite : now.write (beside destination) content = .ok after) :
    Pending destination start after ∧
      ∃ location, after.place? (beside destination) = some location ∧
        after.file? location = some content := by
  obtain ⟨location, hplace, hnode, rfl⟩ := Disk.write_eq_ok hwrite
  have hkeeps := Disk.keeps_put hnode (.file content)
  have hroot := (Disk.getLast?_of_place? hplace).2
  have hafter := hkeeps.place?_eq_some hplace
  refine ⟨⟨h.toKeeps.trans hkeeps, fun other hother => ?_⟩, location, hafter, ?_⟩
  · have hne : other ≠ location := by
      rintro rfl
      exact hother hafter
    rw [Disk.file?_put _ hroot, if_neg hne]
    apply h.file?_eq
    intro hbeside
    rw [hplace] at hbeside
    exact hne (Option.some.inj hbeside).symm
  · rw [Disk.file?_put _ hroot, if_pos rfl]

theorem Pending.unencoded {reason : EncodingFault} (h : Pending destination start now)
    (hplace : now.place? (beside destination) = some location)
    (hfile : now.file? location = some ByteArray.empty) :
    Unencoded destination (.error reason) (.encoding reason) start now := by
  refine ⟨h.toKeeps, ⟨reason, rfl, rfl⟩, location, hplace, fun other => ?_⟩
  split
  · rename_i hsame
    rw [hsame, hfile]
  · rename_i hother
    apply h.file?_eq
    intro hbeside
    exact hother (Option.some.inj (hbeside.symm.trans hplace))

/-- The file beside a destination takes the destination's place. -/
theorem Pending.replace (h : Pending destination start now) (hvacant : Vacant destination start)
    (hplace : now.place? (beside destination) = some location)
    (hfile : now.file? location = some content)
    (hreplace : now.replace (beside destination) destination = .ok after) :
    Delivered destination content start after := by
  have hkeeps := Disk.keeps_replace hreplace
  obtain ⟨source, target, moved, hsource, htarget, hmoved, -, rfl⟩ := Disk.replace_eq_ok hreplace
  obtain rfl : location = source := Option.some.inj (hplace.symm.trans hsource)
  obtain rfl : content = moved :=
    Option.some.inj (hfile.symm.trans (Disk.file?_eq_some_iff.2 hmoved))
  refine ⟨h.toKeeps.trans hkeeps, target, hkeeps.place?_eq_some htarget, fun other => ?_⟩
  rw [Disk.file?_put _ (Disk.getLast?_of_place? htarget).2,
    Disk.file?_erase _ (Disk.getLast?_of_place? hsource).2]
  by_cases htaken : other = target
  · simp [htaken]
  rw [if_neg htaken, if_neg htaken]
  by_cases hbeside : other = location
  · rw [if_pos hbeside, hbeside, hvacant.file?_eq_none h.toKeeps hsource]
  · rw [if_neg hbeside]
    apply h.file?_eq
    intro hother
    exact hbeside (Option.some.inj (hother.symm.trans hsource))

/-! ## Attempts -/

/-- A replacement either goes through or leaves the disk as it is; a denied one counts as refused by the
system. -/
theorem Session.replace_cases {path onto : Path} {result : Except Disk.Fault Unit} {after : Session}
    (h : session.replace path onto = (result, after)) :
    (result = .ok () ∧ ∃ disk, session.disk.replace path onto = .ok disk ∧ after.disk = disk) ∨
      ∃ fault, result = .error fault ∧ after.disk = session.disk ∧
        (path.hasNul = false → onto.hasNul = false → fault.isSystem = true) := by
  unfold Session.replace at h
  cases hdenied : session.denials.headD false with
  | true =>
      simp only [hdenied, if_true, Prod.mk.injEq] at h
      obtain ⟨rfl, rfl⟩ := h
      exact .inr ⟨_, rfl, rfl, fun _ _ => rfl⟩
  | false =>
      simp only [hdenied, Bool.false_eq_true, if_false] at h
      cases hreplace : session.disk.replace path onto with
      | ok disk =>
          simp only [hreplace, Prod.mk.injEq] at h
          obtain ⟨rfl, rfl⟩ := h
          exact .inl ⟨rfl, disk, rfl, rfl⟩
      | error fault =>
          simp only [hreplace, Prod.mk.injEq] at h
          obtain ⟨rfl, rfl⟩ := h
          exact .inr ⟨fault, rfl, rfl, Disk.isSystem_of_replace_eq_error hreplace⟩

/-- How the files may be after an attempt: delivered, or still under way.  A fault that is no refusal by
the system comes only where no file was written beside, or from a text that has no encoding. -/
theorem attempt_of_pending (content : Except EncodingFault ByteArray)
    (h : Pending destination start session.disk) (hvacant : Vacant destination start) :
    match attempt destination content session with
    | (.ok _, after) => ∃ bytes, content = .ok bytes ∧ Delivered destination bytes start after.disk
    | (.error fault, after) => Pending destination start after.disk ∧
        (fault.isSystem = false → after.disk.place? (beside destination) = none ∨
          Unencoded destination content fault start after.disk) := by
  unfold attempt
  cases hopen : session.disk.write (beside destination) ByteArray.empty with
  | error fault => exact ⟨h, fun hnot => .inl (Disk.place?_eq_none_of_write_eq_error hopen hnot)⟩
  | ok opened =>
      obtain ⟨hopened, location, hplace, hempty⟩ := h.write hopen
      cases content with
      | error reason => exact ⟨hopened, fun _ => .inr (hopened.unencoded hplace hempty)⟩
      | ok bytes =>
          dsimp only
          cases hfill : opened.write (beside destination) bytes with
          | error fault =>
              exact ⟨hopened, fun hnot => .inl (Disk.place?_eq_none_of_write_eq_error hfill hnot)⟩
          | ok filled =>
              obtain ⟨hfilled, location, hplace, hfile⟩ := hopened.write hfill
              dsimp only
              cases hmoved : ((session.reach opened).reach filled).replace (beside destination)
                  destination with
              | mk result after =>
                  rcases Session.replace_cases hmoved with
                    ⟨hresult, replaced, hreplace, hafter⟩ | ⟨fault, hresult, hafter, hfault⟩
                  · subst hresult hafter
                    exact ⟨bytes, rfl, hfilled.replace hvacant hplace hfile hreplace⟩
                  · subst hresult
                    refine ⟨hafter ▸ hfilled, fun hnot => ?_⟩
                    have hnul := (Disk.place?_eq_some_iff.1 hplace).1
                    have hsystem : fault.isSystem = true :=
                      hfault hnul (hasNul_beside destination ▸ hnul)
                    exact absurd (hsystem.symm.trans hnot) (by decide)

/-- Repeating attempts keeps to the same bounds. -/
theorem attempts_of_pending (content : Except EncodingFault ByteArray) (pause : Pause)
    (hvacant : Vacant destination start) (left done : Nat) (last : Option Fault)
    (h : Pending destination start session.disk) :
    match attempts destination content pause left done last session with
    | (.written, after) => ∃ bytes, content = .ok bytes ∧ Delivered destination bytes start after.disk
    | (.givenUp _, after) => Pending destination start after.disk
    | (.broken fault, after) => start.SameFiles after.disk ∨
        Unencoded destination content fault start after.disk := by
  induction left generalizing session done last with
  | zero => exact h
  | succ left ih =>
      have hattempt := attempt_of_pending content h hvacant
      unfold attempts
      cases hresult : attempt destination content session with
      | mk result after =>
          rw [hresult] at hattempt
          cases result with
          | ok _ => exact hattempt
          | error fault =>
              obtain ⟨hpending, hbroken⟩ := hattempt
              dsimp only
              cases hsystem : fault.isSystem with
              | true =>
                  refine ih (done + 1) (some fault) ?_
                  exact hpending
              | false =>
                  refine (hbroken hsystem).imp_left fun hplace => ?_
                  refine hpending.sameFiles hvacant fun location hsome => ?_
                  rw [hplace] at hsome
                  cases hsome

/-- Tidying up leaves the files as they were at the start, also where it is refused. -/
theorem sameFiles_tidy (h : Pending destination start session.disk)
    (hvacant : Vacant destination start) : start.SameFiles (tidy destination session).2.disk := by
  unfold tidy
  cases hthere : session.disk.isThere (beside destination) with
  | error fault =>
      refine h.sameFiles hvacant fun location hplace => ?_
      rw [Disk.place?_eq_none_of_isThere_eq_error hthere] at hplace
      cases hplace
  | ok found =>
      cases found with
      | false =>
          refine h.sameFiles hvacant fun location hplace => ?_
          have hnode := Disk.isThere_eq_ok hthere hplace
          exact Disk.file?_eq_none_of_node? (.inl (by simpa using hnode.symm))
      | true =>
          cases hremove : session.disk.remove (beside destination) with
          | error fault =>
              exact h.sameFiles hvacant fun location hplace =>
                Disk.file?_of_remove_eq_error hremove hplace
          | ok removed =>
              obtain ⟨location, hplace, hnode, rfl⟩ := Disk.remove_eq_ok hremove
              have hkeeps := Disk.keeps_erase hnode
              have hroot := (Disk.getLast?_of_place? hplace).2
              have hafter := hkeeps.place?_eq_some hplace
              have hpending : Pending destination start (session.disk.erase location) := by
                refine ⟨h.toKeeps.trans hkeeps, fun other hother => ?_⟩
                have hne : other ≠ location := by
                  rintro rfl
                  exact hother hafter
                rw [Disk.file?_erase _ hroot, if_neg hne]
                apply h.file?_eq
                rw [hplace]
                exact fun e => hne (Option.some.inj e).symm
              refine hpending.sameFiles hvacant fun other hother => ?_
              obtain rfl := Option.some.inj (hafter.symm.trans hother)
              rw [Disk.file?_erase _ hroot, if_pos rfl]

/-- A text that has an encoding is written as a whole or not at all. -/
theorem writeText_cases (text : WideText) (retries : Int) (pause : Pause) (session : Session)
    (hvacant : Vacant destination session.disk) :
    match writeText destination text retries pause session with
    | (.ok _, after) => ∃ content, text.encode = .ok content ∧
        Delivered destination content session.disk after.disk
    | (.error fault, after) => session.disk.SameFiles after.disk ∨
        Unencoded destination text.encode fault session.disk after.disk := by
  have hmade := session.disk.sameFiles_makeFolders destination.parent true
  unfold writeText
  cases hfolders : session.disk.makeFolders destination.parent true with
  | mk result disk =>
      rw [hfolders] at hmade
      cases result with
      | error fault => exact .inl hmade
      | ok _ =>
          have hpending : Pending destination session.disk (session.reach disk).disk :=
            .of_sameFiles hmade
          have hattempts := attempts_of_pending text.encode pause hvacant retries.toNat 0
            none hpending
          dsimp only
          cases houtcome : attempts destination text.encode pause retries.toNat 0 none
              (session.reach disk) with
          | mk outcome after =>
              rw [houtcome] at hattempts
              cases outcome with
              | written => exact hattempts
              | broken fault => exact hattempts
              | givenUp last =>
                  have htidied := sameFiles_tidy hattempts hvacant
                  dsimp only
                  cases htidy : tidy destination after with
                  | mk tidied final =>
                      rw [htidy] at htidied
                      cases tidied with
                      | error fault => exact .inl htidied
                      | ok _ => cases last <;> exact .inl htidied

/-- The answers to a delivery: refused with the files as they were, unless the text has no encoding, or
delivered, and then nothing stood at the destination unless it may be overwritten. -/
theorem deliver_cases (artifact : WideText) (folder : Path) (project : Project) (name? : Option String)
    (overwrite : Bool) (session : Session)
    (hvacant : Vacant (Delivery.destination folder project name?) session.disk) :
    match deliver artifact folder project name? overwrite session with
    | (.error fault, after) => session.disk.SameFiles after.disk ∨
        Unencoded (Delivery.destination folder project name?) artifact.encode fault session.disk
          after.disk
    | (.ok path, after) => path = Delivery.destination folder project name? ∧
        (∃ content, artifact.encode = .ok content ∧ Delivered path content session.disk after.disk) ∧
        (overwrite = false → session.disk.isThere path = .ok false) := by
  have hwritten := writeText_cases artifact standardAttempts standardPause session hvacant
  unfold deliver
  dsimp only
  cases hthere : session.disk.isThere (Delivery.destination folder project name?) with
  | error fault => exact .inl (Disk.SameFiles.refl session.disk)
  | ok found =>
      dsimp only
      cases hguard : found && !overwrite with
      | true => exact .inl (Disk.SameFiles.refl session.disk)
      | false =>
          simp only [Bool.false_eq_true, if_false]
          cases hwrite : writeText (Delivery.destination folder project name?) artifact
              standardAttempts standardPause session with
          | mk result after =>
              rw [hwrite] at hwritten
              cases result with
              | error fault => exact hwritten
              | ok _ =>
                  refine ⟨rfl, hwritten, fun hoverwrite => ?_⟩
                  have hfound : found = false := by simpa [hoverwrite] using hguard
                  rw [hthere, hfound]

/-- The answers to the delivery of a text that has an encoding. -/
theorem deliver_plain_cases (artifact : String) (folder : Path) (project : Project)
    (name? : Option String) (overwrite : Bool) (session : Session)
    (hvacant : Vacant (Delivery.destination folder project name?) session.disk) :
    match deliver artifact folder project name? overwrite session with
    | (.error _, after) => session.disk.SameFiles after.disk
    | (.ok path, after) => path = Delivery.destination folder project name? ∧
        Delivered path (Text.Utf8.encode artifact) session.disk after.disk ∧
        (overwrite = false → session.disk.isThere path = .ok false) := by
  have hcases := deliver_cases artifact folder project name? overwrite session hvacant
  cases hdeliver : deliver artifact folder project name? overwrite session with
  | mk result after =>
      rw [hdeliver, WideText.encode_plain] at hcases
      cases result with
      | error fault =>
          refine hcases.resolve_right fun h => ?_
          obtain ⟨reason, hreason, -⟩ := h.exists_reason
          cases hreason
      | ok path =>
          obtain ⟨hpath, ⟨content, hcontent, hdelivered⟩, hempty⟩ := hcases
          obtain rfl := Except.ok.inj hcontent
          exact ⟨hpath, hdelivered, hempty⟩

/-- The fault that a row of attempts ends with. -/
def Outcome.fault? : Outcome → Option Fault
  | .written => none
  | .givenUp last => some (last.getD .notAttempted)
  | .broken fault => some fault

theorem attempt_ne_notAttempted (destination : Path) (content : Except EncodingFault ByteArray)
    (session : Session) :
    (attempt destination content session).1 ≠ .error .notAttempted := by
  have hreplaced (result : Except Disk.Fault Unit) :
      result.mapError Fault.disk ≠ .error .notAttempted := by
    intro hfault
    cases result with
    | ok moved => cases hfault
    | error fault => cases hfault
  intro hfault
  unfold attempt at hfault
  split at hfault
  · cases hfault
  · split at hfault
    · cases hfault
    · split at hfault
      · cases hfault
      · exact hreplaced _ hfault

/-- A row of at least one attempt ends with a fault of its own. -/
theorem fault?_attempts_ne (destination : Path) (content : Except EncodingFault ByteArray) (pause : Pause)
    (left done : Nat) (last : Option Fault) (session : Session)
    (h : 0 < left ∨ last.getD .notAttempted ≠ .notAttempted) :
    (attempts destination content pause left done last session).1.fault? ≠ some .notAttempted := by
  induction left generalizing done last session with
  | zero =>
      have hlast := h.resolve_left (Nat.lt_irrefl 0)
      exact fun hfault => hlast (Option.some.inj hfault)
  | succ left ih =>
      have hattempt := attempt_ne_notAttempted destination content session
      unfold attempts
      split
      · nofun
      · rename_i fault after hresult
        rw [hresult] at hattempt
        have hfault : fault ≠ .notAttempted := fun e => hattempt (congrArg Except.error e)
        dsimp only
        split
        · exact ih _ _ _ (.inr hfault)
        · exact fun hbroken => hfault (Option.some.inj hbroken)

/-- A text that may be attempted at least once never fails for want of an attempt. -/
theorem writeText_ne_notAttempted (text : WideText) {retries : Int} (pause : Pause)
    (hretries : 0 < retries) (session : Session) :
    (writeText destination text retries pause session).1 ≠ .error .notAttempted := by
  have hleft : 0 < retries.toNat := by omega
  unfold writeText
  cases hfolders : session.disk.makeFolders destination.parent true with
  | mk made disk =>
      cases made with
      | error fault => nofun
      | ok _ =>
          have hfault := fault?_attempts_ne destination text.encode pause retries.toNat 0 none
            (session.reach disk) (.inl hleft)
          dsimp only
          cases hattempts : attempts destination text.encode pause retries.toNat 0 none
              (session.reach disk) with
          | mk outcome after =>
              rw [hattempts] at hfault
              cases outcome with
              | written => nofun
              | broken fault => exact fun e => hfault (congrArg some (Except.error.inj e))
              | givenUp last =>
                  dsimp only
                  split
                  · nofun
                  · cases last with
                    | none => exact absurd rfl hfault
                    | some fault => exact fun e => hfault (congrArg some (Except.error.inj e))

theorem deliver_ne_notAttempted (artifact : WideText) (folder : Path) (project : Project)
    (name? : Option String) (overwrite : Bool) (session : Session) :
    (deliver artifact folder project name? overwrite session).1 ≠ .error .notAttempted := by
  have hwrite : (writeText (destination folder project name?) artifact standardAttempts standardPause
      session).1 ≠ .error .notAttempted := writeText_ne_notAttempted _ _ (by decide) _
  unfold deliver
  dsimp only
  split
  · nofun
  · split
    · nofun
    · split
      · nofun
      · rename_i fault after hresult
        rw [hresult] at hwrite
        intro hfault
        exact hwrite (congrArg Except.error (Except.error.inj hfault))

end Delivery

end SelfBuild
