import Mathlib.Data.List.Basic
import SelfBuild.Proofs.Delivery.Ready

/-!
# Refused attempts

As long as replacements are denied, or a folder stands at the destination, every attempt fills the file
beside the destination once more and changes nothing else.  So after any number of refused attempts the
next one stands where the first one stood, with one more pause behind it, and what is left to do at the
end is to remove the file beside.

What stands at the destination, and at the file beside it, is asked once the folders on the way have been
made.  Making them can turn either of the two into a folder, as `a/../a` does.
-/

namespace SelfBuild

namespace Delivery

variable {destination : Path} {content : ByteArray} {made now : Disk}
variable {start session : Session} {location target : Location}

/-! ## Denied replacements -/

/-- How many replacements in a row will be denied. -/
def leadingDenials (session : Session) : Nat :=
  (session.denials.takeWhile id).length

theorem getD_takeWhile (denials : List Bool) :
    (∀ i < (denials.takeWhile id).length, denials.getD i false = true) ∧
      denials.getD (denials.takeWhile id).length false = false := by
  induction denials with
  | nil => exact ⟨nofun, rfl⟩
  | cons denied rest ih =>
      cases denied with
      | false => exact ⟨nofun, rfl⟩
      | true =>
          refine ⟨fun i hi => ?_, ih.2⟩
          cases i with
          | zero => rfl
          | succ i => exact ih.1 i (Nat.lt_of_succ_lt_succ hi)

/-- A session after some attempts that were all refused. -/
structure Tried (made : Disk) (destination : Path) (location : Location) (pause : Pause)
    (start : Session) (count : Nat) (last : Option Fault) (session : Session) : Prop where
  underway : Underway made location start session
  pauses_eq : session.pauses = start.pauses ++ (List.range count).map fun i => pause.after (i + 1)
  denials_eq : session.denials = start.denials.drop count
  last_eq : ∀ before, count = before + 1 → ∃ reason,
    refusal? made destination (start.denials.getD before false) = some reason ∧
      last = some (.disk (refused destination reason))

/-- Whether the next replacement will be denied is told by the number of those before. -/
theorem Tried.headD_eq {pause : Pause} {count : Nat} {last : Option Fault}
    (h : Tried made destination location pause start count last session) :
    session.denials.headD false = start.denials.getD count false := by
  rw [h.denials_eq, List.headD_eq_head?_getD, List.head?_drop, List.getD_eq_getElem?_getD]

/-- What is left of a delivery, apart from the destination: the file beside is gone, all else is as it was
once the folders were made, and after every operation the destination held what it held before or all of
the new content. -/
structure Leaves (made : Disk) (destination : Path) (content : ByteArray) (start after : Session) :
    Prop where
  gone : after.disk.isThere (beside destination) = .ok false
  others : ∀ location, made.place? (beside destination) ≠ some location →
    made.place? destination ≠ some location → after.disk.node? location = made.node? location
  moments : ∃ fresh, after.trail = fresh ++ start.trail ∧ ∀ disk ∈ fresh,
    disk.find destination = made.find destination ∨ disk.readBytes destination = .ok content

namespace Ready

variable (h : Ready made destination location)

include h

/-! ## Rows of attempts -/

/-- Attempts that are all refused lead from one session to the next as if they had been made one by one. -/
theorem attempts_refused (hstart : Beside made location start.disk) (content : ByteArray)
    (pause : Pause) (count : Nat)
    (hrefused : ∀ i < count, refusal? made destination (start.denials.getD i false) ≠ none) :
    ∃ last session, Tried made destination location pause start count last session ∧
      ∀ left, attempts destination (.ok content) pause (count + left) 0 none start =
        attempts destination (.ok content) pause left count last session := by
  -- The attempts left over are open in the hypothesis, so that one of them can be split off for the step.
  induction count with
  | zero =>
      refine ⟨none, start, ⟨.refl hstart, by simp, rfl, nofun⟩, fun left => ?_⟩
      rw [Nat.zero_add]
  | succ count ih =>
      obtain ⟨last, session, htried, hattempts⟩ := ih fun i hi => hrefused i (Nat.lt_succ_of_lt hi)
      have hdenials := htried.headD_eq
      obtain ⟨reason, hreason⟩ := Option.ne_none_iff_exists'.1 (hrefused count (Nat.lt_succ_self _))
      obtain ⟨after, hattempt, hafter, hpauses, hdrop⟩ :=
        h.attempt_refused htried.underway.disk content (hdenials ▸ hreason)
      have hnext := htried.underway.trans hafter
      refine ⟨some (.disk (refused destination reason)),
        { after with pauses := after.pauses ++ [pause.after (count + 1)] },
        ⟨⟨hnext.disk, hnext.trail⟩, ?_, ?_, ?_⟩, fun left => ?_⟩
      · rw [hpauses, htried.pauses_eq, List.range_succ, List.map_append, List.append_assoc]
        rfl
      · rw [hdrop, htried.denials_eq, List.drop_drop]
      · intro before hbefore
        obtain rfl := Nat.succ.inj hbefore
        exact ⟨reason, hreason, rfl⟩
      · rw [Nat.add_right_comm, Nat.add_assoc, hattempts (left + 1), attempts, hattempt]
        rfl

/-- Tidying up removes the file beside and does not fail. -/
theorem tidy_eq (hsession : Beside made location session.disk) :
    ∃ after, tidy destination session = (.ok (), after) ∧ Underway made location session after ∧
      after.disk.node? location = none ∧ after.pauses = session.pauses := by
  obtain ⟨hnul, hresolve⟩ := Disk.place?_eq_some_iff.1 (h.place_now hsession)
  unfold tidy
  cases hnode : session.disk.node? location with
  | none =>
      have hthere : session.disk.isThere (beside destination) = .ok false := by
        simp [Disk.isThere, Disk.check, hnul, Disk.find, hresolve, hnode]
      exact ⟨session, by rw [hthere], .refl hsession, hnode, rfl⟩
  | some node =>
      cases node with
      | folder => exact absurd hnode hsession.free
      | file content =>
          have hthere : session.disk.isThere (beside destination) = .ok true := by
            simp [Disk.isThere, Disk.check, hnul, Disk.find, hresolve, hnode]
          have hremove : session.disk.remove (beside destination) =
              .ok (session.disk.erase location) := by
            simp [Disk.remove, hnul, hresolve, hnode]
          refine ⟨session.reach (session.disk.erase location), ?_, ?_, ?_, rfl⟩
          · rw [hthere]
            dsimp only
            rw [hremove]
          · exact (Underway.refl hsession).reach (hsession.erase h.root)
          · exact Disk.node?_erase _ h.root

/-! ## How a row of attempts ends -/

theorem isThere_beside (hkeeps : made.Keeps now) (hnode : now.node? location = none) :
    now.isThere (beside destination) = .ok false :=
  Disk.isThere_of_free (hkeeps.place?_eq_some h.place) hnode

theorem keeps_moved (hmoved : Moved made location target content now)
    (hfree : made.node? target ≠ some .folder) : made.Keeps now := by
  refine ⟨hmoved.workingFolder_eq, fun other hother => ?_⟩
  have hne : other ≠ location := fun e => h.free (e ▸ hother)
  have hne' : other ≠ target := fun e => hfree (e ▸ hother)
  rw [hmoved.node?_eq other hne hne', hother]

/-- The first attempt that is not refused ends the row. -/
theorem attempts_written (hstart : Beside made location start.disk) (content : ByteArray)
    (pause : Pause) {retries : Nat} (hfree : made.find destination ≠ .ok .folder)
    (hretries : leadingDenials start < retries) :
    ∃ after, attempts destination (.ok content) pause retries 0 none start = (.written, after) ∧
      after.disk.readBytes destination = .ok content ∧
      after.pauses = start.pauses ++
        (List.range (leadingDenials start)).map (fun i => pause.after (i + 1)) ∧
      Leaves made destination content start after := by
  have hrefused : ∀ i < leadingDenials start,
      refusal? made destination (start.denials.getD i false) ≠ none := by
    intro i hi
    rw [(getD_takeWhile start.denials).1 i hi]
    nofun
  obtain ⟨last, session, htried, hattempts⟩ := h.attempts_refused hstart content pause _ hrefused
  have hdenied : session.denials.headD false = false :=
    htried.headD_eq.trans (getD_takeWhile start.denials).2
  obtain ⟨target, filled, moved, htarget, hattempt, hfilled, hpauses, hmoved⟩ :=
    h.attempt_moved htried.underway.disk content hdenied (h.refusal?_eq_none_iff.2 hfree)
  have hkeeps := h.keeps_moved hmoved (Disk.free_of_find htarget hfree)
  have hread : moved.readBytes destination = .ok content :=
    Disk.readBytes_of_place? (hkeeps.place?_eq_some htarget)
      (Disk.file?_eq_some_iff.2 hmoved.target_eq)
  refine ⟨filled.reach moved, ?_, hread, ?_, ?_, ?_, ?_⟩
  · obtain ⟨left, hleft⟩ : ∃ left, retries = leadingDenials start + (left + 1) :=
      ⟨retries - leadingDenials start - 1, by omega⟩
    rw [hleft, hattempts (left + 1), attempts, hattempt]
  · exact hpauses.trans htried.pauses_eq
  · exact h.isThere_beside hkeeps hmoved.beside_eq
  · intro other hbeside hdestination
    refine hmoved.node?_eq other ?_ ?_
    · rintro rfl
      exact hbeside h.place
    · rintro rfl
      exact hdestination htarget
  · obtain ⟨fresh, htrail, hfresh⟩ := (htried.underway.trans hfilled).trail
    refine ⟨moved :: fresh, congrArg (moved :: ·) htrail, fun disk hdisk => ?_⟩
    rcases List.mem_cons.1 hdisk with rfl | hmem
    · exact .inr hread
    · exact .inl (h.find_now (hfresh disk hmem))

/-- When all attempts are refused the row is given up, and the destination stays as it was. -/
theorem attempts_givenUp (hstart : Beside made location start.disk) (content : ByteArray)
    (pause : Pause) {retries : Nat} (hretries : 0 < retries)
    (hrefused : made.find destination = .ok .folder ∨ retries ≤ leadingDenials start) :
    ∃ reason given after,
      attempts destination (.ok content) pause retries 0 none start =
        (.givenUp (some (.disk (refused destination reason))), given) ∧
      tidy destination given = (.ok (), after) ∧
      refusal? made destination (start.denials.getD (retries - 1) false) = some reason ∧
      after.disk.find destination = made.find destination ∧
      after.pauses = start.pauses ++ (List.range retries).map (fun i => pause.after (i + 1)) ∧
      Leaves made destination content start after := by
  have hall : ∀ i < retries, refusal? made destination (start.denials.getD i false) ≠ none := by
    intro i hi
    rcases hrefused with hfolder | hmany
    · cases start.denials.getD i false with
      | true => nofun
      | false => exact fun hnone => h.refusal?_eq_none_iff.1 hnone hfolder
    · rw [(getD_takeWhile start.denials).1 i (Nat.lt_of_lt_of_le hi hmany)]
      nofun
  obtain ⟨last, given, htried, hattempts⟩ := h.attempts_refused hstart content pause retries hall
  obtain ⟨reason, hreason, rfl⟩ := htried.last_eq (retries - 1) (by omega)
  obtain ⟨after, htidy, hafter, hnode, hpauses⟩ := h.tidy_eq htried.underway.disk
  have hunder := htried.underway.trans hafter
  refine ⟨reason, given, after, hattempts 0, htidy, hreason, h.find_now hunder.disk,
    hpauses.trans htried.pauses_eq, ?_, ?_, ?_⟩
  · exact h.isThere_beside (h.keeps hunder.disk) hnode
  · intro other hbeside _
    refine hunder.disk.node?_eq other ?_
    rintro rfl
    exact hbeside h.place
  · obtain ⟨fresh, htrail, hfresh⟩ := hunder.trail
    exact ⟨fresh, htrail, fun disk hdisk => .inl (h.find_now (hfresh disk hdisk))⟩

end Ready

/-! ## Whole deliveries -/

/-- The folders made before the first attempt count as one more moment. -/
theorem Leaves.of_reach {after : Session} (h : Leaves made destination content (start.reach made) after) :
    Leaves made destination content start after := by
  obtain ⟨fresh, htrail, hfresh⟩ := h.moments
  refine ⟨h.gone, h.others, fresh ++ [made], ?_, fun disk hdisk => ?_⟩
  · rw [htrail, List.append_assoc]
    rfl
  · rcases List.mem_append.1 hdisk with hmem | hmem
    · exact hfresh disk hmem
    · exact .inl (by rw [List.mem_singleton.1 hmem])

/-- A delivery whose replacements are denied some times in a row is repeated so many times, with growing
pauses; when there are as many as attempts, or a folder stands at the destination, it fails with the last
refusal and the destination is as before.  In either case nothing else is left changed but the folders on
the way. -/
theorem writeText_of_denials (destination : Path) (text : String) (retries : Nat) (seconds : Int)
    (session : Session) (made : Disk) (hretries : 0 < retries)
    (hmade : session.disk.makeFolders destination.parent true = (.ok (), made))
    (hnul : destination.hasNul = false)
    (hfolder : made.find (beside destination) ≠ .ok .folder)
    (hlong : made.find (beside destination) ≠ .error .nameTooLong) :
    let content := Text.Utf8.encode text
    let denied := leadingDenials session
    let (result, after) := writeText destination text retries (.whole seconds) session
    (made.find destination ≠ .ok .folder → denied < retries →
      result = .ok () ∧ after.disk.readBytes destination = .ok content ∧
      after.pauses = session.pauses ++
        (List.range denied).map fun i => .whole (seconds * Int.ofNat (i + 1))) ∧
    (made.find destination = .ok .folder ∨ retries ≤ denied →
      (∃ reason,
        refusal? made destination (session.denials.getD (retries - 1) false) = some reason ∧
        result = .error (.disk (refused destination reason))) ∧
      after.disk.find destination = made.find destination ∧
      after.pauses = session.pauses ++
        (List.range retries).map fun i => .whole (seconds * Int.ofNat (i + 1))) ∧
    Leaves made destination content session after ∧
    Disk.Paves destination.parent session.disk made := by
  have hready := ready_of_find (Disk.find_of_makeFolders hmade) hnul hfolder hlong
  have hstart : Beside made (made.locate (beside destination)) (session.reach made).disk :=
    hready.beside_made
  have hpaves := session.disk.paves_makeFolders destination.parent true
  rw [hmade] at hpaves
  by_cases hrefused : made.find destination = .ok .folder ∨ retries ≤ leadingDenials session
  · obtain ⟨reason, given, after, hattempts, htidy, hreason, hfind, hpauses, hleaves⟩ :=
      hready.attempts_givenUp hstart (Text.Utf8.encode text) (.whole seconds) hretries hrefused
    have hwrite : writeText destination text retries (.whole seconds) session =
        (.error (.disk (refused destination reason)), after) := by
      simp only [writeText, hmade, Int.toNat_natCast, WideText.encode_plain, hattempts, htidy]
    rw [hwrite]
    refine ⟨fun hfree hless => ?_, fun _ => ⟨⟨reason, hreason, rfl⟩, hfind, hpauses⟩,
      hleaves.of_reach, hpaves⟩
    rcases hrefused with hfound | hmany
    · exact absurd hfound hfree
    · exact absurd hmany (Nat.not_le.2 hless)
  · obtain ⟨hfree, hless⟩ := not_or.1 hrefused
    obtain ⟨after, hattempts, hread, hpauses, hleaves⟩ :=
      hready.attempts_written hstart (Text.Utf8.encode text) (.whole seconds) hfree
        (Nat.not_le.1 hless)
    have hwrite : writeText destination text retries (.whole seconds) session = (.ok (), after) := by
      simp only [writeText, hmade, Int.toNat_natCast, WideText.encode_plain, hattempts]
    rw [hwrite]
    exact ⟨fun _ _ => ⟨rfl, hread, hpauses⟩, fun h => absurd h hrefused, hleaves.of_reach, hpaves⟩

/-- One denied replacement, then a delivery into a folder that is made for it. -/
theorem writeText_of_one_denial :
    let destination : Path := ⟨.here, ["out", "app.cmd"]⟩
    let disk : Disk :=
      ⟨[(["home"], .folder), (["home", "notes.txt"], .file "text".toUTF8)], ["home"]⟩
    let session : Session := { disk := disk, denials := [true, false] }
    let (result, after) := writeText destination "using System;" 3 (.whole 2) session
    result = .ok () ∧
      after.disk.readBytes destination = .ok (Text.Utf8.encode "using System;") ∧
      after.pauses = [.whole 2] ∧ after.disk.isThere (beside destination) = .ok false := by
  intro destination disk session
  have hparent : (disk.makeFolders destination.parent true).1 = .ok () := by decide
  have h := writeText_of_denials destination "using System;" 3 2 session
    (disk.makeFolders destination.parent true).2 (by decide) (Prod.ext hparent rfl) (by decide)
    (by decide) (by decide)
  obtain ⟨hwritten, -, hleaves, -⟩ := h
  obtain ⟨hresult, hread, hpauses⟩ := hwritten (by decide) (by decide)
  exact ⟨hresult, hread, hpauses, hleaves.gone⟩

/-- Nothing stands at any of these destinations, nor beside them, and no replacement is denied; yet the
folders made for the first two turn the destination, or the file beside it, into a folder, and the third
one's path cannot be handed to the system. -/
theorem writeText_fails_without_denial :
    let disk : Disk := ⟨[(["home"], .folder)], ["home"]⟩
    let fault (destination : Path) : Except Fault Unit :=
      (writeText destination "x" 1 (.whole 1) { disk := disk }).1
    let there : Path := ⟨.here, ["a", "..", "a"]⟩
    let besideThere : Path := ⟨.here, ["a.tmp__writing__", "..", "a"]⟩
    let nul : Path := .ofString (String.ofList ['a', Char.ofNat 0, 'b'])
    (∀ destination ∈ [there, besideThere, nul],
      (disk.makeFolders destination.parent true).1 = .ok () ∧
        disk.isThere destination = .ok false ∧ disk.isThere (beside destination) = .ok false) ∧
      fault there = .error (.disk (.system .isFolder (beside there) (some there))) ∧
      fault besideThere = .error (.disk (.system .isFolder (beside besideThere) none)) ∧
      fault nul = .error (.disk .nulInPath) := by
  decide

end Delivery

end SelfBuild
