import SelfBuild.Proofs.Delivery.Attempts

/-!
# Destinations that can be attempted

Once the folders on the way are there, a destination can be attempted unless a folder is in the way of the
file beside it, or that file's path is too long.  An attempt then fills the file beside, and whether the
file takes the destination's place depends on two things only: whether the replacement is denied, and
whether a folder stands at the destination.
-/

namespace SelfBuild

namespace Delivery

variable {destination : Path} {content : ByteArray} {made now disk : Disk}
variable {start session : Session} {location target : Location} {reason : Disk.Reason}

/-! ## The path beside a destination -/

theorem intercalate_concat_append (front : List String) (name ending : String) :
    "/".intercalate (front ++ [name ++ ending]) = "/".intercalate (front ++ [name]) ++ ending := by
  cases front with
  | nil => simp
  | cons first rest =>
      have hsplit (last : String) : "/".intercalate (first :: rest ++ [last]) =
          "/".intercalate (first :: rest) ++ "/" ++ last := by
        rw [String.intercalate_append_of_ne_nil (List.cons_ne_nil _ _) (List.cons_ne_nil _ _),
          String.intercalate_singleton]
      rw [hsplit, hsplit]
      simp only [String.append_assoc]

/-- The path beside a destination is at least as long as the path of the destination. -/
theorem utf8ByteSize_text_le_beside (destination : Path) :
    destination.text.utf8ByteSize ≤ (beside destination).text.utf8ByteSize := by
  have hnames : "/".intercalate destination.names ++ besideEnding =
      "/".intercalate (beside destination).names := by
    rw [names_beside]
    rcases List.eq_nil_or_concat destination.names with hnil | ⟨front, name, hconcat⟩
    · simp [Path.name, hnil]
    · rw [List.concat_eq_append] at hconcat
      rw [Path.name, hconcat, List.dropLast_concat, List.getLast?_concat, Option.getD_some,
        intercalate_concat_append]
  have hsize := congrArg String.utf8ByteSize hnames
  have hending : besideEnding.utf8ByteSize = 15 := by decide
  have hdot : ".".utf8ByteSize = 1 := by decide
  have hanchor : (beside destination).anchor = destination.anchor := rfl
  have hsome : (beside destination).names ≠ [] := by simp [names_beside]
  rw [String.utf8ByteSize_append, hending] at hsize
  unfold Path.text
  rw [hanchor, if_neg (c := _ ∧ (beside destination).names = []) fun h => hsome h.2,
    String.utf8ByteSize_append]
  split
  · rw [hdot]
    omega
  · rw [String.utf8ByteSize_append]
    omega

/-! ## Destinations that can be attempted -/

/-- A destination that can be attempted: the file beside it has a place with no folder at it, and the path
of the destination can be followed. -/
structure Ready (made : Disk) (destination : Path) (location : Location) : Prop where
  place : made.place? (beside destination) = some location
  free : made.node? location ≠ some .folder
  resolves : ∃ target, made.resolve destination = .ok target

/-- Once its parent is there a destination can be attempted, unless a folder is in the way of the file
beside it or that file's path is too long. -/
theorem ready_of_find (hparent : made.find destination.parent = .ok .folder)
    (hnul : destination.hasNul = false)
    (hfolder : made.find (beside destination) ≠ .ok .folder)
    (hlong : made.find (beside destination) ≠ .error .nameTooLong) :
    Ready made destination (made.locate (beside destination)) := by
  have hup := besideName_ne_up destination.name
  obtain ⟨hlength, hsize⟩ : (beside destination).text.utf8ByteSize ≤ Disk.pathLimit ∧
      (destination.name ++ besideEnding).utf8ByteSize ≤ Disk.nameLimit :=
    Disk.short_of_find_child hparent hup hlong
  have hplace : made.place? (beside destination) = some (made.locate (beside destination)) := by
    rw [Disk.place?_eq_some_iff, locate_beside]
    refine ⟨(hasNul_beside destination).trans hnul, ?_⟩
    exact (Disk.resolve_child hparent hup).trans
      (if_neg (not_or.2 ⟨Nat.not_lt.2 hlength, Nat.not_lt.2 hsize⟩))
  refine ⟨hplace, fun hnode => hfolder ?_, ?_⟩
  · simp only [Disk.find, (Disk.place?_eq_some_iff.1 hplace).2, hnode]
  · have hlength' := Nat.le_trans (utf8ByteSize_text_le_beside destination) hlength
    have hwalk : made.walk (made.start destination) destination.names.dropLast =
        .ok (made.locate destination.parent) := Disk.walk_of_find_folder hparent
    unfold Disk.resolve
    rw [if_neg (Nat.not_lt.2 hlength')]
    cases hlast : destination.names.getLast? with
    | none => exact ⟨_, rfl⟩
    | some name =>
        have hname : destination.name = name := by rw [Path.name, hlast, Option.getD_some]
        rw [hname, String.utf8ByteSize_append] at hsize
        have hshort : ¬ name.utf8ByteSize > Disk.nameLimit := by omega
        dsimp only
        rw [hwalk]
        dsimp only
        rw [if_neg hshort]
        split
        · exact ⟨_, rfl⟩
        · exact ⟨_, rfl⟩

/-- Why the file beside a destination cannot take the destination's place, where it cannot: the replacement
is denied, or the destination is a folder. -/
def refusal? (disk : Disk) (destination : Path) (denied : Bool) : Option Disk.Reason :=
  if denied then some .denied
  else
    match disk.resolve destination with
    | .error reason => some reason
    | .ok (.entered _) => some .busy
    | .ok (.place location) => if disk.node? location = some .folder then some .isFolder else none

/-- The fault of a refused replacement. -/
def refused (destination : Path) (reason : Disk.Reason) : Disk.Fault :=
  .system reason (beside destination) (some destination)

theorem Ready.refusal?_eq_none_iff (h : Ready made destination location) :
    refusal? made destination false = none ↔ made.find destination ≠ .ok .folder := by
  obtain ⟨target, hresolve⟩ := h.resolves
  cases target with
  | entered folder => simp [refusal?, Disk.find, hresolve]
  | place target =>
      simp only [refusal?, Disk.find, hresolve, Bool.false_eq_true, if_false]
      cases hnode : made.node? target with
      | none => simp
      | some node => cases node <;> simp

/-! ## Disks and sessions of a delivery under way -/

/-- A disk on which nothing but the file beside a destination differs. -/
structure Beside (made : Disk) (location : Location) (now : Disk) : Prop where
  workingFolder_eq : now.workingFolder = made.workingFolder
  free : now.node? location ≠ some .folder
  node?_eq : ∀ other, other ≠ location → now.node? other = made.node? other

/-- All disks that a session has seen since its start differ in nothing but the file beside. -/
structure Underway (made : Disk) (location : Location) (start session : Session) : Prop where
  disk : Beside made location session.disk
  trail : ∃ fresh, session.trail = fresh ++ start.trail ∧ ∀ disk ∈ fresh, Beside made location disk

/-- A disk on which the file beside has taken the destination's place, and nothing else differs. -/
structure Moved (made : Disk) (location target : Location) (content : ByteArray) (now : Disk) :
    Prop where
  workingFolder_eq : now.workingFolder = made.workingFolder
  target_eq : now.node? target = some (.file content)
  beside_eq : now.node? location = none
  node?_eq : ∀ other, other ≠ location → other ≠ target → now.node? other = made.node? other

theorem Beside.put (h : Beside made location now) (hroot : location ≠ []) (content : ByteArray) :
    Beside made location (now.put location (.file content)) := by
  refine ⟨h.workingFolder_eq, by simp [Disk.node?_put now _ hroot], fun other hother => ?_⟩
  rw [Disk.node?_put_of_ne now _ hother, h.node?_eq other hother]

theorem Beside.erase (h : Beside made location now) (hroot : location ≠ []) :
    Beside made location (now.erase location) := by
  refine ⟨h.workingFolder_eq, by simp [Disk.node?_erase now hroot], fun other hother => ?_⟩
  rw [Disk.node?_erase_of_ne now hother, h.node?_eq other hother]

theorem Beside.moved (h : Beside made location now) (hroot : location ≠ []) (htarget : target ≠ [])
    (hne : location ≠ target) (content : ByteArray) :
    Moved made location target content ((now.erase location).put target (.file content)) := by
  refine ⟨h.workingFolder_eq, Disk.node?_put _ _ htarget, ?_, fun other hother hother' => ?_⟩
  · rw [Disk.node?_put_of_ne _ _ hne, Disk.node?_erase now hroot]
  · rw [Disk.node?_put_of_ne _ _ hother', Disk.node?_erase_of_ne now hother, h.node?_eq other hother]

theorem Underway.refl (h : Beside made location session.disk) :
    Underway made location session session :=
  ⟨h, [], rfl, nofun⟩

theorem Underway.trans {middle : Session} (h : Underway made location start middle)
    (h' : Underway made location middle session) : Underway made location start session := by
  obtain ⟨fresh, htrail, hfresh⟩ := h.trail
  obtain ⟨fresh', htrail', hfresh'⟩ := h'.trail
  refine ⟨h'.disk, fresh' ++ fresh, ?_, fun disk hdisk => ?_⟩
  · rw [htrail', htrail, List.append_assoc]
  · rcases List.mem_append.1 hdisk with hmem | hmem
    · exact hfresh' disk hmem
    · exact hfresh disk hmem

theorem Underway.reach (h : Underway made location start session)
    (hdisk : Beside made location disk) : Underway made location start (session.reach disk) := by
  obtain ⟨fresh, htrail, hfresh⟩ := h.trail
  refine ⟨hdisk, disk :: fresh, congrArg (disk :: ·) htrail, fun other hother => ?_⟩
  rcases List.mem_cons.1 hother with rfl | hmem
  · exact hdisk
  · exact hfresh other hmem

namespace Ready

variable (h : Ready made destination location)

include h

theorem root : location ≠ [] := (Disk.getLast?_of_place? h.place).2

theorem beside_made : Beside made location made := ⟨rfl, h.free, fun _ _ => rfl⟩

theorem keeps (hnow : Beside made location now) : made.Keeps now := by
  refine ⟨hnow.workingFolder_eq, fun other hother => ?_⟩
  have hne : other ≠ location := fun e => h.free (e ▸ hother)
  rw [hnow.node?_eq other hne, hother]

theorem place_now (hnow : Beside made location now) :
    now.place? (beside destination) = some location :=
  (h.keeps hnow).place?_eq_some h.place

theorem hasNul : destination.hasNul = false ∧ (beside destination).hasNul = false := by
  have hbeside := (Disk.place?_eq_some_iff.1 h.place).1
  exact ⟨(hasNul_beside destination).symm.trans hbeside, hbeside⟩

theorem ne_target (htarget : made.resolve destination = .ok (.place target)) : location ≠ target :=
  place?_beside_ne h.place (Disk.place?_eq_some_iff.2 ⟨h.hasNul.1, htarget⟩)

/-- What stands at the destination does not change while the delivery is under way. -/
theorem find_now (hnow : Beside made location now) : now.find destination = made.find destination := by
  obtain ⟨target, hresolve⟩ := h.resolves
  have hresolve' := (h.keeps hnow).resolve_eq_ok hresolve
  cases target with
  | entered folder => rw [Disk.find, Disk.find, hresolve, hresolve']
  | place target =>
      simp only [Disk.find, hresolve, hresolve', hnow.node?_eq target (h.ne_target hresolve).symm]

/-! ## One attempt -/

theorem replace_refused (hnow : Beside made location now) (hfile : now.file? location = some content)
    (hreason : refusal? made destination false = some reason) :
    now.replace (beside destination) destination = .error (refused destination reason) := by
  have hbeside := (Disk.place?_eq_some_iff.1 (h.place_now hnow)).2
  obtain ⟨target, hresolve⟩ := h.resolves
  have hresolve' := (h.keeps hnow).resolve_eq_ok hresolve
  unfold Disk.replace
  simp only [h.hasNul.1, h.hasNul.2, Bool.or_self, Bool.false_eq_true, if_false, hbeside, hresolve']
  cases target with
  | entered folder =>
      simp only [refusal?, hresolve, Bool.false_eq_true, if_false, Option.some.injEq] at hreason
      rw [refused, ← hreason]
  | place target =>
      simp only [refusal?, hresolve, Bool.false_eq_true, if_false] at hreason
      simp only [Disk.file?_eq_some_iff.1 hfile, hnow.node?_eq target (h.ne_target hresolve).symm]
      split at hreason
      · rename_i hfolder
        rw [if_pos hfolder, refused, ← Option.some.inj hreason]
      · cases hreason

theorem replace_moved (hnow : Beside made location now) (hfile : now.file? location = some content)
    (hnone : refusal? made destination false = none) :
    ∃ target, made.place? destination = some target ∧ now.replace (beside destination) destination =
      .ok ((now.erase location).put target (.file content)) := by
  obtain ⟨target, hresolve⟩ := h.resolves
  cases target with
  | entered folder =>
      simp only [refusal?, hresolve, Bool.false_eq_true, if_false] at hnone
      cases hnone
  | place target =>
      simp only [refusal?, hresolve, Bool.false_eq_true, if_false] at hnone
      have htarget := Disk.place?_eq_some_iff.2 ⟨h.hasNul.1, hresolve⟩
      have hfree : now.node? target ≠ some .folder := by
        rw [hnow.node?_eq target (h.ne_target hresolve).symm]
        intro hfolder
        rw [if_pos hfolder] at hnone
        cases hnone
      exact ⟨target, htarget, Disk.replace_of_place? (h.place_now hnow)
        ((h.keeps hnow).place?_eq_some htarget) hfile hfree⟩

/-- An attempt empties the file beside and fills it, and all else depends on the replacement. -/
theorem attempt_eq (hsession : Beside made location session.disk) (content : ByteArray) :
    ∃ filled, attempt destination (.ok content) session =
        ((filled.replace (beside destination) destination).1.mapError .disk,
          (filled.replace (beside destination) destination).2) ∧
      Underway made location session filled ∧ filled.disk.file? location = some content ∧
      filled.pauses = session.pauses ∧ filled.denials = session.denials := by
  let opened := session.disk.put location (.file ByteArray.empty)
  let full := opened.put location (.file content)
  have hopened : Beside made location opened := hsession.put h.root _
  have hfull : Beside made location full := hopened.put h.root content
  have hopen : session.disk.write (beside destination) ByteArray.empty = .ok opened :=
    Disk.write_of_place? (h.place_now hsession) hsession.free _
  have hfill : opened.write (beside destination) content = .ok full :=
    Disk.write_of_place? (h.place_now hopened) hopened.free content
  refine ⟨(session.reach opened).reach full, ?_, ?_, ?_, rfl, rfl⟩
  · unfold attempt
    rw [hopen]
    dsimp only
    rw [hfill]
  · exact ((Underway.refl hsession).reach hopened).reach hfull
  · exact Disk.file?_eq_some_iff.2 (Disk.node?_put opened _ h.root)

theorem attempt_refused (hsession : Beside made location session.disk) (content : ByteArray)
    (hreason : refusal? made destination (session.denials.headD false) = some reason) :
    ∃ after, attempt destination (.ok content) session =
        (.error (.disk (refused destination reason)), after) ∧
      Underway made location session after ∧ after.pauses = session.pauses ∧
      after.denials = session.denials.drop 1 := by
  obtain ⟨filled, hattempt, hfilled, hfile, hpauses, hdenials⟩ := h.attempt_eq hsession content
  refine ⟨{ filled with denials := filled.denials.drop 1 }, ?_, ⟨hfilled.disk, hfilled.trail⟩,
    hpauses, by rw [hdenials]⟩
  rw [hattempt, Session.replace, hdenials]
  cases hdenied : session.denials.headD false with
  | true =>
      rw [hdenied] at hreason
      rw [refused, ← Option.some.inj hreason]
      rfl
  | false =>
      rw [hdenied] at hreason
      simp only [Bool.false_eq_true, if_false, h.replace_refused hfilled.disk hfile hreason]
      rfl

theorem attempt_moved (hsession : Beside made location session.disk) (content : ByteArray)
    (hdenied : session.denials.headD false = false)
    (hnone : refusal? made destination false = none) :
    ∃ target filled moved, made.place? destination = some target ∧
      attempt destination (.ok content) session = (.ok (), filled.reach moved) ∧
      Underway made location session filled ∧ filled.pauses = session.pauses ∧
      Moved made location target content moved := by
  obtain ⟨filled, hattempt, hfilled, hfile, hpauses, hdenials⟩ := h.attempt_eq hsession content
  obtain ⟨target, htarget, hreplace⟩ := h.replace_moved hfilled.disk hfile hnone
  have hmoved := hfilled.disk.moved h.root (Disk.getLast?_of_place? htarget).2
    (place?_beside_ne h.place htarget) content
  refine ⟨target, { filled with denials := filled.denials.drop 1 }, _, htarget, ?_,
    ⟨hfilled.disk, hfilled.trail⟩, hpauses, hmoved⟩
  rw [hattempt, Session.replace, hdenials, hdenied]
  simp only [Bool.false_eq_true, if_false, hreplace]
  rfl

end Ready

end Delivery

end SelfBuild
