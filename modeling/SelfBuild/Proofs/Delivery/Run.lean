import SelfBuild.Proofs.Delivery.Attempts
import SelfBuild.Proofs.FileName

/-!
# Deliveries one after the other

Orders are sent one after the other in one session, so refused replacements may fall anywhere.  After
each order either its text stands at the destination and nothing else has changed, or nothing has
changed at all; and never is a file left beside a destination.  The last part is what makes the orders
independent: a destination does not end as the files beside destinations do.

Whether an order may take the place of a file is asked before folders are made.  Making them can turn a
path that leads nowhere into one that leads to a file which stood there all the time.
-/

namespace SelfBuild

namespace Delivery

/-- What is asked for by one delivery of a text that has an encoding. -/
structure Order where
  artifact : String
  folder : Path
  project : Project
  name? : Option String
  overwrite : Bool

namespace Order

def destination (order : Order) : Path :=
  Delivery.destination order.folder order.project order.name?

def send (order : Order) (session : Session) : Except Fault Path × Session :=
  deliver order.artifact order.folder order.project order.name? order.overwrite session

end Order

/-- One order of a run, with its answer and the disks around it. -/
structure Step where
  order : Order
  before : Disk
  result : Except Fault Path
  after : Disk

/-- Send orders one after the other. -/
def steps : List Order → Session → List Step
  | [], _ => []
  | order :: orders, session =>
      let (result, after) := order.send session
      ⟨order, session.disk, result, after.disk⟩ :: steps orders after

/-- No file has the ending of those beside destinations. -/
def NoLeftovers (disk : Disk) : Prop :=
  ∀ location name, location.getLast? = some name →
    besideEnding.toList <:+ name.toList → disk.file? location = none

/-- What every order of a run keeps to. -/
structure Step.Lawful (step : Step) : Prop where
  noLeftovers : NoLeftovers step.after
  delivered : ∀ path, step.result = .ok path → path = step.order.destination ∧
    step.after.readBytes path = .ok (Text.Utf8.encode step.order.artifact) ∧
    ∃ location, step.after.place? path = some location ∧
      ∀ other, step.after.file? other =
        if other = location then some (Text.Utf8.encode step.order.artifact)
        else step.before.file? other
  refused : ∀ fault, step.result = .error fault →
    ∀ location, step.after.file? location = step.before.file? location
  kept : step.order.overwrite = false → (step.before.place? step.order.destination).isSome →
    ∀ location content, step.before.file? location = some content →
      step.after.file? location = some content

variable {before after : Disk} {destination : Path} {content : ByteArray}

/-! ## Names of destinations -/

/-- No delivered file has the ending of those beside destinations. -/
theorem not_besideEnding_suffix_download (project : Project) (name? : Option String) :
    ¬ besideEnding.toList <:+ (FileName.download project name?).toList := by
  rintro ⟨start, hstart⟩
  have hending : (start ++ besideEnding.toList).getLast? = some '_' := by
    rw [List.getLast?_append]
    rfl
  rw [hstart] at hending
  have hedge := (FileName.safe_download project name?).last '_' hending
  exact absurd hedge (by decide)

theorem Order.getLast?_destination (order : Order) :
    order.destination.names.getLast? = some (FileName.download order.project order.name?) := by
  simp [Order.destination, Delivery.destination, Path.child]

/-! ## What one delivery keeps -/

theorem NoLeftovers.vacant (h : NoLeftovers before) : Vacant destination before := by
  rw [Vacant, locate_beside]
  apply h _ _ List.getLast?_concat
  rw [String.toList_append]
  exact List.suffix_append _ _

/-- Whether a disk holds leftovers can be read off its entries. -/
theorem NoLeftovers.of_entries
    (h : ∀ entry ∈ before.entries, ∀ name ∈ entry.1.getLast?,
      ¬ besideEnding.toList <:+ name.toList) : NoLeftovers before := by
  intro location name hlast hsuffix
  cases hfile : before.file? location with
  | none => rfl
  | some content =>
      have hnode := Disk.file?_eq_some_iff.1 hfile
      have hroot : location ≠ [] := by
        intro hroot
        rw [hroot] at hlast
        cases hlast
      rw [Disk.node?, if_neg hroot] at hnode
      obtain ⟨_, _, hentries, _⟩ := List.lookup_eq_some_iff.1 hnode
      have hmem : (location, Node.file content) ∈ before.entries := by
        rw [hentries]
        simp
      exact absurd hsuffix (h _ hmem name hlast)

theorem NoLeftovers.of_sameFiles (h : NoLeftovers before) (hsame : before.SameFiles after) :
    NoLeftovers after := by
  intro location name hlast hsuffix
  rw [hsame.file?_eq location]
  exact h location name hlast hsuffix

/-- The delivered file is no leftover, because of its name. -/
theorem NoLeftovers.of_delivered (h : NoLeftovers before) (order : Order)
    (hdelivered : Delivered order.destination content before after) : NoLeftovers after := by
  obtain ⟨place, hplace, hfiles⟩ := hdelivered.exists_place
  intro location name hlast hsuffix
  have hne : location ≠ place := by
    intro hsame
    have hname := (Disk.getLast?_of_place? hplace).1
    rw [← hsame, hlast, order.getLast?_destination] at hname
    rw [Option.some.inj hname] at hsuffix
    exact not_besideEnding_suffix_download order.project order.name? hsuffix
  rw [hfiles location, if_neg hne]
  exact h location name hlast hsuffix

theorem Delivered.readBytes (h : Delivered destination content before after) :
    after.readBytes destination = .ok content := by
  obtain ⟨location, hplace, hfiles⟩ := h.exists_place
  apply Disk.readBytes_of_place? hplace
  rw [hfiles location, if_pos rfl]

/-- A delivery to a place where nothing stood changes no file that was there. -/
theorem Delivered.file?_eq_some {location place : Location} {old : ByteArray}
    (h : Delivered destination content before after)
    (hplace : before.place? destination = some place) (hempty : before.file? place = none)
    (hold : before.file? location = some old) : after.file? location = some old := by
  obtain ⟨target, htarget, hfiles⟩ := h.exists_place
  have hsame : target = place :=
    Option.some.inj (htarget.symm.trans (h.toKeeps.place?_eq_some hplace))
  have hne : location ≠ target := by
    intro hlocation
    rw [hlocation, hsame, hempty] at hold
    cases hold
  rw [hfiles location, if_neg hne, hold]

/-- The answers to an order are those to its delivery. -/
theorem Order.send_cases (order : Order) (session : Session) (hclear : NoLeftovers session.disk) :
    match order.send session with
    | (.error _, after) => session.disk.SameFiles after.disk
    | (.ok path, after) => path = order.destination ∧
        Delivered path (Text.Utf8.encode order.artifact) session.disk after.disk ∧
        (order.overwrite = false → session.disk.isThere path = .ok false) :=
  deliver_plain_cases order.artifact order.folder order.project order.name? order.overwrite session
    hclear.vacant

/-- One order keeps to the law. -/
theorem Order.lawful_send (order : Order) (session : Session)
    (hclear : NoLeftovers session.disk) :
    Step.Lawful ⟨order, session.disk, (order.send session).1, (order.send session).2.disk⟩ := by
  have hcases := order.send_cases session hclear
  cases hsend : order.send session with
  | mk result after =>
      rw [hsend] at hcases
      cases result with
      | error fault =>
          refine ⟨hclear.of_sameFiles hcases, nofun, fun _ _ => hcases.file?_eq, ?_⟩
          intro _ _ location content hcontent
          exact (hcases.file?_eq location).trans hcontent
      | ok path =>
          obtain ⟨rfl, hdelivered, hempty⟩ := hcases
          refine ⟨hclear.of_delivered order hdelivered, ?_, nofun, ?_⟩
          · intro path' hresult
            obtain rfl := Except.ok.inj hresult
            exact ⟨rfl, hdelivered.readBytes, hdelivered.exists_place⟩
          · intro hoverwrite hsome location content hcontent
            obtain ⟨place, hplace⟩ := Option.isSome_iff_exists.1 hsome
            have hnothing := Disk.isThere_eq_ok (hempty hoverwrite) hplace
            have hnode : session.disk.node? place = none := by simpa using hnothing.symm
            exact hdelivered.file?_eq_some hplace (Disk.file?_eq_none_of_node? (.inl hnode)) hcontent

/-! ## Whole runs -/

/-- Every order of a run keeps to the law, whatever replacements are denied on the way. -/
theorem lawful_of_mem_steps (orders : List Order) (session : Session)
    (hclear : NoLeftovers session.disk) : ∀ step ∈ steps orders session, step.Lawful := by
  induction orders generalizing session with
  | nil =>
      intro step hstep
      cases hstep
  | cons order orders ih =>
      intro step hstep
      have hlawful := order.lawful_send session hclear
      rcases List.mem_cons.1 hstep with hfirst | hrest
      · rw [hfirst]
        exact hlawful
      · exact ih (order.send session).2 hlawful.noLeftovers step hrest

/-- Two orders for one file, the first of them refused three times. -/
theorem lawful_of_denied_order :
    let order : Order := ⟨"using System;", ⟨.here, ["out"]⟩, {}, none, true⟩
    let session : Session :=
      { disk := ⟨[(["home"], .folder), (["home", "notes.txt"], .file "text".toUTF8)], ["home"]⟩
        denials := [true, true, true, false] }
    NoLeftovers session.disk ∧
      ∀ step ∈ steps [order, { order with overwrite := false }] session, step.Lawful := by
  intro order session
  have hclear : NoLeftovers session.disk := .of_entries (by decide)
  exact ⟨hclear, lawful_of_mem_steps _ session hclear⟩

/-- An order that may not overwrite replaces a file when the way to it leads through a folder that is
made for the delivery. -/
theorem replaced_through_missing_folder :
    let order : Order := ⟨"new", .ofString "x/../y", { name := none }, none, false⟩
    let disk : Disk :=
      ⟨[(["home"], .folder), (["home", "y"], .folder),
        (["home", "y", "App_Installer.cmd"], .file "old".toUTF8)], ["home"]⟩
    NoLeftovers disk ∧ order.overwrite = false ∧
      disk.file? ["home", "y", "App_Installer.cmd"] = some "old".toUTF8 ∧
      ∃ step ∈ steps [order] { disk := disk }, step.order = order ∧
        step.after.file? ["home", "y", "App_Installer.cmd"] = some "new".toUTF8 := by
  intro order disk
  have hclear : NoLeftovers disk := .of_entries (by decide)
  refine ⟨hclear, rfl, by decide, _, List.mem_singleton_self _, rfl, ?_⟩
  decide

end Delivery

end SelfBuild
