import SelfBuild.Proofs.Delivery.Attempts
import SelfBuild.Proofs.FileName
import SelfBuild.Proofs.Options
import SelfBuild.Proofs.Text.Occurrence
import SelfBuild.Proofs.Wizard.Results

/-!
# Where delivered files go

A delivered file's name is one plain name, so the file lands in the very folder that was asked for, and
the header of a download can show the name between quotes.  A name that was delivered once is kept when
it is asked for again.
-/

namespace SelfBuild

namespace Disk

variable {disk : Disk} {folder : Path} {name : String} {location : Location}

/-- A name in a folder leads to the place of that name in what the folder leads to. -/
theorem exists_walk_of_place?_child (h : disk.place? (folder.child name) = some location) :
    ∃ here, disk.walk (disk.start folder) folder.names = .ok here ∧ location = here ++ [name] := by
  rcases resolve_eq_ok (place?_eq_some_iff.1 h).2 with
    ⟨-, htarget⟩ | ⟨front, last, here, hnames, hwalk, ⟨-, htarget⟩ | ⟨-, -, htarget⟩⟩
  · cases htarget
  · cases htarget
  · obtain ⟨hfront, hlast⟩ := List.append_inj' hnames rfl
    cases htarget
    exact ⟨here, hfront ▸ hwalk, by rw [List.cons.inj hlast |>.1]⟩

/-- The moved file is found at the path that it was moved onto. -/
theorem exists_file_of_replace {path onto : Path} {after : Disk}
    (h : disk.replace path onto = .ok after) :
    ∃ source target content, disk.place? path = some source ∧ disk.file? source = some content ∧
      after.place? onto = some target ∧ after.file? target = some content := by
  have hkeeps := keeps_replace h
  obtain ⟨source, target, content, hsource, htarget, hnode, -, rfl⟩ := replace_eq_ok h
  refine ⟨source, target, content, hsource, file?_eq_some_iff.2 hnode,
    hkeeps.place?_eq_some htarget, ?_⟩
  rw [file?_put _ (getLast?_of_place? htarget).2, if_pos rfl]

end Disk

namespace Delivery

variable {destination folder path : Path} {content : ByteArray} {session after : Session}

/-- A path leads to a file with this content. -/
def Holds (disk : Disk) (path : Path) (content : ByteArray) : Prop :=
  ∃ location, disk.place? path = some location ∧ disk.file? location = some content

theorem holds_of_attempt {content : Except EncodingFault ByteArray}
    (h : attempt destination content session = (.ok (), after)) :
    ∃ bytes, content = .ok bytes ∧ Holds after.disk destination bytes := by
  unfold attempt at h
  split at h
  · cases h
  · rename_i opened hopen
    split at h
    · cases h
    · rename_i bytes
      refine ⟨bytes, rfl, ?_⟩
      split at h
      · cases h
      · rename_i filled hfill
        have hopened := ((Pending.of_sameFiles (.refl session.disk)).write hopen).1
        obtain ⟨-, location, hplace, hfile⟩ := hopened.write hfill
        cases hmoved : ((session.reach opened).reach filled).replace (beside destination)
            destination with
        | mk result later =>
            simp only [hmoved] at h
            rcases Session.replace_cases hmoved with ⟨rfl, disk, hreplace, rfl⟩ | ⟨fault, rfl, -⟩
            · cases h
              obtain ⟨source, target, moved, hsource, hcontent, htarget⟩ :=
                Disk.exists_file_of_replace hreplace
              obtain rfl : location = source := Option.some.inj (hplace.symm.trans hsource)
              obtain rfl : bytes = moved := Option.some.inj (hfile.symm.trans hcontent)
              exact ⟨target, htarget⟩
            · cases h

theorem holds_of_attempts {content : Except EncodingFault ByteArray} {pause : Pause} {left done : Nat}
    {last : Option Fault}
    (h : attempts destination content pause left done last session = (.written, after)) :
    ∃ bytes, content = .ok bytes ∧ Holds after.disk destination bytes := by
  induction left generalizing session done last with
  | zero => cases h
  | succ left ih =>
      unfold attempts at h
      split at h
      · rename_i next hattempt
        cases h
        exact holds_of_attempt hattempt
      · dsimp only at h
        split at h
        · exact ih h
        · cases h

theorem holds_of_writeText {text : WideText} {retries : Int} {pause : Pause}
    (h : writeText destination text retries pause session = (.ok (), after)) :
    ∃ bytes, text.encode = .ok bytes ∧ Holds after.disk destination bytes := by
  unfold writeText at h
  split at h
  · cases h
  · split at h
    · rename_i hattempts
      cases h
      exact holds_of_attempts hattempts
    · cases h
    · split at h
      · cases h
      · split at h <;> cases h

/-- A delivery that goes through leaves its text at its destination. -/
theorem holds_of_deliver {artifact : WideText} {project : Project} {name? : Option String}
    {overwrite : Bool}
    (h : deliver artifact folder project name? overwrite session = (.ok path, after)) :
    path = Delivery.destination folder project name? ∧
      ∃ bytes, artifact.encode = .ok bytes ∧ Holds after.disk path bytes := by
  unfold deliver at h
  dsimp only at h
  split at h
  · cases h
  · split at h
    · cases h
    · split at h
      · rename_i hwrite
        cases h
        exact ⟨rfl, holds_of_writeText hwrite⟩
      · cases h

/-! ## Names that can stand anywhere -/

/-- A name that can stand in any folder, between quotes, and on a line. -/
structure Portable (name : String) : Prop where
  ne_empty : name ≠ ""
  chars : ∀ c ∈ name.toList,
    'A' ≤ c ∧ c ≤ 'Z' ∨ 'a' ≤ c ∧ c ≤ 'z' ∨ '0' ≤ c ∧ c ≤ '9' ∨ c ∈ ['_', '.', '-']
  ends : ∀ c ∈ ['.', '_'], name.toList.head? ≠ some c ∧ name.toList.getLast? ≠ some c
  ne_dots : name ≠ "." ∧ name ≠ ".."
  unbroken : ∀ c ∈ ['/', '"', '\\', '\n', '\r'], c ∉ name.toList

theorem portable_download (project : Project) (requested? : Option String) :
    Portable (FileName.download project requested?) := by
  have hsafe := FileName.safe_download project requested?
  have hedges : ∀ c ∈ ['.', '_'], FileName.isEdge c = true := by decide
  have hends : ∀ c ∈ ['.', '_'],
      (FileName.download project requested?).toList.head? ≠ some c ∧
        (FileName.download project requested?).toList.getLast? ≠ some c := by
    intro c hc
    constructor
    · intro hhead
      exact Bool.false_ne_true ((hsafe.head c hhead).symm.trans (hedges c hc))
    · intro hlast
      exact Bool.false_ne_true ((hsafe.last c hlast).symm.trans (hedges c hc))
  refine ⟨?_, fun c hc => FileName.isSafeChar_iff.1 (hsafe.chars c hc), hends, ⟨?_, ?_⟩, ?_⟩
  · intro hempty
    exact hsafe.ne_nil (by rw [hempty]; rfl)
  · intro hdot
    exact (hends '.' (by decide)).1 (by rw [hdot]; rfl)
  · intro hdots
    exact (hends '.' (by decide)).1 (by rw [hdots]; rfl)
  · have hforbidden : ∀ c ∈ ['/', '"', '\\', '\n', '\r'], FileName.isSafeChar c = false := by decide
    exact fun c hc => hsafe.not_mem (hforbidden c hc)

/-- The name in a header that offers a file: all between the quotes, with nothing behind them. -/
def offeredName? (header : List Char) : Option (List Char) := do
  let rest ← Text.after? "attachment; filename=\"".toList header
  let (name, rest) ← Text.cut? ['"'] rest
  if rest = [] then some name else none

theorem offeredName?_of_not_mem {name : String} (h : '"' ∉ name.toList) :
    offeredName? ("attachment; filename=\"" ++ name ++ "\"").toList = some name.toList := by
  have hcut : Text.cut? ['"'] (name.toList ++ ['"'] ++ []) = some (name.toList, []) := by
    apply Text.cut?_append (List.cons_ne_nil _ _)
    rw [List.dropLast_singleton, List.append_nil]
    exact Text.not_infix_of_not_mem List.mem_cons_self h
  have hheader : ("attachment; filename=\"" ++ name ++ "\"").toList =
      "attachment; filename=\"".toList ++ (name.toList ++ ['"'] ++ []) := by
    simp only [String.toList_append, List.append_assoc]
    rfl
  unfold offeredName?
  rw [hheader, Text.after?_append]
  simp only [Option.bind_eq_bind, Option.bind_some, hcut, if_true]

/-- A delivered file's name can stand anywhere, so the file is written into the folder that was asked
for, and the header of a download offers just that name; and asked for again, a name is kept. -/
theorem delivered_names_safe (project other : Project) (requested? : Option String) :
    let name := FileName.download project requested?
    Portable name ∧
      (∀ artifact folder overwrite session path after,
        deliver artifact folder project requested? overwrite session = (.ok path, after) →
          path = folder.child name ∧ path.parent = folder ∧
            ∃ here bytes, after.disk.walk (after.disk.start folder) folder.names = .ok here ∧
              WideText.encode artifact = .ok bytes ∧
              after.disk.file? (here ++ [name]) = some bytes) ∧
      (∀ form host response header, (Wizard.build form host).result = .ok response →
        response.disposition? = some header →
          ∃ offered, Portable offered ∧ offered = FileName.download form.project none ∧
            offeredName? header.toList = some offered.toList) ∧
      FileName.download other (some name) = name := by
  intro name
  refine ⟨portable_download project requested?, ?_, ?_, ?_⟩
  · intro artifact folder overwrite session path after hdeliver
    obtain ⟨rfl, bytes, hencode, location, hplace, hfile⟩ := holds_of_deliver hdeliver
    obtain ⟨here, hwalk, rfl⟩ := Disk.exists_walk_of_place?_child hplace
    exact ⟨rfl, Path.parent_child folder name, here, bytes, hwalk, hencode, hfile⟩
  · intro form host response header hresult hheader
    have hportable := portable_download form.project none
    refine ⟨_, hportable, rfl, ?_⟩
    rw [Wizard.disposition?_build hresult hheader]
    exact offeredName?_of_not_mem (hportable.unbroken '"' (by decide))
  · exact FileName.download_of_safe (FileName.safe_download project requested?) other

/-- A name that asks for another folder, and one that tries to leave its quotes. -/
theorem delivered_names_safe_of_tricks :
    let project : Project := { name := some "a\"b\r\nc" }
    let session : Session := { disk := ⟨[(["home"], .folder)], ["home"]⟩ }
    let sent := deliver "text" ⟨.here, ["out"]⟩ project (some "../evil.cmd") true session
    let form : Wizard.Form := [("project_name", "a\"b\r\nc")]
    let host : Wizard.Host :=
      { disk := session.disk, home := "/home", clock := "12:00:00", reply := .failed "offline" }
    Portable "evil.cmd" ∧ sent.1 = .ok ⟨.here, ["out", "evil.cmd"]⟩ ∧
      sent.2.disk.file? ["home", "out", "evil.cmd"] = some (Text.Utf8.encode "text") ∧
      ∃ response header, (Wizard.build form host).result = .ok response ∧
        response.disposition? = some header ∧
        offeredName? header.toList = some "ab_c_Installer.cmd".toList := by
  intro project session sent form host
  have hname : FileName.download project (some "../evil.cmd") = "evil.cmd" := by decide +kernel
  have hproject : form.project = project := rfl
  have hsuggested : FileName.download project none = "ab_c_Installer.cmd" := by decide
  obtain ⟨hportable, hdelivered, hoffered, -⟩ :=
    delivered_names_safe project project (some "../evil.cmd")
  have hsent : sent.1 = .ok ⟨.here, ["out", "evil.cmd"]⟩ := by decide +kernel
  have hpair : sent = (.ok ⟨.here, ["out", "evil.cmd"]⟩, sent.2) := by rw [← hsent]
  obtain ⟨-, -, here, bytes, hwalk, hencode, hfile⟩ :=
    hdelivered "text" ⟨.here, ["out"]⟩ true session _ sent.2 hpair
  have hhere : sent.2.disk.walk (sent.2.disk.start ⟨.here, ["out"]⟩) ["out"] =
      .ok ["home", "out"] := by
    decide +kernel
  rw [hhere] at hwalk
  obtain rfl := Except.ok.inj hwalk
  obtain rfl : Text.Utf8.encode "text" = bytes := Except.ok.inj hencode
  rw [hname] at hportable hfile
  have hcoerce : form.options.coerce host.limits.shown = .ok { optimize := false } :=
    Options.coerce_toRaw _ { optimize := false }
  have hpreview : form.value "action" "" ≠ "preview" := by decide
  have hresult := Wizard.result_build hcoerce
  rw [if_neg hpreview, hproject, hsuggested] at hresult
  obtain ⟨offered, -, hoffer, hheader⟩ := hoffered form host _ _ hresult rfl
  rw [hoffer, hproject, hsuggested] at hheader
  exact ⟨hportable, hsent, hfile, _, _, hresult, rfl, hheader⟩

end Delivery

end SelfBuild
