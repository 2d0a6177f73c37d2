import SelfBuild.Disk.TextFile

/-!
# Files, places and folders

What a disk holds is seen through two questions: which place a path names, and which file stands at a
place.  An operation that goes through is described by the places of its paths and by the files
afterwards.  No operation takes a folder away, so a path that could be followed can be followed
afterwards, and to the same place.
-/

namespace SelfBuild

namespace Disk

variable {disk before after later : Disk} {path onto : Path} {location other : Location}
variable {content : ByteArray}

/-- The content of the file at a location, where there is one. -/
def file? (disk : Disk) (location : Location) : Option ByteArray :=
  match disk.node? location with
  | some (.file content) => some content
  | _ => none

/-- The place that a path names, where it can be followed that far. -/
def place? (disk : Disk) (path : Path) : Option Location :=
  if path.hasNul then none
  else
    match disk.resolve path with
    | .ok (.place location) => some location
    | _ => none

/-- What holds between a disk and what operations make of it: the working folder is the same, and every
folder is still there. -/
structure Keeps (before after : Disk) : Prop where
  workingFolder_eq : after.workingFolder = before.workingFolder
  folder : ∀ location, before.node? location = some .folder → after.node? location = some .folder

/-- Only folders may be new. -/
structure SameFiles (before after : Disk) : Prop extends Keeps before after where
  file?_eq : ∀ location, after.file? location = before.file? location

theorem Keeps.refl (disk : Disk) : Keeps disk disk := ⟨rfl, fun _ h => h⟩

theorem Keeps.trans (h : Keeps before after) (h' : Keeps after later) : Keeps before later :=
  ⟨h'.workingFolder_eq.trans h.workingFolder_eq,
    fun location hfolder => h'.folder location (h.folder location hfolder)⟩

theorem SameFiles.refl (disk : Disk) : SameFiles disk disk := ⟨.refl disk, fun _ => rfl⟩

theorem SameFiles.trans (h : SameFiles before after) (h' : SameFiles after later) :
    SameFiles before later :=
  ⟨h.toKeeps.trans h'.toKeeps,
    fun location => (h'.file?_eq location).trans (h.file?_eq location)⟩

theorem file?_eq_some_iff :
    disk.file? location = some content ↔ disk.node? location = some (.file content) := by
  unfold file?
  cases disk.node? location with
  | none => simp
  | some node => cases node <;> simp

theorem file?_eq_none_of_node? (h : disk.node? location = none ∨ disk.node? location = some .folder) :
    disk.file? location = none := by
  rcases h with h | h <;> simp [file?, h]

/-! ## Putting and erasing -/

theorem node?_erase (disk : Disk) (h : location ≠ []) :
    (disk.erase location).node? location = none := by
  simp only [node?, erase, h, if_false, List.lookup_eq_none_iff]
  intro entry hentry
  have hne := bne_iff_ne.1 (List.mem_filter.1 hentry).2
  exact bne_iff_ne.2 hne.symm

theorem node?_erase_of_ne (disk : Disk) (h : other ≠ location) :
    (disk.erase location).node? other = disk.node? other := by
  have hput := node?_put_of_ne disk .folder h
  have hkey : (other == location) = false := beq_false_of_ne h
  by_cases hroot : other = []
  · simp [node?, hroot]
  · simpa [node?, hroot, put, erase, List.lookup_cons, hkey] using hput

theorem file?_put (disk : Disk) (h : location ≠ []) (content : ByteArray) (other : Location) :
    (disk.put location (.file content)).file? other =
      if other = location then some content else disk.file? other := by
  by_cases hother : other = location
  · subst hother
    simp [file?, node?_put disk _ h]
  · simp [file?, node?_put_of_ne disk _ hother, hother]

theorem file?_erase (disk : Disk) (h : location ≠ []) (other : Location) :
    (disk.erase location).file? other = if other = location then none else disk.file? other := by
  by_cases hother : other = location
  · subst hother
    simp [file?, node?_erase disk h]
  · simp [file?, node?_erase_of_ne disk hother, hother]

theorem keeps_put (h : disk.node? location ≠ some .folder) (node : Node) :
    Keeps disk (disk.put location node) := by
  refine ⟨rfl, fun other hfolder => ?_⟩
  have hother : other ≠ location := fun e => h (e ▸ hfolder)
  rw [node?_put_of_ne disk node hother, hfolder]

theorem keeps_erase (h : disk.node? location ≠ some .folder) : Keeps disk (disk.erase location) := by
  refine ⟨rfl, fun other hfolder => ?_⟩
  have hother : other ≠ location := fun e => h (e ▸ hfolder)
  rw [node?_erase_of_ne disk hother, hfolder]

/-! ## Following paths -/

theorem Keeps.enter_eq_ok (h : Keeps before after) {here there : Location} {name : String}
    (henter : before.enter here name = .ok there) : after.enter here name = .ok there := by
  unfold enter at henter ⊢
  by_cases hup : name = up
  · simpa [hup] using henter
  by_cases hlong : name.utf8ByteSize > nameLimit
  · simp [hup, hlong] at henter
  simp only [hup, hlong, if_false] at henter ⊢
  cases hnode : before.node? (here ++ [name]) with
  | none => simp [hnode] at henter
  | some node =>
      cases node with
      | file content => simp [hnode] at henter
      | folder =>
          rw [h.folder _ hnode]
          simpa [hnode] using henter

theorem Keeps.walk_eq_ok (h : Keeps before after) {here there : Location} {names : List String}
    (hwalk : before.walk here names = .ok there) : after.walk here names = .ok there := by
  induction names generalizing here with
  | nil => exact hwalk
  | cons name rest ih =>
      cases henter : before.enter here name with
      | error reason => simp [walk, henter] at hwalk
      | ok next =>
          simp only [walk, henter, h.enter_eq_ok henter] at hwalk ⊢
          exact ih hwalk

theorem Keeps.resolve_eq_ok (h : Keeps before after) {target : Target}
    (hresolve : before.resolve path = .ok target) : after.resolve path = .ok target := by
  have hstart : after.start path = before.start path := by
    simp [start, h.workingFolder_eq]
  unfold resolve at hresolve ⊢
  rw [hstart]
  by_cases hlong : path.text.utf8ByteSize > pathLimit
  · simp [hlong] at hresolve
  simp only [hlong, if_false] at hresolve ⊢
  cases hlast : path.names.getLast? with
  | none => simpa [hlast] using hresolve
  | some name =>
      simp only [hlast] at hresolve ⊢
      cases hwalk : before.walk (before.start path) path.names.dropLast with
      | error reason => simp [hwalk] at hresolve
      | ok here => simpa [hwalk, h.walk_eq_ok hwalk] using hresolve

theorem place?_eq_some_iff :
    disk.place? path = some location ↔
      path.hasNul = false ∧ disk.resolve path = .ok (.place location) := by
  unfold place?
  cases hnul : path.hasNul with
  | true => simp
  | false =>
      cases disk.resolve path with
      | error reason => simp
      | ok target => cases target <;> simp

/-- The ways in which following a path can end. -/
theorem resolve_cases (disk : Disk) (path : Path) :
    path.hasNul = true ∨ path.hasNul = false ∧
      ((∃ reason, disk.resolve path = .error reason) ∨
        (∃ location, disk.resolve path = .ok (.entered location)) ∨
        ∃ location, disk.place? path = some location ∧
          disk.resolve path = .ok (.place location)) := by
  cases hnul : path.hasNul with
  | true => exact .inl rfl
  | false =>
      refine .inr ⟨rfl, ?_⟩
      cases hresolve : disk.resolve path with
      | error reason => exact .inl ⟨reason, rfl⟩
      | ok target =>
          cases target with
          | entered location => exact .inr (.inl ⟨location, rfl⟩)
          | place location =>
              exact .inr (.inr ⟨location, place?_eq_some_iff.2 ⟨hnul, hresolve⟩, rfl⟩)

theorem Keeps.place?_eq_some (h : Keeps before after) (hplace : before.place? path = some location) :
    after.place? path = some location := by
  rw [place?_eq_some_iff] at hplace ⊢
  exact ⟨hplace.1, h.resolve_eq_ok hplace.2⟩

/-- A path that can be followed to its last name has no names, or its last name leads up or names a
place. -/
theorem resolve_eq_ok {target : Target} (h : disk.resolve path = .ok target) :
    (path.names = [] ∧ target = .entered (disk.start path)) ∨
      ∃ front name here, path.names = front ++ [name] ∧
        disk.walk (disk.start path) front = .ok here ∧
        ((name = up ∧ target = .entered here.dropLast) ∨
          (name ≠ up ∧ name.utf8ByteSize ≤ nameLimit ∧ target = .place (here ++ [name]))) := by
  unfold resolve at h
  split at h
  · cases h
  · split at h
    · rename_i hnone
      exact .inl ⟨List.getLast?_eq_none_iff.1 hnone, (Except.ok.inj h).symm⟩
    · rename_i name hlast
      obtain ⟨front, hnames⟩ := List.getLast?_eq_some_iff.1 hlast
      rw [hnames, List.dropLast_concat] at h
      split at h
      · cases h
      · rename_i here hwalk
        refine .inr ⟨front, name, here, hnames, hwalk, ?_⟩
        split at h
        · rename_i hup
          exact .inl ⟨hup, (Except.ok.inj h).symm⟩
        · rename_i hup
          split at h
          · cases h
          · rename_i hsize
            exact .inr ⟨hup, Nat.le_of_not_lt hsize, (Except.ok.inj h).symm⟩

/-- A place is called as its path is. -/
theorem getLast?_of_place? (h : disk.place? path = some location) :
    location.getLast? = path.names.getLast? ∧ location ≠ [] := by
  rcases resolve_eq_ok (place?_eq_some_iff.1 h).2 with
    ⟨-, htarget⟩ | ⟨front, name, here, hnames, -, ⟨-, htarget⟩ | ⟨-, -, htarget⟩⟩
  · cases htarget
  · cases htarget
  · cases htarget
    simp [hnames]

/-! ## Operations that go through -/

theorem write_eq_ok (h : disk.write path content = .ok after) :
    ∃ location, disk.place? path = some location ∧ disk.node? location ≠ some .folder ∧
      after = disk.put location (.file content) := by
  rcases disk.resolve_cases path with
    hnul | ⟨hnul, ⟨reason, hresolve⟩ | ⟨location, hresolve⟩ | ⟨location, hplace, hresolve⟩⟩
  · simp [write, hnul] at h
  · simp [write, hnul, hresolve] at h
  · simp [write, hnul, hresolve] at h
  · simp only [write, hnul, hresolve, Bool.false_eq_true, if_false] at h
    split at h
    · cases h
    · rename_i hnode
      exact ⟨location, hplace, hnode, (Except.ok.inj h).symm⟩

/-- The only fault of writing that is no refusal by the system is a path that cannot be followed. -/
theorem place?_eq_none_of_write_eq_error {fault : Fault} (h : disk.write path content = .error fault)
    (hfault : fault.isSystem = false) : disk.place? path = none := by
  cases hnul : path.hasNul with
  | true => simp [place?, hnul]
  | false =>
      simp only [write, hnul, Bool.false_eq_true, if_false] at h
      split at h
      · cases h
        cases hfault
      · cases h
        cases hfault
      · split at h
        · cases h
          cases hfault
        · cases h

theorem remove_eq_ok (h : disk.remove path = .ok after) :
    ∃ location, disk.place? path = some location ∧ disk.node? location ≠ some .folder ∧
      after = disk.erase location := by
  rcases disk.resolve_cases path with
    hnul | ⟨hnul, ⟨reason, hresolve⟩ | ⟨location, hresolve⟩ | ⟨location, hplace, hresolve⟩⟩
  · simp [remove, hnul] at h
  · simp [remove, hnul, hresolve] at h
  · simp [remove, hnul, hresolve] at h
  · simp only [remove, hnul, hresolve, Bool.false_eq_true, if_false] at h
    split at h
    · cases h
    · cases h
    · rename_i hnode
      exact ⟨location, hplace, by simp [hnode], (Except.ok.inj h).symm⟩

/-- Where removing is refused, no file stands. -/
theorem file?_of_remove_eq_error {fault : Fault} (h : disk.remove path = .error fault)
    (hplace : disk.place? path = some location) : disk.file? location = none := by
  obtain ⟨hnul, hresolve⟩ := place?_eq_some_iff.1 hplace
  unfold remove at h
  simp only [hnul, Bool.false_eq_true, if_false, hresolve] at h
  cases hnode : disk.node? location with
  | none => exact file?_eq_none_of_node? (.inl hnode)
  | some node =>
      cases node with
      | folder => exact file?_eq_none_of_node? (.inr hnode)
      | file content => simp [hnode] at h

theorem replace_eq_ok (h : disk.replace path onto = .ok after) :
    ∃ source target content, disk.place? path = some source ∧ disk.place? onto = some target ∧
      disk.node? source = some (.file content) ∧ disk.node? target ≠ some .folder ∧
      after = (disk.erase source).put target (.file content) := by
  unfold replace at h
  by_cases hnul : (path.hasNul || onto.hasNul) = true
  · simp [hnul] at h
  have hnuls : path.hasNul = false ∧ onto.hasNul = false := by simpa using hnul
  simp only [hnuls.1, hnuls.2, Bool.or_self, Bool.false_eq_true, if_false] at h
  split at h
  · cases h
  · cases h
  · cases h
  · cases h
  · rename_i source target hsource htarget
    have hplace := place?_eq_some_iff.2 ⟨hnuls.1, hsource⟩
    have honto := place?_eq_some_iff.2 ⟨hnuls.2, htarget⟩
    split at h
    · cases h
    · cases h
    · rename_i content hnode
      split at h
      · cases h
      · rename_i hfolder
        exact ⟨source, target, content, hplace, honto, hnode, hfolder, (Except.ok.inj h).symm⟩

theorem write_of_place? (hplace : disk.place? path = some location)
    (hfolder : disk.node? location ≠ some .folder) (content : ByteArray) :
    disk.write path content = .ok (disk.put location (.file content)) := by
  obtain ⟨hnul, hresolve⟩ := place?_eq_some_iff.1 hplace
  unfold write
  simp only [hnul, Bool.false_eq_true, if_false, hresolve]

theorem replace_of_place? {target : Location} (hplace : disk.place? path = some location)
    (honto : disk.place? onto = some target) (hfile : disk.file? location = some content)
    (hfolder : disk.node? target ≠ some .folder) :
    disk.replace path onto = .ok ((disk.erase location).put target (.file content)) := by
  obtain ⟨hnul, hresolve⟩ := place?_eq_some_iff.1 hplace
  obtain ⟨hnul', hresolve'⟩ := place?_eq_some_iff.1 honto
  unfold replace
  simp only [hnul, hnul', Bool.or_self, Bool.false_eq_true, if_false, hresolve, hresolve',
    file?_eq_some_iff.1 hfile, hfolder]

/-- Moving a file onto a place leaves all folders as they are. -/
theorem keeps_replace (h : disk.replace path onto = .ok after) : Keeps disk after := by
  obtain ⟨source, target, content, hsource, -, hnode, hfolder, rfl⟩ := replace_eq_ok h
  have herased : Keeps disk (disk.erase source) := keeps_erase (by simp [hnode])
  have hfree : (disk.erase source).node? target ≠ some .folder := by
    by_cases hsame : target = source
    · rw [hsame, node?_erase _ (getLast?_of_place? hsource).2]
      simp
    · rwa [node?_erase_of_ne _ hsame]
  exact herased.trans (keeps_put hfree (.file content))

theorem isSystem_of_replace_eq_error {fault : Fault} (h : disk.replace path onto = .error fault)
    (hpath : path.hasNul = false) (honto : onto.hasNul = false) : fault.isSystem = true := by
  simp only [replace, hpath, honto, Bool.or_self, Bool.false_eq_true, if_false] at h
  split at h
  · cases h
    rfl
  · cases h
    rfl
  · cases h
    rfl
  · cases h
    rfl
  · split at h
    · cases h
      rfl
    · cases h
      rfl
    · split at h
      · cases h
        rfl
      · cases h

/-- What is found at a path that names a place is what stands there. -/
theorem isThere_eq_ok {found : Bool} (h : disk.isThere path = .ok found)
    (hplace : disk.place? path = some location) : found = (disk.node? location).isSome := by
  obtain ⟨hnul, hresolve⟩ := place?_eq_some_iff.1 hplace
  simp only [isThere, check, hnul, Bool.false_eq_true, if_false, find, hresolve] at h
  cases hnode : disk.node? location with
  | none =>
      simp only [hnode, Except.ok.injEq] at h
      exact h.symm
  | some node =>
      simp only [hnode, Except.ok.injEq] at h
      exact h.symm

theorem isThere_of_free (hplace : disk.place? path = some location)
    (hfree : disk.node? location = none) : disk.isThere path = .ok false := by
  obtain ⟨hnul, hresolve⟩ := place?_eq_some_iff.1 hplace
  simp [isThere, check, hnul, find, hresolve, hfree]

/-- A path that names no place is there only as a folder that was entered. -/
theorem place?_eq_none_of_isThere_eq_error {fault : Fault} (h : disk.isThere path = .error fault) :
    disk.place? path = none := by
  cases hplace : disk.place? path with
  | none => rfl
  | some location =>
      obtain ⟨hnul, hresolve⟩ := place?_eq_some_iff.1 hplace
      simp only [isThere, check, hnul, Bool.false_eq_true, if_false, find, hresolve] at h
      cases hnode : disk.node? location <;> simp [hnode] at h

theorem readBytes_of_place? (hplace : disk.place? path = some location)
    (hfile : disk.file? location = some content) : disk.readBytes path = .ok content := by
  obtain ⟨hnul, hresolve⟩ := place?_eq_some_iff.1 hplace
  simp [readBytes, hnul, find, hresolve, file?_eq_some_iff.1 hfile]

/-- Where a text can be read there is a file. -/
theorem isFile_of_readText {text : String} (h : disk.readText path = .ok text) :
    disk.isFile path = .ok true := by
  cases hbytes : disk.readBytes path with
  | error fault => simp [readText, hbytes] at h
  | ok bytes =>
      unfold readBytes at hbytes
      cases hnul : path.hasNul with
      | true => simp [hnul] at hbytes
      | false =>
          cases hfind : disk.find path with
          | error reason => simp [hnul, hfind] at hbytes
          | ok node =>
              cases node with
              | folder => simp [hnul, hfind] at hbytes
              | file content => simp [isFile, check, hnul, hfind]

/-- A file that is there is read; only its bytes can be wrong. -/
theorem readText_ne_disk_of_isFile {fault : Fault} (h : disk.isFile path = .ok true) :
    disk.readText path ≠ .error (.disk fault) := by
  cases hnul : path.hasNul with
  | true => simp [isFile, check, hnul] at h
  | false =>
      cases hfind : disk.find path with
      | error reason => cases reason <;> simp [isFile, check, hnul, hfind] at h
      | ok node =>
          cases node with
          | folder => simp [isFile, check, hnul, hfind] at h
          | file content =>
              simp only [readText, readBytes, hnul, Bool.false_eq_true, if_false, hfind]
              cases Text.Utf8.decode content <;> nofun

/-! ## Paths that cannot be followed -/

theorem enter_eq_error {here : Location} {name : String} {reason : Reason}
    (h : disk.enter here name = .error reason) :
    reason ∈ [.noEntry, .notFolder, .nameTooLong] := by
  unfold enter at h
  split at h
  · cases h
  · split at h
    · cases h
      decide
    · split at h
      · cases h
        decide
      · cases h
      · cases h
        decide

theorem walk_eq_error {here : Location} {names : List String} {reason : Reason}
    (h : disk.walk here names = .error reason) :
    reason ∈ [.noEntry, .notFolder, .nameTooLong] := by
  induction names generalizing here with
  | nil => cases h
  | cons name rest ih =>
      unfold walk at h
      split at h
      · exact ih h
      · rename_i stop henter
        cases h
        exact enter_eq_error henter

theorem find_eq_error {reason : Reason} (h : disk.find path = .error reason) :
    reason ∈ [.noEntry, .notFolder, .nameTooLong] := by
  cases hresolve : disk.resolve path with
  | ok target =>
      cases target with
      | entered location => simp [find, hresolve] at h
      | place location =>
          cases hnode : disk.node? location with
          | some node => simp [find, hresolve, hnode] at h
          | none =>
              simp only [find, hresolve, hnode, Except.error.injEq] at h
              simp [← h]
  | error stop =>
      simp only [find, hresolve, Except.error.injEq] at h
      subst h
      unfold resolve at hresolve
      split at hresolve
      · cases hresolve
        decide
      · split at hresolve
        · cases hresolve
        · split at hresolve
          · rename_i other hwalk
            cases hresolve
            exact walk_eq_error hwalk
          · split at hresolve
            · cases hresolve
            · split at hresolve
              · cases hresolve
                decide
              · cases hresolve

/-- The only paths at which nothing can be looked for are those with a name that is too long. -/
theorem check_eq_error_iff {property : Node → Bool} {fault : Fault} :
    disk.check path property = .error fault ↔
      path.hasNul = false ∧ disk.find path = .error .nameTooLong ∧
        fault = .system .nameTooLong path none := by
  cases hnul : path.hasNul with
  | true => simp [check, hnul]
  | false =>
      cases hfind : disk.find path with
      | ok node => simp [check, hnul, hfind]
      | error reason =>
          have hreason := find_eq_error hfind
          simp only [List.mem_cons, List.not_mem_nil, or_false] at hreason
          rcases hreason with rfl | rfl | rfl <;> simp [check, hnul, hfind, eq_comm]

theorem isFile_eq_error_iff {fault : Fault} :
    disk.isFile path = .error fault ↔
      path.hasNul = false ∧ disk.find path = .error .nameTooLong ∧
        fault = .system .nameTooLong path none :=
  check_eq_error_iff

/-- A name that is too long stays so on any disk that keeps the folders before it. -/
theorem Keeps.walk_nameTooLong (h : Keeps before after) {here : Location} {names : List String}
    (hwalk : before.walk here names = .error .nameTooLong) :
    after.walk here names = .error .nameTooLong := by
  induction names generalizing here with
  | nil => cases hwalk
  | cons name rest ih =>
      unfold walk at hwalk ⊢
      cases henter : before.enter here name with
      | ok next =>
          rw [henter] at hwalk
          rw [h.enter_eq_ok henter]
          exact ih hwalk
      | error reason =>
          rw [henter] at hwalk
          cases hwalk
          have hlong : after.enter here name = .error .nameTooLong := by
            unfold enter at henter ⊢
            split at henter
            · cases henter
            · rename_i hup
              split at henter
              · rename_i hsize
                rw [if_neg hup, if_pos hsize]
              · split at henter <;> cases henter
          rw [hlong]

theorem Keeps.find_nameTooLong (h : Keeps before after)
    (hfind : before.find path = .error .nameTooLong) : after.find path = .error .nameTooLong := by
  have hstart : after.start path = before.start path := by
    simp [start, h.workingFolder_eq]
  have hresolve : before.resolve path = .error .nameTooLong := by
    unfold find at hfind
    split at hfind
    · rename_i reason hresolve
      cases hfind
      exact hresolve
    · cases hfind
    · split at hfind <;> cases hfind
  have hresolve' : after.resolve path = .error .nameTooLong := by
    unfold resolve at hresolve ⊢
    split
    · rfl
    · rename_i hsize
      rw [if_neg hsize] at hresolve
      split at hresolve
      · cases hresolve
      · rename_i name hname
        rw [hstart]
        split at hresolve
        · rename_i reason hwalk
          cases hresolve
          rw [h.walk_nameTooLong hwalk]
        · rename_i here hwalk
          rw [h.walk_eq_ok hwalk]
          exact hresolve
  unfold find
  rw [hresolve']

/-- What a path names after folders were made could be asked for before. -/
theorem Keeps.exists_isThere (h : Keeps before after) (hplace : after.place? path = some location) :
    ∃ found, before.isThere path = .ok found := by
  cases hthere : before.isThere path with
  | ok found => exact ⟨found, rfl⟩
  | error fault =>
      obtain ⟨hnul, hfind, rfl⟩ := check_eq_error_iff.1 hthere
      have hlong : after.isThere path = .error (.system .nameTooLong path none) :=
        check_eq_error_iff.2 ⟨hnul, h.find_nameTooLong hfind, rfl⟩
      rw [place?_eq_none_of_isThere_eq_error hlong] at hplace
      cases hplace

/-! ## Texts -/

/-- A text without carriage returns is read as it was encoded. -/
theorem readText_of_readBytes {text : String}
    (h : disk.readBytes path = .ok (Text.Utf8.encode text)) (hreturn : '\r' ∉ text.toList) :
    disk.readText path = .ok text := by
  unfold readText
  simp only [h, Text.Utf8.decode_encode, Text.normalizeEnds_of_no_return hreturn,
    String.ofList_toList]

end Disk

end SelfBuild
