import SelfBuild.Disk.Folders
import SelfBuild.Proofs.Disk.Files

/-!
# Where paths lead

Where a path leads can be told from its names alone, as long as all the folders on the way are there.
So two disks with one working folder agree on it, whatever folders were made between them.  Making a
folder with all that it needs makes folders on the way to it and nothing else.
-/

namespace SelfBuild

namespace Disk

variable {disk before after later : Disk} {path : Path} {here there location : Location}

/-- Where names lead from a location, when all the folders are there. -/
def follow : Location → List String → Location
  | here, [] => here
  | here, name :: rest => follow (if name = up then here.dropLast else here ++ [name]) rest

/-- Where a path leads, when all the folders on the way are there. -/
def locate (disk : Disk) (path : Path) : Location :=
  follow (disk.start path) path.names

theorem follow_append (here : Location) (front names : List String) :
    follow here (front ++ names) = follow (follow here front) names := by
  induction front generalizing here with
  | nil => rfl
  | cons name rest ih => exact ih _

theorem follow_concat (here : Location) (front : List String) {name : String} (hup : name ≠ up) :
    follow here (front ++ [name]) = follow here front ++ [name] := by
  rw [follow_append]
  simp [follow, hup]

theorem locate_child (disk : Disk) (path : Path) {name : String} (hup : name ≠ up) :
    disk.locate (path.child name) = disk.locate path ++ [name] :=
  follow_concat _ _ hup

theorem Keeps.start_eq (h : Keeps before after) (path : Path) :
    after.start path = before.start path := by
  simp [start, h.workingFolder_eq]

theorem Keeps.locate_eq (h : Keeps before after) (path : Path) :
    after.locate path = before.locate path := by
  rw [locate, locate, h.start_eq]

/-! ## Paths that can be followed -/

theorem enter_eq_ok {name : String} (h : disk.enter here name = .ok there) :
    there = follow here [name] := by
  unfold enter at h
  by_cases hup : name = up
  · rw [if_pos hup] at h
    simp [follow, hup, Except.ok.inj h]
  · rw [if_neg hup] at h
    split at h
    · cases h
    · split at h
      · cases h
      · simp [follow, hup, Except.ok.inj h]
      · cases h

theorem walk_eq_ok {names : List String} (h : disk.walk here names = .ok there) :
    there = follow here names := by
  induction names generalizing here with
  | nil => exact (Except.ok.inj h).symm
  | cons name rest ih =>
      unfold walk at h
      split at h
      · rename_i next henter
        rw [ih h, enter_eq_ok henter, ← follow_append, List.singleton_append]
      · cases h

theorem walk_concat (front : List String) (name : String) :
    disk.walk here (front ++ [name]) = (disk.walk here front).bind fun there =>
      disk.enter there name := by
  induction front generalizing here with
  | nil =>
      simp only [List.nil_append, walk]
      split <;> simp_all [Except.bind]
  | cons first rest ih =>
      simp only [List.cons_append, walk]
      split
      · exact ih
      · rfl

/-- A place is where its path leads. -/
theorem locate_of_place? (h : disk.place? path = some location) : disk.locate path = location := by
  rcases resolve_eq_ok (place?_eq_some_iff.1 h).2 with
    ⟨-, htarget⟩ | ⟨front, name, here, hnames, hwalk, ⟨-, htarget⟩ | ⟨hup, -, htarget⟩⟩
  · cases htarget
  · cases htarget
  · cases htarget
    rw [locate, hnames, follow_concat _ _ hup, walk_eq_ok hwalk]

/-- All the names of a path to a folder can be followed. -/
theorem walk_of_find_folder (h : disk.find path = .ok .folder) :
    disk.walk (disk.start path) path.names = .ok (disk.locate path) := by
  have hwalk : ∃ there, disk.walk (disk.start path) path.names = .ok there := by
    unfold find at h
    split at h
    · cases h
    · rename_i location hresolve
      rcases resolve_eq_ok hresolve with
        ⟨hnil, -⟩ | ⟨front, name, here, hnames, hwalk, ⟨hup, -⟩ | ⟨-, -, htarget⟩⟩
      · exact ⟨disk.start path, by rw [hnil, walk]⟩
      · exact ⟨here.dropLast, by rw [hnames, walk_concat, hwalk, Except.bind, enter, if_pos hup]⟩
      · cases htarget
    · rename_i location hresolve
      rcases resolve_eq_ok hresolve with
        ⟨-, htarget⟩ | ⟨front, name, here, hnames, hwalk, ⟨-, htarget⟩ | ⟨hup, hsize, htarget⟩⟩
      · cases htarget
      · cases htarget
      · cases htarget
        have hnode : disk.node? (here ++ [name]) = some .folder := by
          split at h
          · rename_i node hnode
            rw [hnode, Except.ok.inj h]
          · cases h
        refine ⟨here ++ [name], ?_⟩
        rw [hnames, walk_concat, hwalk, Except.bind, enter, if_neg hup, if_neg (Nat.not_lt.2 hsize),
          hnode]
  obtain ⟨there, hthere⟩ := hwalk
  rw [hthere, walk_eq_ok hthere, locate]

theorem free_of_find (hplace : disk.place? path = some location)
    (hfind : disk.find path ≠ .ok .folder) : disk.node? location ≠ some .folder := by
  intro hfolder
  apply hfind
  simp only [find, (place?_eq_some_iff.1 hplace).2, hfolder]

/-- A name in a folder names a place there, unless it or the path that it ends is too long. -/
theorem resolve_child {name : String} (hfolder : disk.find path = .ok .folder) (hup : name ≠ up) :
    disk.resolve (path.child name) =
      if (path.child name).text.utf8ByteSize > pathLimit ∨ name.utf8ByteSize > nameLimit then
        .error .nameTooLong
      else .ok (.place (disk.locate path ++ [name])) := by
  have hwalk := walk_of_find_folder hfolder
  have hlast : (path.child name).names.getLast? = some name := List.getLast?_concat
  have hfront : (path.child name).names.dropLast = path.names := List.dropLast_concat
  have hstart : disk.start (path.child name) = disk.start path := rfl
  unfold resolve
  simp only [hlast, hfront, hstart, hwalk, hup, if_false]
  split
  · rename_i hlong
    rw [if_pos (.inl hlong)]
  · rename_i hlong
    simp only [hlong, false_or]

theorem short_of_find_child {name : String} (hfolder : disk.find path = .ok .folder)
    (hup : name ≠ up) (hfind : disk.find (path.child name) ≠ .error .nameTooLong) :
    (path.child name).text.utf8ByteSize ≤ pathLimit ∧ name.utf8ByteSize ≤ nameLimit := by
  have herror (hlong : (path.child name).text.utf8ByteSize > pathLimit ∨
      name.utf8ByteSize > nameLimit) : disk.find (path.child name) = .error .nameTooLong := by
    rw [find, resolve_child hfolder hup, if_pos hlong]
  exact ⟨Nat.le_of_not_lt fun hlong => hfind (herror (.inl hlong)),
    Nat.le_of_not_lt fun hlong => hfind (herror (.inr hlong))⟩

/-! ## Folders that are made -/

/-- Nothing but folders on the way to a path is new. -/
structure Paves (path : Path) (before after : Disk) : Prop where
  workingFolder_eq : after.workingFolder = before.workingFolder
  node? : ∀ location, after.node? location = before.node? location ∨
    before.node? location = none ∧ after.node? location = some .folder ∧
      ∃ front, front <+: path.names ∧ location = before.locate ⟨path.anchor, front⟩

theorem Paves.refl (path : Path) (disk : Disk) : Paves path disk disk := ⟨rfl, fun _ => .inl rfl⟩

theorem Paves.keeps (h : Paves path before after) : Keeps before after := by
  refine ⟨h.workingFolder_eq, fun location hfolder => ?_⟩
  rcases h.node? location with hsame | ⟨hnone, -⟩
  · rw [hsame, hfolder]
  · rw [hfolder] at hnone
    cases hnone

/-- No file is changed by it. -/
theorem Paves.sameFiles (h : Paves path before after) : SameFiles before after := by
  refine ⟨h.keeps, fun location => ?_⟩
  rcases h.node? location with hsame | ⟨hnone, hfolder, -⟩
  · rw [file?, file?, hsame]
  · rw [file?_eq_none_of_node? (.inl hnone), file?_eq_none_of_node? (.inr hfolder)]

theorem Paves.trans (h : Paves path before after) (h' : Paves path after later) :
    Paves path before later := by
  refine ⟨h'.workingFolder_eq.trans h.workingFolder_eq, fun location => ?_⟩
  rcases h'.node? location with hsame | ⟨hnone, hfolder, front, hfront, hlocation⟩
  · rw [hsame]
    exact h.node? location
  · rw [h.keeps.locate_eq] at hlocation
    rcases h.node? location with hsame | ⟨-, hfolder', -⟩
    · exact .inr ⟨hsame ▸ hnone, hfolder, front, hfront, hlocation⟩
    · rw [hfolder'] at hnone
      cases hnone

/-- The way to a path leads on to all paths with more names. -/
theorem Paves.longer {anchor : Path.Anchor} {front names : List String}
    (h : Paves ⟨anchor, front⟩ before after) (hfront : front <+: names) :
    Paves ⟨anchor, names⟩ before after := by
  refine ⟨h.workingFolder_eq, fun location => ?_⟩
  rcases h.node? location with hsame | ⟨hnone, hfolder, start, hstart, hlocation⟩
  · exact .inl hsame
  · exact .inr ⟨hnone, hfolder, start, hstart.trans hfront, hlocation⟩

/-- A folder is made at a place where nothing stands. -/
theorem makeFolder_eq_ok (h : disk.makeFolder path = .ok after) :
    ∃ location, disk.place? path = some location ∧ disk.node? location = none ∧
      after = disk.put location .folder := by
  rcases disk.resolve_cases path with
    hnul | ⟨hnul, ⟨reason, hresolve⟩ | ⟨location, hresolve⟩ | ⟨location, hplace, hresolve⟩⟩
  · simp [makeFolder, hnul] at h
  · simp [makeFolder, hnul, hresolve] at h
  · simp [makeFolder, hnul, hresolve] at h
  · cases hnode : disk.node? location with
    | some node => simp [makeFolder, hnul, hresolve, hnode] at h
    | none =>
        simp only [makeFolder, hnul, hresolve, hnode, Bool.false_eq_true, if_false,
          Except.ok.injEq] at h
        exact ⟨location, hplace, hnode, h.symm⟩

/-- A folder is made, or it is there already and that will do. -/
theorem ensureFolder_eq_ok {existing : Bool} (h : disk.ensureFolder existing path = .ok after) :
    disk.makeFolder path = .ok after ∨ (disk.isFolder path = .ok true ∧ after = disk) := by
  unfold ensureFolder at h
  split at h
  · rename_i made hmade
    exact .inl (hmade.trans h)
  · cases h
  · split at h
    · split at h
      · rename_i hfolder
        exact .inr ⟨hfolder, (Except.ok.inj h).symm⟩
      · cases h
      · cases h
    · cases h

theorem paves_makeFolder (h : disk.makeFolder path = .ok after) : Paves path disk after := by
  obtain ⟨location, hplace, hnode, rfl⟩ := makeFolder_eq_ok h
  refine ⟨rfl, fun other => ?_⟩
  by_cases hother : other = location
  · subst hother
    exact .inr ⟨hnode, node?_put disk _ (getLast?_of_place? hplace).2, path.names,
      List.prefix_rfl, (locate_of_place? hplace).symm⟩
  · exact .inl (node?_put_of_ne disk _ hother)

theorem paves_ensureFolder {existing : Bool} (h : disk.ensureFolder existing path = .ok after) :
    Paves path disk after := by
  rcases ensureFolder_eq_ok h with hmade | ⟨-, rfl⟩
  · exact paves_makeFolder hmade
  · exact .refl path after

theorem paves_makeFoldersFrom (anchor : Path.Anchor) (names : List String) (existing : Bool)
    (disk : Disk) :
    Paves ⟨anchor, names.reverse⟩ disk (makeFoldersFrom anchor names existing disk).2 := by
  induction names generalizing existing disk with
  | nil =>
      unfold makeFoldersFrom
      split
      · rename_i made hmade
        exact paves_ensureFolder hmade
      · exact .refl _ disk
  | cons name outer ih =>
      -- The names come last to first, so the folders made first are those on the way to the outer path.
      have houter : Paves ⟨anchor, (name :: outer).reverse⟩ disk
          (makeFoldersFrom anchor outer true disk).2 :=
        (ih true disk).longer (List.reverse_cons ▸ List.prefix_append _ _)
      unfold makeFoldersFrom
      dsimp only
      split
      · rename_i made hmade
        exact paves_ensureFolder hmade
      · split
        · rename_i fault left hleft
          rwa [hleft] at houter
        · rename_i left hleft
          rw [hleft] at houter
          split
          · rename_i made hmade
            exact houter.trans (paves_ensureFolder hmade)
          · exact houter
      · exact .refl _ disk

/-- Making folders makes folders on the way and nothing else, also where it stops on the way. -/
theorem paves_makeFolders (disk : Disk) (path : Path) (existing : Bool) :
    Paves path disk (disk.makeFolders path existing).2 := by
  have h := paves_makeFoldersFrom path.anchor path.names.reverse existing disk
  rwa [List.reverse_reverse] at h

/-- Making folders changes no file. -/
theorem sameFiles_makeFolders (disk : Disk) (path : Path) (existing : Bool) :
    SameFiles disk (disk.makeFolders path existing).2 :=
  (disk.paves_makeFolders path existing).sameFiles

theorem find_of_makeFolder (h : disk.makeFolder path = .ok after) :
    after.find path = .ok .folder := by
  have hkeeps := (paves_makeFolder h).keeps
  obtain ⟨location, hplace, hnode, rfl⟩ := makeFolder_eq_ok h
  have hresolve := hkeeps.resolve_eq_ok (place?_eq_some_iff.1 hplace).2
  simp only [find, hresolve, node?_put disk _ (getLast?_of_place? hplace).2]

theorem find_of_isFolder (h : disk.isFolder path = .ok true) : disk.find path = .ok .folder := by
  unfold isFolder check at h
  split at h
  · cases h
  · split at h
    · rename_i node hnode
      rw [hnode, eq_of_beq (Except.ok.inj h)]
    all_goals cases h

theorem hasNul_of_isFolder (h : disk.isFolder path = .ok true) : path.hasNul = false := by
  cases hnul : path.hasNul with
  | false => rfl
  | true => simp [isFolder, check, hnul] at h

theorem find_of_ensureFolder {existing : Bool} (h : disk.ensureFolder existing path = .ok after) :
    after.find path = .ok .folder := by
  rcases ensureFolder_eq_ok h with hmade | ⟨hfolder, rfl⟩
  · exact find_of_makeFolder hmade
  · exact find_of_isFolder hfolder

/-- Once a folder has been made with all that it needs, it is there. -/
theorem find_of_makeFolders {existing : Bool}
    (h : disk.makeFolders path existing = (.ok (), after)) : after.find path = .ok .folder := by
  unfold makeFolders at h
  cases hnames : path.names.reverse with
  | nil =>
      have hpath : (⟨path.anchor, []⟩ : Path) = path := by
        rw [← List.reverse_eq_nil_iff.1 hnames]
      rw [hnames, makeFoldersFrom, hpath] at h
      split at h
      · rename_i made hmade
        cases h
        exact find_of_ensureFolder hmade
      · cases h
  | cons name outer =>
      have hpath : (⟨path.anchor, (name :: outer).reverse⟩ : Path) = path := by
        rw [← hnames, List.reverse_reverse]
      rw [hnames, makeFoldersFrom] at h
      rw [hpath] at h
      split at h
      · rename_i made hmade
        cases h
        exact find_of_ensureFolder hmade
      · split at h
        · cases h
        · split at h
          · rename_i made hmade
            cases h
            exact find_of_ensureFolder hmade
          · cases h
      · cases h

/-- A path to a folder enters it, or names a place where it stands. -/
theorem resolve_of_find_folder (h : disk.find path = .ok .folder) :
    (∃ location, disk.resolve path = .ok (.entered location)) ∨
      ∃ location, disk.resolve path = .ok (.place location) ∧ disk.node? location = some .folder := by
  unfold find at h
  split at h
  · cases h
  · rename_i location hresolve
    exact .inl ⟨location, hresolve⟩
  · rename_i location hresolve
    split at h
    · rename_i node hnode
      exact .inr ⟨location, hresolve, hnode.trans (congrArg some (Except.ok.inj h))⟩
    · cases h

/-- A folder that is there need not be made. -/
theorem makeFolders_of_isFolder (h : disk.isFolder path = .ok true) :
    disk.makeFolders path true = (.ok (), disk) := by
  have hnul := hasNul_of_isFolder h
  have hmake : disk.makeFolder path = .error (.system .alreadyThere path none) := by
    rcases resolve_of_find_folder (find_of_isFolder h) with ⟨location, hresolve⟩ | ⟨location, hresolve, hnode⟩
    · simp [makeFolder, hnul, hresolve]
    · simp [makeFolder, hnul, hresolve, hnode]
  have hensure : disk.ensureFolder true path = .ok disk := by
    simp [ensureFolder, hmake, Fault.isSystem, h]
  have hpath : (⟨path.anchor, path.names.reverse.reverse⟩ : Path) = path := by
    rw [List.reverse_reverse]
  unfold makeFolders
  cases hnames : path.names.reverse with
  | nil =>
      rw [hnames, List.reverse_nil] at hpath
      simp only [makeFoldersFrom, hpath, hensure]
  | cons name outer =>
      rw [hnames] at hpath
      simp only [makeFoldersFrom, hpath, hensure]

/-! ## Names in a folder -/

section Child

variable {name : String}

/-- In a folder every name that is short enough is the name of a place. -/
theorem place?_child (hfolder : disk.isFolder path = .ok true) (hup : name ≠ up)
    (hnul : (path.child name).hasNul = false) (hpath : (path.child name).text.utf8ByteSize ≤ pathLimit)
    (hname : name.utf8ByteSize ≤ nameLimit) :
    disk.place? (path.child name) = some (disk.locate path ++ [name]) := by
  rw [place?_eq_some_iff, resolve_child (find_of_isFolder hfolder) hup,
    if_neg (not_or.2 ⟨Nat.not_lt.2 hpath, Nat.not_lt.2 hname⟩)]
  exact ⟨hnul, rfl⟩

theorem find_child_tooLong (hfolder : disk.isFolder path = .ok true) (hup : name ≠ up)
    (hlong : (path.child name).text.utf8ByteSize > pathLimit ∨ name.utf8ByteSize > nameLimit) :
    disk.find (path.child name) = .error .nameTooLong := by
  rw [find, resolve_child (find_of_isFolder hfolder) hup, if_pos hlong]

end Child

end Disk

end SelfBuild
