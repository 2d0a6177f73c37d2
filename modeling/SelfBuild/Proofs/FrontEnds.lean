import SelfBuild.Proofs.CommandLine.Build
import SelfBuild.Proofs.CommandLine.Command
import SelfBuild.Proofs.Request.Text
import SelfBuild.Proofs.Wizard.Preview
import SelfBuild.Proofs.Wizard.Results

/-!
# The front ends agree

One demand can be made in three ways: by options of the command line, by a request's file, and by a
posted form.  Each way takes it apart and puts it together again by itself; all come to the same artifact
under the same name, and the wizard's preview shows that artifact.
-/

namespace SelfBuild

/-- What a user asks for: the texts of a project, its options and a source. -/
structure Demand where
  name : String
  version : String
  author : String
  copyright : String
  description : String
  options : Options
  source : String

namespace Demand

open CommandLine (Given Spells)

def project (demand : Demand) : Project where
  name := some demand.name
  version := demand.version
  author := demand.author
  copyright := demand.copyright
  description := demand.description

def build (demand : Demand) : Build where
  project := demand.project
  options := demand.options
  source := demand.source

def artifact (demand : Demand) : String := demand.build.artifact

/-- The demand as it is ordered. -/
def order (demand : Demand) : Order := demand.build.order

theorem artifact_order (demand : Demand) : demand.order.artifact = demand.artifact :=
  Build.artifact_order (by rfl)

def fileName (demand : Demand) : String := FileName.suggested demand.project none

/-- The demand as options of the command line, with the source in a file. -/
def pairs (demand : Demand) (path : String) : List (String × String) :=
  [ ("--name", demand.name)
  , ("--version", demand.version)
  , ("--author", demand.author)
  , ("--copyright", demand.copyright)
  , ("--description", demand.description)
  , ("--arch", demand.options.architecture.word)
  , ("--mode", demand.options.output.word)
  , ("--source", path) ] ++
    (if demand.options.optimize then [] else [("--no-optimize", "")]) ++
    (if demand.options.allowUnsafe then [("--unsafe", "")] else [])

/-- A form that makes the demand; a box that is not checked is no field. -/
structure Fills (demand : Demand) (form : Wizard.Form) : Prop where
  name_eq : form.lookup "project_name" = some demand.name
  version_eq : form.lookup "version" = some demand.version
  author_eq : form.lookup "author" = some demand.author
  copyright_eq : form.lookup "copyright" = some demand.copyright
  description_eq : form.lookup "description" = some demand.description
  architecture_eq : form.lookup "architecture" = some demand.options.architecture.word
  output_eq : form.lookup "output_type" = some demand.options.output.word
  optimize_eq : form.lookup "enable_optimization" =
    if demand.options.optimize then some "on" else none
  allowUnsafe_eq : form.lookup "allow_unsafe" =
    if demand.options.allowUnsafe then some "on" else none
  source_eq : form.lookup "source_code" = some demand.source

variable {demand : Demand} {host : CommandLine.Host} {path : String} {row : List Given}

/-! ## From the command line -/

theorem nodup_pairs (demand : Demand) (path : String) : ((demand.pairs path).map Prod.fst).Nodup := by
  unfold pairs
  cases demand.options.optimize <;> cases demand.options.allowUnsafe <;> simp

/-- What the options of a demand ask for. -/
theorem command_pairs (demand : Demand) (path : String) :
    CommandLine.CommandName.build.command { given := demand.pairs path } =
      .build
        { name := demand.name
          version := demand.version
          author := demand.author
          copyright := demand.copyright
          description := demand.description
          architecture := demand.options.architecture.word
          mode := demand.options.output.word
          noOptimize := !demand.options.optimize
          allowUnsafe := demand.options.allowUnsafe
          source := some path } := by
  unfold pairs
  cases demand.options.optimize <;> cases demand.options.allowUnsafe <;> rfl

theorem delivers_of_options (hrow : Spells row (demand.pairs path)) (hpath : path ≠ "-")
    (hreturn : '\r' ∉ demand.source.toList) (hsize : demand.fileName.utf8ByteSize ≤ 240)
    (hsource : host.disk.readBytes (Path.ofString path) = .ok (Text.Utf8.encode demand.source))
    (hroom : Delivery.Room host.disk demand.fileName) :
    (CommandLine.run ("build" :: row.flatMap Given.arguments) host).Delivers host.disk
      demand.fileName demand.artifact := by
  have htext := CommandLine.sourceText_file hpath (Disk.readText_of_readBytes hsource hreturn)
  unfold CommandLine.run
  rw [hrow.ofArguments (demand.nodup_pairs path), command_pairs]
  refine CommandLine.delivers_build demand.order ?_ demand.artifact_order rfl rfl rfl rfl hsize hroom
  unfold CommandLine.BuildRequest.toOrder
  simp only [htext]
  exact CommandLine.ownOrder_eq_ok rfl rfl rfl rfl host demand.source

theorem delivers_of_request {fields project options : Json.Fields}
    (hrow : Spells row [("--request", path)])
    (hload : Request.load host.limits.request host.disk (Path.ofString path) = .ok (.object fields))
    (hrequest : Request.Describes demand.order fields project options)
    (hsize : demand.fileName.utf8ByteSize ≤ 240)
    (hroom : Delivery.Room host.disk demand.fileName) :
    (CommandLine.run ("build" :: row.flatMap Given.arguments) host).Delivers host.disk
      demand.fileName demand.artifact := by
  have horder := CommandLine.fileOrder_eq_ok hload hrequest.toOrder_eq
  have hpath := CommandLine.ne_empty_of_load hload
  have hcommand : CommandLine.CommandName.build.command { given := [("--request", path)] } =
      .build { request := some path } := rfl
  unfold CommandLine.run
  rw [hrow.ofArguments (by simp), hcommand]
  refine CommandLine.delivers_build demand.order ?_ demand.artifact_order rfl rfl rfl rfl hsize hroom
  unfold CommandLine.BuildRequest.toOrder CommandLine.sourceText
  simpa [Option.filter, hpath] using horder

/-- A written request makes the demand. -/
theorem exists_request {disk : Disk} {path : Path} (demand : Demand) (nesting : Json.Nesting)
    (h : disk.readBytes path = .ok (Text.Utf8.encode (Request.requestText demand.build))) :
    ∃ fields project options, Request.load nesting disk path = .ok (.object fields) ∧
      Request.Describes demand.order fields project options :=
  ⟨_, _, _, Request.load_requestText nesting h, Request.describes_orderFields demand.order⟩

/-! ## From the wizard -/

variable {form : Wizard.Form}

theorem Fills.options_eq (h : demand.Fills form) : form.options = demand.options.toRaw := by
  have hbox {b : Bool} : ((if b then some "on" else none) = some "on") = (b = true) := by
    cases b <;> simp
  simp only [Wizard.Form.options, Wizard.Form.value, Wizard.Form.isChecked, h.architecture_eq,
    h.output_eq, h.optimize_eq, h.allowUnsafe_eq, Option.getD_some, Options.toRaw, hbox,
    Bool.decide_eq_true]

theorem Fills.buildWith_eq (h : demand.Fills form) :
    form.buildWith demand.options = { demand.build with log := form.log } := by
  simp [Wizard.Form.buildWith, Wizard.Form.project, Wizard.Form.value, h.name_eq, h.version_eq,
    h.author_eq, h.copyright_eq, h.description_eq, h.source_eq, build, project]

theorem Fills.project_eq (h : demand.Fills form) : form.project = demand.project :=
  congrArg Build.project h.buildWith_eq

/-- A form that makes the demand is answered with the artifact, in one form or the other. -/
theorem Fills.result_eq (h : demand.Fills form) (host : Wizard.Host) :
    (Wizard.build form host).result =
      if form.value "action" "" = "preview" then
        .ok (.page 200 (host.previewed { demand.build with log := form.log }))
      else .ok (.download demand.fileName demand.artifact) := by
  have hcoerce : form.options.coerce host.limits.shown = .ok demand.options := by
    rw [h.options_eq, Options.coerce_toRaw]
  rw [Wizard.result_build hcoerce, h.buildWith_eq, h.project_eq]
  rfl

theorem Fills.downloads (h : demand.Fills form) (haction : form.lookup "action" ≠ some "preview")
    (host : Wizard.Host) :
    ∃ response, (Wizard.build form host).result = .ok response ∧ response.status = 200 ∧
      response.body = demand.artifact ∧
      response.disposition? = some ("attachment; filename=\"" ++ demand.fileName ++ "\"") := by
  have hvalue : form.value "action" "" ≠ "preview" := by
    unfold Wizard.Form.value
    cases hlookup : form.lookup "action" with
    | none => simp
    | some action =>
        rw [hlookup] at haction
        simpa using haction
  rw [h.result_eq, if_neg hvalue]
  exact ⟨_, rfl, rfl, rfl, rfl⟩

theorem artifact_ne_empty (demand : Demand) : demand.artifact ≠ "" := by
  have hclean : Lint.artifact? demand.artifact.toList = some [] :=
    Artifact.artifact?_compose demand.project demand.options demand.source
  intro hempty
  rw [hempty] at hclean
  cases hclean

theorem Fills.previews (h : demand.Fills form) (haction : form.lookup "action" = some "preview")
    (host : Wizard.Host) :
    ∃ response, (Wizard.build form host).result = .ok response ∧ response.status = 200 ∧
      Wizard.preview? response.body.toList = some demand.artifact.toList := by
  have hvalue : form.value "action" "" = "preview" := by
    simp [Wizard.Form.value, haction]
  rw [h.result_eq, if_pos hvalue]
  exact ⟨_, rfl, rfl, Wizard.Page.preview?_text _ demand.artifact_ne_empty⟩

/-- The front ends agree.  Given as options in any order and spelling, or by a file with any request that
says the same, a demand ends as one file in the working folder; posted as a form it is answered with the
same text under the same name, and with a page whose preview is that text. -/
theorem front_ends_agree (demand : Demand) (hreturn : '\r' ∉ demand.source.toList)
    (hsize : demand.fileName.utf8ByteSize ≤ 240) :
    (∀ host path row, Spells row (demand.pairs path) → path ≠ "-" →
      host.disk.readBytes (Path.ofString path) = .ok (Text.Utf8.encode demand.source) →
      Delivery.Room host.disk demand.fileName →
        (CommandLine.run ("build" :: row.flatMap Given.arguments) host).Delivers host.disk
          demand.fileName demand.artifact) ∧
    (∀ host path row fields project options, Spells row [("--request", path)] →
      Request.load host.limits.request host.disk (Path.ofString path) = .ok (.object fields) →
      Request.Describes demand.order fields project options →
      Delivery.Room host.disk demand.fileName →
        (CommandLine.run ("build" :: row.flatMap Given.arguments) host).Delivers host.disk
          demand.fileName demand.artifact) ∧
    (∀ nesting disk path,
      disk.readBytes path = .ok (Text.Utf8.encode (Request.requestText demand.build)) →
        ∃ fields project options, Request.load nesting disk path = .ok (.object fields) ∧
          Request.Describes demand.order fields project options) ∧
    (∀ form host, demand.Fills form → form.lookup "action" ≠ some "preview" →
      ∃ response, (Wizard.build form host).result = .ok response ∧ response.status = 200 ∧
        response.body = demand.artifact ∧
        response.disposition? = some ("attachment; filename=\"" ++ demand.fileName ++ "\"")) ∧
    ∀ form host, demand.Fills form → form.lookup "action" = some "preview" →
      ∃ response, (Wizard.build form host).result = .ok response ∧ response.status = 200 ∧
        Wizard.preview? response.body.toList = some demand.artifact.toList :=
  ⟨fun _ _ _ hrow hpath hsource hroom =>
      delivers_of_options hrow hpath hreturn hsize hsource hroom,
    fun _ _ _ _ _ _ hrow hload hrequest hroom =>
      delivers_of_request hrow hload hrequest hsize hroom,
    fun nesting _ _ h => demand.exists_request nesting h,
    fun _ host hform haction => hform.downloads haction host,
    fun _ host hform haction => hform.previews haction host⟩

/-- One demand made in all ways, with its source and its request in two files beside each other. -/
theorem front_ends_agree_my_tool :
    let demand : Demand :=
      ⟨"My Tool", "2.0", "", "", "", ⟨.x64, .windowed, false, true⟩, "class P \x7b\x7d\n"⟩
    let disk : Disk :=
      ⟨[(["home", "main.cs"], .file (Text.Utf8.encode demand.source)),
        (["home", "ask.json"], .file (Text.Utf8.encode (Request.requestText demand.build))),
        (["home"], .folder)], ["home"]⟩
    let host : CommandLine.Host := { disk := disk, home := "/home", reply := .failed "offline" }
    let wizard : Wizard.Host :=
      { disk := disk, home := "/home", clock := "12:00:00", reply := .failed "offline" }
    let form : Wizard.Form :=
      [("project_name", "My Tool"), ("version", "2.0"), ("author", ""), ("copyright", ""),
        ("description", ""), ("architecture", "X64"), ("output_type", "WINDOWED"),
        ("allow_unsafe", "on"), ("source_code", demand.source)]
    '\r' ∉ demand.source.toList ∧ demand.fileName = "My_Tool_Installer.cmd" ∧
      (CommandLine.run
        ["build", "--unsafe", "--source", "main.cs", "--name=My Tool", "--version=2.0", "--author=",
          "--copyright=", "--description=", "--mode=WINDOWED", "--arch=X64", "--no-optimize"]
        host).Delivers disk demand.fileName demand.artifact ∧
      (CommandLine.run ["build", "--request=ask.json"] host).Delivers disk demand.fileName
        demand.artifact ∧
      (∃ response, (Wizard.build (form ++ [("action", "download")]) wizard).result = .ok response ∧
        response.body = demand.artifact) ∧
      ∃ response, (Wizard.build (form ++ [("action", "preview")]) wizard).result = .ok response ∧
        Wizard.preview? response.body.toList = some demand.artifact.toList := by
  intro demand disk host wizard form
  have hreturn : '\r' ∉ demand.source.toList := by decide
  have hname : demand.fileName = "My_Tool_Installer.cmd" := by decide
  have hsize : demand.fileName.utf8ByteSize ≤ 240 := by
    rw [hname]
    decide
  have hroom : Delivery.Room host.disk demand.fileName := by
    rw [hname]
    constructor <;> decide
  obtain ⟨hoptions, hrequest, hwritten, hdownload, hpreview⟩ :=
    front_ends_agree demand hreturn hsize
  let row : List Given :=
    [.alone "--unsafe", .apart "--source" "main.cs", .joined "--name" "My Tool",
      .joined "--version" "2.0", .joined "--author" "", .joined "--copyright" "",
      .joined "--description" "", .joined "--mode" "WINDOWED", .joined "--arch" "X64",
      .alone "--no-optimize"]
  have hrow : Spells row (demand.pairs "main.cs") := ⟨by decide, by decide⟩
  have hask : Spells [.joined "--request" "ask.json"] [("--request", "ask.json")] :=
    ⟨by decide, by decide⟩
  have harguments : row.flatMap Given.arguments =
      ["--unsafe", "--source", "main.cs", "--name=My Tool", "--version=2.0", "--author=",
        "--copyright=", "--description=", "--mode=WINDOWED", "--arch=X64", "--no-optimize"] := by
    decide
  have hasking : [Given.joined "--request" "ask.json"].flatMap Given.arguments =
      ["--request=ask.json"] := by
    decide
  have hsource : disk.readBytes (Path.ofString "main.cs") = .ok (Text.Utf8.encode demand.source) := by
    have hpath : Path.ofString "main.cs" = ⟨.here, ["main.cs"]⟩ := by decide
    have hplace := disk.place?_name "main.cs" (by decide) (by decide)
      (by decide)
    rw [hpath]
    exact Disk.readBytes_of_place? hplace rfl
  have hfile : disk.readBytes (Path.ofString "ask.json") =
      .ok (Text.Utf8.encode (Request.requestText demand.build)) := by
    have hpath : Path.ofString "ask.json" = ⟨.here, ["ask.json"]⟩ := by decide
    have hplace := disk.place?_name "ask.json" (by decide) (by decide)
      (by decide)
    rw [hpath]
    exact Disk.readBytes_of_place? hplace rfl
  obtain ⟨fields, project, options, hload, hdescribes⟩ :=
    hwritten host.limits.request disk _ hfile
  have hform (action : String) : demand.Fills (form ++ [("action", action)]) :=
    ⟨rfl, rfl, rfl, rfl, rfl, rfl, rfl, rfl, rfl, rfl⟩
  obtain ⟨response, hresult, -, hbody, -⟩ := hdownload _ wizard (hform "download") (by decide)
  obtain ⟨shown, hshown, -, hblock⟩ := hpreview _ wizard (hform "preview") rfl
  have hfirst := hoptions host "main.cs" row hrow (by decide) hsource hroom
  have hsecond := hrequest host "ask.json" _ fields project options hask hload hdescribes hroom
  rw [harguments] at hfirst
  rw [hasking] at hsecond
  exact ⟨hreturn, hname, hfirst, hsecond, ⟨response, hresult, hbody⟩, shown, hshown, hblock⟩

end Demand

end SelfBuild
