import SelfBuild.CommandLine.Run
import SelfBuild.Proofs.Delivery.Fresh
import SelfBuild.Proofs.Options
import SelfBuild.Proofs.Request.Build

/-!
# Builds from the command line

A build is put together from options or from a request's file, and its artifact goes to the working
folder unless it is asked to go elsewhere.
-/

namespace SelfBuild

namespace CommandLine

variable {request : BuildRequest} {host : Host} {path : String} {source : WideText} {order : Order}

/-! ## Putting a build together -/

theorem sourceText_file {source : String} (hpath : path ≠ "-")
    (h : host.disk.readText (Path.ofString path) = .ok source) :
    sourceText host (some path) = .ok (some source) := by
  unfold sourceText
  split
  · rename_i hnone
    cases hnone
  · rename_i hhyphen
    exact absurd (Option.some.inj hhyphen) hpath
  · rename_i other _ hother
    obtain rfl := Option.some.inj hother
    rw [h]

/-- Options and texts that are given one by one make up the order. -/
theorem ownOrder_eq_ok {options : Options}
    (harchitecture : request.architecture = options.architecture.word)
    (hmode : request.mode = options.output.word)
    (hoptimize : request.noOptimize = !options.optimize)
    (hallow : request.allowUnsafe = options.allowUnsafe) (host : Host) (source : WideText) :
    request.ownOrder host (some source) =
      .ok { metadata := request.metadata, options := options, source := source } := by
  have hraw : request.raw = options.toRaw := by
    simp [BuildRequest.raw, Options.toRaw, harchitecture, hmode, hoptimize, hallow]
  unfold BuildRequest.ownOrder
  rw [hraw]
  simp only [Options.coerce_toRaw, Option.getD_some]

/-- A request's file makes up the order that the request describes. -/
theorem fileOrder_eq_ok {value : Json.Value}
    (hvalue : Request.load host.limits.request host.disk (Path.ofString path) = .ok value)
    (horder : Request.toOrder host.limits.shown value none = .ok order) :
    fileOrder host path none = .ok order := by
  have hshown : Request.unshowable? host.limits.shown value = none :=
    Request.unshowable?_of_validate_eq_ok (Request.validate_eq_ok_of_toOrder horder)
  unfold fileOrder
  simp only [hvalue, hshown, horder]

/-- A request's file has a name: nothing can be loaded from the working folder itself. -/
theorem ne_empty_of_load {nesting : Json.Nesting} {value : Json.Value}
    (hvalue : Request.load nesting host.disk (Path.ofString path) = .ok value) : path ≠ "" := by
  rintro rfl
  have hhere : Path.ofString "" = ⟨.here, []⟩ := by decide
  have hread : host.disk.readBytes ⟨.here, []⟩ = .error (.system .isFolder ⟨.here, []⟩ none) := by
    simp [Disk.readBytes, Path.hasNul, Disk.find, Disk.resolve_here]
  simp [Request.load, Disk.readText, hhere, hread] at hvalue

/-! ## Where it goes -/

/-- What a run leaves behind that delivers a text under a name to the working folder: a report on the
standard output, and no file changed but the one of that name and the one beside it. -/
structure Outcome.Delivers (outcome : Outcome) (disk : Disk) (name artifact : String) : Prop where
  exit_eq : outcome.exit = .code 0
  stdout_eq : outcome.stdout = "OK. artifact=" ++ name ++ "\n"
  file?_eq : ∀ location, outcome.disk.file? location =
    Delivery.filesAfter disk (Text.Utf8.encode artifact) (disk.workingFolder ++ [name])
      (disk.workingFolder ++ [name ++ Delivery.besideEnding]) location

/-- A build that is not sent elsewhere is delivered to the working folder. -/
theorem delivers_build {artifact : String} (order : Order) (horder : request.toOrder host = .ok order)
    (hartifact : order.artifact = artifact) (hout : request.out = ".")
    (hname : request.fileName = none) (hover : request.noOverwrite = false)
    (hstdout : request.toStdout = false)
    (hsize : (FileName.suggested order.project none).utf8ByteSize ≤ 240)
    (hroom : Delivery.Room host.disk (FileName.suggested order.project none)) :
    (CommandLine.build request host).Delivers host.disk (FileName.suggested order.project none)
      artifact := by
  have hhere : Path.ofString "." = ⟨.here, []⟩ := by decide
  have htext : (Path.mk .here [FileName.download order.project none]).text =
      FileName.suggested order.project none :=
    Path.text_name _
  obtain ⟨after, hdeliver, hfiles⟩ :=
    Delivery.deliver_here artifact order.project none host.disk hsize hroom
  have hrun : CommandLine.build request host =
      { host.begin with
        stderr := String.join (order.remarks.map remarkLine)
        disk := after.disk
        stdout := "OK. artifact=" ++ FileName.suggested order.project none ++ "\n" } := by
    unfold CommandLine.build
    simp only [horder, hartifact, hstdout, Bool.false_eq_true, if_false, hout, hhere, hname, hover,
      Bool.not_false, hdeliver, htext]
    rfl
  rw [hrun]
  exact ⟨rfl, rfl, hfiles⟩

end CommandLine

end SelfBuild
