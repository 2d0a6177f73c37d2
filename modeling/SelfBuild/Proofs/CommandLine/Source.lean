import SelfBuild.Proofs.Artifact
import SelfBuild.Proofs.CommandLine.Build
import SelfBuild.Proofs.CommandLine.Exit

/-!
# Sources from files

A build whose source is a file embeds the text of that file as readers see it: with a line feed for every
line end.  The artifact is the preamble with the bytes of the file behind it exactly when there is no
carriage return among them.
-/

namespace SelfBuild

/-! ## A source beside the request -/

/-- A source given beside a request takes the place of the one that is ordered without it. -/
theorem Request.toOrder_source {nesting : Json.Nesting} {value : Json.Value} {order : Order}
    (source : WideText) (h : Request.toOrder nesting value none = .ok order) :
    Request.toOrder nesting value (some source) = .ok { order with source := source } := by
  unfold Request.toOrder at h ⊢
  split at h
  · cases h
  · dsimp only at h ⊢
    split at h
    · cases h
    · cases h
      rfl

namespace CommandLine

variable {request : BuildRequest} {host : Host} {order : Order} {source : WideText} {path text : String}

theorem ownOrder_source (source : WideText) (h : request.ownOrder host none = .ok order) :
    request.ownOrder host (some source) = .ok { order with source := source } := by
  unfold BuildRequest.ownOrder at h ⊢
  split at h
  · cases h
  · cases h
    rfl

theorem fileOrder_source (source : WideText) (h : fileOrder host path none = .ok order) :
    fileOrder host path (some source) = .ok { order with source := source } := by
  unfold fileOrder at h ⊢
  split at h
  · cases h
  · split at h
    · cases h
    · split at h
      · rename_i made hmade
        cases h
        rw [Request.toOrder_source source hmade]
      · cases h

/-- An order that is put together without a source is put together with one, and differs in that alone. -/
theorem toOrder_source (h : ({ request with source := none } : BuildRequest).toOrder host = .ok order)
    (hsource : sourceText host request.source = .ok (some source)) :
    request.toOrder host = .ok { order with source := source } := by
  unfold BuildRequest.toOrder at h ⊢
  rw [hsource]
  simp only [sourceText] at h
  dsimp only
  split at h
  · exact fileOrder_source source h
  · exact ownOrder_source source h

/-- A file's text is what its bytes encode, but with a line feed for every line end. -/
theorem sourceText_bytes {bytes : ByteArray} (hsource : request.source = some path) (hpath : path ≠ "-")
    (hbytes : host.disk.readBytes (Path.ofString path) = .ok bytes)
    (htext : Text.Utf8.decode bytes = .ok text) :
    sourceText host request.source =
      .ok (some (WideText.plain (String.ofList (Text.normalizeEnds text.toList)))) := by
  have hread : host.disk.readText (Path.ofString path) =
      .ok (String.ofList (Text.normalizeEnds text.toList)) := by
    simp only [Disk.readText, hbytes, htext]
  rw [hsource]
  exact sourceText_file hpath hread

/-- Turning the line ends of a text leaves the bytes behind a preamble as they are exactly when there is no
carriage return in the text. -/
theorem encode_append_normalizeEnds_iff (before text : String) :
    Text.Utf8.encode before ++ Text.Utf8.encode (String.ofList (Text.normalizeEnds text.toList)) =
        Text.Utf8.encode before ++ Text.Utf8.encode text ↔
      '\r' ∉ text.toList := by
  rw [← Text.Utf8.encode_append, ← Text.Utf8.encode_append, ← Text.normalizeEnds_eq_iff]
  constructor
  · intro hsame
    have htexts := congrArg String.toList (Text.Utf8.encode_injective hsame)
    simpa using htexts
  · intro hends
    rw [hends, String.ofList_toList]

/-! ## What is delivered -/

/-- A build whose destination is open ends with zero and with its artifact there. -/
theorem run_build_of_open {made : Disk} {target location : Location} {artifact : String}
    (horder : request.toOrder host = .ok order) (hartifact : order.artifact = artifact)
    (hstdout : request.toStdout = false)
    (hopen : Delivery.Open host.disk made
      (Delivery.destination (Path.ofString request.out) order.project request.fileName) target location)
    (hover : request.noOverwrite = true → host.disk.isThere
      (Delivery.destination (Path.ofString request.out) order.project request.fileName) = .ok false) :
    ((Command.build request).run host).exit = .code 0 ∧
      ∀ other, ((Command.build request).run host).disk.file? other =
        Delivery.filesAfter host.disk (Text.Utf8.encode artifact) target location other := by
  have hallowed : (!request.noOverwrite) = false → host.disk.isThere
      (Delivery.destination (Path.ofString request.out) order.project request.fileName) =
        .ok false := by
    intro hno
    exact hover (by simpa using hno)
  obtain ⟨after, hdeliver, hfiles⟩ := Delivery.deliver_of_open artifact hopen hallowed
  rw [← hartifact] at hdeliver
  obtain ⟨remarks, -, hbuild⟩ := build_of_deliver horder hstdout hdeliver
  exact ⟨congrArg Outcome.exit hbuild, fun other =>
    (congrArg (fun outcome => outcome.disk.file? other) hbuild).trans (hfiles other)⟩

/-! ## Nothing but a source -/

theorem ofArguments_source (hpath : path.toList.head? ≠ some '-') :
    Command.ofArguments ["build", "--source", path] = .ok (.build { source := some path }) := by
  have hoption : valued "--source" ∈ CommandName.build.grammar.options := by decide
  have hrow : ∀ given ∈ [Given.apart "--source" path], CommandName.build.grammar.Accepts given := by
    intro given hgiven
    obtain rfl := List.mem_singleton.1 hgiven
    exact ⟨hoption, hpath⟩
  exact ofArguments_build hrow

theorem toOrder_default (host : Host) : ({} : BuildRequest).toOrder host = .ok {} := by
  let options : Options := {}
  have harchitecture : ({} : BuildRequest).architecture = options.architecture.word := rfl
  exact ownOrder_eq_ok harchitecture rfl rfl rfl host Project.sampleProgram

theorem open_default {disk : Disk} (hroom : Delivery.Room disk "MyApp_Installer.cmd") :
    Delivery.Open disk disk (Delivery.destination (Path.ofString ".") {} none)
      (disk.workingFolder ++ ["MyApp_Installer.cmd"])
      (disk.workingFolder ++ ["MyApp_Installer.cmd" ++ Delivery.besideEnding]) := by
  have hhere : Path.ofString "." = ⟨.here, []⟩ := by decide
  have hname : FileName.download {} none = "MyApp_Installer.cmd" := by decide +kernel
  rw [← hname] at hroom ⊢
  rw [hhere]
  exact Delivery.open_here disk {} none (by rw [hname]; decide) hroom

/-! ## Main result -/

/-- With a source from a file, the artifact is the preamble with the text of the file behind it, where all
line ends are line feeds.  So the bytes of the file stand there unchanged exactly when there is no carriage
return in it. -/
theorem build_embeds_source {arguments : List String} {made : Disk} {target location : Location}
    {bytes : ByteArray} (hcommand : Command.ofArguments arguments = .ok (.build request))
    (hsource : request.source = some path) (hpath : path ≠ "-")
    (hbytes : host.disk.readBytes (Path.ofString path) = .ok bytes)
    (htext : Text.Utf8.decode bytes = .ok text)
    (hvalid : ({ request with source := none } : BuildRequest).toOrder host = .ok order)
    (hstdout : request.toStdout = false)
    (hopen : Delivery.Open host.disk made
      (Delivery.destination (Path.ofString request.out) order.project request.fileName) target location)
    (hover : request.noOverwrite = true → host.disk.isThere
      (Delivery.destination (Path.ofString request.out) order.project request.fileName) =
        .ok false) :
    let outcome := run arguments host
    let stem := FileName.stem order.project
    let preamble := Text.Utf8.encode (Preamble.text order.options stem
      (Switches.ofOptions order.options stem) (Preamble.standardRoots.map String.ofList))
    outcome.exit = .code 0 ∧
      outcome.disk.file? target = some
        (preamble ++ Text.Utf8.encode (String.ofList (Text.normalizeEnds text.toList))) ∧
      (outcome.disk.file? target = some (preamble ++ bytes) ↔ '\r' ∉ text.toList) := by
  have hread := sourceText_bytes hsource hpath hbytes htext
  obtain ⟨hexit, hfiles⟩ := run_build_of_open (toOrder_source hvalid hread) (Order.artifact_plain rfl)
    hstdout hopen hover
  have hfile := hfiles target
  rw [Delivery.filesAfter, if_pos rfl, Artifact.encode_compose] at hfile
  dsimp only
  rw [run_eq hcommand, hfile]
  refine ⟨hexit, rfl, ?_⟩
  rw [Option.some.injEq, ← Text.Utf8.encode_of_decode htext]
  exact encode_append_normalizeEnds_iff _ _

theorem build_embeds_source_of_lines :
    let arguments := ["build", "--source", "s.cs"]
    let host : Host :=
      { disk := ⟨[(["home", "s.cs"], .file (Text.Utf8.encode "a\nb")), (["home"], .folder)], ["home"]⟩
        home := "/home"
        reply := .failed "offline" }
    let outcome := run arguments host
    let preamble := Text.Utf8.encode (Preamble.text {} (FileName.stem {})
      (Switches.ofOptions {} (FileName.stem {})) (Preamble.standardRoots.map String.ofList))
    outcome.exit = .code 0 ∧
      outcome.disk.file? ["home", "MyApp_Installer.cmd"] =
        some (preamble ++ Text.Utf8.encode "a\nb") := by
  intro arguments host outcome preamble
  have hcommand : Command.ofArguments arguments = .ok (.build { source := some "s.cs" }) :=
    ofArguments_source (by decide)
  have hpath : "s.cs" ≠ "-" := by decide
  have hroom : Delivery.Room host.disk "MyApp_Installer.cmd" := ⟨by decide, by decide⟩
  obtain ⟨hexit, -, hfile⟩ := build_embeds_source hcommand rfl hpath rfl
    (Text.Utf8.decode_encode "a\nb") (toOrder_default host) rfl (open_default hroom) nofun
  exact ⟨hexit, hfile.2 (by decide)⟩

/-- A carriage return in the file does not come through. -/
theorem carriage_return_lost :
    let arguments := ["build", "--source", "s.cs"]
    let host : Host :=
      { disk := ⟨[(["home", "s.cs"], .file (Text.Utf8.encode "a\r\nb")), (["home"], .folder)], ["home"]⟩
        home := "/home"
        reply := .failed "offline" }
    let outcome := run arguments host
    let preamble := Text.Utf8.encode (Preamble.text {} (FileName.stem {})
      (Switches.ofOptions {} (FileName.stem {})) (Preamble.standardRoots.map String.ofList))
    outcome.exit = .code 0 ∧
      outcome.disk.file? ["home", "MyApp_Installer.cmd"] ≠
        some (preamble ++ Text.Utf8.encode "a\r\nb") := by
  intro arguments host outcome preamble
  let request : BuildRequest := { source := some "s.cs" }
  let embedded := String.ofList (Text.normalizeEnds "a\r\nb".toList)
  have hcommand : Command.ofArguments arguments = .ok (.build request) :=
    ofArguments_source (by decide)
  have hpath : "s.cs" ≠ "-" := by decide
  have hsource : sourceText host request.source = .ok (some embedded) :=
    sourceText_bytes rfl hpath rfl (Text.Utf8.decode_encode "a\r\nb")
  have horder : request.toOrder host = .ok { source := embedded } :=
    toOrder_source (toOrder_default host) hsource
  have hroom : Delivery.Room host.disk "MyApp_Installer.cmd" := ⟨by decide, by decide⟩
  have hover : request.noOverwrite ≠ true := by decide
  obtain ⟨hexit, hfiles⟩ :=
    run_build_of_open horder (Order.artifact_plain rfl) rfl (open_default hroom) fun h => absurd h hover
  have hfile := hfiles (host.disk.workingFolder ++ ["MyApp_Installer.cmd"])
  rw [Delivery.filesAfter, if_pos rfl, Artifact.encode_compose] at hfile
  have hrun : outcome = (Command.build request).run host := run_eq hcommand host
  have hreturn : '\r' ∈ "a\r\nb".toList := by decide
  rw [hrun]
  refine ⟨hexit, fun hsame => ?_⟩
  have hbytes := Option.some.inj (hfile.symm.trans hsame)
  exact (encode_append_normalizeEnds_iff _ _).1 hbytes hreturn

end CommandLine

end SelfBuild
