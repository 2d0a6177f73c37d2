import SelfBuild.Proofs.CommandLine.Command
import SelfBuild.Proofs.CommandLine.Orders
import SelfBuild.Proofs.CommandLine.Output
import SelfBuild.Proofs.Delivery.Attempts
import SelfBuild.Proofs.Drafting.Exchange

/-!
# How commands end

A command that nothing goes wrong in ends with zero, or with one when it is a check that finds something.
All that can go wrong is listed by `Fails`.  It is reported on a line of the standard error and ends with
two, with these exceptions: a request, a settings file or a reply whose containers are nested too deeply,
a request with a value that is nested too deeply to be shown, and a settings file with a value for a number
that no number can be made of.  These end the run outright.
-/

namespace SelfBuild

namespace CommandLine

variable {host : Host} {command : Command} {request : BuildRequest} {fault : Fault}

/-- The settings that a conversion runs with. -/
def DraftRequest.load (request : DraftRequest) (host : Host) : Except Settings.Fault Settings :=
  Settings.load host.limits.settings host.disk host.home request.settings host.environment

/-- The draft that a conversion asks for. -/
def DraftRequest.draft (request : DraftRequest) (settings : Settings) (host : Host) :
    Except Drafting.Fault WideText :=
  (Drafting.draft host.limits settings request.prompt (!request.windowed) host.reply).result

/-! ## What can go wrong -/

/-- What can go wrong in a command, with the fault that it is. -/
inductive Fails (host : Host) : Command → Fault → Prop
  | build {request : BuildRequest} {fault : Fault} (hfails : request.Fails host fault) :
      Fails host (.build request) fault
  | delivery {request : BuildRequest} {order : Order} {fault : Delivery.Fault}
      (horder : request.toOrder host = .ok order) (hstdout : request.toStdout = false)
      (hdeliver : (Delivery.deliver order.artifact (Path.ofString request.out) order.project
        request.fileName (!request.noOverwrite) { disk := host.disk }).1 = .error fault) :
      Fails host (.build request) (.delivery fault)
  | printing {request : BuildRequest} {order : Order} {fault : EncodingFault}
      (horder : request.toOrder host = .ok order) (hstdout : request.toStdout = true)
      (hencode : order.artifact.toPlain = .error fault) :
      Fails host (.build request) (.encoding fault)
  | artifact {path : String} {fault : Disk.ReadFault}
      (hread : host.disk.readText (Path.ofString path) = .error fault) :
      Fails host (.check path) (.reading fault)
  | notArtifact {path text : String} (hread : host.disk.readText (Path.ofString path) = .ok text)
      (hsplit : Lint.artifact? text.toList = none) :
      Fails host (.check path) .notArtifact
  | settings {request : DraftRequest} {fault : Settings.Fault}
      (hload : request.load host = .error fault) :
      Fails host (.convert request) (.settings fault)
  | service {request : DraftRequest} {settings : Settings} {fault : Drafting.Fault}
      (hload : request.load host = .ok settings)
      (hdraft : request.draft settings host = .error fault) :
      Fails host (.convert request) (.service fault)
  | showing {request : DraftRequest} {settings : Settings} {source : WideText}
      {fault : EncodingFault} (hload : request.load host = .ok settings)
      (hdraft : request.draft settings host = .ok source)
      (hout : request.out.filter (· ≠ "") = none) (hencode : source.toPlain = .error fault) :
      Fails host (.convert request) (.encoding fault)
  | opening {request : DraftRequest} {settings : Settings} {source : WideText} {out : String}
      {fault : Disk.Fault} (hload : request.load host = .ok settings)
      (hdraft : request.draft settings host = .ok source)
      (hout : request.out.filter (· ≠ "") = some out)
      (hopen : host.disk.write (Path.ofString out) ByteArray.empty = .error fault) :
      Fails host (.convert request) (.disk fault)
  | filling {request : DraftRequest} {settings : Settings} {source : WideText} {out : String}
      {opened : Disk} {fault : EncodingFault} (hload : request.load host = .ok settings)
      (hdraft : request.draft settings host = .ok source)
      (hout : request.out.filter (· ≠ "") = some out)
      (hopen : host.disk.write (Path.ofString out) ByteArray.empty = .ok opened)
      (hencode : (source ++ WideText.plain "\n").encode = .error fault) :
      Fails host (.convert request) (.encoding fault)

/-- What ends a command outright: a text that is nested too deeply, where the command comes to read it,
a request whose violations cannot be told for the depth of a value, or a settings file that is not
expected. -/
inductive Overtaxes (host : Host) : Command → Prop
  | request {request : BuildRequest} {path text : String} {source? : Option WideText}
      (hsource : sourceText host request.source = .ok source?)
      (hrequest : request.request = some path) (hpath : path ≠ "")
      (hread : host.disk.readText (Path.ofString path) = .ok text)
      (hdeep : Json.TooDeep host.limits.request text) : Overtaxes host (.build request)
  | showing {request : BuildRequest} {path : String} {source? : Option WideText} {value : Json.Value}
      (hsource : sourceText host request.source = .ok source?)
      (hrequest : request.request = some path) (hpath : path ≠ "")
      (hload : Request.load host.limits.request host.disk (Path.ofString path) = .ok value)
      (hshown : Request.unshowable? host.limits.shown value = some .tooDeep) :
      Overtaxes host (.build request)
  | settings {request : DraftRequest} {path : String}
      (hfile : Settings.file? request.settings host.environment = some path)
      (hunexpected : Settings.Unexpected host.limits.settings host.disk host.home path) :
      Overtaxes host (.convert request)
  | reply {request : DraftRequest} {settings : Settings} (hload : request.load host = .ok settings)
      (hkey : settings.apiKey.isPresent = true) (hdeep : host.reply.TooDeep host.limits.reply) :
      Overtaxes host (.convert request)

/-- A check whose artifact is one, but not a clean one. -/
def FindsFault (host : Host) (command : Command) : Prop :=
  ∃ path text finding findings, command = .check path ∧
    host.disk.readText (Path.ofString path) = .ok text ∧
    Lint.artifact? text.toList = some (finding :: findings)

/-- A report that ends with a line for a fault. -/
def EndsWithError (stderr message : String) : Prop :=
  ∃ above, stderr = above ++ "ERROR: " ++ message ++ "\n" ∧
    (above = "" ∨ ∃ before, above = before ++ "\n")

/-! ## Ends of commands -/

theorem endsWithError_fail {outcome : Outcome}
    (hstart : outcome.stderr = "" ∨ ∃ before, outcome.stderr = before ++ "\n")
    (hreported : fault.isReported = true) :
    EndsWithError (outcome.fail fault).stderr fault.message := by
  simp only [Outcome.fail, hreported, if_true]
  exact ⟨outcome.stderr, rfl, hstart⟩

/-- Remarks stand on lines of their own. -/
theorem join_remarkLine (remarks : List Artifact.Remark) :
    String.join (remarks.map remarkLine) = "" ∨
      ∃ before, String.join (remarks.map remarkLine) = before ++ "\n" := by
  rcases List.eq_nil_or_concat remarks with rfl | ⟨above, last, rfl⟩
  · exact .inl rfl
  · obtain ⟨line, hline⟩ : ∃ line, remarkLine last = line ++ "\n" := ⟨_, rfl⟩
    refine .inr ⟨String.join (above.map remarkLine) ++ line, ?_⟩
    simp [String.join_append, hline, String.append_assoc]

/-! ## Faults that are not reported -/

theorem isReported_settings (fault : Settings.Fault) :
    (Fault.settings fault).isReported = !fault.isUnexpected := by
  cases fault with
  | number fault => cases fault <;> rfl
  | _ => rfl

theorem isReported_service (fault : Drafting.Fault) :
    (Fault.service fault).isReported = !fault.isUnexpected := by
  cases fault <;> rfl

/-- A request's file cannot be loaded and that is not reported exactly when it is nested too deeply. -/
theorem load_unreported_iff {nesting : Json.Nesting} {disk : Disk} {path : Path} :
    (∃ fault, Request.load nesting disk path = .error fault ∧
        (Fault.loading fault).isReported = false) ↔
      ∃ text, disk.readText path = .ok text ∧ Json.TooDeep nesting text := by
  unfold Request.load
  cases disk.readText path with
  | error fault => simp [Fault.isReported]
  | ok text =>
      simp only [Except.ok.injEq, exists_eq_left', Json.tooDeep_iff]
      cases hread : Json.read nesting text with
      | ok value => simp
      | error fault =>
          cases fault <;> simp [Json.Fault.isSyntax, Fault.isReported, Json.Fault.isExhaustion]

theorem Fails.overtaxes (h : Fails host command fault) (hreported : fault.isReported = false) :
    Overtaxes host command := by
  cases h with
  | build hfails =>
      cases hfails with
      | source hsource hpath hread => cases hreported
      | loading hsource hrequest hpath hload =>
          obtain ⟨text, hread, hdeep⟩ := load_unreported_iff.1 ⟨_, hload, hreported⟩
          exact .request hsource hrequest hpath hread hdeep
      | @showing path source? value fault hsource hrequest hpath hload hshown =>
          cases fault with
          | longInteger => cases hreported
          | tooDeep => exact .showing hsource hrequest hpath hload hshown
      | request hsource hrequest hpath hload hshown horder =>
          obtain ⟨rejection, rfl⟩ := Request.exists_rejection_of_toOrder horder
          cases hreported
      | options hsource hrequest hraw =>
          obtain ⟨mismatch, rfl⟩ := Options.exists_mismatch_of_words hraw
          cases hreported
  | @delivery request order fault horder hstdout hdeliver =>
      cases fault with
      | notAttempted => exact absurd hdeliver (Delivery.deliver_ne_notAttempted _ _ _ _ _ _)
      | _ => cases hreported
  | printing horder hstdout hencode => cases hreported
  | artifact hread => cases hreported
  | notArtifact hread hsplit => cases hreported
  | settings hload =>
      rw [isReported_settings, Bool.not_eq_false'] at hreported
      obtain ⟨path, hfile, hunexpected⟩ := Settings.load_unexpected_iff.1 ⟨_, hload, hreported⟩
      exact .settings hfile hunexpected
  | service hload hdraft =>
      rw [isReported_service, Bool.not_eq_false'] at hreported
      obtain ⟨hkey, hdeep⟩ := Drafting.draft_unexpected_iff.1 ⟨_, hdraft, hreported⟩
      exact .reply hload hkey hdeep
  | showing hload hdraft hout hencode => cases hreported
  | opening hload hdraft hout hopen => cases hreported
  | filling hload hdraft hout hopen hencode => cases hreported

/-- What overtaxes a command is a fault that is not reported. -/
theorem Overtaxes.exists_unreported (h : Overtaxes host command) :
    ∃ fault, Fails host command fault ∧ fault.isReported = false := by
  cases h with
  | request hsource hrequest hpath hread hdeep =>
      obtain ⟨fault, hload, hreported⟩ := load_unreported_iff.2 ⟨_, hread, hdeep⟩
      exact ⟨_, .build (.loading hsource hrequest hpath hload), hreported⟩
  | showing hsource hrequest hpath hload hshown =>
      exact ⟨_, .build (.showing hsource hrequest hpath hload hshown), rfl⟩
  | settings hfile hunexpected =>
      obtain ⟨fault, hload, hfault⟩ := Settings.load_unexpected_iff.2 ⟨_, hfile, hunexpected⟩
      refine ⟨_, .settings hload, ?_⟩
      rw [isReported_settings, hfault]
      rfl
  | reply hload hkey hdeep =>
      obtain ⟨fault, hdraft, hfault⟩ := Drafting.draft_unexpected_iff.2 ⟨hkey, hdeep⟩
      refine ⟨_, .service hload hdraft, ?_⟩
      rw [isReported_service, hfault]
      rfl

/-! ## Runs -/

theorem run_eq {arguments : List String} (h : Command.ofArguments arguments = .ok command)
    (host : Host) : run arguments host = command.run host := by
  unfold run
  rw [h]

/-- What a build does once its order is there and it is to be delivered. -/
theorem build_of_deliver {order : Order} {result : Except Delivery.Fault Path} {session : Delivery.Session}
    (horder : request.toOrder host = .ok order) (hstdout : request.toStdout = false)
    (hdeliver : Delivery.deliver order.artifact (Path.ofString request.out) order.project
      request.fileName (!request.noOverwrite) { disk := host.disk } = (result, session)) :
    ∃ remarks, (remarks = "" ∨ ∃ above, remarks = above ++ "\n") ∧
      CommandLine.build request host =
        match result with
        | .ok path =>
            { host.begin with
              stderr := remarks
              disk := session.disk
              stdout := s!"OK. artifact={path.text}\n" }
        | .error fault =>
            { host.begin with stderr := remarks, disk := session.disk }.fail (.delivery fault) := by
  refine ⟨_, join_remarkLine order.remarks, ?_⟩
  simp only [CommandLine.build, horder, hstdout, Bool.false_eq_true, if_false, hdeliver]
  cases result <;> rfl

theorem build_of_print {order : Order} (horder : request.toOrder host = .ok order)
    (hstdout : request.toStdout = true) :
    ∃ remarks, (remarks = "" ∨ ∃ above, remarks = above ++ "\n") ∧
      CommandLine.build request host =
        Outcome.print { host.begin with stderr := remarks } order.artifact "" := by
  refine ⟨_, join_remarkLine order.remarks, ?_⟩
  simp only [CommandLine.build, horder, hstdout, if_true]

/-- What a conversion does once its draft is there. -/
theorem convert_of_draft {request : DraftRequest} {settings : Settings} {source : WideText}
    (hload : request.load host = .ok settings) (hdraft : request.draft settings host = .ok source) :
    ∃ asked : Outcome, asked.exit = .code 0 ∧ asked.stderr = "" ∧ asked.disk = host.disk ∧
      CommandLine.convert request host =
        match request.out.filter (· ≠ "") with
        | none => asked.print source "\n"
        | some out =>
            asked.write (Path.ofString out) (source ++ WideText.plain "\n") s!"OK. source={out}\n" := by
  unfold DraftRequest.load at hload
  unfold DraftRequest.draft at hdraft
  let report := Drafting.draft host.limits settings request.prompt (!request.windowed) host.reply
  refine ⟨{ host.begin with posts := report.posts, log := report.log }, rfl, rfl, rfl, ?_⟩
  cases hout : request.out.filter (· ≠ "") with
  | none => simp only [CommandLine.convert, hload, hdraft, hout, report]
  | some out => simp only [CommandLine.convert, hload, hdraft, hout, report]

/-- A command that something goes wrong in ends with the fault, below lines that were complete. -/
theorem run_of_fails (h : Fails host command fault) :
    ∃ before : Outcome, command.run host = before.fail fault ∧
      (before.stderr = "" ∨ ∃ above, before.stderr = above ++ "\n") := by
  cases h with
  | build hfails =>
      refine ⟨host.begin, ?_, .inl rfl⟩
      simp only [Command.run, CommandLine.build, toOrder_error_iff.2 hfails]
  | @delivery request order fault horder hstdout hdeliver =>
      cases hdelivered : Delivery.deliver order.artifact (Path.ofString request.out) order.project
          request.fileName (!request.noOverwrite) { disk := host.disk } with
      | mk result session =>
          rw [hdelivered] at hdeliver
          obtain rfl : result = .error fault := hdeliver
          obtain ⟨remarks, hlines, hbuild⟩ := build_of_deliver horder hstdout hdelivered
          exact ⟨_, hbuild, hlines⟩
  | printing horder hstdout hencode =>
      obtain ⟨remarks, hlines, hbuild⟩ := build_of_print horder hstdout
      exact ⟨_, hbuild.trans (Outcome.print_of_fault hencode _), hlines⟩
  | artifact hread =>
      refine ⟨host.begin, ?_, .inl rfl⟩
      simp only [Command.run, CommandLine.check, hread]
  | notArtifact hread hsplit =>
      refine ⟨host.begin, ?_, .inl rfl⟩
      simp only [Command.run, CommandLine.check, hread, hsplit]
  | settings hload =>
      unfold DraftRequest.load at hload
      refine ⟨host.begin, ?_, .inl rfl⟩
      simp only [Command.run, CommandLine.convert, hload]
  | service hload hdraft =>
      unfold DraftRequest.load at hload
      unfold DraftRequest.draft at hdraft
      simp only [Command.run, CommandLine.convert, hload, hdraft]
      exact ⟨_, rfl, .inl rfl⟩
  | showing hload hdraft hout hencode =>
      obtain ⟨asked, -, hstderr, -, hconvert⟩ := convert_of_draft hload hdraft
      rw [hout] at hconvert
      exact ⟨asked, hconvert.trans (Outcome.print_of_fault hencode _), .inl hstderr⟩
  | opening hload hdraft hout hopen =>
      obtain ⟨asked, -, hstderr, hdisk, hconvert⟩ := convert_of_draft hload hdraft
      rw [hout] at hconvert
      rw [← hdisk] at hopen
      exact ⟨asked, hconvert.trans (Outcome.write_of_open_error hopen _ _), .inl hstderr⟩
  | filling hload hdraft hout hopen hencode =>
      obtain ⟨asked, -, hstderr, hdisk, hconvert⟩ := convert_of_draft hload hdraft
      rw [hout] at hconvert
      rw [← hdisk] at hopen
      exact ⟨_, hconvert.trans (Outcome.write_of_fault hopen hencode _), .inl hstderr⟩

/-! ## Commands in which nothing goes wrong -/

/-- Only a check finds something. -/
theorem not_findsFault (h : ∀ path, command ≠ .check path) : ¬ FindsFault host command := by
  rintro ⟨path, text, finding, findings, rfl, -⟩
  exact h path rfl

theorem build_fails_or_exit (request : BuildRequest) (host : Host) :
    (∃ fault, Fails host (.build request) fault) ∨
      (CommandLine.build request host).exit = .code 0 := by
  cases horder : request.toOrder host with
  | error fault => exact .inl ⟨fault, .build (toOrder_error_iff.1 horder)⟩
  | ok order =>
      cases hstdout : request.toStdout with
      | true =>
          obtain ⟨remarks, -, hbuild⟩ := build_of_print horder hstdout
          cases hencode : order.artifact.toPlain with
          | error fault => exact .inl ⟨_, .printing horder hstdout hencode⟩
          | ok artifact =>
              rw [WideText.toPlain_eq_ok_iff.1 hencode, Outcome.print_plain] at hbuild
              exact .inr (congrArg Outcome.exit hbuild)
      | false =>
          cases hdelivered : Delivery.deliver order.artifact (Path.ofString request.out) order.project
              request.fileName (!request.noOverwrite) { disk := host.disk } with
          | mk result session =>
              obtain ⟨remarks, -, hbuild⟩ := build_of_deliver horder hstdout hdelivered
              cases result with
              | error fault => exact .inl ⟨_, .delivery horder hstdout (by rw [hdelivered])⟩
              | ok path => exact .inr (congrArg Outcome.exit hbuild)

theorem check_fails_or_exit (path : String) (host : Host) :
    (∃ fault, Fails host (.check path) fault) ∨
      (CommandLine.check path host).exit = .code 0 ∧ ¬ FindsFault host (.check path) ∨
      (CommandLine.check path host).exit = .code 1 ∧ FindsFault host (.check path) := by
  cases hread : host.disk.readText (Path.ofString path) with
  | error fault => exact .inl ⟨_, .artifact hread⟩
  | ok text =>
      cases hsplit : Lint.artifact? text.toList with
      | none => exact .inl ⟨_, .notArtifact hread hsplit⟩
      | some findings =>
          cases findings with
          | nil =>
              refine .inr (.inl ⟨?_, ?_⟩)
              · simp only [CommandLine.check, hread, hsplit, Host.begin]
              · rintro ⟨path', text', finding, findings, hcommand, hread', hsplit'⟩
                cases hcommand
                rw [hread] at hread'
                cases hread'
                rw [hsplit] at hsplit'
                cases hsplit'
          | cons finding findings =>
              refine .inr (.inr ⟨?_, path, text, finding, findings, rfl, hread, hsplit⟩)
              simp only [CommandLine.check, hread, hsplit]

theorem convert_fails_or_exit (request : DraftRequest) (host : Host) :
    (∃ fault, Fails host (.convert request) fault) ∨
      (CommandLine.convert request host).exit = .code 0 := by
  cases hload : request.load host with
  | error fault => exact .inl ⟨_, .settings hload⟩
  | ok settings =>
      cases hdraft : request.draft settings host with
      | error fault => exact .inl ⟨_, .service hload hdraft⟩
      | ok source =>
          obtain ⟨asked, hexit, -, hdisk, hconvert⟩ := convert_of_draft hload hdraft
          cases hout : request.out.filter (· ≠ "") with
          | none =>
              rw [hout] at hconvert
              cases hencode : source.toPlain with
              | error fault => exact .inl ⟨_, .showing hload hdraft hout hencode⟩
              | ok text =>
                  obtain rfl := WideText.toPlain_eq_ok_iff.1 hencode
                  exact .inr ((congrArg Outcome.exit hconvert).trans hexit)
          | some out =>
              rw [hout] at hconvert
              cases hopen : host.disk.write (Path.ofString out) ByteArray.empty with
              | error fault => exact .inl ⟨_, .opening hload hdraft hout hopen⟩
              | ok opened =>
                  cases hencode : (source ++ WideText.plain "\n").encode with
                  | error fault => exact .inl ⟨_, .filling hload hdraft hout hopen hencode⟩
                  | ok bytes =>
                      rw [← hdisk] at hopen
                      obtain ⟨after, hwrite, -⟩ := Outcome.exists_write hopen hencode
                        s!"OK. source={out}\n"
                      exact .inr ((congrArg Outcome.exit (hconvert.trans hwrite)).trans hexit)

/-- A command in which nothing goes wrong has zero or one for its end. -/
theorem fails_or_exit (host : Host) (command : Command) :
    (∃ fault, Fails host command fault) ∨
      (command.run host).exit = .code 0 ∧ ¬ FindsFault host command ∨
      (command.run host).exit = .code 1 ∧ FindsFault host command := by
  cases command with
  | build request =>
      exact (build_fails_or_exit request host).imp_right fun hexit =>
        .inl ⟨hexit, not_findsFault nofun⟩
  | check path => exact check_fails_or_exit path host
  | convert request =>
      exact (convert_fails_or_exit request host).imp_right fun hexit =>
        .inl ⟨hexit, not_findsFault nofun⟩

/-- A command that is overtaxed does not come to an exit code. -/
theorem exit_of_overtaxes (h : Overtaxes host command) :
    ∃ fault, (command.run host).exit = .crash fault := by
  obtain ⟨fault, hfails, hreported⟩ := h.exists_unreported
  obtain ⟨before, hrun, -⟩ := run_of_fails hfails
  refine ⟨fault, ?_⟩
  rw [hrun, exit_fail, hreported]
  rfl

/-- What goes wrong in any other command is reported. -/
theorem exit_of_fails (h : Fails host command fault) (hnot : ¬ Overtaxes host command) :
    (command.run host).exit = .code 2 ∧ EndsWithError (command.run host).stderr fault.message := by
  obtain ⟨before, hrun, hstart⟩ := run_of_fails h
  cases hreported : fault.isReported with
  | false => exact absurd (h.overtaxes hreported) hnot
  | true =>
      rw [hrun, exit_fail, hreported]
      exact ⟨rfl, endsWithError_fail hstart hreported⟩

/-- Nothing overtaxes a command that a reported fault ends. -/
theorem not_overtaxes_of_fails (h : Fails host command fault) (hreported : fault.isReported = true) :
    ¬ Overtaxes host command := by
  intro hover
  obtain ⟨before, hrun, -⟩ := run_of_fails h
  obtain ⟨other, hcrash⟩ := exit_of_overtaxes hover
  rw [hrun, exit_fail, hreported] at hcrash
  cases hcrash

/-- A command that is understood ends with zero, one or two unless it is overtaxed; two says that something
went wrong and was reported, and one that a check found something. -/
theorem run_of_ofArguments {arguments : List String}
    (h : Command.ofArguments arguments = .ok command) (host : Host) :
    let outcome := run arguments host
    ((∃ code ≤ 2, outcome.exit = .code code) ↔ ¬ Overtaxes host command) ∧
      (outcome.exit = .code 2 ↔ (∃ fault, Fails host command fault) ∧ ¬ Overtaxes host command) ∧
      (∀ fault, Fails host command fault → ¬ Overtaxes host command →
        EndsWithError outcome.stderr fault.message) ∧
      (outcome.exit = .code 1 ↔ FindsFault host command) := by
  have hcrash : Overtaxes host command → ∀ code, (command.run host).exit ≠ .code code := by
    intro hover code hcode
    obtain ⟨fault, hexit⟩ := exit_of_overtaxes hover
    rw [hexit] at hcode
    cases hcode
  dsimp only
  rw [run_eq h]
  refine ⟨⟨?_, ?_⟩, ⟨?_, ?_⟩, ?_, ⟨?_, ?_⟩⟩
  · rintro ⟨code, -, hexit⟩ hover
    exact hcrash hover code hexit
  · intro hnot
    rcases fails_or_exit host command with ⟨fault, hfails⟩ | ⟨hexit, -⟩ | ⟨hexit, -⟩
    · exact ⟨2, Nat.le_refl 2, (exit_of_fails hfails hnot).1⟩
    · exact ⟨0, by decide, hexit⟩
    · exact ⟨1, by decide, hexit⟩
  · intro hexit
    refine ⟨?_, fun hover => hcrash hover 2 hexit⟩
    rcases fails_or_exit host command with hfails | ⟨hzero, -⟩ | ⟨hone, -⟩
    · exact hfails
    · rw [hzero] at hexit
      cases hexit
    · rw [hone] at hexit
      cases hexit
  · rintro ⟨⟨fault, hfails⟩, hnot⟩
    exact (exit_of_fails hfails hnot).1
  · exact fun fault hfails hnot => (exit_of_fails hfails hnot).2
  · intro hexit
    have hnot : ¬ Overtaxes host command := fun hover => hcrash hover 1 hexit
    rcases fails_or_exit host command with ⟨fault, hfails⟩ | ⟨hzero, -⟩ | ⟨-, hfinds⟩
    · rw [(exit_of_fails hfails hnot).1] at hexit
      cases hexit
    · rw [hzero] at hexit
      cases hexit
    · exact hfinds
  · rintro ⟨path, text, finding, findings, rfl, hread, hsplit⟩
    simp only [Command.run, CommandLine.check, hread, hsplit]

/-- A settings file that is no record is reported. -/
theorem run_of_ofArguments_of_list :
    let arguments := ["convert", "a clock", "--config", "s.json"]
    let host : Host :=
      { disk := ⟨[(["home", "s.json"], .file (Text.Utf8.encode "[]")), (["home"], .folder)], ["home"]⟩
        home := "/home"
        reply := .failed "offline" }
    Command.ofArguments arguments =
        .ok (.convert { prompt := "a clock", settings := some "s.json" }) ∧
      (run arguments host).exit = .code 2 ∧
      EndsWithError (run arguments host).stderr "Settings file s.json must hold a JSON object" := by
  intro arguments host
  have hcommand : Command.ofArguments arguments =
      .ok (.convert { prompt := "a clock", settings := some "s.json" }) :=
    ofArguments_convert [.apart "--config" "s.json"] (by decide) (by decide)
  have htext : host.disk.readText (Path.ofString "s.json") = .ok "[]" :=
    Disk.readText_of_readBytes rfl (by decide)
  have hfile : Settings.readFile host.limits.settings host.disk host.home "s.json" =
      .error (.notRecord "s.json") := by
    have hread : Json.read host.limits.settings "[]" = .ok (.array []) := rfl
    have hpath : Path.expandHome host.home "s.json" = "s.json" := rfl
    simp only [Settings.readFile, hpath, Disk.isFile_of_readText htext, htext, hread]
  have hfails : Fails host (.convert { prompt := "a clock", settings := some "s.json" })
      (.settings (.notRecord "s.json")) := by
    refine .settings ?_
    have hnamed : Settings.file? (some "s.json") host.environment = some "s.json" := rfl
    simp only [DraftRequest.load, Settings.load, hnamed, hfile, bind, Except.bind]
  have hnot := not_overtaxes_of_fails hfails rfl
  obtain ⟨-, htwo, hreport, -⟩ := run_of_ofArguments hcommand host
  exact ⟨hcommand, htwo.2 ⟨⟨_, hfails⟩, hnot⟩, hreport _ hfails hnot⟩

/-- A settings file with a null for the waiting time ends the run outright. -/
theorem crash_of_null_timeout :
    let arguments := ["convert", "a clock", "--config", "s.json"]
    let host : Host :=
      { disk := ⟨[(["home", "s.json"], .file (Text.Utf8.encode "\x7b\"timeout\":null\x7d")),
          (["home"], .folder)], ["home"]⟩
        home := "/home"
        reply := .failed "offline" }
    Command.ofArguments arguments =
        .ok (.convert { prompt := "a clock", settings := some "s.json" }) ∧
      ¬ ∃ code, (run arguments host).exit = .code code := by
  intro arguments host
  have hcommand : Command.ofArguments arguments =
      .ok (.convert { prompt := "a clock", settings := some "s.json" }) :=
    ofArguments_convert [.apart "--config" "s.json"] (by decide) (by decide)
  have htext : host.disk.readText (Path.ofString "s.json") = .ok "\x7b\"timeout\":null\x7d" :=
    Disk.readText_of_readBytes rfl (by decide)
  have hover : Overtaxes host (.convert { prompt := "a clock", settings := some "s.json" }) :=
    .settings rfl (Settings.unexpected_of_null_timeout htext)
  obtain ⟨fault, hcrash⟩ := exit_of_overtaxes hover
  refine ⟨hcommand, ?_⟩
  rintro ⟨code, hcode⟩
  rw [run_eq hcommand, hcrash] at hcode
  cases hcode

end CommandLine

end SelfBuild
