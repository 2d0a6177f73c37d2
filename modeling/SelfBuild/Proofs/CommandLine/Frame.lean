import SelfBuild.Proofs.Artifact.Reading
import SelfBuild.Proofs.CommandLine.Source
import SelfBuild.Proofs.Delivery.Run
import SelfBuild.Proofs.Disk.Paths
import SelfBuild.Proofs.Request.Text

/-!
# What a build leaves behind

Arguments that start with the word for a build ask for a build or for nothing at all.  A build that goes
through puts its artifact where it says it does, or prints it; all other files are as they were, and so are
all files when anything goes wrong.  What was put there passes a check, whatever the source is.

The exception is a source that has no encoding, which a request's file can name by an escape.  The file
beside the destination was opened before this is found out, and stays behind.
-/

namespace SelfBuild

namespace CommandLine

variable {host : Host} {request : BuildRequest} {order : Order} {own : List String}

/-- Where the artifact of an order goes. -/
def BuildRequest.destination (request : BuildRequest) (order : Order) : Path :=
  Delivery.destination (Path.ofString request.out) order.project request.fileName

/-- What a run leaves behind that put an artifact where it says. -/
structure Outcome.Written (outcome : Outcome) (host : Host) (path : Path) (artifact : String) : Prop where
  stdout_eq : outcome.stdout = "OK. artifact=" ++ path.text ++ "\n"
  readBytes_eq : outcome.disk.readBytes (Path.ofString path.text) = .ok (Text.Utf8.encode artifact)
  others : ∃ location, outcome.disk.place? (Path.ofString path.text) = some location ∧
    ∀ other, other ≠ location → outcome.disk.file? other = host.disk.file? other
  passes : (check path.text { host with disk := outcome.disk }).exit = .code 0

/-- What a run leaves behind whose artifact has no encoding: the file beside the destination, where none was
before, and all other files as they were. -/
structure Outcome.Abandoned (outcome : Outcome) (host : Host) (path : Path) : Prop where
  exit_eq : outcome.exit = .code 2
  exists_place : ∃ location, outcome.disk.place? (Delivery.beside path) = some location ∧
    host.disk.file? location = none ∧
    ∀ other, outcome.disk.file? other =
      if other = location then some ByteArray.empty else host.disk.file? other

/-! ## Arguments of a build -/

theorem plainName_of_safe {name : String} (h : FileName.Safe name.toList) : Path.PlainName name where
  ne_nil := h.ne_nil
  noSlash := h.not_mem (by decide)
  ne_dot := by
    intro hdot
    have hlast := h.last '.' (by rw [hdot]; rfl)
    exact absurd hlast (by decide)

/-- The printed path leads to the destination. -/
theorem ofString_text_destination (request : BuildRequest) (order : Order) :
    Path.ofString (request.destination order).text = request.destination order :=
  ((Path.plain_ofString request.out).child
    (plainName_of_safe (FileName.safe_download order.project request.fileName))).ofString_text

/-! ## Builds -/

/-- What a delivery that goes through is, seen from the host. -/
theorem written_of_delivered {outcome : Outcome} {source : String}
    (hstdout : outcome.stdout = "OK. artifact=" ++ (request.destination order).text ++ "\n")
    (h : Delivery.Delivered (request.destination order)
      (Text.Utf8.encode (Artifact.compose order.project order.options source)) host.disk outcome.disk) :
    outcome.Written host (request.destination order)
      (Artifact.compose order.project order.options source) := by
  have hread : outcome.disk.readBytes (Path.ofString (request.destination order).text) =
      .ok (Text.Utf8.encode (Artifact.compose order.project order.options source)) := by
    rw [ofString_text_destination]
    exact h.readBytes
  obtain ⟨location, hplace, hfiles⟩ := h.exists_place
  refine ⟨hstdout, hread, ⟨location, ?_, fun other hother => ?_⟩, ?_⟩
  · rwa [ofString_text_destination]
  · rw [hfiles other, if_neg hother]
  · exact Artifact.check_of_readBytes hread

/-- What a delivery that is given up for want of an encoding is, seen from the host. -/
theorem abandoned_of_unencoded {outcome : Outcome} {content : Except EncodingFault ByteArray}
    {fault : Delivery.Fault} (hexit : outcome.exit = .code 2)
    (hvacant : Delivery.Vacant (request.destination order) host.disk)
    (h : Delivery.Unencoded (request.destination order) content fault host.disk outcome.disk) :
    outcome.Abandoned host (request.destination order) := by
  obtain ⟨location, hplace, hfiles⟩ := h.exists_place
  exact ⟨hexit, location, hplace, hvacant.file?_eq_none h.toKeeps hplace, hfiles⟩

theorem exit_fail_ne_zero (outcome : Outcome) (fault : Fault) :
    (outcome.fail fault).exit ≠ .code 0 := by
  rw [exit_fail]
  split <;> nofun

/-- An order that is delivered goes through, or the run is stopped with the files as they were, or the text
has no encoding and the file beside the destination is left. -/
theorem deliver_cases (horder : request.toOrder host = .ok order) (hstdout : request.toStdout = false)
    (hvacant : Delivery.Vacant (request.destination order) host.disk) :
    let outcome := CommandLine.build request host
    outcome.exit ≠ .code 0 ∧ (host.disk.SameFiles outcome.disk ∨
        ¬ order.source.IsPlain ∧ outcome.Abandoned host (request.destination order)) ∨
      outcome.exit = .code 0 ∧ ∃ source, order.source = .plain source ∧
        outcome.Written host (request.destination order)
          (Artifact.compose order.project order.options source) := by
  have hcases := Delivery.deliver_cases order.artifact (Path.ofString request.out) order.project
    request.fileName (!request.noOverwrite) { disk := host.disk } hvacant
  dsimp only
  cases hdeliver : Delivery.deliver order.artifact (Path.ofString request.out) order.project
      request.fileName (!request.noOverwrite) { disk := host.disk } with
  | mk result session =>
      obtain ⟨remarks, -, hbuild⟩ := build_of_deliver horder hstdout hdeliver
      rw [hdeliver] at hcases
      rw [hbuild]
      cases result with
      | error fault =>
          refine .inl ⟨exit_fail_ne_zero _ _, ?_⟩
          rcases hcases with hsame | hleft
          · rw [disk_fail]
            exact .inl hsame
          · obtain ⟨reason, hreason, rfl⟩ := hleft.exists_reason
            have hloose := WideText.exists_toPlain_eq_error_iff.1
              ⟨reason, WideText.encode_eq_error_iff.1 hreason⟩
            refine .inr ⟨fun h => hloose (Order.isPlain_artifact_iff.2 h), ?_⟩
            exact abandoned_of_unencoded rfl hvacant hleft
      | ok path =>
          obtain ⟨rfl, ⟨content, hcontent, hdelivered⟩, -⟩ := hcases
          obtain ⟨artifact, hartifact, rfl⟩ := WideText.encode_eq_ok_iff.1 hcontent
          obtain ⟨source, hsource⟩ := Order.isPlain_artifact_iff.1 ⟨artifact, hartifact⟩
          rw [Order.artifact_plain hsource, WideText.plain.injEq] at hartifact
          subst hartifact
          exact .inr ⟨rfl, source, hsource, written_of_delivered rfl hdelivered⟩

/-- Half a surrogate pair. -/
def half : WideText := .loose ⟨[.surrogate ⟨0, by decide⟩], rfl⟩

end CommandLine

end SelfBuild
