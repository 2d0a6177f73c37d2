import SelfBuild.CommandLine.Run
import SelfBuild.Proofs.Request.Build

/-!
# What keeps an order from being put together

A build needs an order before anything is written.  The order comes from the options or from a request's
file, and it fails with the first thing that is in its way: a source or a request that cannot be read, a
text that is no request, or an option that means nothing.
-/

namespace SelfBuild

/-- What is accepted as a request is never refused for its options. -/
theorem Request.exists_rejection_of_toOrder {nesting : Json.Nesting} {value : Json.Value}
    {source? : Option WideText} {fault : Request.Fault}
    (h : Request.toOrder nesting value source? = .error fault) :
    ∃ rejection, fault = .rejected rejection := by
  unfold Request.toOrder at h
  cases hvalidate : Request.validate value with
  | error rejection =>
      rw [hvalidate] at h
      cases h
      exact ⟨rejection, rfl⟩
  | ok _ =>
      obtain ⟨fields, project, options, rfl, hrecord⟩ := (Request.validate_eq_ok_iff value).1 hvalidate
      obtain ⟨made, hmade, -⟩ := hrecord.options_record.exists_options nesting
      have hsection : Request.section? (.object fields) "config" = options := by
        simp [Request.section?, Json.Value.get?, hrecord.options_eq]
      simp only [hvalidate, hsection, hmade] at h
      cases h

namespace CommandLine

variable {host : Host} {request : BuildRequest} {fault : Fault} {path : String}
variable {source? : Option WideText}

/-- What keeps an order from being put together. -/
inductive BuildRequest.Fails (host : Host) (request : BuildRequest) : Fault → Prop
  | source {path : String} {fault : Disk.ReadFault} (hsource : request.source = some path)
      (hpath : path ≠ "-") (hread : host.disk.readText (Path.ofString path) = .error fault) :
      Fails host request (.reading fault)
  | loading {path : String} {source? : Option WideText} {fault : Request.LoadFault}
      (hsource : sourceText host request.source = .ok source?)
      (hrequest : request.request = some path) (hpath : path ≠ "")
      (hload : Request.load host.limits.request host.disk (Path.ofString path) = .error fault) :
      Fails host request (.loading fault)
  | showing {path : String} {source? : Option WideText} {value : Json.Value} {fault : Json.ShowFault}
      (hsource : sourceText host request.source = .ok source?)
      (hrequest : request.request = some path) (hpath : path ≠ "")
      (hload : Request.load host.limits.request host.disk (Path.ofString path) = .ok value)
      (hshown : Request.unshowable? host.limits.shown value = some fault) :
      Fails host request (.unshowable fault)
  | request {path : String} {source? : Option WideText} {value : Json.Value} {fault : Request.Fault}
      (hsource : sourceText host request.source = .ok source?)
      (hrequest : request.request = some path) (hpath : path ≠ "")
      (hload : Request.load host.limits.request host.disk (Path.ofString path) = .ok value)
      (hshown : Request.unshowable? host.limits.shown value = none)
      (horder : Request.toOrder host.limits.shown value source? = .error fault) :
      Fails host request (.request fault)
  | options {source? : Option WideText} {fault : Options.Fault}
      (hsource : sourceText host request.source = .ok source?)
      (hrequest : ∀ path, request.request = some path → path = "")
      (hraw : request.raw.coerce host.limits.shown = .error fault) :
      Fails host request (.options fault)

theorem sourceText_error_iff {source : Option String} :
    sourceText host source = .error fault ↔
      ∃ path reason, source = some path ∧ path ≠ "-" ∧
        host.disk.readText (Path.ofString path) = .error reason ∧ fault = .reading reason := by
  constructor
  · intro h
    unfold sourceText at h
    split at h
    · cases h
    · cases h
    · rename_i path hpath
      split at h
      · cases h
      · rename_i reason hread
        cases h
        exact ⟨path, reason, rfl, hpath, hread, rfl⟩
  · rintro ⟨path, reason, rfl, hpath, hread, rfl⟩
    unfold sourceText
    split
    · rename_i hnone
      cases hnone
    · rename_i hhyphen
      exact absurd (Option.some.inj hhyphen) hpath
    · rename_i other _ hother
      obtain rfl := Option.some.inj hother
      rw [hread]

theorem fileOrder_error_iff :
    fileOrder host path source? = .error fault ↔
      (∃ reason, Request.load host.limits.request host.disk (Path.ofString path) = .error reason ∧
          fault = .loading reason) ∨
        ∃ value, Request.load host.limits.request host.disk (Path.ofString path) = .ok value ∧
          ((∃ reason, Request.unshowable? host.limits.shown value = some reason ∧
              fault = .unshowable reason) ∨
            Request.unshowable? host.limits.shown value = none ∧
              ∃ reason, Request.toOrder host.limits.shown value source? = .error reason ∧
                fault = .request reason) := by
  unfold fileOrder
  cases Request.load host.limits.request host.disk (Path.ofString path) with
  | error reason => simp [eq_comm]
  | ok value =>
      dsimp only
      cases hshown : Request.unshowable? host.limits.shown value with
      | some reason => simp [hshown, eq_comm]
      | none =>
          dsimp only
          cases horder : Request.toOrder host.limits.shown value source? with
          | error reason => simp [hshown, horder, eq_comm]
          | ok order => simp [hshown, horder]

theorem ownOrder_error_iff :
    request.ownOrder host source? = .error fault ↔
      ∃ reason, request.raw.coerce host.limits.shown = .error reason ∧ fault = .options reason := by
  unfold BuildRequest.ownOrder
  cases request.raw.coerce host.limits.shown with
  | error reason => simp [eq_comm]
  | ok options => simp

/-- A name counts unless it is empty. -/
theorem filter_eq_some_iff {name? : Option String} {name : String} :
    name?.filter (· ≠ "") = some name ↔ name? = some name ∧ name ≠ "" := by
  simp [Option.filter_eq_some_iff]

/-- A request's file that is named goes before the options. -/
theorem toOrder_of_file (hsource : sourceText host request.source = .ok source?)
    (hrequest : request.request = some path) (hpath : path ≠ "") :
    request.toOrder host = fileOrder host path source? := by
  simp only [BuildRequest.toOrder, hsource, filter_eq_some_iff.2 ⟨hrequest, hpath⟩]

theorem toOrder_of_options (hsource : sourceText host request.source = .ok source?)
    (hrequest : ∀ path, request.request = some path → path = "") :
    request.toOrder host = request.ownOrder host source? := by
  have hnone : request.request.filter (· ≠ "") = none := by
    cases hpath : request.request with
    | none => rfl
    | some path => simp [Option.filter, hrequest path hpath]
  simp only [BuildRequest.toOrder, hsource, hnone]

theorem toOrder_of_source_error (hsource : sourceText host request.source = .error fault) :
    request.toOrder host = .error fault := by
  simp only [BuildRequest.toOrder, hsource]

theorem fails_of_toOrder (h : request.toOrder host = .error fault) : request.Fails host fault := by
  cases hsource : sourceText host request.source with
  | error other =>
      rw [toOrder_of_source_error hsource, Except.error.injEq] at h
      rw [h] at hsource
      obtain ⟨path, reason, hpath, hhyphen, hread, rfl⟩ := sourceText_error_iff.1 hsource
      exact .source hpath hhyphen hread
  | ok source? =>
      by_cases hrequest : ∀ path, request.request = some path → path = ""
      · rw [toOrder_of_options hsource hrequest] at h
        obtain ⟨reason, hraw, rfl⟩ := ownOrder_error_iff.1 h
        exact .options hsource hrequest hraw
      · simp only [Classical.not_forall] at hrequest
        obtain ⟨path, hpath, hname⟩ := hrequest
        rw [toOrder_of_file hsource hpath hname] at h
        rcases fileOrder_error_iff.1 h with
          ⟨reason, hload, rfl⟩ | ⟨value, hload, ⟨reason, hshown, rfl⟩ | ⟨hshown, reason, horder, rfl⟩⟩
        · exact .loading hsource hpath hname hload
        · exact .showing hsource hpath hname hload hshown
        · exact .request hsource hpath hname hload hshown horder

theorem BuildRequest.Fails.toOrder_eq (h : request.Fails host fault) :
    request.toOrder host = .error fault := by
  cases h with
  | source hpath hhyphen hread =>
      exact toOrder_of_source_error (sourceText_error_iff.2 ⟨_, _, hpath, hhyphen, hread, rfl⟩)
  | loading hsource hrequest hname hload =>
      rw [toOrder_of_file hsource hrequest hname]
      exact fileOrder_error_iff.2 (.inl ⟨_, hload, rfl⟩)
  | showing hsource hrequest hname hload hshown =>
      rw [toOrder_of_file hsource hrequest hname]
      exact fileOrder_error_iff.2 (.inr ⟨_, hload, .inl ⟨_, hshown, rfl⟩⟩)
  | request hsource hrequest hname hload hshown horder =>
      rw [toOrder_of_file hsource hrequest hname]
      exact fileOrder_error_iff.2 (.inr ⟨_, hload, .inr ⟨hshown, _, horder, rfl⟩⟩)
  | options hsource hrequest hraw =>
      rw [toOrder_of_options hsource hrequest]
      exact ownOrder_error_iff.2 ⟨_, hraw, rfl⟩

theorem toOrder_error_iff : request.toOrder host = .error fault ↔ request.Fails host fault :=
  ⟨fails_of_toOrder, BuildRequest.Fails.toOrder_eq⟩

end CommandLine

end SelfBuild
