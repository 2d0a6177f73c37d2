import SelfBuild.Proofs.FrontEnds
import SelfBuild.Proofs.Wizard.Parts

/-!
# Pages carry the wizard

The wizard keeps nothing between two requests, so a page has to carry the build.  What its tags are is
decided by its frame, which holds nothing of a text; what its fields say is the demand for the same build,
with the same log and the same input.
-/

namespace SelfBuild

namespace Wizard

/-- The field that a button adds when it posts a form. -/
def pressed (button : Option String) : Form :=
  (button.map fun action => ("action", action)).toList

namespace Page

/-! ## Whole pages -/

/-- What the tags of a page depend on. -/
structure Frame where
  options : Options
  lines : Nat
  notes : Nat
  hasError : Bool
  hasPreview : Bool
deriving DecidableEq

def frame (page : Page) : Frame where
  options := page.build.options
  lines := page.build.log.length
  notes := page.notes.length
  hasError := page.error != ""
  hasPreview := page.preview != ""

def logForm (log : List String) : Form :=
  log.map fun line => ("log", line)

/-- The fields that a page holds. -/
def form (page : Page) : Form :=
  projectForm page.build.project ++ (optionsForm page.build.options ++
    ([("raw_input", page.input), ("source_code", page.build.source)] ++ logForm page.build.log))

theorem exists_reads_formPieces (options : Options) (lines : Nat) :
    ∃ shapes, ∀ page : Page, page.build.options = options → page.build.log.length = lines →
      Reads {} (render (page.formPieces page.build.source (page.build.log.map WideText.plain))) shapes
        page.form {} := by
  obtain ⟨_, hproject⟩ := exists_reads_projectPieces
  obtain ⟨_, hoptions⟩ := exists_reads_optionsPieces options
  obtain ⟨_, hcode⟩ := exists_reads_codePieces
  have hopen : Closed (markupLines ["  <form method=\"post\" action=\"/build\">"]).chars :=
    closed_lines_cons (.literal rfl rfl) closed_lines_nil
  have hfeed : Closed (Piece.markup "\n").chars := .literal rfl rfl
  have hindent : Closed (Piece.markup "\n    ").chars := .literal rfl rfl
  have hclose : Closed (Piece.markup "\n  </form>\n").chars := .literal rfl rfl
  constructor
  intro page hpage hlines
  have hfields := Reads.flatMap_const reads_logField page.build.log
  rw [hlines, ← List.map_eq_flatMap] at hfields
  have hlog := hfields.append hclose
  rw [List.append_nil] at hlog
  rw [← hpage] at hoptions
  simp only [formPieces, render_append, render_cons, render_nil, List.append_nil, render_flatMap,
    List.flatMap_map, List.append_assoc]
  exact .after hopen <| .append (hproject _) <| .after hfeed <| .append hoptions <| .after hfeed <|
    .append (hcode _ _) <| .after hfeed <| .after closed_reviewPiece <| .after hindent hlog

/-- The tags of a page depend on its frame alone, and its fields are what it shows. -/
theorem exists_reads_text (frame : Frame) :
    ∃ shapes, ∀ page : Page, page.frame = frame →
      Reads {} page.text.toList shapes page.form {} := by
  obtain ⟨_, herror⟩ := exists_reads_errorPieces frame.hasError
  obtain ⟨_, hform⟩ := exists_reads_formPieces frame.options frame.lines
  obtain ⟨_, hlog⟩ := exists_reads_logPieces frame.lines
  obtain ⟨_, hpreview⟩ := exists_reads_previewPieces frame.hasPreview
  have hindent : Closed (Piece.markup "  ").chars := .literal rfl rfl
  have hfeed : Closed (Piece.markup "\n  ").chars := .literal rfl rfl
  have hgap : Closed (Piece.markup "\n\n").chars := .literal rfl rfl
  have hspace : Closed (Piece.markup "\n\n  ").chars := .literal rfl rfl
  have hfoot : Closed (Piece.markup "\n</main>\n</body>\n</html>").chars := .literal rfl rfl
  constructor
  intro page hframe
  have hlines : page.build.log.length = frame.lines := congrArg Frame.lines hframe
  have hnotes : Reads {} (page.notes.flatMap fun note => render (notePieces note))
      (List.replicate frame.notes [("p", ["class"]), ("/p", [])]).flatten [] {} := by
    have hread := Reads.flatMap_const reads_notePieces page.notes
    have hcount : page.notes.length = frame.notes := congrArg Frame.notes hframe
    rwa [hcount, List.flatMap_eq_nil_iff.2 fun _ _ => rfl] at hread
  have hshown : (page.build.log.map WideText.plain).length = frame.lines :=
    (List.length_map _).trans hlines
  have htail := (hlog _ hshown).after <| hspace.after <|
    (hpreview _ (congrArg Frame.hasPreview hframe)).after hfoot
  have hmiddle := (hform page (congrArg Frame.options hframe) hlines).append (hfeed.after htail)
  rw [List.append_nil] at hmiddle
  rw [text, String.toList_ofList]
  simp only [pieces, piecesWith, render_append, render_cons, render_nil, List.append_nil, render_flatMap,
    List.append_assoc]
  exact .after closed_top <| .after hindent <| .after (herror _ (congrArg Frame.hasError hframe)) <|
    .after hfeed <| .after hnotes <| .after hgap hmiddle

theorem outline_text {page other : Page} (h : page.frame = other.frame) :
    outline page.text.toList = outline other.text.toList := by
  obtain ⟨shapes, hreads⟩ := exists_reads_text other.frame
  rw [(hreads page h).outline_eq, (hreads other rfl).outline_eq]

theorem fields_text (page : Page) : fields page.text.toList = page.form := by
  obtain ⟨shapes, hreads⟩ := exists_reads_text page.frame
  exact (hreads page rfl).fields_eq

/-! ## The form of a page -/

/-- What a page asks for when it is posted. -/
def demand (page : Page) : Demand where
  name := page.build.project.name.getD "None"
  version := page.build.project.version
  author := page.build.project.author
  copyright := page.build.project.copyright
  description := page.build.project.description
  options := page.build.options
  source := page.build.source

variable (page : Page) (button : Option String)

theorem lookup_last (name : String) (hlog : name ≠ "log") (haction : name ≠ "action")
    (log : List String) : (logForm log ++ pressed button).lookup name = none := by
  cases button <;> simp [logForm, pressed, List.lookup_eq_none_iff, or_imp, forall_and, hlog, haction]

theorem fills_form : page.demand.Fills (page.form ++ pressed button) where
  name_eq := rfl
  version_eq := rfl
  author_eq := rfl
  copyright_eq := rfl
  description_eq := rfl
  architecture_eq := rfl
  output_eq := rfl
  optimize_eq := by
    have hlast := lookup_last button "enable_optimization" (by decide) (by decide) page.build.log
    unfold form optionsForm demand
    cases page.build.options.optimize with
    | true => rfl
    | false => cases page.build.options.allowUnsafe <;> exact hlast
  allowUnsafe_eq := by
    have hlast := lookup_last button "allow_unsafe" (by decide) (by decide) page.build.log
    unfold form optionsForm demand
    cases page.build.options.optimize <;> cases page.build.options.allowUnsafe
    all_goals first | rfl | exact hlast
  source_eq := by
    unfold form optionsForm demand
    cases page.build.options.optimize <;> cases page.build.options.allowUnsafe <;> rfl

theorem input_form : (page.form ++ pressed button).input = page.input := by
  have hlookup : (page.form ++ pressed button).lookup "raw_input" = some page.input := by
    unfold form optionsForm
    cases page.build.options.optimize <;> cases page.build.options.allowUnsafe <;> rfl
  rw [Form.input, Form.value, hlookup, Option.getD_some]

/-- The log comes back when none of its lines is blank. -/
theorem log_form (h : ∀ line ∈ page.build.log, Text.allBlank line.toList = false) :
    (page.form ++ pressed button).log = page.build.log := by
  have hlines : (page.form ++ pressed button).filterMap (fun field =>
      if field.1 = "log" then some field.2 else none) = page.build.log := by
    unfold form projectForm optionsForm pressed logForm
    cases button <;> cases page.build.options.optimize <;> cases page.build.options.allowUnsafe <;>
      simp [List.filterMap_map]
  have hkept : page.build.log.filter (fun line => !Text.allBlank line.toList) = page.build.log := by
    rw [List.filter_eq_self]
    intro line hline
    rw [h line hline]
    rfl
  rw [← hkept, ← hlines]
  rfl

theorem coerce_form (nesting : Json.Nesting) :
    (page.form ++ pressed button).options.coerce nesting = .ok page.build.options := by
  rw [(page.fills_form button).options_eq]
  exact Options.coerce_toRaw nesting page.build.options

/-- The build comes back; a name that is missing comes back as the word that is shown for it. -/
theorem buildWith_form (h : ∀ line ∈ page.build.log, Text.allBlank line.toList = false) :
    (page.form ++ pressed button).buildWith page.build.options =
      { page.build with
        project := { page.build.project with name := some (page.build.project.name.getD "None") } } := by
  have hbuild := (page.fills_form button).buildWith_eq
  rw [page.log_form button h] at hbuild
  exact hbuild

theorem buildWith_form_eq_iff (h : ∀ line ∈ page.build.log, Text.allBlank line.toList = false) :
    (page.form ++ pressed button).buildWith page.build.options = page.build ↔
      page.build.project.name.isSome := by
  rw [page.buildWith_form button h]
  constructor
  · intro hbuild
    have hname : some (page.build.project.name.getD "None") = page.build.project.name :=
      congrArg (fun build => build.project.name) hbuild
    rw [← hname, Option.isSome_some]
  · intro hsome
    obtain ⟨name, hname⟩ := Option.isSome_iff_exists.1 hsome
    have hshown : some (page.build.project.name.getD "None") = page.build.project.name := by
      rw [hname, Option.getD_some]
    rw [hshown]

/-- Pages carry the wizard.  Two pages with one frame have the same tags, whatever their texts are; and a
reader who posts the fields of a page, with or without a button's own, is understood to ask for the build
and the input that the page shows.  Only a missing name is not carried, as it is shown as a word. -/
theorem text_carries :
    (∀ page other : Page, page.frame = other.frame →
      outline page.text.toList = outline other.text.toList) ∧
    ∀ (page : Page) (button : Option String),
      (∀ line ∈ page.build.log, Text.allBlank line.toList = false) →
        let form := fields page.text.toList ++ pressed button
        (∀ nesting, form.options.coerce nesting = .ok page.build.options) ∧
          (form.buildWith page.build.options = page.build ↔ page.build.project.name.isSome) ∧
          form.input = page.input := by
  refine ⟨fun page other h => outline_text h, fun page button h => ?_⟩
  rw [page.fields_text]
  exact ⟨page.coerce_form button, page.buildWith_form_eq_iff button h, page.input_form button⟩

/-- Texts that look like markup and like entities change no tag, and come back as they are. -/
theorem text_carries_markup :
    let page : Page :=
      { build :=
          { project := { name := some "a\"></label><input name=\"log", version := "&quot;&#34;&amp;lt;" }
            options := ⟨.x64, .windowed, false, true⟩
            source := "</textarea><script>'&lt;'</script>"
            log := ["[10:20:30] </pre>", "\"\n<b>"] }
        input := "</TEXTAREA>\n&#39;"
        error := "<p class=\"error\">"
        notes := [⟨"WARNING", "<", "'>'"⟩]
        preview := "</pre></fieldset>" }
    let other : Page :=
      { build := { options := ⟨.x64, .windowed, false, true⟩, source := "", log := ["a", "b"] }
        error := "c"
        notes := [⟨"", "", ""⟩]
        preview := "d" }
    page.frame = other.frame ∧ outline page.text.toList = outline other.text.toList ∧
      (∀ line ∈ page.build.log, Text.allBlank line.toList = false) ∧
      (∀ nesting, (fields page.text.toList ++ pressed none).options.coerce nesting =
        .ok page.build.options) ∧
      (fields page.text.toList ++ pressed none).buildWith page.build.options = page.build ∧
      (fields page.text.toList ++ pressed none).input = page.input := by
  intro page other
  have hframe : page.frame = other.frame := by decide
  have hlog : ∀ line ∈ page.build.log, Text.allBlank line.toList = false := by decide
  obtain ⟨houtline, hfields⟩ := text_carries
  obtain ⟨hcoerce, hbuild, hinput⟩ := hfields page none hlog
  exact ⟨hframe, houtline page other hframe, hlog, hcoerce, hbuild.2 rfl, hinput⟩

end Page

end Wizard

end SelfBuild
