import SelfBuild.Proofs.Wizard.Markup
import SelfBuild.Wizard.Page

/-!
# The preview on a page

The preview is the block below its legend.  Nothing that stands before it on a page could be taken for
that legend, whatever the texts are that the page shows, so a reader who looks for the legend and decodes
the block behind it sees the previewed text, character by character.
-/

namespace SelfBuild

namespace Wizard

/-- The legend of the preview and the start of its block. -/
def previewOpen : List Char :=
  "<legend>Artifact preview</legend>\n    <pre>".toList

def previewClose : List Char := "</pre>".toList

/-- What a page shows as the preview: the block behind the first legend of one, decoded. -/
def preview? (html : List Char) : Option (List Char) := do
  let (_, rest) ← Text.cut? previewOpen html
  let (block, _) ← Text.cut? previewClose rest
  some (unescape block)

/-- A piece in which no legend of a preview starts. -/
def Quiet (piece : Piece) : Prop :=
  startsNowhere previewOpen piece.chars = true

theorem quiet_shown (text : WideText) : Quiet (.shown text) :=
  startsNowhere_shown text

theorem quiet_markup_iff {text : String} :
    Quiet (.markup text) ↔ startsNowhere previewOpen text.toList = true := Iff.rfl

theorem quiet_append {a b : String} (ha : Quiet (.markup a)) (hb : Quiet (.markup b)) :
    Quiet (.markup (a ++ b)) := by
  rw [quiet_markup_iff] at ha hb ⊢
  rw [String.toList_append]
  exact startsNowhere_append ha hb

theorem quiet_lines {lines : List String} (h : ∀ line ∈ lines, Quiet (.markup line)) :
    Quiet (Page.markupLines lines) := by
  have hfeed : Quiet (.markup "\n") := startsNowhere_literal (by decide)
  rw [Page.markupLines, quiet_markup_iff, String.toList_join]
  apply startsNowhere_flatMap
  intro text htext
  obtain ⟨line, hline, rfl⟩ := List.mem_map.1 htext
  exact quiet_append (h line hline) hfeed

namespace Page

/-! ## What stands before the preview -/

theorem quiet_styleRule {selector style : String} (hselector : Quiet (.markup selector))
    (hstyle : Quiet (.markup style)) : Quiet (.markup (styleRule selector style)) := by
  have hindent : Quiet (.markup "    ") := startsNowhere_literal (by decide)
  have hopen : Quiet (.markup " \x7b ") := startsNowhere_literal (by decide)
  have hclose : Quiet (.markup " \x7d") := startsNowhere_literal (by decide)
  exact quiet_append (quiet_append (quiet_append (quiet_append hindent hselector) hopen) hstyle)
    hclose

theorem quiet_top : Quiet top := by
  apply quiet_lines
  simp only [List.forall_mem_cons]
  refine ⟨?_, ?_, ?_, ?_, ?_, ?_, quiet_styleRule ?_ ?_, quiet_styleRule ?_ ?_,
    quiet_styleRule ?_ ?_, quiet_styleRule ?_ ?_, quiet_styleRule ?_ ?_, quiet_styleRule ?_ ?_,
    quiet_styleRule ?_ ?_, quiet_styleRule ?_ ?_, quiet_styleRule ?_ ?_, quiet_styleRule ?_ ?_,
    quiet_styleRule ?_ ?_, quiet_styleRule ?_ ?_, ?_, ?_, ?_, ?_, ?_, nofun⟩
  all_goals exact startsNowhere_literal (by decide)

theorem quiet_errorPieces (error : String) : ∀ piece ∈ errorPieces error, Quiet piece := by
  unfold errorPieces
  split
  · simp
  · simp only [List.forall_mem_cons]
    refine ⟨?_, quiet_shown _, ?_, nofun⟩
    all_goals exact startsNowhere_literal (by decide)

theorem quiet_notePieces (note : Note) : ∀ piece ∈ notePieces note, Quiet piece := by
  simp only [notePieces, List.forall_mem_cons]
  refine ⟨?_, quiet_shown _, ?_, quiet_shown _, ?_, quiet_shown _, ?_, nofun⟩
  all_goals exact startsNowhere_literal (by decide)

/-- A field is quiet when its label and its name are. -/
theorem quiet_textField {label name : String} (value : String) (hlabel : Quiet (.markup label))
    (hname : Quiet (.markup name)) : ∀ piece ∈ textField label name value, Quiet piece := by
  simp only [textField, List.forall_mem_cons]
  refine ⟨quiet_append (quiet_append (quiet_append (quiet_append ?_ hlabel) ?_) hname) ?_,
    quiet_shown _, ?_, nofun⟩
  all_goals exact startsNowhere_literal (by decide)

theorem quiet_projectPieces (project : Project) : ∀ piece ∈ projectPieces project, Quiet piece := by
  simp only [projectPieces, List.forall_mem_append, List.forall_mem_singleton]
  refine ⟨⟨⟨⟨⟨⟨quiet_lines ?_, quiet_textField _ ?_ ?_⟩, quiet_textField _ ?_ ?_⟩,
    quiet_textField _ ?_ ?_⟩, quiet_textField _ ?_ ?_⟩, quiet_textField _ ?_ ?_⟩, quiet_lines ?_⟩
  · simp only [List.forall_mem_cons]
    refine ⟨?_, ?_, nofun⟩
    all_goals exact startsNowhere_literal (by decide)
  all_goals try exact startsNowhere_literal (by decide)
  simp only [List.forall_mem_cons]
  exact ⟨startsNowhere_literal (by decide), nofun⟩

theorem quiet_choice (chosen word label : String) :
    ∀ piece ∈ choice chosen word label, Quiet piece := by
  have hmark : Quiet (.markup (if chosen = word then "selected" else "")) := by
    split
    · exact startsNowhere_literal (by decide)
    · exact startsNowhere_literal rfl
  simp only [choice, List.forall_mem_cons]
  refine ⟨?_, quiet_shown _, ?_, hmark, ?_, quiet_shown _, ?_, nofun⟩
  all_goals exact startsNowhere_literal (by decide)

theorem quiet_choiceField {label name : String} (chosen : String) (choices : List (String × String))
    (hlabel : Quiet (.markup label)) (hname : Quiet (.markup name)) :
    ∀ piece ∈ choiceField label name chosen choices, Quiet piece := by
  simp only [choiceField, List.forall_mem_append, List.forall_mem_cons]
  refine ⟨⟨⟨quiet_lines ?_, ?_, nofun⟩, ?_⟩, quiet_lines ?_, nofun⟩
  · simp only [List.forall_mem_cons]
    refine ⟨quiet_append ?_ hlabel, quiet_append (quiet_append ?_ hname) ?_, nofun⟩
    all_goals exact startsNowhere_literal (by decide)
  · exact startsNowhere_literal (by decide)
  · exact List.forall_mem_flatMap.2 fun entry _ => quiet_choice chosen entry.1 entry.2
  · simp only [List.forall_mem_cons]
    refine ⟨startsNowhere_literal rfl, ?_, ?_, nofun⟩
    all_goals exact startsNowhere_literal (by decide)

theorem quiet_boxField {label name : String} (checked : Bool) (hlabel : Quiet (.markup label))
    (hname : Quiet (.markup name)) : Quiet (boxField label name checked) := by
  have hmark : Quiet (.markup (if checked then "checked" else "")) := by
    split
    · exact startsNowhere_literal (by decide)
    · exact startsNowhere_literal rfl
  refine quiet_append (quiet_append (quiet_append (quiet_append (quiet_append (quiet_append ?_
    hname) ?_) hmark) ?_) hlabel) ?_
  all_goals exact startsNowhere_literal (by decide)

theorem quiet_optionsPieces (options : Options) : ∀ piece ∈ optionsPieces options, Quiet piece := by
  simp only [optionsPieces, List.forall_mem_append, List.forall_mem_cons]
  refine ⟨⟨⟨⟨quiet_lines ?_, nofun⟩, quiet_choiceField _ _ ?_ ?_⟩, quiet_choiceField _ _ ?_ ?_⟩,
    quiet_boxField _ ?_ ?_, quiet_boxField _ ?_ ?_, quiet_lines ?_, nofun⟩
  · simp only [List.forall_mem_cons]
    refine ⟨?_, ?_, nofun⟩
    all_goals exact startsNowhere_literal (by decide)
  all_goals try exact startsNowhere_literal (by decide)
  simp only [List.forall_mem_cons]
  exact ⟨startsNowhere_literal (by decide), nofun⟩

theorem quiet_codePieces (input : String) (source : WideText) :
    ∀ piece ∈ codePieces input source, Quiet piece := by
  simp only [codePieces, List.forall_mem_cons]
  refine ⟨quiet_lines ?_, quiet_append (quiet_append ?_ ?_) ?_, quiet_shown _, quiet_lines ?_, ?_,
    quiet_shown _, quiet_lines ?_, nofun⟩
  all_goals try exact startsNowhere_literal (by decide)
  · simp only [List.forall_mem_cons]
    refine ⟨?_, ?_, ?_, nofun⟩
    all_goals exact startsNowhere_literal (by decide)
  · simp only [List.forall_mem_cons]
    refine ⟨?_, ?_, ?_, ?_, ?_, nofun⟩
    all_goals exact startsNowhere_literal (by decide)
  · simp only [List.forall_mem_cons]
    refine ⟨?_, ?_, ?_, nofun⟩
    all_goals exact startsNowhere_literal (by decide)

theorem quiet_reviewPiece : Quiet reviewPiece := by
  apply quiet_lines
  simp only [List.forall_mem_cons]
  refine ⟨?_, ?_, quiet_append ?_ ?_, quiet_append ?_ ?_, ?_, quiet_append ?_ ?_, ?_, nofun⟩
  all_goals exact startsNowhere_literal (by decide)

theorem quiet_logField (line : WideText) : ∀ piece ∈ logField line, Quiet piece := by
  simp only [logField, List.forall_mem_cons]
  refine ⟨?_, quiet_shown _, ?_, nofun⟩
  all_goals exact startsNowhere_literal (by decide)

theorem quiet_logPieces (log : List WideText) : ∀ piece ∈ logPieces log, Quiet piece := by
  have hfeed : Quiet (.markup "\n") := startsNowhere_literal (by decide)
  have hlines : ∀ piece ∈ log.flatMap fun line => [Piece.shown line, .markup "\n"],
      Quiet piece := by
    simp only [List.forall_mem_flatMap, List.forall_mem_cons]
    exact fun line _ => ⟨quiet_shown line, hfeed, nofun⟩
  unfold logPieces
  split
  · simp
  · simp only [List.forall_mem_append, List.forall_mem_cons]
    refine ⟨⟨⟨quiet_lines ?_, ?_, nofun⟩, hlines⟩, quiet_lines ?_, ?_, nofun⟩
    all_goals try exact startsNowhere_literal (by decide)
    · simp only [List.forall_mem_cons]
      refine ⟨startsNowhere_literal rfl, ?_, ?_, nofun⟩
      all_goals exact startsNowhere_literal (by decide)
    · simp only [List.forall_mem_cons]
      refine ⟨?_, ?_, nofun⟩
      all_goals exact startsNowhere_literal (by decide)

theorem quiet_formPieces (page : Page) (source : WideText) (log : List WideText) :
    ∀ piece ∈ page.formPieces source log, Quiet piece := by
  have hlog : ∀ piece ∈ log.flatMap logField, Quiet piece :=
    List.forall_mem_flatMap.2 fun line _ => quiet_logField line
  simp only [formPieces, List.forall_mem_append, List.forall_mem_cons]
  refine ⟨⟨⟨⟨⟨⟨⟨⟨⟨⟨quiet_lines ?_, nofun⟩, quiet_projectPieces _⟩, ?_, nofun⟩,
    quiet_optionsPieces _⟩, ?_, nofun⟩, quiet_codePieces _ _⟩, ?_, nofun⟩, quiet_reviewPiece, ?_,
    nofun⟩, hlog⟩, ?_, nofun⟩
  all_goals try exact startsNowhere_literal (by decide)
  simp only [List.forall_mem_cons]
  exact ⟨startsNowhere_literal (by decide), nofun⟩

/-- All that stands before the preview. -/
def beforePreview (page : Page) : List Piece :=
  [top, .markup "  "] ++ errorPieces page.error ++
    [.markup "\n  "] ++ page.notes.flatMap notePieces ++
    [.markup "\n\n"] ++ page.formPieces page.build.source (page.build.log.map .plain) ++
    [.markup "\n  "] ++ logPieces (page.build.log.map .plain) ++
    [.markup "\n\n  "]

theorem quiet_beforePreview (page : Page) : ∀ piece ∈ page.beforePreview, Quiet piece := by
  have hnotes : ∀ piece ∈ page.notes.flatMap notePieces, Quiet piece :=
    List.forall_mem_flatMap.2 fun note _ => quiet_notePieces note
  simp only [beforePreview, List.forall_mem_append, List.forall_mem_cons]
  refine ⟨⟨⟨⟨⟨⟨⟨⟨⟨quiet_top, ?_, nofun⟩, quiet_errorPieces _⟩, ?_, nofun⟩, hnotes⟩, ?_, nofun⟩,
    quiet_formPieces _ _ _⟩, ?_, nofun⟩, quiet_logPieces _⟩, ?_, nofun⟩
  all_goals exact startsNowhere_literal (by decide)

/-! ## The preview itself -/

theorem render_previewPieces {preview : String} (h : preview ≠ "") :
    render (previewPieces preview) =
      "\n  <fieldset>\n    ".toList ++
        (previewOpen ++ (escape preview.toList ++ previewClose ++ "\n  </fieldset>\n  ".toList)) := by
  have hopen : (markupLines ["", "  <fieldset>", "    <legend>Artifact preview</legend>"]).chars ++
      (Piece.markup "    <pre>").chars = "\n  <fieldset>\n    ".toList ++ previewOpen := by
    decide
  have hclose : (markupLines ["</pre>", "  </fieldset>"]).chars ++ (Piece.markup "  ").chars =
      previewClose ++ "\n  </fieldset>\n  ".toList := by
    decide
  calc render (previewPieces preview)
      _ = ((markupLines ["", "  <fieldset>", "    <legend>Artifact preview</legend>"]).chars ++
            (Piece.markup "    <pre>").chars) ++ (escape preview.toList ++
            ((markupLines ["</pre>", "  </fieldset>"]).chars ++ (Piece.markup "  ").chars)) := by
          simp [previewPieces, h, render, Piece.chars]
      _ = _ := by
          rw [hopen, hclose]
          simp only [List.append_assoc]

/-- The block of a preview ends where it should, since no text can hold a tag. -/
theorem cut?_previewClose (preview rest : List Char) :
    Text.cut? previewClose (escape preview ++ previewClose ++ rest) =
      some (escape preview, rest) := by
  apply Text.cut?_append (by decide)
  apply Text.not_infix_of_not_mem (c := '>') (by decide)
  rw [List.mem_append, not_or]
  exact ⟨gt_not_mem_escape preview, by decide⟩

/-- A reader of a page finds the previewed text. -/
theorem preview?_text (page : Page) (h : page.preview ≠ "") :
    preview? page.text.toList = some page.preview.toList := by
  let foot : List Piece := [.markup "\n</main>\n</body>\n</html>"]
  have hpieces : page.pieces = page.beforePreview ++ (previewPieces page.preview ++ foot) := by
    simp only [pieces, piecesWith, beforePreview, foot, List.append_assoc]
  have hlead : startsNowhere previewOpen "\n  <fieldset>\n    ".toList = true :=
    startsNowhere_literal (by decide)
  have hne : previewOpen ≠ [] := by decide
  have hfirst : ¬ previewOpen <:+: [] ++ previewOpen.dropLast := Text.not_infix_dropLast hne
  have hopen (rest : List Char) : Text.cut? previewOpen (previewOpen ++ rest) = some ([], rest) :=
    Text.cut?_append hne hfirst rest
  unfold preview? text
  rw [String.toList_ofList, hpieces, render_append, cut?_render_append page.quiet_beforePreview,
    render_append, render_previewPieces h, List.append_assoc, List.append_assoc,
    cut?_append_of_startsNowhere hlead, hopen]
  simp only [Option.map_some, Option.bind_eq_bind, Option.bind_some]
  rw [List.append_assoc, cut?_previewClose]
  simp only [Option.bind_some, unescape_escape]

end Page

end Wizard

end SelfBuild
