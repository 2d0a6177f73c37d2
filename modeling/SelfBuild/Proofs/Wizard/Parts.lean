import SelfBuild.Proofs.Wizard.Fields
import SelfBuild.Wizard.Page

/-!
# Reading the parts of a page

Each part of a page leaves a reader where it found it: outside the controls, between two tags.  The tags
of a part are fixed before its texts are known, and its fields are the texts themselves.
-/

namespace SelfBuild

namespace Wizard

/-! ## Pieces -/

theorem render_nil : render [] = [] := rfl

theorem render_cons (piece : Piece) (pieces : List Piece) :
    render (piece :: pieces) = piece.chars ++ render pieces := rfl

theorem render_flatMap {α : Type} (items : List α) (f : α → List Piece) :
    render (items.flatMap f) = items.flatMap fun item => render (f item) :=
  List.flatMap_assoc

/-- A text that is shown is decoded to itself. -/
theorem decode_shown (text : String) : String.ofList (unescape (escape text.toList)) = text := by
  rw [unescape_escape, String.ofList_toList]

theorem Reads.shown {control : Control} (text : String) :
    Reads ⟨.text, control⟩ (Piece.shown text).chars [] []
      ⟨.text, control.see (escape text.toList)⟩ :=
  .text (lt_not_mem_escape text.toList)

/-- The place after the quote that opens a value. -/
def opening (control : Control) (tag : Tag) (label : String) : Place :=
  ⟨.quoted tag label.toList '"' [], control⟩

theorem Reads.shown_opening {control : Control} {tag : Tag} {label : String} (text : String) :
    Reads (opening control tag label) (Piece.shown text).chars [] []
      ⟨.quoted tag label.toList '"' (escape text.toList), control⟩ :=
  .quoted (quote_not_mem_escape text.toList)

/-- A word without a character that markup could be made of. -/
def Bare (word : String) : Prop :=
  ∀ c ∈ word.toList, c ≠ '<' ∧ c ≠ '"' ∧ c ≠ '&'

instance (word : String) : Decidable (Bare word) :=
  inferInstanceAs (Decidable (∀ c ∈ word.toList, _))

variable {word label name : String}

theorem Bare.reads {control : Control} (h : Bare word) :
    Reads ⟨.text, control⟩ word.toList [] [] ⟨.text, control.see word.toList⟩ :=
  .text fun hmem => (h _ hmem).1 rfl

theorem Bare.reads_opening {control : Control} {tag : Tag} (h : Bare word) :
    Reads (opening control tag label) word.toList [] []
      ⟨.quoted tag label.toList '"' word.toList, control⟩ :=
  .quoted fun hmem => (h _ hmem).2.1 rfl

theorem unescape_of_not_mem {s : List Char} (h : '&' ∉ s) : unescape s = s := by
  induction s with
  | nil => rfl
  | cons c s ih =>
      rw [List.mem_cons, not_or] at h
      rw [unescape_cons (Ne.symm h.1), ih h.2]

theorem Bare.decode (h : Bare word) : String.ofList (unescape word.toList) = word := by
  rw [unescape_of_not_mem fun hmem => (h _ hmem).2.2 rfl, String.ofList_toList]

namespace Page

/-! ## Parts of a page -/

theorem chars_markupLines_cons (line : String) (lines : List String) :
    (markupLines (line :: lines)).chars =
      line.toList ++ ("\n".toList ++ (markupLines lines).chars) := by
  simp [markupLines, Piece.chars, String.toList_join]

theorem closed_lines_nil : Closed (markupLines []).chars :=
  .literal rfl rfl

theorem closed_lines_cons {line : String} {lines : List String} (h : Closed line.toList)
    (hlines : Closed (markupLines lines).chars) : Closed (markupLines (line :: lines)).chars := by
  rw [chars_markupLines_cons]
  exact h.append (.append (.literal rfl rfl) hlines)

theorem closed_lines {lines : List String} (h : ∀ line ∈ lines, Closed line.toList) :
    Closed (markupLines lines).chars := by
  induction lines with
  | nil => exact closed_lines_nil
  | cons line lines ih =>
      rw [List.forall_mem_cons] at h
      exact closed_lines_cons h.1 (ih h.2)

theorem closed_styleRule {selector style : String} (hselector : Closed selector.toList)
    (hstyle : Closed style.toList) : Closed (styleRule selector style).toList := by
  simp only [styleRule, String.toList_append]
  exact .append (.append (.append (.append (.literal rfl rfl) hselector) (.literal rfl rfl)) hstyle)
    (.literal rfl rfl)

theorem closed_top : Closed top.chars := by
  apply closed_lines
  simp only [List.forall_mem_cons]
  refine ⟨?_, ?_, ?_, ?_, ?_, ?_, closed_styleRule ?_ ?_, closed_styleRule ?_ ?_,
    closed_styleRule ?_ ?_, closed_styleRule ?_ ?_, closed_styleRule ?_ ?_, closed_styleRule ?_ ?_,
    closed_styleRule ?_ ?_, closed_styleRule ?_ ?_, closed_styleRule ?_ ?_, closed_styleRule ?_ ?_,
    closed_styleRule ?_ ?_, closed_styleRule ?_ ?_, ?_, ?_, ?_, ?_, ?_, nofun⟩
  all_goals exact .literal rfl rfl

theorem reads_textField (hlabel : Bare label) (hname : Bare name) (value : String) :
    Reads {} (render (textField label name value))
      [("label", []), ("input", ["type", "name", "value"]), ("/label", [])] [(name, value)] {} := by
  have hrender : render (textField label name value) =
      "      <label>".toList ++ (label.toList ++ (" <input type=\"text\" name=\"".toList ++
        (name.toList ++ ("\" value=\"".toList ++ ((Piece.shown value).chars ++
          "\"></label>\n".toList))))) := by
    simp [textField, render, Piece.chars]
  have hread : Reads {} (render (textField label name value))
      [("label", []), ("input", ["type", "name", "value"]), ("/label", [])]
      [(String.ofList (unescape name.toList), String.ofList (unescape (escape value.toList)))] {} := by
    let input : Tag := ⟨"input", [("type", "text")]⟩
    rw [hrender]
    refine .after (b := {}) (.literal rfl rfl) (.after hlabel.reads ?_)
    refine .after (b := opening .outside input "name") (.literal rfl rfl)
      (.after hname.reads_opening ?_)
    refine .after (b := opening .outside (input.give "name".toList name.toList) "value")
      (.literal rfl rfl) (.after (.shown_opening value) (.literal rfl rfl))
  rwa [hname.decode, decode_shown] at hread

def choiceShapes (chosen word : String) : List Shape :=
  [("option", if chosen = word then ["value", "selected"] else ["value"]), ("/option", [])]

/-- An option of a menu is a field when it is the chosen one. -/
theorem reads_choice (menu chosen word label : String) :
    Reads ⟨.text, .menu menu⟩ (render (choice chosen word label)) (choiceShapes chosen word)
      (if chosen = word then [(menu, word)] else []) ⟨.text, .menu menu⟩ := by
  let option : Tag := ⟨"option", []⟩
  let valued : Tag := option.give "value".toList (escape word.toList)
  let mark := if chosen = word then "selected" else ""
  have hrender : render (choice chosen word label) =
      ("\n          <option value=\"".toList ++ ((Piece.shown word).chars ++ "\" ".toList)) ++
        ((mark.toList ++ ">".toList) ++ ((Piece.shown label).chars ++
          "</option>\n          ".toList)) := by
    simp [choice, render, Piece.chars, mark]
  have hlead : Reads ⟨.text, .menu menu⟩ ("\n          <option value=\"".toList ++
      ((Piece.shown word).chars ++ "\" ".toList)) [] [] ⟨.between valued, .menu menu⟩ :=
    .after (b := opening (.menu menu) option "value") (.literal rfl rfl)
      (.after (.shown_opening word) (.literal rfl rfl))
  -- The mark is an attribute without a value, or nothing at all.
  have hmark : Reads ⟨.between valued, .menu menu⟩ (mark.toList ++ ">".toList)
      [("option", if chosen = word then ["value", "selected"] else ["value"])]
      (if chosen = word then [(menu, word)] else []) ⟨.text, .menu menu⟩ := by
    by_cases h : chosen = word
    · have hchosen : Reads ⟨.between valued, .menu menu⟩ ("selected".toList ++ ">".toList)
          [("option", ["value", "selected"])]
          [(menu, String.ofList (unescape (escape word.toList)))] ⟨.text, .menu menu⟩ :=
        .after (b := ⟨.attribute valued "selected".toList, .menu menu⟩) (.literal rfl rfl)
          (.literal rfl rfl)
      rw [decode_shown] at hchosen
      simpa only [mark, if_pos h] using hchosen
    · have hother : Reads ⟨.between valued, .menu menu⟩ ("".toList ++ ">".toList)
          [("option", ["value"])] [] ⟨.text, .menu menu⟩ :=
        .after (.nil _) (.literal rfl rfl)
      simpa only [mark, if_neg h] using hother
  have hrest : Reads ⟨.text, .menu menu⟩ ((Piece.shown label).chars ++
      "</option>\n          ".toList) [("/option", [])] [] ⟨.text, .menu menu⟩ :=
    .after (.shown label) (.literal rfl rfl)
  rw [hrender]
  simpa [choiceShapes] using hlead.after (hmark.append hrest)

/-- What a menu posts: the word of every option that is the chosen one. -/
def menuForm (name chosen : String) (choices : List (String × String)) : Form :=
  choices.flatMap fun entry => if chosen = entry.1 then [(name, entry.1)] else []

theorem exists_reads_choiceField (label name : String) (hlabel : Bare label) (hname : Bare name)
    (chosen : String) (choices : List (String × String)) :
    ∃ shapes, Reads {} (render (choiceField label name chosen choices)) shapes
      (menuForm name chosen choices) {} := by
  let select : Tag := ⟨"select", []⟩
  let options := choices.flatMap fun entry => render (choice chosen entry.1 entry.2)
  have hrender : render (choiceField label name chosen choices) =
      ("      <label>".toList ++ (label.toList ++ ("\n        <select name=\"".toList ++
        (name.toList ++ ("\">".toList ++ "\n          ".toList))))) ++
        (options ++ "\n        </select>\n      </label>\n".toList) := by
    simp [choiceField, options, render, Piece.chars, markupLines, List.flatMap_assoc]
  have hopen : Reads ⟨.quoted select "name".toList '"' name.toList, .outside⟩ "\">".toList
      [("select", ["name"])] [] ⟨.text, .menu (String.ofList (unescape name.toList))⟩ :=
    .literal rfl rfl
  rw [hname.decode] at hopen
  have hlead : Reads {} ("      <label>".toList ++ (label.toList ++
      ("\n        <select name=\"".toList ++ (name.toList ++ ("\">".toList ++
        "\n          ".toList))))) [("label", []), ("select", ["name"])] [] ⟨.text, .menu name⟩ := by
    refine .after (b := {}) (.literal rfl rfl) (.after hlabel.reads ?_)
    exact .after (b := opening .outside select "name") (.literal rfl rfl)
      (.after hname.reads_opening (.after hopen (.literal rfl rfl)))
  have hchoice (entry : String × String) := reads_choice name chosen entry.1 entry.2
  have hoptions := Reads.flatMap hchoice choices
  have hclose : Reads ⟨.text, .menu name⟩ "\n        </select>\n      </label>\n".toList
      [("/select", []), ("/label", [])] [] {} :=
    .literal rfl rfl
  have hread := hlead.after (hoptions.append hclose)
  rw [List.append_nil] at hread
  rw [hrender]
  exact ⟨_, hread⟩

/-- A box is a field when it is checked. -/
theorem exists_reads_boxField (label name : String) (hlabel : Bare label) (hname : Bare name)
    (checked : Bool) :
    ∃ shapes, Reads {} (boxField label name checked).chars shapes
      (if checked then [(name, "on")] else []) {} := by
  let box : Tag := ⟨"input", [("type", "checkbox")]⟩
  let named : Tag := box.give "name".toList name.toList
  let mark := if checked then "checked" else ""
  have hrender : (boxField label name checked).chars =
      "      <label><input type=\"checkbox\" name=\"".toList ++ (name.toList ++ ("\" ".toList ++
        ((mark.toList ++ "> ".toList) ++ (label.toList ++ "</label>\n".toList)))) := by
    simp [boxField, Piece.chars, mark]
  have hmark : ∃ shapes, Reads ⟨.between named, .outside⟩ (mark.toList ++ "> ".toList) shapes
      (if checked then [(name, "on")] else []) {} := by
    cases checked with
    | false => exact ⟨_, .after (.nil _) (.literal rfl rfl)⟩
    | true =>
        have hchecked : Reads ⟨.between named, .outside⟩ ("checked".toList ++ "> ".toList)
            [("input", ["type", "name", "checked"])]
            [(String.ofList (unescape name.toList), "on")] {} :=
          .after (b := ⟨.attribute named "checked".toList, .outside⟩) (.literal rfl rfl)
            (.literal rfl rfl)
        rw [hname.decode] at hchecked
        exact ⟨_, hchecked⟩
  obtain ⟨shapes, hmark⟩ := hmark
  have hclose : Reads {} (label.toList ++ "</label>\n".toList) [("/label", [])] [] {} :=
    .after hlabel.reads (.literal rfl rfl)
  have hread := hmark.append hclose
  rw [List.append_nil] at hread
  rw [hrender]
  exact ⟨_, .after (b := opening .outside box "name") (.literal rfl rfl) <|
    .after hname.reads_opening <| .after (b := ⟨.between named, .outside⟩) (.literal rfl rfl) hread⟩

/-- The words of the project, as the page shows them. -/
def projectForm (project : Project) : Form :=
  [ ("project_name", project.name.getD "None")
  , ("version", project.version)
  , ("author", project.author)
  , ("copyright", project.copyright)
  , ("description", project.description) ]

theorem exists_reads_projectPieces :
    ∃ shapes, ∀ project,
      Reads {} (render (projectPieces project)) shapes (projectForm project) {} := by
  have hopen : Closed
      (markupLines ["    <fieldset>", "      <legend>1 &middot; Metadata</legend>"]).chars :=
    closed_lines_cons (.literal rfl rfl) (closed_lines_cons (.literal rfl rfl) closed_lines_nil)
  have hclose : Closed (markupLines ["    </fieldset>"]).chars :=
    closed_lines_cons (.literal rfl rfl) closed_lines_nil
  -- The shapes are left open before the project is there, so nothing of it can be in them.
  constructor
  intro project
  simp only [projectPieces, render_append, render_cons, render_nil, List.append_nil]
  exact .append (.append (.append (.append (.append (.append hopen
    (reads_textField (by decide) (by decide) _)) (reads_textField (by decide) (by decide) _))
    (reads_textField (by decide) (by decide) _)) (reads_textField (by decide) (by decide) _))
    (reads_textField (by decide) (by decide) _)) hclose

/-- The options as a form holds them; a box that is not checked is no field. -/
def optionsForm (options : Options) : Form :=
  [("architecture", options.architecture.word), ("output_type", options.output.word)] ++
    ((if options.optimize then [("enable_optimization", "on")] else []) ++
      (if options.allowUnsafe then [("allow_unsafe", "on")] else []))

theorem menuForm_architecture (name : String) (a : Architecture) :
    menuForm name a.word (Architecture.all.map fun one => (one.word, architectureLabel one)) =
      [(name, a.word)] := by
  cases a <;> rfl

theorem menuForm_output (name : String) (o : OutputKind) :
    menuForm name o.word (OutputKind.all.map fun one => (one.word, outputLabel one)) =
      [(name, o.word)] := by
  cases o <;> rfl

theorem exists_reads_optionsPieces (options : Options) :
    ∃ shapes, Reads {} (render (optionsPieces options)) shapes (optionsForm options) {} := by
  have hopen : Closed
      (markupLines ["    <fieldset>", "      <legend>2 &middot; Configuration</legend>"]).chars :=
    closed_lines_cons (.literal rfl rfl) (closed_lines_cons (.literal rfl rfl) closed_lines_nil)
  have hclose : Closed (markupLines ["    </fieldset>"]).chars :=
    closed_lines_cons (.literal rfl rfl) closed_lines_nil
  obtain ⟨_, harchitecture⟩ := exists_reads_choiceField "Target architecture" "architecture"
    (by decide) (by decide) options.architecture.word
    (Architecture.all.map fun one => (one.word, architectureLabel one))
  obtain ⟨_, houtput⟩ := exists_reads_choiceField "Output type" "output_type"
    (by decide) (by decide) options.output.word
    (OutputKind.all.map fun one => (one.word, outputLabel one))
  obtain ⟨_, hoptimize⟩ := exists_reads_boxField "Enable optimization" "enable_optimization"
    (by decide) (by decide) options.optimize
  obtain ⟨_, hallow⟩ := exists_reads_boxField "Allow unsafe code" "allow_unsafe"
    (by decide) (by decide) options.allowUnsafe
  rw [menuForm_architecture] at harchitecture
  rw [menuForm_output] at houtput
  have hboxes := hoptimize.append (.append hallow hclose)
  rw [List.append_nil] at hboxes
  simp only [optionsPieces, render_append, render_cons, render_nil, List.append_nil]
  exact ⟨_, .append (.append (.append hopen harchitecture) houtput) hboxes⟩

/-- The end of an area gives the text that stands in it. -/
theorem reads_areaEnd (name : String) (text : String) :
    Reads ⟨.text, .area name (escape text.toList)⟩ "</textarea>".toList [("/textarea", [])]
      [(name, text)] {} := by
  have hread : Reads ⟨.text, .area name (escape text.toList)⟩ "</textarea>".toList
      [("/textarea", [])] [(name, String.ofList (unescape (escape text.toList)))] {} :=
    .literal rfl rfl
  rwa [decode_shown] at hread

theorem reads_shown_area (name : String) (text : String) :
    Reads ⟨.text, .area name []⟩ (Piece.shown text).chars [] []
      ⟨.text, .area name (escape text.toList)⟩ :=
  .shown text

theorem exists_reads_codePieces :
    ∃ shapes, ∀ input source : String, Reads {} (render (codePieces input source)) shapes
      [("raw_input", input), ("source_code", source)] {} := by
  have hopen : Closed (markupLines
      [ "    <fieldset>"
      , "      <legend>3 &middot; Code</legend>"
      , "      <label>AI prompt / code input" ]).chars :=
    closed_lines_cons (.literal rfl rfl) <| closed_lines_cons (.literal rfl rfl) <|
      closed_lines_cons (.literal rfl rfl) closed_lines_nil
  have hmiddle : Closed (markupLines
      [ "      </label>"
      , "      <button type=\"submit\" formaction=\"/convert\">Convert to C#</button>"
      , "      <button type=\"submit\" formaction=\"/validate\">Validate</button>"
      , "      <label>C# source" ]).chars :=
    closed_lines_cons (.literal rfl rfl) <| closed_lines_cons (.literal rfl rfl) <|
      closed_lines_cons (.literal rfl rfl) <| closed_lines_cons (.literal rfl rfl) closed_lines_nil
  have hclose : Closed (markupLines ["      </label>", "    </fieldset>"]).chars :=
    closed_lines_cons (.literal rfl rfl) <| closed_lines_cons (.literal rfl rfl) closed_lines_nil
  have hinput : Reads {} (Piece.markup
      ("        <textarea name=\"raw_input\" placeholder=\"" ++ hint ++ "\">")).chars
      [("textarea", ["name", "placeholder"])] [] ⟨.text, .area "raw_input" []⟩ := by
    have hhint : Bare hint := by decide
    rw [Piece.chars, String.toList_append, String.toList_append, List.append_assoc]
    exact .after (b := opening .outside ⟨"textarea", [("name", "raw_input")]⟩ "placeholder")
      (.literal rfl rfl) (.after hhint.reads_opening (.literal rfl rfl))
  have hsource : Reads {} (Piece.markup
      "        <textarea name=\"source_code\" spellcheck=\"false\">").chars
      [("textarea", ["name", "spellcheck"])] [] ⟨.text, .area "source_code" []⟩ :=
    .literal rfl rfl
  have hfeed : Closed "\n".toList := .literal rfl rfl
  constructor
  intro input source
  simp only [codePieces, render_cons, render_nil, List.append_nil, chars_markupLines_cons "</textarea>",
    List.append_assoc]
  exact .after hopen <| .after hinput <| .after (reads_shown_area _ input) <|
    .append (reads_areaEnd _ input) <| .after hfeed <| .after hmiddle <| .after hsource <|
    .after (reads_shown_area _ source) <| .append (reads_areaEnd _ source) <| .after hfeed hclose

theorem closed_reviewPiece : Closed reviewPiece.chars := by
  apply closed_lines
  simp only [List.forall_mem_cons, String.toList_append]
  refine ⟨?_, ?_, .append ?_ ?_, .append ?_ ?_, ?_, .append ?_ ?_, ?_, nofun⟩
  all_goals exact .literal rfl rfl

/-- A line of the log is a field of its own. -/
theorem reads_logField (line : String) :
    Reads {} (render (logField line)) [("input", ["type", "name", "value"])] [("log", line)] {} := by
  let log : Tag := ⟨"input", [("type", "hidden"), ("name", "log")]⟩
  have hread : Reads {} (render (logField line)) [("input", ["type", "name", "value"])]
      [("log", String.ofList (unescape (escape line.toList)))] {} := by
    simp only [logField, render_cons, render_nil, List.append_nil]
    exact .after (b := opening .outside log "value") (.literal rfl rfl)
      (.after (.shown_opening line) (.literal rfl rfl))
  rwa [decode_shown] at hread

/-! ## The rest of a page -/

theorem exists_reads_errorPieces (hasError : Bool) :
    ∃ shapes, ∀ error, (error != "") = hasError →
      Reads {} (render (errorPieces error)) shapes [] {} := by
  cases hasError with
  | false =>
      refine ⟨[], fun error h => ?_⟩
      rw [bne_eq_false_iff_eq] at h
      rw [errorPieces, if_pos h]
      exact .nil {}
  | true =>
      constructor
      intro error h
      rw [errorPieces, if_neg (bne_iff_ne.1 h)]
      simp only [render_cons, render_nil, List.append_nil]
      exact .after (b := {}) (.literal rfl rfl) (.after (.shown error) (.literal rfl rfl))

theorem reads_notePieces (note : Note) :
    Reads {} (render (notePieces note)) [("p", ["class"]), ("/p", [])] [] {} := by
  have hblank : Closed (Piece.markup " ").chars := .literal rfl rfl
  have hcolon : Closed (Piece.markup ": ").chars := .literal rfl rfl
  simp only [notePieces, render_cons, render_nil, List.append_nil]
  exact .after (b := {}) (.literal rfl rfl) <| .after (.shown note.kind) <| .after hblank <|
    .after (.shown note.code) <| .after hcolon <| .after (.shown note.message) (.literal rfl rfl)

/-- A block below a legend, for a text without tags. -/
theorem exists_reads_block (legend : String) (hlegend : Closed legend.toList) :
    ∃ shapes, ∀ text, '<' ∉ text →
      Reads {} ((markupLines ["", "  <fieldset>", legend]).chars ++ ((Piece.markup "    <pre>").chars ++
        (text ++ ((markupLines ["</pre>", "  </fieldset>"]).chars ++ (Piece.markup "  ").chars))))
        shapes [] {} := by
  have hopen : Closed (markupLines ["", "  <fieldset>", legend]).chars :=
    closed_lines_cons (.literal rfl rfl) <| closed_lines_cons (.literal rfl rfl) <|
      closed_lines_cons hlegend closed_lines_nil
  have hblock : Closed (Piece.markup "    <pre>").chars := .literal rfl rfl
  have hclose : Closed (markupLines ["</pre>", "  </fieldset>"]).chars :=
    closed_lines_cons (.literal rfl rfl) <| closed_lines_cons (.literal rfl rfl) closed_lines_nil
  have hindent : Closed (Piece.markup "  ").chars := .literal rfl rfl
  exact ⟨_, fun _ h => .after hopen (.after hblock (.after (.text h) (.after hclose hindent)))⟩

theorem exists_reads_logPieces (lines : Nat) :
    ∃ shapes, ∀ log, log.length = lines → Reads {} (render (logPieces log)) shapes [] {} := by
  cases lines with
  | zero =>
      refine ⟨[], fun log h => ?_⟩
      rw [logPieces, if_pos (List.length_eq_zero_iff.1 h)]
      exact .nil {}
  | succ lines =>
      obtain ⟨shapes, hblock⟩ := exists_reads_block "    <legend>Build log</legend>"
        (.literal rfl rfl)
      refine ⟨shapes, fun log h => ?_⟩
      have hlines : '<' ∉ log.flatMap fun line => render [.shown line, .markup "\n"] := by
        simp [render, Piece.chars, lt_not_mem_escape]
      have hne : log ≠ [] := List.ne_nil_of_length_eq_add_one h
      have hread := hblock _ hlines
      rw [logPieces, if_neg hne]
      simp only [render_append, render_flatMap, render_cons, render_nil, List.append_nil,
        List.append_assoc] at hread ⊢
      exact hread

theorem exists_reads_previewPieces (hasPreview : Bool) :
    ∃ shapes, ∀ preview, (preview != "") = hasPreview →
      Reads {} (render (previewPieces preview)) shapes [] {} := by
  cases hasPreview with
  | false =>
      refine ⟨[], fun preview h => ?_⟩
      rw [bne_eq_false_iff_eq] at h
      rw [previewPieces, if_pos h]
      exact .nil {}
  | true =>
      obtain ⟨shapes, hblock⟩ := exists_reads_block
        "    <legend>Artifact preview</legend>" (.literal rfl rfl)
      refine ⟨shapes, fun preview h => ?_⟩
      rw [previewPieces, if_neg (bne_iff_ne.1 h)]
      simp only [render_cons, render_nil, List.append_nil]
      exact hblock _ (lt_not_mem_escape preview.toList)

end Page

end Wizard

end SelfBuild
