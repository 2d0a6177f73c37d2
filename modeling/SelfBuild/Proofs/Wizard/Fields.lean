import SelfBuild.Proofs.Wizard.Markup
import SelfBuild.Text.Blank
import SelfBuild.Wizard.Form

/-!
# Reading forms

What a reader finds on a page who knows nothing of how it was written: the tags with their attributes,
and the fields that would be posted.  Every opening bracket starts a tag, wherever it stands.  The values
of attributes and the contents of text areas are taken as they stand, with their entities decoded; the
line breaks that a browser drops or adds when it posts a form are its own.
-/

namespace SelfBuild

namespace Wizard

/-! ## Tags -/

/-- A tag with its attributes in order; the name of an end tag starts with a slash. -/
structure Tag where
  name : String
  attributes : List (String × String) := []
deriving DecidableEq

inductive Token where
  | character (c : Char)
  | tag (tag : Tag)
deriving DecidableEq

/-- Where a reader stands, with what was read of a tag that is not closed. -/
inductive Mode where
  | text
  | opened (seen : List Char)
  | between (tag : Tag)
  | attribute (tag : Tag) (seen : List Char)
  | equals (tag : Tag) (label : List Char)
  | quoted (tag : Tag) (label : List Char) (quote : Char) (seen : List Char)
  | bare (tag : Tag) (label seen : List Char)
deriving DecidableEq

def Tag.give (tag : Tag) (label value : List Char) : Tag :=
  { tag with
    attributes := tag.attributes ++ [(String.ofList label, String.ofList (unescape value))] }

def Mode.step : Mode → Char → List Token × Mode
  | .text, c => if c = '<' then ([], .opened []) else ([.character c], .text)
  | .opened seen, c =>
      if c = '>' then ([.tag ⟨String.ofList seen, []⟩], .text)
      else if Text.isBlank c then ([], .between ⟨String.ofList seen, []⟩)
      else ([], .opened (seen ++ [c]))
  | .between tag, c =>
      if c = '>' then ([.tag tag], .text)
      else if Text.isBlank c then ([], .between tag)
      else ([], .attribute tag [c])
  | .attribute tag seen, c =>
      if c = '>' then ([.tag (tag.give seen [])], .text)
      else if c = '=' then ([], .equals tag seen)
      else if Text.isBlank c then ([], .between (tag.give seen []))
      else ([], .attribute tag (seen ++ [c]))
  | .equals tag label, c =>
      if c = '>' then ([.tag (tag.give label [])], .text)
      else if c = '"' || c = Char.ofNat 39 then ([], .quoted tag label c [])
      else if Text.isBlank c then ([], .equals tag label)
      else ([], .bare tag label [c])
  | .quoted tag label quote seen, c =>
      if c = quote then ([], .between (tag.give label seen))
      else ([], .quoted tag label quote (seen ++ [c]))
  | .bare tag label seen, c =>
      if c = '>' then ([.tag (tag.give label seen)], .text)
      else if Text.isBlank c then ([], .between (tag.give label seen))
      else ([], .bare tag label (seen ++ [c]))

def scan : Mode → List Char → List Token × Mode
  | mode, [] => ([], mode)
  | mode, c :: rest =>
      let (read, next) := mode.step c
      let (later, last) := scan next rest
      (read ++ later, last)

def tokens (html : List Char) : List Token :=
  (scan .text html).1

/-- The names of a tag and of its attributes. -/
abbrev Shape := String × List String

def Token.shape? : Token → Option Shape
  | .character _ => none
  | .tag found => some (found.name, found.attributes.map Prod.fst)

/-- The tags of a page without anything of their values. -/
def outline (html : List Char) : List Shape :=
  (tokens html).filterMap Token.shape?

theorem scan_cons (mode : Mode) (c : Char) (rest : List Char) :
    scan mode (c :: rest) =
      ((mode.step c).1 ++ (scan (mode.step c).2 rest).1, (scan (mode.step c).2 rest).2) := rfl

theorem scan_append (mode : Mode) (s t : List Char) :
    scan mode (s ++ t) =
      ((scan mode s).1 ++ (scan (scan mode s).2 t).1, (scan (scan mode s).2 t).2) := by
  induction s generalizing mode with
  | nil => rfl
  | cons c s ih => rw [List.cons_append, scan_cons, ih, scan_cons, List.append_assoc]

/-- Without an opening bracket there are only characters. -/
theorem scan_text {s : List Char} (h : '<' ∉ s) : scan .text s = (s.map .character, .text) := by
  induction s with
  | nil => rfl
  | cons c s ih =>
      rw [List.mem_cons, not_or] at h
      have hstep : Mode.text.step c = ([.character c], .text) := if_neg (Ne.symm h.1)
      rw [scan_cons, hstep, ih h.2]
      rfl

/-- Without the quote there is no end of a quoted value. -/
theorem scan_quoted {s : List Char} {quote : Char} (h : quote ∉ s) (tag : Tag)
    (label seen : List Char) :
    scan (.quoted tag label quote seen) s = ([], .quoted tag label quote (seen ++ s)) := by
  induction s generalizing seen with
  | nil => rw [List.append_nil]; rfl
  | cons c s ih =>
      rw [List.mem_cons, not_or] at h
      have hstep : (Mode.quoted tag label quote seen).step c =
          ([], .quoted tag label quote (seen ++ [c])) := if_neg (Ne.symm h.1)
      rw [scan_cons, hstep, ih h.2, List.append_assoc]
      rfl

/-! ## Fields -/

/-- The value of an attribute, or a default for a tag that does not have it. -/
def Tag.value (tag : Tag) (label default : String) : String :=
  (tag.attributes.lookup label).getD default

def Tag.has (tag : Tag) (label : String) : Bool :=
  (tag.attributes.lookup label).isSome

/-- What an input posts; a box posts nothing unless it is checked. -/
def Tag.inputFields (tag : Tag) : Form :=
  if tag.value "type" "text" = "checkbox" then
    if tag.has "checked" then [(tag.value "name" "", tag.value "value" "on")] else []
  else [(tag.value "name" "", tag.value "value" "")]

/-- The part of a form that a reader is in. -/
inductive Control where
  | outside
  | area (name : String) (seen : List Char)
  | menu (name : String)
deriving DecidableEq

/-- A text within a control; only an area keeps it. -/
def Control.see : Control → List Char → Control
  | .area name seen, s => .area name (seen ++ s)
  | .outside, _ => .outside
  | .menu name, _ => .menu name

def Control.step : Control → Token → Form × Control
  | control, .character c => ([], control.see [c])
  | .outside, .tag tag =>
      if tag.name = "input" then (tag.inputFields, .outside)
      else if tag.name = "textarea" then ([], .area (tag.value "name" "") [])
      else if tag.name = "select" then ([], .menu (tag.value "name" ""))
      else ([], .outside)
  | .area name seen, .tag tag =>
      if tag.name = "/textarea" then ([(name, String.ofList (unescape seen))], .outside)
      else ([], .area name seen)
  | .menu name, .tag tag =>
      if tag.name = "/select" then ([], .outside)
      else if tag.name = "option" && tag.has "selected" then
        ([(name, tag.value "value" "")], .menu name)
      else ([], .menu name)

def gather : Control → List Token → Form × Control
  | control, [] => ([], control)
  | control, token :: rest =>
      let (read, next) := control.step token
      let (later, last) := gather next rest
      (read ++ later, last)

/-- The form that a page posts when no button is pressed by name. -/
def fields (html : List Char) : Form :=
  (gather .outside (tokens html)).1

theorem gather_cons (control : Control) (token : Token) (rest : List Token) :
    gather control (token :: rest) =
      ((control.step token).1 ++ (gather (control.step token).2 rest).1,
        (gather (control.step token).2 rest).2) := rfl

theorem gather_append (control : Control) (read later : List Token) :
    gather control (read ++ later) =
      ((gather control read).1 ++ (gather (gather control read).2 later).1,
        (gather (gather control read).2 later).2) := by
  induction read generalizing control with
  | nil => rfl
  | cons token read ih => rw [List.cons_append, gather_cons, ih, gather_cons, List.append_assoc]

theorem Control.see_append (control : Control) (s t : List Char) :
    (control.see s).see t = control.see (s ++ t) := by
  cases control <;> simp [see]

theorem Control.see_nil (control : Control) : control.see [] = control := by
  cases control <;> simp [see]

/-- Characters alone are no field. -/
theorem gather_characters (control : Control) (s : List Char) :
    gather control (s.map .character) = ([], control.see s) := by
  induction s generalizing control with
  | nil => rw [control.see_nil]; rfl
  | cons c s ih =>
      have hstep : control.step (.character c) = ([], control.see [c]) := by cases control <;> rfl
      rw [List.map_cons, gather_cons, hstep, ih, control.see_append]
      rfl

/-! ## Going over a text -/

/-- A place on a page, as a reader knows it. -/
structure Place where
  mode : Mode := .text
  control : Control := .outside

/-- Between two places a reader finds tags of some shapes, and some fields. -/
structure Reads (start : Place) (s : List Char) (shapes : List Shape) (form : Form)
    (stop : Place) : Prop where
  mode_eq : (scan start.mode s).2 = stop.mode
  shapes_eq : (scan start.mode s).1.filterMap Token.shape? = shapes
  form_eq : gather start.control (scan start.mode s).1 = (form, stop.control)

variable {a b c : Place} {s t : List Char} {shapes shapes' : List Shape} {form form' : Form}

theorem Reads.append (h : Reads a s shapes form b) (h' : Reads b t shapes' form' c) :
    Reads a (s ++ t) (shapes ++ shapes') (form ++ form') c where
  mode_eq := by rw [scan_append, h.mode_eq, h'.mode_eq]
  shapes_eq := by
    rw [scan_append, List.filterMap_append, h.shapes_eq, h.mode_eq, h'.shapes_eq]
  form_eq := by rw [scan_append, gather_append, h.form_eq, h.mode_eq, h'.form_eq]

/-- A part without fields in front. -/
theorem Reads.after (h : Reads a s shapes [] b) (h' : Reads b t shapes' form c) :
    Reads a (s ++ t) (shapes ++ shapes') form c :=
  h.append h'

theorem Reads.nil (place : Place) : Reads place [] [] [] place :=
  ⟨rfl, rfl, rfl⟩

/-- A fixed text is read by going over its characters. -/
theorem Reads.literal (hmode : (scan a.mode s).2 = b.mode)
    (hform : gather a.control (scan a.mode s).1 = (form, b.control)) :
    Reads a (String.ofList s).toList ((scan a.mode s).1.filterMap Token.shape?) form b := by
  rw [String.toList_ofList]
  exact ⟨hmode, rfl, hform⟩

/-- A text without tags is passed over, or kept by the area that it stands in. -/
theorem Reads.text {control : Control} (h : '<' ∉ s) :
    Reads ⟨.text, control⟩ s [] [] ⟨.text, control.see s⟩ := by
  have hscan := scan_text h
  have hshapes : (s.map Token.character).filterMap Token.shape? = [] := by simp [Token.shape?]
  exact ⟨by rw [hscan], by rw [hscan, hshapes], by rw [hscan, gather_characters]⟩

theorem Reads.quoted {tag : Tag} {label seen : List Char} {quote : Char} {control : Control}
    (h : quote ∉ s) :
    Reads ⟨.quoted tag label quote seen, control⟩ s [] []
      ⟨.quoted tag label quote (seen ++ s), control⟩ := by
  have hscan := scan_quoted h tag label seen
  exact ⟨by rw [hscan], by rw [hscan]; rfl, by rw [hscan]; rfl⟩

/-- Items that each are read outside the controls are read in a row. -/
theorem Reads.flatMap {α : Type} {f : α → List Char} {shapesOf : α → List Shape}
    {formOf : α → Form} {place : Place}
    (h : ∀ item, Reads place (f item) (shapesOf item) (formOf item) place) (items : List α) :
    Reads place (items.flatMap f) (items.flatMap shapesOf) (items.flatMap formOf) place := by
  induction items with
  | nil => exact .nil place
  | cons item items ih =>
      rw [List.flatMap_cons, List.flatMap_cons, List.flatMap_cons]
      exact (h item).append ih

/-- Items whose shapes do not depend on what they are. -/
theorem Reads.flatMap_const {α : Type} {f : α → List Char} {formOf : α → Form} {place : Place}
    (h : ∀ item, Reads place (f item) shapes (formOf item) place) (items : List α) :
    Reads place (items.flatMap f) (List.replicate items.length shapes).flatten
      (items.flatMap formOf) place := by
  have hshapes : (items.flatMap fun _ => shapes) = (List.replicate items.length shapes).flatten := by
    rw [List.flatMap_def, List.map_const']
  rw [← hshapes]
  exact .flatMap h items

/-- A text of the page's own, with tags as it likes, that holds no field and leaves the reader outside. -/
def Closed (s : List Char) : Prop :=
  Reads {} s (outline s) [] {}

theorem Reads.outline_eq (h : Reads {} s shapes form {}) : outline s = shapes :=
  h.shapes_eq

theorem Reads.fields_eq (h : Reads {} s shapes form {}) : fields s = form := by
  have hform := h.form_eq
  unfold fields tokens
  rw [hform]

/-- A box that is not checked is no field, and entities are decoded. -/
example : fields "<input type=checkbox name=a><textarea name='b'>&lt;i&gt;</textarea>".toList =
    [("b", "<i>")] :=
  (Reads.literal (a := {}) (b := {}) rfl rfl).fields_eq

theorem Reads.closed (h : Reads {} s shapes [] {}) : Closed s := by
  unfold Closed
  rwa [h.outline_eq]

theorem Closed.append (h : Closed s) (h' : Closed t) : Closed (s ++ t) :=
  (Reads.append h h').closed

theorem Closed.literal (hmode : (scan .text s).2 = .text)
    (hform : gather .outside (scan .text s).1 = ([], .outside)) :
    Closed (String.ofList s).toList :=
  (Reads.literal (a := {}) (b := {}) hmode hform).closed

end Wizard

end SelfBuild
