import SelfBuild.Proofs.Disk.Files
import SelfBuild.Proofs.Json.Writing
import SelfBuild.Proofs.Request.Build

/-!
# Written requests

For every build there is a text that is read as the request for it, whatever stands in its texts.
-/

namespace SelfBuild

/-- The order for a build, in plain texts. -/
def Build.order (build : Build) : Order where
  metadata :=
    { name := build.project.name.getD ""
      version := build.project.version
      author := build.project.author
      copyright := build.project.copyright
      description := build.project.description }
  options := build.options
  source := build.source

/-- An order says all of a project whose name is not missing. -/
theorem Build.project_order {build : Build} (h : build.project.name.isSome) :
    build.order.project = build.project := by
  obtain ⟨⟨name, version, author, copyright, description⟩, options, source, log⟩ := build
  obtain ⟨name, rfl⟩ := Option.isSome_iff_exists.1 h
  rfl

theorem Build.artifact_order {build : Build} (h : build.project.name.isSome) :
    build.order.artifact = build.artifact := by
  have hsource : build.order.source = build.source := rfl
  rw [Order.artifact_plain hsource, Build.project_order h]
  rfl

namespace Request

def textItem (key s : String) : Json.Item :=
  ⟨key, Json.quote s, .string s⟩

def flagItem (key : String) (b : Bool) : Json.Item :=
  ⟨key, Json.writeFlag b, .bool b⟩

def objectItem (key : String) (items : List Json.Item) : Json.Item :=
  ⟨key, Json.writeObject (items.map Json.Item.written), .object (Json.putItems [] items)⟩

def projectItems (project : Project) : List Json.Item :=
  [ textItem "projectName" (project.name.getD "")
  , textItem "version" project.version
  , textItem "author" project.author
  , textItem "copyright" project.copyright
  , textItem "description" project.description ]

def optionsItems (options : Options) : List Json.Item :=
  [ textItem "architecture" options.architecture.word
  , textItem "outputType" options.output.word
  , flagItem "enableOptimization" options.optimize
  , flagItem "allowUnsafe" options.allowUnsafe ]

/-- The fields of a request for a build whose source is written in some way. -/
def requestItems (build : Build) (text : List Char) (source : WideText) : List Json.Item :=
  [ objectItem "metadata" (projectItems build.project)
  , objectItem "config" (optionsItems build.options)
  , ⟨"sourceCode", text, .string source⟩ ]

def requestWith (build : Build) (text : List Char) (source : WideText) : String :=
  String.ofList (Json.writeObject ((requestItems build text source).map Json.Item.written))

/-- The request for a build, written as a text. -/
def requestText (build : Build) : String :=
  requestWith build (Json.quote build.source) build.source

theorem putItems_requestItems (build : Build) (text : List Char) (source : WideText) :
    Json.putItems [] (requestItems build text source) =
      orderFields { build.order with source := source } := by
  simp [Json.putItems, requestItems, projectItems, optionsItems, textItem, flagItem, objectItem,
    Json.Fields.put, orderFields, projectFields, Build.order, Options.toRecord, Options.Choice.key]

theorem writes_projectItems (project : Project) :
    ∀ item ∈ projectItems project, Json.Writes 0 item.text item.value := by
  simp only [projectItems, List.forall_mem_cons]
  exact ⟨Json.writes_quote _, Json.writes_quote _, Json.writes_quote _, Json.writes_quote _,
    Json.writes_quote _, nofun⟩

theorem writes_optionsItems (options : Options) :
    ∀ item ∈ optionsItems options, Json.Writes 0 item.text item.value := by
  simp only [optionsItems, List.forall_mem_cons]
  exact ⟨Json.writes_quote _, Json.writes_quote _, Json.writes_writeFlag _, Json.writes_writeFlag _,
    nofun⟩

variable {nesting : Json.Nesting} {build : Build} {text : List Char} {source : WideText}
variable {disk : Disk} {path : SelfBuild.Path}

theorem writes_requestItems (build : Build) (h : Json.Writes 0 text (.string source)) :
    ∀ item ∈ requestItems build text source, Json.Writes 1 item.text item.value := by
  simp only [requestItems, List.forall_mem_cons]
  exact ⟨Json.writes_object (writes_projectItems _), Json.writes_object (writes_optionsItems _),
    h.mono (by decide), nofun⟩

/-- A file that holds a request is loaded as that request, however its source is written. -/
theorem load_requestWith (nesting : Json.Nesting) (h : Json.Writes 0 text (.string source))
    (hbytes : disk.readBytes path = .ok (Text.Utf8.encode (requestWith build text source))) :
    load nesting disk path = .ok (.object (orderFields { build.order with source := source })) := by
  have hitems := writes_requestItems build h
  have hreturn : '\r' ∉ (requestWith build text source).toList := by
    rw [requestWith, String.toList_ofList]
    exact (Json.writes_object hitems).noReturn
  have hread : Json.read nesting (requestWith build text source) =
      .ok (.object (orderFields { build.order with source := source })) := by
    rw [← putItems_requestItems build text]
    exact Json.read_writeObject hitems (Nat.lt_of_lt_of_le (by decide) nesting.enough)
  unfold load
  simp only [Disk.readText_of_readBytes hbytes hreturn, hread]

/-- A file that holds a written request is loaded as that request. -/
theorem load_requestText (nesting : Json.Nesting)
    (h : disk.readBytes path = .ok (Text.Utf8.encode (requestText build))) :
    load nesting disk path = .ok (.object (orderFields build.order)) :=
  load_requestWith nesting (Json.writes_quote build.source) h

end Request

end SelfBuild
