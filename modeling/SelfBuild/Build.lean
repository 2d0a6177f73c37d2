import SelfBuild.Artifact

/-!
# Builds

Everything that one build works on: the project, its options, the source, and a log for the user.
Where a build is ordered in texts that need not be plain, the name counts as it is looked at, and the
source goes into the artifact as it is.
-/

namespace SelfBuild

structure Build where
  project : Project := {}
  options : Options := {}
  source : String := Project.sampleProgram
  log : List String := []
deriving DecidableEq, Repr

namespace Build

def artifact (build : Build) : String :=
  Artifact.compose build.project build.options build.source

def remarks (build : Build) : List Artifact.Remark :=
  Artifact.audit build.project build.source

end Build

/-- A build as it is ordered. -/
structure Order where
  metadata : Metadata := {}
  options : Options := {}
  source : WideText := Project.sampleProgram
deriving DecidableEq, Repr

namespace Order

def project (order : Order) : Project :=
  order.metadata.project

def preamble (order : Order) : String :=
  String.ofList (Artifact.preambleChars order.project order.options)

def artifact (order : Order) : WideText :=
  WideText.plain order.preamble ++ order.source

def remarks (order : Order) : List Artifact.Remark :=
  Artifact.remarks (some order.metadata.name) order.source.toList

end Order

end SelfBuild
