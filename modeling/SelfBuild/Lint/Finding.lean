/-!
# Findings

What the linter has to say about a preamble, and on which line.  All findings are errors.
-/

namespace SelfBuild

namespace Lint

inductive Cause where
  | notOpened
  | notClosed
  | closedEarly
  | strayParenthesis
  | openBlocks (count : Nat)
  | echoEndsBlock
  | unknownLabel (name : String)
  | noCommand
  | runsOn
deriving DecidableEq, Repr

/-- A cause with its line; some causes belong to no line. -/
structure Finding where
  cause : Cause
  line : Option Nat
deriving DecidableEq, Repr

def Finding.kind (_ : Finding) : String := "ERROR"

def Cause.code : Cause -> String
  | .notOpened => "EXF-CMT-0001"
  | .notClosed => "EXF-CMT-0002"
  | .closedEarly => "EXF-CMT-0003"
  | .strayParenthesis => "EXF-BAT-0001"
  | .openBlocks _ => "EXF-BAT-0001"
  | .echoEndsBlock => "EXF-BAT-0002"
  | .unknownLabel _ => "EXF-BAT-0003"
  | .noCommand => "EXF-BAT-0004"
  | .runsOn => "EXF-BAT-0004"

def Cause.message : Cause -> String
  | .notOpened => "Preamble must open with '/*'."
  | .notClosed => "Preamble must end with a '*/' line."
  | .closedEarly => "Comment closed early by '*/'."
  | .strayParenthesis => "Unbalanced ')' in batch block."
  | .openBlocks count => s!"{count} batch block(s) left open."
  | .echoEndsBlock => "Unescaped ')' in echo inside a block ends the block early."
  | .unknownLabel name => s!"goto target ':{name}' is not defined."
  | .noCommand => "Preamble has no batch commands."
  | .runsOn => "Last command must leave the script before the comment close."

end Lint

end SelfBuild
