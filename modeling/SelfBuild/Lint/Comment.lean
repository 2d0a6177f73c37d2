import SelfBuild.Lint.Finding
import SelfBuild.Artifact

/-!
# The comment grammar of a preamble

Line by line: the first line opens the comment, the last one is the closing delimiter, and no line
before it closes the comment.  The opening delimiter's own star cannot also start a close.
-/

namespace SelfBuild

namespace Lint

/-- The lines between the first and the last, numbered from two. -/
def bodyLines : List (List Char) -> List (List Char × Nat)
  | [] => []
  | _ :: rest => rest.dropLast.zipIdx 2

def comment (s : List Char) : List Finding :=
  match Text.lines s with
  | [] => [⟨.notOpened, some 1⟩]
  | first :: rest =>
      match Text.after? Preamble.commentOpen first with
      | none => [⟨.notOpened, some 1⟩]
      | some opened =>
          let last := rest.getLast?.getD first
          let closes (line : List Char) := Text.occurs Preamble.commentClose line
          (if Text.trim last = Preamble.commentClose then []
            else [⟨.notClosed, some (rest.length + 1)⟩]) ++
          (if closes opened then [⟨.closedEarly, some 1⟩] else []) ++
          ((bodyLines (first :: rest)).filter fun (line, _) => closes line).map
            fun (_, number) => ⟨.closedEarly, some number⟩

end Lint

end SelfBuild
