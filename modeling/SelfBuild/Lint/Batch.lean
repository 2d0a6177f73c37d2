import SelfBuild.Lint.Comment
import SelfBuild.Text.Case

/-!
# The batch grammar of a preamble

The lines between the delimiters as the command interpreter sees them: blocks in parentheses, labels
and jumps, and a last command that leaves the script.

A line is a label, a command, or nothing (blank lines and comments).  The syntax of a command is
what is left once quoted text and escaped characters are gone.
-/

namespace SelfBuild

namespace Lint

/-- The characters of a line outside quotes and not escaped by a caret. -/
def bareFrom (quoted : Bool) : List Char -> List Char
  | [] => []
  | c :: rest =>
      if c = '^' && !quoted then
        match rest with
        | [] => []
        | _ :: rest => bareFrom false rest
      else if c = '"' then bareFrom (!quoted) rest
      else if quoted then bareFrom true rest
      else c :: bareFrom false rest

def bare (line : List Char) : List Char :=
  bareFrom false line

/-- What a line is to the interpreter. -/
inductive Row where
  | nothing
  | label (name : List Char)
  | command (text : List Char)
deriving DecidableEq, Repr

/-- Whether a text is a remark: two colons, or the word for it with something after it. -/
def isRemark (text : List Char) : Bool :=
  "::".toList.isPrefixOf text || "rem ".toList.isPrefixOf (Text.lower text)

def Row.ofLine (line : List Char) : Row :=
  let text := Text.trim line
  if text = [] || isRemark text then .nothing
  else
    match text with
    | ':' :: name => .label (Text.lower (Text.firstWord name))
    | _ => .command text

def rows (s : List Char) : List (Row × Nat) :=
  (bodyLines (Text.lines s)).map fun (line, number) => (Row.ofLine line, number)

/-- Whether a text starts with a word, in any case. -/
def startsWithWord (word text : List Char) : Bool :=
  (text.take word.length).map Char.toLower = word

/-- The destination of a jump that starts right here, and the length of the jump.  A colon before
the destination is not part of it, unless nothing else is there. -/
def jumpAt? (s : List Char) : Option (List Char × Nat) :=
  if startsWithWord "goto".toList s then
    let gap := (s.drop 4).takeWhile Text.isBlank
    let run := ((s.drop 4).dropWhile Text.isBlank).takeWhile fun c => !Text.isBlank c
    if gap = [] || run = [] then none
    else
      let target :=
        match run with
        | ':' :: c :: rest => c :: rest
        | _ => run
      some (target, 4 + gap.length + run.length)
  else none

/-- The destinations of the jumps in a text.  A jump starts where no word goes on, and the first
`skip` characters belong to the jump before. -/
def jumpsFrom (inWord : Bool) : Nat -> List Char -> List (List Char)
  | _, [] => []
  | skip + 1, c :: rest => jumpsFrom (Text.isWord c) skip rest
  | 0, c :: rest =>
      match if inWord then none else jumpAt? (c :: rest) with
      | some (target, length) => target :: jumpsFrom (Text.isWord c) (length - 1) rest
      | none => jumpsFrom (Text.isWord c) 0 rest

/-- The destinations of the jumps in a bare text, in lower case. -/
def jumps (text : List Char) : List (List Char) :=
  (jumpsFrom false 0 text).map Text.lower

/-- Whether a bare text is an echo, whose parentheses are no block syntax. -/
def isEcho (text : List Char) : Bool :=
  let text :=
    match text with
    | '@' :: rest => rest
    | _ => text
  startsWithWord "echo".toList text &&
    match text.drop 4 with
    | [] => true
    | c :: _ => Text.isBlank c || c = '.' || c = ':'

/-- Follow the parentheses of a bare text from a depth of open blocks: how many close no block, and
the depth at the end. -/
def parentheses : Nat -> List Char -> Nat × Nat
  | depth, [] => (0, depth)
  | depth, c :: rest =>
      if c = '(' then parentheses (depth + 1) rest
      else if c = ')' then
        match depth with
        | 0 =>
            let (stray, depth) := parentheses 0 rest
            (stray + 1, depth)
        | depth + 1 => parentheses depth rest
      else parentheses depth rest

/-- The findings on the blocks of some commands, and the number of blocks left open. -/
def blocks : Nat -> List (List Char × Nat) -> List Finding × Nat
  | depth, [] => ([], depth)
  | depth, (text, number) :: rest =>
      if isEcho text then
        let (findings, last) := blocks depth rest
        if 0 < depth && text.contains ')' then (⟨.echoEndsBlock, some number⟩ :: findings, last)
        else (findings, last)
      else
        let (stray, next) := parentheses depth text
        let (findings, last) := blocks next rest
        (List.replicate stray ⟨.strayParenthesis, some number⟩ ++ findings, last)

def commands (rows : List (Row × Nat)) : List (List Char × Nat) :=
  rows.filterMap fun (row, number) =>
    match row with
    | .command text => some (text, number)
    | _ => none

/-- The labels that a jump may name; the end of the file is always one. -/
def labels (rows : List (Row × Nat)) : List (List Char) :=
  "eof".toList :: rows.filterMap fun (row, _) =>
    match row with
    | .label name => some name
    | _ => none

/-- Whether a command leaves the script. -/
def leaves (text : List Char) : Bool :=
  let low := Text.lower text
  low = "goto :eof".toList || "exit".toList.isPrefixOf low

/-- The finding on the last command. -/
def lastCommand (commands : List (List Char × Nat)) : List Finding :=
  match commands.getLast? with
  | none => [⟨.noCommand, none⟩]
  | some (text, number) => if leaves text then [] else [⟨.runsOn, some number⟩]

def unknownJumps (labels : List (List Char)) (commands : List (List Char × Nat)) : List Finding :=
  commands.flatMap fun (text, number) =>
    ((jumps text).filter fun target => !labels.contains target).map fun target =>
      ⟨.unknownLabel (String.ofList target), some number⟩

def batch (s : List Char) : List Finding :=
  let all := rows s
  let given := commands all
  let syntactic := given.map fun (text, number) => (bare text, number)
  let (findings, depth) := blocks 0 syntactic
  findings ++ (if depth = 0 then [] else [⟨.openBlocks depth, none⟩]) ++
    unknownJumps (labels all) syntactic ++ lastCommand given

/-- The findings of both grammars. -/
def preamble (s : List Char) : List Finding :=
  comment s ++ batch s

/-- The findings on the preamble of an artifact, if it has one. -/
def artifact? (s : List Char) : Option (List Finding) :=
  (Artifact.splitChars? s).map fun (text, _) => preamble text

end Lint

end SelfBuild
