import SelfBuild.Text.CharClass
import SelfBuild.Text.Table.Lower

/-!
# Letter case

Lower-case forms of whole texts, and the capitals that can make up an ASCII word.

Two rules look past one character: a capital dotted I becomes two characters, and a capital sigma
takes its final form after a cased character with none following, where characters such as
apostrophes and combining marks are passed over.
-/

namespace SelfBuild

namespace Text

/-- Whether a character has case and is not passed over beside a sigma. -/
def isCased (c : Char) : Bool :=
  if c.toNat < 0x80 then c.isAlpha else inRuns casedBounds c

/-- Whether a character is passed over beside a sigma. -/
def isIgnored (c : Char) : Bool :=
  inRuns ignoredBounds c

/-- Whether the first character that is not passed over has case. -/
def meetsCased (s : List Char) : Bool :=
  match s.dropWhile isIgnored with
  | [] => false
  | c :: _ => isCased c

def lowerChar (c : Char) : List Char :=
  if c.toNat < 0x80 then [c.toLower]
  else if c.toNat = 0x130 then ['i', Char.ofNat 0x307]
  else
    let moves (run : CaseRun) : Bool :=
      run.first ≤ c.toNat && c.toNat ≤ run.last && (c.toNat - run.first) % run.step == 0
    match lowerRuns.find? moves with
    | some run => [Char.ofNat (c.toNat + run.shift).toNat]
    | none => [c]

/-- The lower-case form of a text, given the characters before it, nearest first. -/
def lowerAfter (before : List Char) : List Char -> List Char
  | [] => []
  | c :: rest =>
      let form :=
        if c = 'Σ' then
          if meetsCased before && !meetsCased rest then ['ς'] else ['σ']
        else lowerChar c
      form ++ lowerAfter (c :: before) rest

def lower (s : List Char) : List Char :=
  lowerAfter [] s

/-- The capitals of a character where these are ASCII, and otherwise the character itself.  A word
of ASCII capitals can come from no other character, so this decides every comparison with one. -/
def capitalsOf (c : Char) : List Char :=
  if c.toNat < 0x80 then [c.toUpper]
  else
    match c with
    | 'ß' => ['S', 'S']
    | 'ı' => ['I']
    | 'ſ' => ['S']
    | 'ﬀ' => ['F', 'F']
    | 'ﬁ' => ['F', 'I']
    | 'ﬂ' => ['F', 'L']
    | 'ﬃ' => ['F', 'F', 'I']
    | 'ﬄ' => ['F', 'F', 'L']
    | 'ﬅ' => ['S', 'T']
    | 'ﬆ' => ['S', 'T']
    | _ => [c]

/-- The capitals of a text, as far as an ASCII word can show them. -/
def capitals (s : List Char) : List Char :=
  s.flatMap capitalsOf

end Text

end SelfBuild
