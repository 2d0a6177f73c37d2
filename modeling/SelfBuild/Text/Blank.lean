/-!
# Blank characters

Blank characters surround words and are trimmed from the ends of a text.  They are the layout
controls, the four information separators, and the spaces of every width; a zero-width space or
a byte order mark is not blank.
-/

namespace SelfBuild

namespace Text

def isBlank (c : Char) : Bool :=
  let n := c.toNat
  (9 ≤ n && n ≤ 13) || (0x1c ≤ n && n ≤ 0x20) || n == 0x85 || n == 0xa0 || n == 0x1680 ||
    (0x2000 ≤ n && n ≤ 0x200a) || n == 0x2028 || n == 0x2029 || n == 0x202f || n == 0x205f ||
    n == 0x3000

def trimLeft (s : List Char) : List Char :=
  s.dropWhile isBlank

def trimRight : List Char -> List Char
  | [] => []
  | c :: rest =>
      match trimRight rest with
      | [] => if isBlank c then [] else [c]
      | kept => c :: kept

/-- Drop the blanks at both ends. -/
def trim (s : List Char) : List Char :=
  trimRight (trimLeft s)

/-- Whether a text has no character but blanks. -/
def allBlank (s : List Char) : Bool :=
  s.all isBlank

/-- The first maximal run of characters that are not blank. -/
def firstWord (s : List Char) : List Char :=
  (trimLeft s).takeWhile fun c => !isBlank c

/-- The maximal runs of characters that are not separators. -/
def wordsBy (isSeparator : Char -> Bool) : List Char -> List (List Char)
  | [] => []
  | c :: rest =>
      if isSeparator c then wordsBy isSeparator rest
      else
        match rest, wordsBy isSeparator rest with
        | d :: _, word :: words =>
            if isSeparator d then [c] :: word :: words else (c :: word) :: words
        | _, words => [c] :: words

theorem trimRight_eq_nil_iff (s : List Char) : trimRight s = [] ↔ allBlank s = true := by
  induction s with
  | nil => simp [trimRight, allBlank]
  | cons c rest ih =>
      simp only [trimRight, allBlank, List.all_cons, Bool.and_eq_true]
      cases hrest : trimRight rest with
      | nil =>
          have hall := ih.1 hrest
          simp only [allBlank] at hall
          by_cases hc : isBlank c = true <;> simp [hc, hall]
      | cons d kept =>
          have hnot : ¬ allBlank rest = true := fun h => by simp [ih.2 h] at hrest
          simp only [allBlank] at hnot
          simp [hnot]

end Text

end SelfBuild
