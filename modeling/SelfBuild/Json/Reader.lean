import SelfBuild.Json.Nesting
import SelfBuild.Json.Value
import SelfBuild.Decimal.Reading

/-!
# Reading JSON

A reader that names the first fault of a text and where it stands.

The reader works on the points that are left, so a place in the text is given by how many points are
left there; `Fault.ofStop` turns that into an index from the start.  Beyond the standard it accepts
the three names of numbers that are not finite, and an escape that names half a surrogate pair.  It
refuses integers of more digits than any caller needs, and gives up on containers that are nested too
deeply.
-/

namespace SelfBuild

namespace Json

/-- What is wrong at a place of a text. -/
inductive Complaint where
  | expectingValue
  | expectingName
  | expectingColon
  | expectingComma
  | extraData
  | unterminatedString
  | controlCharacter
  | badEscape
  | badCodePoint
  | byteOrderMark
deriving DecidableEq, Repr

def Complaint.text : Complaint -> String
  | .expectingValue => "Expecting value"
  | .expectingName => "Expecting property name enclosed in double quotes"
  | .expectingColon => "Expecting ':' delimiter"
  | .expectingComma => "Expecting ',' delimiter"
  | .extraData => "Extra data"
  | .unterminatedString => "Unterminated string starting at"
  | .controlCharacter => "Invalid control character at"
  | .badEscape => "Invalid \\escape"
  | .badCodePoint => "Invalid \\uXXXX escape"
  | .byteOrderMark => "Unexpected UTF-8 BOM (decode using utf-8-sig)"

/-- The two kinds of values that hold others. -/
inductive Container where
  | array
  | object
deriving DecidableEq, Repr

def Container.word : Container -> String
  | .array => "array"
  | .object => "object"

/-- Why the reader stops, with the number of points left at the place. -/
inductive Stop where
  | complaint (what : Complaint) (left : Nat)
  | longInteger (digits : Nat)
  | tooDeep (container : Container)
deriving DecidableEq, Repr

def isGap (point : Point) : Bool :=
  point = .char ' ' || point = .char '\t' || point = .char '\n' || point = .char '\r'

def skipGap (s : List Point) : List Point :=
  s.dropWhile isGap

def hexValue? (c : Char) : Option Nat :=
  if c.isDigit then some (c.toNat - '0'.toNat)
  else if 'a' ≤ c && c ≤ 'f' then some (c.toNat - 'a'.toNat + 10)
  else if 'A' ≤ c && c ≤ 'F' then some (c.toNat - 'A'.toNat + 10)
  else none

/-- The number written in four hexadecimal digits, and the rest. -/
def hexQuad? : List Point -> Option (Nat × List Point)
  | .char a :: .char b :: .char c :: .char d :: rest => do
      let a ← hexValue? a
      let b ← hexValue? b
      let c ← hexValue? c
      let d ← hexValue? d
      some (4096 * a + 256 * b + 16 * c + d, rest)
  | _ => none

/-- The second half of a pair of surrogates, where it directly follows and does not end the text. -/
def lowSurrogate? : List Point -> Option (Nat × List Point)
  | .char '\\' :: .char 'u' :: rest =>
      (hexQuad? rest).filter fun (n, more) => 0xdc00 ≤ n && n ≤ 0xdfff && !more.isEmpty
  | _ => none

def escaped? : Point -> Option Char
  | .char '"' => some '"'
  | .char '\\' => some '\\'
  | .char '/' => some '/'
  | .char 'b' => some (Char.ofNat 8)
  | .char 'f' => some (Char.ofNat 12)
  | .char 'n' => some '\n'
  | .char 'r' => some '\r'
  | .char 't' => some '\t'
  | _ => none

/-- Read the rest of a string up to its closing quote.  `start` is the text from the opening quote
on, `done` holds the points so far, last first, and each step takes at least one point.  Half a
surrogate pair without its other half stays what it is. -/
def readString (start : List Point) :
    Nat -> List Point -> List Point -> Except Stop (WideText × List Point)
  | 0, _, _ => .error (.complaint .unterminatedString start.length)
  | _, _, [] => .error (.complaint .unterminatedString start.length)
  | fuel + 1, done, point :: rest =>
      if point = .char '"' then .ok (.ofPoints done.reverse, rest)
      else if point = .char '\\' then
        match rest with
        | [] => .error (.complaint .unterminatedString start.length)
        | .char 'u' :: digits =>
            match hexQuad? digits with
            | none => .error (.complaint .badCodePoint rest.length)
            | some (n, more) =>
                if more.isEmpty then .error (.complaint .badCodePoint rest.length)
                else if 0xd800 ≤ n && n ≤ 0xdbff then
                  match lowSurrogate? more with
                  | some (low, more) =>
                      let full := 0x10000 + (n - 0xd800) * 0x400 + (low - 0xdc00)
                      readString start fuel (.char (Char.ofNat full) :: done) more
                  | none => readString start fuel (.ofUnit n :: done) more
                else readString start fuel (.ofUnit n :: done) more
        | letter :: more =>
            match escaped? letter with
            | some c => readString start fuel (.char c :: done) more
            | none => .error (.complaint .badEscape (rest.length + 1))
      else if point.code < 0x20 then .error (.complaint .controlCharacter (rest.length + 1))
      else readString start fuel (point :: done) rest

/-- The digits of a whole number: a lone zero, or digits that do not start with one. -/
def wholeDigits? : List Char -> Option (List Char × List Char)
  | '0' :: rest => some (['0'], rest)
  | s =>
      let (digits, rest) := Decimal.spanDigits s
      if digits.isEmpty then none else some (digits, rest)

/-- The fraction of a number: a point with a digit after it. -/
def fraction? : List Char -> Option (List Char × List Char)
  | '.' :: rest =>
      let (digits, rest) := Decimal.spanDigits rest
      if digits.isEmpty then none else some (digits, rest)
  | _ => none

def power? : List Char -> Option (Int × List Char)
  | c :: rest => if c = 'e' || c = 'E' then Decimal.exponent? rest else none
  | [] => none

/-- A number after its sign, and the rest; or how many digits an integer has too many of. -/
def number (negative : Bool) (whole : List Char) (rest : List Char) :
    Except Nat (Value × List Char) :=
  let part := fraction? rest
  let (fraction, rest) := part.getD ([], rest)
  let power := power? rest
  let (exponent, rest) := power.getD (0, rest)
  if part.isSome || power.isSome then
    let magnitude : Decimal.Scaled :=
      ⟨Decimal.ofDigits (whole ++ fraction), exponent - Int.ofNat fraction.length⟩
    .ok (.float (Decimal.signed negative (Decimal.toFloat magnitude)), rest)
  else if whole.length > digitLimit then .error whole.length
  else
    let n := Int.ofNat (Decimal.ofDigits whole)
    .ok (.int (if negative then -n else n), rest)

/-- The constants, by the words that stand for them. -/
def constants : List (String × Value) :=
  [("null", .null), ("true", .bool true), ("false", .bool false), ("NaN", .float (0.0 / 0.0)),
    ("Infinity", .float (1.0 / 0.0)), ("-Infinity", .float (-1.0 / 0.0))]

def constant? (s : List Char) : Option (Value × List Char) :=
  constants.findSome? fun (word, value) =>
    if word.toList.isPrefixOf s then some (value, s.drop word.length) else none

/-- The constant or number that a text starts with, if it does. -/
def scalar? (s : List Char) : Option (Except Nat (Value × List Char)) :=
  match constant? s with
  | some found => some (.ok found)
  | none =>
      let (negative, body) :=
        match s with
        | '-' :: rest => (true, rest)
        | _ => (false, s)
      (wholeDigits? body).map fun (whole, rest) => number negative whole rest

/-- Whether a constant or a number can go on with a character. -/
def isScalarChar (c : Char) : Bool :=
  c.isAlphanum || c = '+' || c = '-' || c = '.'

/-- The longest row of characters of constants and numbers, and the rest. -/
def spanScalar : List Point -> List Char × List Point
  | .char c :: rest =>
      if isScalarChar c then
        let (word, rest) := spanScalar rest
        (c :: word, rest)
      else ([], .char c :: rest)
  | rest => ([], rest)

def readScalar (s : List Point) : Except Stop (Value × List Point) :=
  let (word, rest) := spanScalar s
  match scalar? word with
  | some (.ok (value, more)) => .ok (value, more.map .char ++ rest)
  | some (.error digits) => .error (.longInteger digits)
  | none => .error (.complaint .expectingValue s.length)

mutual

/-- Read a value that starts right here, inside some open containers.  Each point opens at most
one container and each container or item takes at most two units of fuel. -/
def readValue (nesting : Nesting) (outer : Nat) : Nat -> List Point -> Except Stop (Value × List Point)
  | 0, s => .error (.complaint .expectingValue s.length)
  | fuel + 1, s =>
      match s with
      | .char '"' :: rest => do
          let (text, rest) ← readString s fuel [] rest
          .ok (.string text, rest)
      | .char '[' :: rest =>
          if outer ≥ nesting.depth then .error (.tooDeep .array)
          else
            match skipGap rest with
            | .char ']' :: rest => .ok (.array [], rest)
            | rest => readItems nesting (outer + 1) fuel [] rest
      | .char '\x7b' :: rest =>
          if outer ≥ nesting.depth then .error (.tooDeep .object)
          else
            match skipGap rest with
            | .char '\x7d' :: rest => .ok (.object [], rest)
            | rest => readFields nesting (outer + 1) fuel [] rest
      | _ => readScalar s

/-- Read the items of an array up to its end; `done` holds those before, last first. -/
def readItems (nesting : Nesting) (outer : Nat) :
    Nat -> List Value -> List Point -> Except Stop (Value × List Point)
  | 0, _, s => .error (.complaint .expectingValue s.length)
  | fuel + 1, done, s => do
      let (item, rest) ← readValue nesting outer fuel s
      match skipGap rest with
      | .char ']' :: rest => .ok (.array (item :: done).reverse, rest)
      | .char ',' :: rest => readItems nesting outer fuel (item :: done) (skipGap rest)
      | rest => .error (.complaint .expectingComma rest.length)

/-- Read the fields of an object up to its end.  A repeated key keeps its first place and takes its
last value. -/
def readFields (nesting : Nesting) (outer : Nat) :
    Nat -> Fields -> List Point -> Except Stop (Value × List Point)
  | 0, _, s => .error (.complaint .expectingName s.length)
  | fuel + 1, done, s =>
      match s with
      | .char '"' :: rest => do
          let (key, rest) ← readString s fuel [] rest
          match skipGap rest with
          | .char ':' :: rest =>
              let (value, rest) ← readValue nesting outer fuel (skipGap rest)
              let done := done.put key value
              match skipGap rest with
              | .char '\x7d' :: rest => .ok (.object done, rest)
              | .char ',' :: rest => readFields nesting outer fuel done (skipGap rest)
              | rest => .error (.complaint .expectingComma rest.length)
          | rest => .error (.complaint .expectingColon rest.length)
      | _ => .error (.complaint .expectingName s.length)

end

/-- Read a whole text as one value, with gaps around it. -/
def readAll (nesting : Nesting) (s : List Point) : Except Stop Value :=
  if s.head? = some (.char (Char.ofNat 0xfeff)) then .error (.complaint .byteOrderMark s.length)
  else do
    let (value, rest) ← readValue nesting 0 (2 * s.length + 2) (skipGap s)
    match skipGap rest with
    | [] => .ok value
    | rest => .error (.complaint .extraData rest.length)

/-- A fault of a text: a complaint with its place, an integer with too many digits, or a container
inside too many others. -/
inductive Fault where
  | malformed (what : Complaint) (position line column : Nat)
  | longInteger (digits : Nat)
  | tooDeep (container : Container)
deriving DecidableEq, Repr

/-- The place of a complaint: index, line and column, where a line feed ends a line. -/
def Fault.ofStop (s : List Point) : Stop -> Fault
  | .longInteger digits => .longInteger digits
  | .tooDeep container => .tooDeep container
  | .complaint what left =>
      let before := s.take (s.length - left)
      let line := before.count (.char '\n') + 1
      let column := (before.reverse.takeWhile (· ≠ .char '\n')).length + 1
      .malformed what before.length line column

def Fault.message : Fault -> String
  | .malformed what position line column =>
      s!"{what.text}: line {line} column {column} (char {position})"
  | .longInteger digits =>
      s!"Exceeds the limit ({digitLimit} digits) for integer string conversion: " ++
        s!"value has {digits} digits; use sys.set_int_max_str_digits() to increase the limit"
  | .tooDeep container =>
      s!"maximum recursion depth exceeded while decoding a JSON {container.word} " ++
        "from a unicode string"

/-- Whether the text is no JSON at all, and not only beyond the reader's limits. -/
def Fault.isSyntax : Fault -> Bool
  | .malformed .. => true
  | _ => false

/-- Whether the reader gave up, so that nothing is known of the text. -/
def Fault.isExhaustion : Fault -> Bool
  | .tooDeep _ => true
  | _ => false

/-- Read a text as one value, or find its first fault. -/
def read (nesting : Nesting) (text : WideText) : Except Fault Value :=
  match readAll nesting text.points with
  | .ok value => .ok value
  | .error stop => .error (Fault.ofStop text.points stop)

/-- The containers of a text are nested too deeply for the reader. -/
def TooDeep (nesting : Nesting) (text : WideText) : Prop :=
  ∃ container, read nesting text = .error (.tooDeep container)

theorem isExhaustion_iff {fault : Fault} :
    fault.isExhaustion = true ↔ ∃ container, fault = .tooDeep container := by
  cases fault <;> simp [Fault.isExhaustion]

theorem tooDeep_iff {nesting : Nesting} {text : WideText} :
    TooDeep nesting text ↔
      ∃ fault, read nesting text = .error fault ∧ fault.isExhaustion = true := by
  simp only [TooDeep, isExhaustion_iff]
  constructor
  · rintro ⟨container, hread⟩
    exact ⟨_, hread, container, rfl⟩
  · rintro ⟨fault, hread, container, rfl⟩
    exact ⟨container, hread⟩

end Json

end SelfBuild
