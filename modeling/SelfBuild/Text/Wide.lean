import SelfBuild.Text.Lines
import SelfBuild.Text.Quoted
import SelfBuild.Text.Utf8

/-!
# Wide texts

An escape in a JSON text can name half a surrogate pair, which is no character and has no encoding.
A wide text is a row of points, each a character or such a half; one without halves is kept as a
plain text, so equal wide texts are equal values.

A wide text can be looked at, quoted and put together like any other, but it can be encoded only if
it is plain.  Where one is looked at, a half counts as the replacement character: like that one it is
no blank, no letter, no digit, no line end and no part of a safe name.
-/

namespace SelfBuild

/-- Half a surrogate pair, by its distance from the first one. -/
abbrev Surrogate := Fin 0x800

def Surrogate.code (half : Surrogate) : Nat :=
  0xd800 + half.val

inductive Point where
  | char (c : Char)
  | surrogate (half : Surrogate)
deriving DecidableEq, Repr

namespace Point

def code : Point -> Nat
  | .char c => c.toNat
  | .surrogate half => half.code

/-- The point of a number below the end of the first plane. -/
def ofUnit (n : Nat) : Point :=
  if 0xd800 ≤ n ∧ n ≤ 0xdfff then .surrogate (Fin.ofNat 0x800 (n - 0xd800))
  else .char (Char.ofNat n)

def isSurrogate : Point -> Bool
  | .char _ => false
  | .surrogate _ => true

/-- The replacement character. -/
def replacement : Char := Char.ofNat 0xfffd

/-- The character that a point counts as where it is looked at. -/
def seen : Point -> Char
  | .char c => c
  | .surrogate _ => replacement

/-- A point as one that is not printable shows. -/
def escaped (half : Surrogate) : List Char :=
  '\\' :: 'u' :: Text.hexDigits 4 half.code

def quoted (quote : Char) : Point -> List Char
  | .char c => Text.quotedChar quote c
  | .surrogate half => escaped half

/-- A point as standard error and logs show it. -/
def shown : Point -> List Char
  | .char c => [c]
  | .surrogate half => escaped half

end Point

/-- A row of points with half a pair among them. -/
structure Loose where
  points : List Point
  isLoose : points.any Point.isSurrogate = true
deriving DecidableEq, Repr

/-- Why a text cannot be encoded: its first row of halves, and where that stands. -/
structure EncodingFault where
  first : Surrogate
  position : Nat
  width : Nat
deriving DecidableEq, Repr

namespace EncodingFault

def message (fault : EncodingFault) : String :=
  let what :=
    if fault.width = 1 then
      s!"character '{String.ofList (Point.escaped fault.first)}' in position {fault.position}"
    else s!"characters in position {fault.position}-{fault.position + fault.width - 1}"
  s!"'utf-8' codec can't encode {what}: surrogates not allowed"

/-- The fault of points that stand behind some others. -/
def ofPoints (position : Nat) :
    (points : List Point) -> points.any Point.isSurrogate = true -> EncodingFault
  | .surrogate half :: rest, _ => ⟨half, position, (rest.takeWhile Point.isSurrogate).length + 1⟩
  | .char _ :: rest, h => ofPoints (position + 1) rest (by simpa [Point.isSurrogate] using h)

end EncodingFault

inductive WideText where
  | plain (s : String)
  | loose (t : Loose)
deriving DecidableEq, Repr

namespace WideText

instance : Coe String WideText := ⟨.plain⟩

instance : Inhabited WideText := ⟨.plain ""⟩

def points : WideText -> List Point
  | .plain s => s.toList.map .char
  | .loose t => t.points

def ofPoints (points : List Point) : WideText :=
  if h : points.any Point.isSurrogate = true then .loose ⟨points, h⟩
  else .plain (String.ofList (points.map Point.seen))

/-- The numbers of the points, by which texts are sorted. -/
def codes (text : WideText) : List Nat :=
  text.points.map Point.code

/-- The characters that the text counts as where it is looked at. -/
def toList : WideText -> List Char
  | .plain s => s.toList
  | .loose t => t.points.map Point.seen

def seen : WideText -> String
  | .plain s => s
  | .loose t => String.ofList (t.points.map Point.seen)

def normalizePoints : List Point -> List Point
  | [] => []
  | .char '\r' :: .char '\n' :: rest => .char '\n' :: normalizePoints rest
  | point :: rest => (if point = .char '\r' then .char '\n' else point) :: normalizePoints rest

def append : WideText -> WideText -> WideText
  | .plain s, .plain t => .plain (s ++ t)
  | a, b => ofPoints (a.points ++ b.points)

instance : Append WideText := ⟨append⟩

def join (texts : List WideText) : WideText :=
  ofPoints (texts.flatMap points)

/-- The text between quotes, as in messages. -/
def quoted : WideText -> String
  | .plain s => Text.quoted s
  | .loose t =>
      let quote := Text.quoteFor (t.points.map Point.seen)
      String.ofList (quote :: t.points.flatMap (Point.quoted quote) ++ [quote])

/-- The text as standard error and logs show it. -/
def shown : WideText -> String
  | .plain s => s
  | .loose t => String.ofList (t.points.flatMap Point.shown)

/-- Turn each carriage return, with the line feed that may follow it, into one line feed. -/
def normalizeEnds : WideText -> WideText
  | .plain s => .plain (String.ofList (Text.normalizeEnds s.toList))
  | .loose t => .ofPoints (normalizePoints t.points)

/-- The text as a plain one, or why it is none. -/
def toPlain : WideText -> Except EncodingFault String
  | .plain s => .ok s
  | .loose t => .error (.ofPoints 0 t.points t.isLoose)

/-- The bytes of the text, or why it has none. -/
def encode (text : WideText) : Except EncodingFault ByteArray :=
  text.toPlain.map Text.Utf8.encode

@[simp] theorem points_ofPoints (points : List Point) : (ofPoints points).points = points := by
  unfold ofPoints
  split
  · rfl
  · rename_i h
    rw [WideText.points, String.toList_ofList, List.map_map]
    refine (List.map_congr_left fun point hpoint => ?_).trans (List.map_id points)
    cases point with
    | char c => rfl
    | surrogate half => exact absurd (List.any_eq_true.2 ⟨_, hpoint, rfl⟩) h

theorem any_points_plain (s : String) :
    (plain s).points.any Point.isSurrogate = false := by
  rw [points, List.any_eq_false]
  intro point hpoint
  obtain ⟨c, -, rfl⟩ := List.mem_map.1 hpoint
  simp [Point.isSurrogate]

theorem map_seen_points (text : WideText) : text.points.map Point.seen = text.toList := by
  cases text with
  | plain s =>
      rw [points, List.map_map]
      exact List.map_id s.toList
  | loose t => rfl

@[simp] theorem ofPoints_points (text : WideText) : ofPoints text.points = text := by
  cases text with
  | plain s =>
      rw [ofPoints, dif_neg (by simp [any_points_plain]), map_seen_points, toList, String.ofList_toList]
  | loose t => rw [ofPoints, points, dif_pos t.isLoose]

theorem points_injective {a b : WideText} (h : a.points = b.points) : a = b := by
  rw [← ofPoints_points a, h, ofPoints_points]

@[simp] theorem toList_plain (s : String) : (plain s).toList = s.toList := rfl

@[simp] theorem toList_ofPoints (points : List Point) :
    (ofPoints points).toList = points.map Point.seen := by
  rw [← map_seen_points, points_ofPoints]

@[simp] theorem plain_append (s t : String) : plain s ++ plain t = plain (s ++ t) := rfl

@[simp] theorem points_append (a b : WideText) : (a ++ b).points = a.points ++ b.points := by
  cases a <;> cases b <;> try exact points_ofPoints _
  simp [points]

@[simp] theorem toList_append (a b : WideText) : (a ++ b).toList = a.toList ++ b.toList := by
  simp only [← map_seen_points, points_append, List.map_append]

theorem append_left_inj {a b : WideText} (c : WideText) : a ++ c = b ++ c ↔ a = b := by
  refine ⟨fun h => points_injective ?_, fun h => by rw [h]⟩
  have hpoints := congrArg points h
  rw [points_append, points_append] at hpoints
  exact List.append_cancel_right hpoints

@[simp] theorem beq_plain (s t : String) : (plain s == plain t) = (s == t) := by
  rw [Bool.eq_iff_iff, beq_iff_eq, beq_iff_eq, plain.injEq]

@[simp] theorem points_join (texts : List WideText) : (join texts).points = texts.flatMap points :=
  points_ofPoints _

@[simp] theorem encode_plain (s : String) : (plain s).encode = .ok (Text.Utf8.encode s) := rfl

theorem join_cons (text : WideText) (rest : List WideText) : join (text :: rest) = text ++ join rest :=
  points_injective (by simp)

@[simp] theorem empty_append (text : WideText) : plain "" ++ text = text :=
  points_injective (points_append _ _)

/-- A text can be encoded exactly if it is plain. -/
theorem encode_eq_ok_iff {text : WideText} {bytes : ByteArray} :
    text.encode = .ok bytes ↔ ∃ s, text = plain s ∧ Text.Utf8.encode s = bytes := by
  cases text <;> simp [encode, toPlain, Except.map]

theorem encode_eq_error_iff {text : WideText} {fault : EncodingFault} :
    text.encode = .error fault ↔ text.toPlain = .error fault := by
  cases text <;> simp [encode, toPlain, Except.map]

end WideText

end SelfBuild
