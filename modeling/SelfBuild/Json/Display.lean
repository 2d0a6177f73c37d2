import SelfBuild.Json.Nesting
import SelfBuild.Json.Value
import SelfBuild.Decimal.Writing

/-!
# Values in messages

How a message shows a JSON value: texts between quotes, containers in brackets, and the constants
by the words of the messages' own language.  Two kinds of values cannot be shown, integers with too
many digits and values inside too many containers; `Value.showFault?` finds the first of these.
-/

namespace SelfBuild

namespace Json

mutual

def Value.display : Value -> String
  | .null => "None"
  | .bool b => if b then "True" else "False"
  | .int n => toString n
  | .float x => Decimal.plain.writeFloat x
  | .string s => s.quoted
  | .array items => "[" ++ displayItems items ++ "]"
  | .object fields => "\x7b" ++ displayFields fields ++ "\x7d"

/-- The items of an array, separated by commas. -/
def displayItems : List Value -> String
  | [] => ""
  | [item] => item.display
  | item :: rest => item.display ++ ", " ++ displayItems rest

/-- The fields of an object, separated by commas. -/
def displayFields : List (WideText × Value) -> String
  | [] => ""
  | [(key, value)] => key.quoted ++ ": " ++ value.display
  | (key, value) :: rest =>
      key.quoted ++ ": " ++ value.display ++ ", " ++ displayFields rest

end

/-- A value as running text: a string is itself, and all else is as in messages. -/
def Value.text : Value -> WideText
  | .string s => s
  | value => .plain value.display

/-- Why a value cannot be shown. -/
inductive ShowFault where
  | longInteger
  | tooDeep
deriving DecidableEq, Repr

def ShowFault.message : ShowFault -> String
  | .longInteger =>
      s!"Exceeds the limit ({digitLimit} digits) for integer string conversion; " ++
        "use sys.set_int_max_str_digits() to increase the limit"
  | .tooDeep => "maximum recursion depth exceeded while getting the repr of an object"

/-- Whether showing was given up, so that nothing is known of the value. -/
def ShowFault.isExhaustion : ShowFault -> Bool
  | .longInteger => false
  | .tooDeep => true

mutual

/-- The first fault of a value inside some containers, if the value is shown there. -/
def Value.showFaultIn (nesting : Nesting) (outer : Nat) : Value -> Option ShowFault
  | .int n =>
      if nesting.depth < outer then some .tooDeep
      else if digitBound ≤ n.natAbs then some .longInteger
      else none
  | .array items =>
      if nesting.depth < outer then some .tooDeep else itemsFault nesting (outer + 1) items
  | .object fields =>
      if nesting.depth < outer then some .tooDeep else fieldsFault nesting (outer + 1) fields
  | _ => if nesting.depth < outer then some .tooDeep else none

def itemsFault (nesting : Nesting) (outer : Nat) : List Value -> Option ShowFault
  | [] => none
  | item :: rest => (item.showFaultIn nesting outer).or (itemsFault nesting outer rest)

def fieldsFault (nesting : Nesting) (outer : Nat) : List (WideText × Value) -> Option ShowFault
  | [] => none
  | (_, value) :: rest => (value.showFaultIn nesting outer).or (fieldsFault nesting outer rest)

end

/-- Why a value cannot be shown, if it cannot. -/
def Value.showFault? (nesting : Nesting) (value : Value) : Option ShowFault :=
  value.showFaultIn nesting 0

/-- A text can always be shown. -/
@[simp] theorem Value.showFault?_string (nesting : Nesting) (s : WideText) :
    (Value.string s).showFault? nesting = none := by
  simp [showFault?, showFaultIn]

end Json

end SelfBuild
