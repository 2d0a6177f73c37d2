import SelfBuild.Text.Wide

/-!
# JSON values

An object keeps the order of its fields.  Integers are exact and of any size; a number written with
a fraction or an exponent is a floating-point number.  Strings and keys are wide texts, since an
escape may name half a surrogate pair.
-/

namespace SelfBuild

namespace Json

inductive Value where
  | null
  | bool (b : Bool)
  | int (n : Int)
  | float (x : Float)
  | string (s : WideText)
  | array (items : List Value)
  | object (fields : List (WideText × Value))
deriving Inhabited

/-- The fields of an object, in order. -/
abbrev Fields := List (WideText × Value)

/-- What stands under a key. -/
abbrev Fields.lookup (fields : Fields) (key : WideText) : Option Value :=
  List.lookup key fields

/-- Set a field: a new one goes to the end, and an old one keeps its place. -/
def Fields.put : Fields -> WideText -> Value -> Fields
  | [], key, value => [(key, value)]
  | (other, old) :: rest, key, value =>
      if other = key then (key, value) :: rest else (other, old) :: Fields.put rest key value

def Value.get? : Value -> WideText -> Option Value
  | .object fields, key => Fields.lookup fields key
  | _, _ => none

/-- Whether a value counts as present: nulls, false, zeros and empty texts and containers do not. -/
def Value.isPresent : Value -> Bool
  | .null => false
  | .bool b => b
  | .int n => n != 0
  | .float x => x != 0
  | .string s => s != WideText.plain ""
  | .array items => !items.isEmpty
  | .object fields => !fields.isEmpty

def Value.kindName : Value -> String
  | .null => "NoneType"
  | .bool _ => "bool"
  | .int _ => "int"
  | .float _ => "float"
  | .string _ => "str"
  | .array _ => "list"
  | .object _ => "dict"

theorem Value.get?_eq_some_iff {value found : Value} {key : WideText} :
    value.get? key = some found ↔
      ∃ fields : Fields, value = .object fields ∧ fields.lookup key = some found := by
  cases value <;> simp [Value.get?]

theorem Value.isPresent_array_iff {items : List Value} :
    (Value.array items).isPresent = true ↔ items ≠ [] := by
  simp [Value.isPresent]

/-- The keys of a record are those under which something stands. -/
theorem Fields.mem_keys_iff {fields : Fields} {key : WideText} :
    key ∈ fields.map Prod.fst ↔ ∃ value, fields.lookup key = some value := by
  constructor
  · intro h
    cases hlookup : fields.lookup key with
    | some value => exact ⟨value, rfl⟩
    | none =>
        obtain ⟨entry, hentry, rfl⟩ := List.mem_map.1 h
        have hne := List.lookup_eq_none_iff.1 hlookup entry hentry
        simp at hne
  · rintro ⟨value, h⟩
    obtain ⟨before, after, rfl, -⟩ := List.lookup_eq_some_iff.1 h
    simp

theorem Fields.lookup_put_self (fields : Fields) (key : WideText) (value : Value) :
    (fields.put key value).lookup key = some value := by
  induction fields with
  | nil => simp [Fields.put]
  | cons field rest ih =>
      obtain ⟨other, old⟩ := field
      by_cases h : other = key
      · simp [Fields.put, h]
      · have hkey : (key == other) = false := beq_false_of_ne fun e => h e.symm
        simp [Fields.put, h, List.lookup_cons, hkey, ih]

theorem Fields.lookup_put_of_ne (fields : Fields) {key other : WideText} (value : Value)
    (h : other ≠ key) : (fields.put key value).lookup other = fields.lookup other := by
  have hkey : (other == key) = false := beq_false_of_ne h
  induction fields with
  | nil => simp [Fields.put, List.lookup_cons, hkey]
  | cons field rest ih =>
      obtain ⟨name, old⟩ := field
      by_cases hname : name = key
      · simp [Fields.put, hname, List.lookup_cons, hkey]
      · simp only [Fields.put, hname, if_false, List.lookup_cons]
        split <;> simp [ih]

end Json

end SelfBuild
