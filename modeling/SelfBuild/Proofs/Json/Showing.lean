import SelfBuild.Json.Display

/-!
# Values that can be shown

A message can show a value unless a part of it stands inside too many containers or one of its integers has
too many digits.  What the value is otherwise, and where the part stands, is of no account.
-/

namespace SelfBuild

namespace Json

variable {nesting : Nesting} {value part : Value} {n outer : Nat}

/-- A part stands in a value, inside some of its containers. -/
inductive Value.Holds : Value → Nat → Value → Prop
  | self (value : Value) : Holds value 0 value
  | item {items : List Value} {item part : Value} {n : Nat} (hitem : item ∈ items)
      (hpart : Holds item n part) : Holds (.array items) (n + 1) part
  | field {fields : Fields} {key : WideText} {value part : Value} {n : Nat}
      (hfield : (key, value) ∈ fields) (hpart : Holds value n part) :
      Holds (.object fields) (n + 1) part

/-- A value with no integer that is too long to be shown. -/
def Value.IsShort (value : Value) : Prop :=
  ∀ i, value = .int i → i.natAbs < digitBound

/-- No part of a value stands inside too many containers, and no integer in it is too long. -/
def Value.Showable (nesting : Nesting) (value : Value) : Prop :=
  ∀ n part, value.Holds n part → n ≤ nesting.depth ∧ part.IsShort

theorem itemsFault_eq_none_iff {items : List Value} :
    itemsFault nesting outer items = none ↔
      ∀ item ∈ items, item.showFaultIn nesting outer = none := by
  induction items with
  | nil => simp [itemsFault]
  | cons item items ih => simp [itemsFault, ih]

theorem fieldsFault_eq_none_iff {fields : Fields} :
    fieldsFault nesting outer fields = none ↔
      ∀ field ∈ fields, field.2.showFaultIn nesting outer = none := by
  induction fields with
  | nil => simp [fieldsFault]
  | cons field fields ih => simp [fieldsFault, ih]

/-- What is shown stands inside no more containers than the limit allows, and is no long integer. -/
theorem showFaultIn_eq_none (h : value.showFaultIn nesting outer = none) :
    outer ≤ nesting.depth ∧ value.IsShort := by
  by_cases hdepth : nesting.depth < outer
  · cases value <;> simp [Value.showFaultIn, hdepth] at h
  refine ⟨by omega, ?_⟩
  rintro i rfl
  simpa [Value.showFaultIn, hdepth] using h

theorem holds_of_shown (hpart : value.Holds n part) (h : value.showFaultIn nesting outer = none) :
    outer + n ≤ nesting.depth ∧ part.IsShort := by
  induction hpart generalizing outer with
  | self value => exact showFaultIn_eq_none h
  | item hitem hpart ih =>
      have hdepth : ¬ nesting.depth < outer := Nat.not_lt.2 (showFaultIn_eq_none h).1
      rw [Value.showFaultIn, if_neg hdepth, itemsFault_eq_none_iff] at h
      have hwithin := ih (h _ hitem)
      exact ⟨by omega, hwithin.2⟩
  | field hfield hpart ih =>
      have hdepth : ¬ nesting.depth < outer := Nat.not_lt.2 (showFaultIn_eq_none h).1
      rw [Value.showFaultIn, if_neg hdepth, fieldsFault_eq_none_iff] at h
      have hwithin := ih (h _ hfield)
      exact ⟨by omega, hwithin.2⟩

/-- What holds of a value once it holds of all items and fields holds of every value. -/
theorem Value.forall_of_parts {motive : Value → Prop}
    (step : ∀ value,
      (∀ items item, value = .array items → item ∈ items → motive item) →
      (∀ fields field, value = .object fields → field ∈ fields → motive field.2) → motive value)
    (value : Value) : motive value := by
  refine step value (fun items item hvalue hitem => ?_) fun fields field hvalue hfield => ?_
  · have hsize := List.sizeOf_lt_of_mem hitem
    have hlt : sizeOf item < sizeOf value := by
      rw [hvalue, array.sizeOf_spec]
      omega
    exact forall_of_parts step item
  · have hsize := List.sizeOf_lt_of_mem hfield
    have hlt : sizeOf field.2 < sizeOf value := by
      obtain ⟨key, found⟩ := field
      rw [Prod.mk.sizeOf_spec] at hsize
      rw [hvalue, object.sizeOf_spec]
      dsimp only
      omega
    exact forall_of_parts step field.2
termination_by sizeOf value

/-- A value is shown if nothing that stands in it is in the way. -/
theorem shown_of_holds (h : ∀ n part, value.Holds n part → outer + n ≤ nesting.depth ∧ part.IsShort) :
    value.showFaultIn nesting outer = none := by
  induction value using Value.forall_of_parts generalizing outer with
  | step value hitems hfields =>
      have hself := h 0 value (.self value)
      have hdepth : ¬ nesting.depth < outer := Nat.not_lt.2 hself.1
      cases value with
      | int i =>
          have hshort := hself.2 i rfl
          simp [Value.showFaultIn, hdepth, hshort]
      | array items =>
          have hshown : itemsFault nesting (outer + 1) items = none := by
            refine itemsFault_eq_none_iff.2 fun item hitem =>
              hitems items item rfl hitem fun n part hpart => ?_
            have hwithin := h (n + 1) part (.item hitem hpart)
            exact ⟨by omega, hwithin.2⟩
          simp [Value.showFaultIn, hdepth, hshown]
      | object fields =>
          have hshown : fieldsFault nesting (outer + 1) fields = none := by
            refine fieldsFault_eq_none_iff.2 fun field hfield =>
              hfields fields field rfl hfield fun n part hpart => ?_
            have hwithin := h (n + 1) part (.field hfield hpart)
            exact ⟨by omega, hwithin.2⟩
          simp [Value.showFaultIn, hdepth, hshown]
      | _ => simp [Value.showFaultIn, hdepth]

theorem showFault?_eq_none_iff : value.showFault? nesting = none ↔ value.Showable nesting := by
  constructor
  · intro h n part hpart
    have hwithin := holds_of_shown hpart h
    exact ⟨by omega, hwithin.2⟩
  · intro h
    refine shown_of_holds fun n part hpart => ?_
    have hwithin := h n part hpart
    exact ⟨by omega, hwithin.2⟩

theorem exists_showFault_iff :
    (∃ fault, value.showFault? nesting = some fault) ↔ ¬ value.Showable nesting := by
  rw [← showFault?_eq_none_iff, ← Option.ne_none_iff_exists']

/-- A null inside some arrays, one in the other. -/
def Value.levels : Nat → Value
  | 0 => .null
  | n + 1 => .array [levels n]

theorem Value.holds_levels (n : Nat) : (levels n).Holds n .null := by
  induction n with
  | zero => exact .self .null
  | succ n ih => exact .item (List.mem_singleton_self _) ih

end Json

end SelfBuild
