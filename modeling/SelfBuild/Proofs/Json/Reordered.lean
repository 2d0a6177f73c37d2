import SelfBuild.Json.Value

/-!
# Values that differ in the order of keys

The keys of an object stand in some order, and so do those of every object within it.  Two values that differ
in nothing else hold the same under every key, up to the order within what stands there.
-/

namespace SelfBuild

namespace Json

/-- Two values that differ in nothing but the order of keys, at any depth. -/
inductive Reordered : Value → Value → Prop
  | same (value : Value) : Reordered value value
  | array {items items' : List Value} (hlength : items.length = items'.length)
      (hitems : ∀ (i : Nat) (value value' : Value),
        items[i]? = some value → items'[i]? = some value' → Reordered value value') :
      Reordered (.array items) (.array items')
  | object {fields fields' : Fields} (hkeys : (fields.map Prod.fst).Nodup)
      (horder : (fields.map Prod.fst).Perm (fields'.map Prod.fst))
      (hvalues : ∀ (key : WideText) (value value' : Value),
        fields.lookup key = some value → fields'.lookup key = some value' → Reordered value value') :
      Reordered (.object fields) (.object fields')

variable {fields : Fields} {value value' : Value}

theorem Reordered.symm (h : Reordered value value') : Reordered value' value := by
  induction h with
  | same value => exact .same value
  | array hlength hitems ih =>
      exact .array hlength.symm fun i value value' hvalue hvalue' => ih i value' value hvalue' hvalue
  | object hkeys horder hvalues ih =>
      exact .object (horder.nodup_iff.1 hkeys) horder.symm
        fun key value value' hvalue hvalue' => ih key value' value hvalue' hvalue

theorem Reordered.of_entries {fields' : Fields} (hkeys : (fields.map Prod.fst).Nodup)
    (horder : (fields.map Prod.fst).Perm (fields'.map Prod.fst))
    (hentries : ∀ entry ∈ fields, ∀ other, fields'.lookup entry.1 = some other → Reordered entry.2 other) :
    Reordered (.object fields) (.object fields') := by
  refine .object hkeys horder fun key value value' hvalue hvalue' => ?_
  obtain ⟨before, after, rfl, -⟩ := List.lookup_eq_some_iff.1 hvalue
  exact hentries (key, value) (by simp) value' hvalue'

/-- A reordered object has the same keys, and under each of them what is reordered in its turn. -/
theorem Reordered.exists_object (h : Reordered (.object fields) value') :
    ∃ fields' : Fields, value' = .object fields' ∧
      (∀ key, key ∈ fields'.map Prod.fst ↔ key ∈ fields.map Prod.fst) ∧
      ∀ key value, fields.lookup key = some value →
        ∃ other, fields'.lookup key = some other ∧ Reordered value other := by
  cases h with
  | same => exact ⟨fields, rfl, fun key => Iff.rfl, fun key value hvalue => ⟨value, hvalue, .same value⟩⟩
  | @object _ fields' hkeys horder hvalues =>
      refine ⟨fields', rfl, fun key => horder.symm.mem_iff, fun key value hvalue => ?_⟩
      have hkey : key ∈ fields'.map Prod.fst := horder.mem_iff.1 (Fields.mem_keys_iff.2 ⟨value, hvalue⟩)
      obtain ⟨other, hother⟩ := Fields.mem_keys_iff.1 hkey
      exact ⟨other, hother, hvalues key value other hvalue hother⟩

theorem Reordered.eq_string {s : WideText} (h : Reordered (.string s) value') : value' = .string s := by
  cases h
  rfl

theorem Reordered.eq_bool {b : Bool} (h : Reordered (.bool b) value') : value' = .bool b := by
  cases h
  rfl

/-- What stands under a key and has nothing to reorder is the same in both objects. -/
theorem Reordered.lookup_eq {fields' : Fields} {key : WideText}
    (h : Reordered (.object fields) (.object fields'))
    (hplain : ∀ value, fields.lookup key = some value → ∀ other, Reordered value other → other = value) :
    fields'.lookup key = fields.lookup key := by
  obtain ⟨_, ⟨⟩, hkeys, hwithin⟩ := h.exists_object
  cases hvalue : fields.lookup key with
  | some value =>
      obtain ⟨other, hother, hsame⟩ := hwithin key value hvalue
      rw [hother, hplain value hvalue other hsame]
  | none =>
      rw [Option.eq_none_iff_forall_ne_some]
      intro other hother
      obtain ⟨value, hvalue'⟩ := Fields.mem_keys_iff.1 ((hkeys key).1 (Fields.mem_keys_iff.2 ⟨other, hother⟩))
      rw [hvalue] at hvalue'
      cases hvalue'

end Json

end SelfBuild
