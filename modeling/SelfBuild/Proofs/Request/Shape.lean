import SelfBuild.Request

/-!
# What a shape admits

A shape admits a value when it reports no violation in it, and where the value stands makes no
difference to that.  Each of the three plain shapes admits one kind of values.  A record is admitted
when its required keys are there, it has no key of its own, and what stands under each key is
admitted by the shape for that key.
-/

namespace SelfBuild

namespace Request

variable {path : List String} {value : Json.Value} {fields : Json.Fields}

theorem textShape_eq_nil_iff : textShape path value = [] ↔ ∃ s, value = .string s := by
  cases value <;> simp [textShape]

theorem flagShape_eq_nil_iff : flagShape path value = [] ↔ ∃ b, value = .bool b := by
  cases value <;> simp [flagShape]

theorem wordShape_eq_nil_iff {words : List String} :
    wordShape words path value = [] ↔ ∃ word ∈ words, value = .string word := by
  cases value with
  | string s =>
      by_cases h : s ∈ words.map WideText.plain
      · obtain ⟨word, hword, rfl⟩ := List.mem_map.1 h
        simp [wordShape, hword]
      · have hne : ∀ word ∈ words, s ≠ .plain word :=
          fun word hword e => h (List.mem_map.2 ⟨word, hword, e.symm⟩)
        simpa [wordShape, h] using hne
  | _ => simp [wordShape]

theorem unknownKeys_eq_nil_iff {known : List String} :
    unknownKeys known fields = [] ↔
      ∀ key ∈ fields.map Prod.fst, key ∈ known.map WideText.plain := by
  have hperm := List.mergeSort_perm
    ((fields.map Prod.fst).filter fun key => !(known.map WideText.plain).contains key)
    fun a b => !(b.codes < a.codes)
  have hsorted : unknownKeys known fields = [] ↔
      ((fields.map Prod.fst).filter fun key => !(known.map WideText.plain).contains key) = [] := by
    constructor
    · intro h
      rw [unknownKeys] at h
      rw [h] at hperm
      exact hperm.nil_eq.symm
    · intro h
      rw [h] at hperm
      rw [unknownKeys, h]
      exact hperm.eq_nil
  rw [hsorted, List.filter_eq_nil_iff]
  refine forall₂_congr fun key _ => ?_
  simp

theorem exists_object_of_recordShape {required : List String} {shapes : List (String × Shape)}
    (h : recordShape required shapes path value = []) : ∃ fields, value = .object fields := by
  cases value with
  | object fields => exact ⟨fields, rfl⟩
  | _ => simp [recordShape] at h

theorem recordShape_eq_nil_iff {required : List String} {shapes : List (String × Shape)} :
    recordShape required shapes path (.object fields) = [] ↔
      (∀ key ∈ required, ∃ value, fields.lookup (.plain key) = some value) ∧
        (∀ key ∈ fields.map Prod.fst, key ∈ (shapes.map Prod.fst).map WideText.plain) ∧
        ∀ entry ∈ shapes, ∀ value, fields.lookup (.plain entry.1) = some value →
          entry.2 (path ++ [entry.1]) value = [] := by
  simp only [recordShape, List.append_eq_nil_iff, List.map_eq_nil_iff, and_assoc]
  refine and_congr ?_ (and_congr ?_ ?_)
  · rw [List.filter_eq_nil_iff]
    refine forall₂_congr fun key _ => ?_
    cases fields.lookup (.plain key) <;> simp
  · by_cases h : unknownKeys (shapes.map Prod.fst) fields = []
    · simp only [h, if_true, true_iff]
      exact unknownKeys_eq_nil_iff.1 h
    · simp only [h, if_false, List.cons_ne_nil, false_iff]
      exact fun hknown => h (unknownKeys_eq_nil_iff.2 hknown)
  · rw [List.flatMap_eq_nil_iff]
    refine forall₂_congr fun entry _ => ?_
    cases fields.lookup (.plain entry.1) <;> simp

theorem lookup_eq_none_of_unknown {known : List String} {key : WideText}
    (h : ∀ key ∈ fields.map Prod.fst, key ∈ known.map WideText.plain)
    (hkey : key ∉ known.map WideText.plain) : fields.lookup key = none := by
  rw [List.lookup_eq_none_iff]
  intro entry hentry
  rw [bne_iff_ne]
  rintro rfl
  exact hkey (h _ (List.mem_map_of_mem hentry))

end Request

end SelfBuild
