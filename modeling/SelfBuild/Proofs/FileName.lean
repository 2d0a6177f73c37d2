import Mathlib.Data.List.DropRight
import SelfBuild.FileName
import SelfBuild.Proofs.Text.Words

/-!
# Delivered names

However a delivered file gets its name, the name has safe characters only, and neither starts nor ends
with one of those that are trimmed.  A name like that is left as it is when it is made safe again.  The
file beside a destination ends with a trimmed character, so no destination is ever taken for one.
-/

namespace SelfBuild

namespace FileName

theorem isEdge_of_mem_getLast?_trimEdges {s : List Char} :
    ∀ c ∈ (trimEdges s).getLast?, isEdge c = false := by
  intro c hc
  rw [trimEdges, List.getLast?_reverse] at hc
  have hhead := List.head?_dropWhile_not isEdge (s.dropWhile isEdge).reverse
  rw [Option.mem_def.1 hc] at hhead
  simpa using hhead

theorem getLast?_suggested (project : Project) :
    (suggested project none).toList.getLast? = some 'd' := by
  simp [suggested, scriptExtension]

theorem isSafeChar_of_mem_secure {s : List Char} {c : Char} (h : c ∈ secure s) :
    isSafeChar c = true := by
  unfold secure trimEdges at h
  rw [List.mem_reverse] at h
  have hreversed := (List.dropWhile_suffix isEdge).subset h
  rw [List.mem_reverse] at hreversed
  exact (List.mem_filter.1 ((List.dropWhile_suffix isEdge).subset hreversed)).2

theorem isSafeChar_of_mem_suggested {project : Project} {c : Char}
    (h : c ∈ (suggested project none).toList) : isSafeChar c = true := by
  have hending : ∀ c ∈ "_Installer".toList ++ scriptExtension.toList, isSafeChar c = true := by
    decide
  have hfallback : ∀ c ∈ fallback, isSafeChar c = true := by decide
  simp only [suggested, String.toList_append, String.toList_ofList, List.append_assoc] at h
  rcases List.mem_append.1 h with hbase | hrest
  · split at hbase
    · exact hfallback c hbase
    · exact isSafeChar_of_mem_secure hbase
  · exact hending c hrest

/-! ## Safe names -/

/-- What the name of a delivered file is like. -/
structure Safe (name : List Char) : Prop where
  ne_nil : name ≠ []
  chars : ∀ c ∈ name, isSafeChar c = true
  head : ∀ c ∈ name.head?, isEdge c = false
  last : ∀ c ∈ name.getLast?, isEdge c = false

theorem isEdge_of_mem_head?_trimEdges {s : List Char} :
    ∀ c ∈ (trimEdges s).head?, isEdge c = false := by
  intro c hc
  have hprefix : trimEdges s <+: s.dropWhile isEdge := List.rdropWhile_prefix isEdge _
  have hhead := List.head?_dropWhile_not isEdge s
  have hsome : (trimEdges s).head? = some c := hc
  obtain ⟨rest, hrest⟩ := hprefix
  rw [← hrest, List.head?_append, hsome] at hhead
  simpa using hhead

theorem isAlphanum_iff {c : Char} :
    c.isAlphanum = true ↔ 'A' ≤ c ∧ c ≤ 'Z' ∨ 'a' ≤ c ∧ c ≤ 'z' ∨ '0' ≤ c ∧ c ≤ '9' := by
  unfold Char.isAlphanum Char.isAlpha Char.isUpper Char.isLower Char.isDigit
  simp only [Bool.or_eq_true, Bool.and_eq_true, decide_eq_true_eq, or_assoc]
  rfl

theorem isSafeChar_iff {c : Char} :
    isSafeChar c = true ↔
      'A' ≤ c ∧ c ≤ 'Z' ∨ 'a' ≤ c ∧ c ≤ 'z' ∨ '0' ≤ c ∧ c ≤ '9' ∨ c ∈ ['_', '.', '-'] := by
  simp only [isSafeChar, Bool.or_eq_true, isAlphanum_iff, decide_eq_true_eq, List.mem_cons, List.not_mem_nil,
    or_false, or_assoc]

theorem isSafeChar_of_isStemChar {c : Char} (h : isStemChar c = true) : isSafeChar c = true := by
  simp only [isStemChar, Bool.or_eq_true] at h
  simp only [isSafeChar, Bool.or_eq_true]
  rcases h with (h | h) | h <;> simp [h]

/-- Safe characters lie above the space, and below the end of ASCII. -/
theorem toNat_of_isSafeChar {c : Char} (h : isSafeChar c = true) : 0x20 < c.toNat ∧ c.toNat < 0x80 := by
  have hbetween {a b : Char} (h : a ≤ c ∧ c ≤ b) : a.toNat ≤ c.toNat ∧ c.toNat ≤ b.toNat := h
  rcases isSafeChar_iff.1 h with h | h | h | h
  · exact ⟨lt_of_lt_of_le (by decide) (hbetween h).1, lt_of_le_of_lt (hbetween h).2 (by decide)⟩
  · exact ⟨lt_of_lt_of_le (by decide) (hbetween h).1, lt_of_le_of_lt (hbetween h).2 (by decide)⟩
  · exact ⟨lt_of_lt_of_le (by decide) (hbetween h).1, lt_of_le_of_lt (hbetween h).2 (by decide)⟩
  · have hsigns : ∀ c ∈ ['_', '.', '-'], 0x20 < c.toNat ∧ c.toNat < 0x80 := by decide
    exact hsigns c h

theorem isBlank_of_isSafeChar {c : Char} (h : isSafeChar c = true) : Text.isBlank c = false := by
  obtain ⟨hspace, hascii⟩ := toNat_of_isSafeChar h
  simp only [Text.isBlank, Bool.or_eq_false_iff, Bool.and_eq_false_iff, decide_eq_false_iff_not,
    beq_eq_false_iff_ne]
  omega

theorem Safe.not_mem {name : List Char} (h : Safe name) {c : Char} (hc : isSafeChar c = false) :
    c ∉ name := by
  intro hmem
  rw [h.chars c hmem] at hc
  cases hc

theorem dropWhile_eq_self {p : Char → Bool} {s : List Char} (h : ∀ c ∈ s.head?, p c = false) :
    s.dropWhile p = s := by
  cases s with
  | nil => rfl
  | cons c rest => exact List.dropWhile_cons_of_neg (by simp [h c rfl])

/-- Nothing is left to do for a name that is safe. -/
theorem Safe.secure_eq {name : List Char} (h : Safe name) : secure name = name := by
  have hforms : Text.asciiForms name = name :=
    Text.asciiForms_of_ascii fun c hc => (toNat_of_isSafeChar (h.chars c hc)).2
  have hslash : name.map (fun c => if c = '/' then ' ' else c) = name :=
    (List.map_congr_left fun c hc => if_neg fun e => h.not_mem (by decide) (e ▸ hc)).trans
      (List.map_id name)
  have hwords : Text.wordsBy Text.isBlank name = [name] :=
    Text.wordsBy_eq_singleton h.ne_nil fun c hc => isBlank_of_isSafeChar (h.chars c hc)
  have hfilter : name.filter isSafeChar = name := List.filter_eq_self.2 h.chars
  have htrim : trimEdges name = name := by
    unfold trimEdges
    rw [dropWhile_eq_self h.head, dropWhile_eq_self, List.reverse_reverse]
    rw [List.head?_reverse]
    exact h.last
  simp only [secure, hforms, hslash, hwords, joinWords, List.intercalate_singleton, hfilter, htrim]

theorem safe_secure {s : List Char} (h : secure s ≠ []) : Safe (secure s) where
  ne_nil := h
  chars _ := isSafeChar_of_mem_secure
  head := isEdge_of_mem_head?_trimEdges
  last := isEdge_of_mem_getLast?_trimEdges

/-- A row of one letter is safe. -/
theorem safe_row {n : Nat} (hn : n ≠ 0) : Safe (String.ofList (List.replicate n 'a')).toList := by
  rw [String.toList_ofList]
  have hedge {c : Char} (hc : c ∈ List.replicate n 'a') : isEdge c = false := by
    rw [List.eq_of_mem_replicate hc]
    decide
  refine ⟨by simp [hn], fun c hc => ?_, fun c hc => hedge (List.mem_of_mem_head? hc),
    fun c hc => hedge (List.mem_of_mem_getLast? hc)⟩
  rw [List.eq_of_mem_replicate hc]
  decide

theorem safe_fallback : Safe fallback where
  ne_nil := by decide
  chars := by decide
  head := by
    intro c hc
    obtain rfl := Option.some.inj hc
    decide
  last := by
    intro c hc
    obtain rfl := Option.some.inj hc
    decide

theorem safe_suggested (project : Project) : Safe (suggested project none).toList := by
  have hbase : Safe (if secure project.nameChars = [] then fallback else secure project.nameChars) := by
    split
    · exact safe_fallback
    · exact safe_secure ‹_›
  refine ⟨?_, fun _ => isSafeChar_of_mem_suggested, ?_, ?_⟩
  · simp [suggested]
  · simp only [suggested, String.toList_append, String.toList_ofList, List.append_assoc]
    rw [List.head?_append_of_ne_nil _ hbase.ne_nil]
    exact hbase.head
  · intro c hc
    rw [getLast?_suggested] at hc
    obtain rfl := Option.some.inj hc
    decide

/-- Whatever is asked for, a delivered file's name is safe. -/
theorem safe_download (project : Project) (requested? : Option String) :
    Safe (download project requested?).toList := by
  cases requested? with
  | none => exact safe_suggested project
  | some requested =>
      by_cases hempty : secure requested.toList = []
      · simpa only [download, hempty, if_true] using safe_suggested project
      · simpa only [download, hempty, if_false, String.toList_ofList] using safe_secure hempty

theorem download_of_safe {name : String} (h : Safe name.toList) (project : Project) :
    download project (some name) = name := by
  simp only [download, h.secure_eq, h.ne_nil, if_false, String.ofList_toList]

end FileName

end SelfBuild
