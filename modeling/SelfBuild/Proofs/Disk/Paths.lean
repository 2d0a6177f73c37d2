import SelfBuild.Disk.Path
import SelfBuild.Proofs.Text.Words

/-!
# Paths as texts

A path that is written down is read again as the same path, as long as its names could stand between
slashes.  The names of a path that was read can.
-/

namespace SelfBuild

namespace Path

variable {path : Path} {name : String}

/-- A name that can stand between slashes and is not dropped there. -/
structure PlainName (name : String) : Prop where
  ne_nil : name.toList ≠ []
  noSlash : '/' ∉ name.toList
  ne_dot : name.toList ≠ ['.']

/-- A path of plain names. -/
def Plain (path : Path) : Prop :=
  ∀ name ∈ path.names, PlainName name

theorem plain_ofString (s : String) : (ofString s).Plain := by
  intro name hname
  obtain ⟨word, hword, rfl⟩ := List.mem_map.1 hname
  obtain ⟨hmem, hdot⟩ := List.mem_filter.1 hword
  obtain ⟨hne, hchars⟩ := Text.ne_nil_of_mem_wordsBy hmem
  refine ⟨?_, ?_, ?_⟩
  · simpa using hne
  · rw [String.toList_ofList]
    intro hslash
    exact absurd (hchars _ hslash) (by decide)
  · simpa using hdot

theorem Plain.child (h : path.Plain) (hname : PlainName name) : (path.child name).Plain := by
  intro other hother
  rcases List.mem_append.1 hother with hmem | hmem
  · exact h other hmem
  · rwa [List.mem_singleton.1 hmem]

/-- Words that stand between slashes are found again. -/
theorem wordsBy_intercalate {words : List (List Char)}
    (h : ∀ word ∈ words, word ≠ [] ∧ '/' ∉ word) :
    Text.wordsBy (· = '/') (['/'].intercalate words) = words := by
  induction words with
  | nil => rfl
  | cons word rest ih =>
      rw [List.forall_mem_cons] at h
      have hchars : ∀ c ∈ word, decide (c = '/') = false := by
        intro c hc
        exact decide_eq_false fun e => h.1.2 (e ▸ hc)
      have hword := Text.wordsBy_eq_singleton h.1.1 hchars
      cases rest with
      | nil => simpa using hword
      | cons second rest =>
          rw [List.intercalate_cons_cons, List.append_assoc, List.singleton_append,
            Text.wordsBy_append_cons (by decide), hword, ih h.2]
          rfl

/-- Between its slashes a text has the names that were written there. -/
theorem Plain.names_eq (h : path.Plain) :
    ((Text.wordsBy (· = '/') ("/".intercalate path.names).toList).filter (· ≠ ['.'])).map
      String.ofList = path.names := by
  have hwords : ∀ word ∈ path.names.map String.toList, word ≠ [] ∧ '/' ∉ word :=
    List.forall_mem_map.2 fun name hname => ⟨(h name hname).ne_nil, (h name hname).noSlash⟩
  have hslash : "/".toList = ['/'] := rfl
  rw [String.toList_intercalate, hslash, wordsBy_intercalate hwords, List.filter_eq_self.2]
  · simp [Function.comp_def]
  · exact List.forall_mem_map.2 fun name hname => by simpa using (h name hname).ne_dot

/-- A text that starts with a name does not start with a slash. -/
theorem Plain.head?_ne (h : path.Plain) (hne : path.names ≠ []) :
    ("/".intercalate path.names).toList.head? ≠ some '/' := by
  obtain ⟨first, rest, hnames⟩ := List.exists_cons_of_ne_nil hne
  have hfirst := h first (hnames ▸ List.mem_cons_self)
  obtain ⟨c, chars, hchars⟩ := List.exists_cons_of_ne_nil hfirst.ne_nil
  have hc : c ≠ '/' := by
    rintro rfl
    exact hfirst.noSlash (hchars ▸ List.mem_cons_self)
  rw [hnames, String.toList_intercalate, List.map_cons, hchars]
  cases rest with
  | nil => simpa using hc
  | cons second rest => simpa [List.intercalate_cons_cons] using hc

theorem Plain.takeWhile_slashes (h : path.Plain) :
    ("/".intercalate path.names).toList.takeWhile (· = '/') = [] := by
  by_cases hnil : path.names = []
  · rw [hnil]
    rfl
  · have hhead := h.head?_ne hnil
    cases hchars : ("/".intercalate path.names).toList with
    | nil => rfl
    | cons c rest =>
        have hc : c ≠ '/' := by simpa [hchars] using hhead
        simp [hc]

theorem wordsBy_slash_cons (s : List Char) :
    Text.wordsBy (· = '/') ('/' :: s) = Text.wordsBy (· = '/') s := by
  rw [Text.wordsBy.eq_def]
  simp

/-- The slashes at the front of a text settle where its path starts, and the rest names the path. -/
theorem ofString_eq {s : String} {anchor : Anchor} {rest : List Char}
    (hs : s.toList = anchor.text.toList ++ rest) (hrest : rest.takeWhile (· = '/') = []) :
    ofString s =
      ⟨anchor, ((Text.wordsBy (· = '/') rest).filter (· ≠ ['.'])).map String.ofList⟩ := by
  cases anchor <;> simp [ofString, hs, Anchor.text, hrest, wordsBy_slash_cons, Anchor.ofSlashes]

/-- A path of plain names is read as it was written. -/
theorem Plain.ofString_text (h : path.Plain) : ofString path.text = path := by
  by_cases hdot : path.anchor = .here ∧ path.names = []
  · obtain ⟨anchor, names⟩ := path
    obtain ⟨rfl, rfl⟩ := hdot
    decide
  · have htext : path.text.toList = path.anchor.text.toList ++ ("/".intercalate path.names).toList := by
      rw [text, if_neg hdot, String.toList_append]
    rw [ofString_eq htext h.takeWhile_slashes, h.names_eq]

end Path

end SelfBuild
