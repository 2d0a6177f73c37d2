import Mathlib.Data.List.TakeDrop
import SelfBuild.CommandLine.Command

/-!
# Arguments that are understood

An option can be given in several spellings, and options in any order.  Against a grammar without odd
names every such row of arguments is read as the row of names and texts that it spells.  What stands
behind the name of a command never keeps that command from being found.
-/

namespace SelfBuild

namespace CommandLine

/-- A way to give one option: with a text behind an equals sign, with a text of its own after it, or
alone. -/
inductive Given where
  | joined (name text : String)
  | apart (name text : String)
  | alone (name : String)
deriving DecidableEq, Repr

namespace Given

def arguments : Given → List String
  | .joined name text => [name ++ "=" ++ text]
  | .apart name text => [name, text]
  | .alone name => [name]

/-- The option's name with its text. -/
def pair : Given → String × String
  | .joined name text => (name, text)
  | .apart name text => (name, text)
  | .alone name => (name, "")

/-- The arguments with what each of them is. -/
def marks : Given → List (String × Mark)
  | .joined name text => [(name ++ "=" ++ text, .option ⟨valued name, name, some text⟩)]
  | .apart name text => [(name, .option ⟨valued name, name, none⟩), (text, .plain)]
  | .alone name => [(name, .option ⟨flagged name, name, none⟩)]

end Given

/-- An option is given as its grammar asks for it; a text of its own does not look like an option. -/
def Grammar.Accepts (grammar : Grammar) : Given → Prop
  | .joined name _ => valued name ∈ grammar.options
  | .apart name text => valued name ∈ grammar.options ∧ text.toList.head? ≠ some '-'
  | .alone name => flagged name ∈ grammar.options

instance (grammar : Grammar) (given : Given) : Decidable (grammar.Accepts given) :=
  match given with
  | .joined name _ => inferInstanceAs (Decidable (valued name ∈ grammar.options))
  | .apart name text =>
      inferInstanceAs (Decidable (valued name ∈ grammar.options ∧ text.toList.head? ≠ some '-'))
  | .alone name => inferInstanceAs (Decidable (flagged name ∈ grammar.options))

/-- The names of a grammar start with a hyphen, hold no equals sign, and each is that of one option. -/
structure Grammar.Regular (grammar : Grammar) : Prop where
  hyphen : ∀ option ∈ grammar.options, ∀ name ∈ option.names, name.toList.head? = some '-'
  sign : ∀ option ∈ grammar.options, ∀ name ∈ option.names, '=' ∉ name.toList
  dashes : ∀ option ∈ grammar.options, "--" ∉ option.names
  named : ∀ option ∈ grammar.options, ∀ name ∈ option.names, grammar.named? name = some option

variable {grammar : Grammar} {argument name text : String} {mark : Mark}

/-! ## One argument -/

theorem atSign_joined (hname : '=' ∉ name.toList) :
    atSign (name ++ "=" ++ text) = (name, some text) := by
  have hspan : (name.toList ++ '=' :: text.toList).span (· ≠ '=') =
      (name.toList, '=' :: text.toList) := by
    rw [List.span_eq_takeWhile_dropWhile, List.takeWhile_append_of_pos, List.dropWhile_append_of_pos]
    · simp
    · intro c hc
      have hne : c ≠ '=' := fun e => hname (e ▸ hc)
      simp [hne]
    · intro c hc
      have hne : c ≠ '=' := fun e => hname (e ▸ hc)
      simp [hne]
  have htext : (name ++ "=" ++ text).toList = name.toList ++ '=' :: text.toList := by simp
  unfold atSign
  rw [htext, hspan]
  simp

theorem classify_plain (h : argument.toList.head? ≠ some '-') :
    grammar.classify argument = .ok .plain := by
  unfold Grammar.classify
  rw [if_pos h]

/-- A full name stands for its option. -/
theorem Grammar.Regular.classify_name (h : grammar.Regular) {option : OptionSpec}
    (hoption : option ∈ grammar.options) (hname : name ∈ option.names) :
    grammar.classify name = .ok (.option ⟨option, name, none⟩) := by
  have hhyphen := h.hyphen option hoption name hname
  unfold Grammar.classify
  simp only [hhyphen, ne_eq, not_true_eq_false, if_false, h.named option hoption name hname]

/-- A name with a text behind an equals sign stands for its option with that text. -/
theorem Grammar.Regular.classify_joined (h : grammar.Regular) {option : OptionSpec}
    (hoption : option ∈ grammar.options) (hname : name ∈ option.names) (text : String) :
    grammar.classify (name ++ "=" ++ text) = .ok (.option ⟨option, name, some text⟩) := by
  have hhyphen := h.hyphen option hoption name hname
  have hsign := h.sign option hoption name hname
  have hmem : '=' ∈ (name ++ "=" ++ text).toList := by simp
  have hhead : (name ++ "=" ++ text).toList.head? = some '-' := by
    rw [String.toList_append, String.toList_append, List.append_assoc, List.head?_append, hhyphen]
    rfl
  have hnone : grammar.named? (name ++ "=" ++ text) = none := by
    rw [Grammar.named?, List.find?_eq_none]
    intro other hother hcontains
    exact h.sign other hother _ (List.contains_iff_mem.1 hcontains) hmem
  have hlone : name ++ "=" ++ text ≠ "-" := by
    intro hlone
    rw [hlone] at hmem
    exact absurd hmem (by decide)
  unfold Grammar.classify
  simp only [hhead, ne_eq, not_true_eq_false, if_false, hnone, hlone, atSign_joined hsign,
    h.named option hoption name hname]

/-! ## Rows of arguments -/

theorem classifyAll_cons {rest : List String} {marks : List (String × Mark)}
    (hdashes : argument ≠ "--") (hmark : grammar.classify argument = .ok mark)
    (hrest : grammar.classifyAll rest = .ok marks) :
    grammar.classifyAll (argument :: rest) = .ok ((argument, mark) :: marks) := by
  simp only [Grammar.classifyAll, hdashes, if_false, hmark, hrest]
  rfl

theorem Grammar.Regular.classifyAll_given (h : grammar.Regular) {given : Given}
    (hgiven : grammar.Accepts given) {rest : List String} {marks : List (String × Mark)}
    (hrest : grammar.classifyAll rest = .ok marks) :
    grammar.classifyAll (given.arguments ++ rest) = .ok (given.marks ++ marks) := by
  have hmem (name : String) : name ∈ [name] := List.mem_singleton_self name
  have hne {name : String} {option : OptionSpec} (hoption : option ∈ grammar.options)
      (hname : name ∈ option.names) : name ≠ "--" := by
    rintro rfl
    exact h.dashes option hoption hname
  cases given with
  | joined name text =>
      have hsign : '=' ∈ (name ++ "=" ++ text).toList := by simp
      have hdashes : name ++ "=" ++ text ≠ "--" := by
        intro hdashes
        rw [hdashes] at hsign
        exact absurd hsign (by decide)
      exact classifyAll_cons hdashes (h.classify_joined hgiven (hmem name) text) hrest
  | apart name text =>
      have hdashes : text ≠ "--" := by
        rintro rfl
        exact hgiven.2 rfl
      have htext := classifyAll_cons hdashes (classify_plain hgiven.2) hrest
      exact classifyAll_cons (hne hgiven.1 (hmem name)) (h.classify_name hgiven.1 (hmem name)) htext
  | alone name =>
      exact classifyAll_cons (hne hgiven (hmem name)) (h.classify_name hgiven (hmem name)) hrest

theorem Grammar.Regular.classifyAll_row (h : grammar.Regular) {row : List Given}
    (hrow : ∀ given ∈ row, grammar.Accepts given) :
    grammar.classifyAll (row.flatMap Given.arguments) = .ok (row.flatMap Given.marks) := by
  induction row with
  | nil => rfl
  | cons given row ih =>
      rw [List.forall_mem_cons] at hrow
      exact h.classifyAll_given hrow.1 (ih hrow.2)

/-- Taking one option notes its name and its text. -/
theorem take_marks (given : Given) (rest : List (String × Mark)) (reading : Reading) :
    grammar.take (given.marks ++ rest) reading =
      grammar.take rest { reading with given := given.pair :: reading.given } := by
  cases given <;> rfl

theorem take_row (row : List Given) (reading : Reading) :
    grammar.take (row.flatMap Given.marks) reading =
      .ok { reading with given := (row.map Given.pair).reverse ++ reading.given } := by
  induction row generalizing reading with
  | nil => simp [Grammar.take]
  | cons given row ih =>
      rw [List.flatMap_cons, take_marks, ih]
      simp

/-- Options given in any spelling are read as what they spell, the last one first. -/
theorem Grammar.Regular.read_row (h : grammar.Regular) (hplain : grammar.plain? = none)
    {row : List Given} (hrow : ∀ given ∈ row, grammar.Accepts given) :
    grammar.read (row.flatMap Given.arguments) = .ok { given := (row.map Given.pair).reverse } := by
  unfold Grammar.read
  rw [h.classifyAll_row hrow]
  simp [take_row, hplain]

/-! ## Options in any order -/

theorem lookup_eq_some_iff_mem {pairs : List (String × String)} (h : (pairs.map Prod.fst).Nodup)
    {key value : String} : pairs.lookup key = some value ↔ (key, value) ∈ pairs := by
  constructor
  · intro hlookup
    obtain ⟨before, after, rfl, -⟩ := List.lookup_eq_some_iff.1 hlookup
    simp
  · intro hmem
    induction pairs with
    | nil => cases hmem
    | cons pair pairs ih =>
        rw [List.map_cons, List.nodup_cons] at h
        rw [List.lookup_cons]
        rcases List.mem_cons.1 hmem with hfirst | hrest
        · simp [← hfirst]
        · have hne : key ≠ pair.1 := by
            intro he
            exact h.1 (List.mem_map.2 ⟨(key, value), hrest, he⟩)
          simpa [beq_false_of_ne hne] using ih h.2 hrest

/-- With one text for each name, the order of the names does not matter. -/
theorem lookup_eq_of_perm {pairs others : List (String × String)} (h : pairs.Perm others)
    (hkeys : (others.map Prod.fst).Nodup) (key : String) : pairs.lookup key = others.lookup key := by
  have hkeys' : (pairs.map Prod.fst).Nodup := (h.map Prod.fst).nodup_iff.2 hkeys
  apply Option.ext
  intro value
  rw [lookup_eq_some_iff_mem hkeys, lookup_eq_some_iff_mem hkeys', h.mem_iff]

end CommandLine

end SelfBuild
