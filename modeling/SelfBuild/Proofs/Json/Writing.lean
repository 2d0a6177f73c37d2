import SelfBuild.Json.Reader

/-!
# Writing JSON

Texts, truth values and objects of these can be written so that the reader finds them again, wherever the
written text stands.  Control characters are written by their numbers, so what is written is one line and
survives any change of line ends.
-/

namespace SelfBuild

namespace Json

/-- A character inside quotes. -/
def quoteChar (c : Char) : List Char :=
  if c = '"' then ['\\', '"']
  else if c = '\\' then ['\\', '\\']
  else if c.toNat < 0x20 then
    ['\\', 'u', '0', '0', Nat.digitChar (c.toNat / 16), Nat.digitChar (c.toNat % 16)]
  else [c]

def quote (s : String) : List Char :=
  '"' :: (s.toList.flatMap quoteChar ++ ['"'])

def writeFlag (b : Bool) : List Char :=
  if b then ['t', 'r', 'u', 'e'] else ['f', 'a', 'l', 's', 'e']

/-- The fields of an object with their written values, up to the closing brace. -/
def writeFields : List (String × List Char) → List Char
  | [] => ['\x7d']
  | [(key, text)] => quote key ++ ':' :: (text ++ ['\x7d'])
  | (key, text) :: rest => quote key ++ ':' :: (text ++ ',' :: writeFields rest)

def writeObject (fields : List (String × List Char)) : List Char :=
  '\x7b' :: writeFields fields

/-- Characters as the reader takes them. -/
abbrev asPoints (s : List Char) : List Point :=
  s.map Point.char

variable {nesting : Nesting} {c : Char} {s text : List Char} {rest : List Point} {value : Value}
  {depth outer fuel : Nat}

/-! ## Texts -/

theorem hexValue?_digitChar {n : Nat} (h : n < 16) : hexValue? (Nat.digitChar n) = some n := by
  have hall : ∀ m : Fin 16, hexValue? (Nat.digitChar m) = some m.val := by decide
  exact hall ⟨n, h⟩

theorem hexQuad?_control (h : c.toNat < 0x20) (rest : List Point) :
    hexQuad? (.char '0' :: .char '0' :: .char (Nat.digitChar (c.toNat / 16)) ::
      .char (Nat.digitChar (c.toNat % 16)) :: rest) = some (c.toNat, rest) := by
  have hzero : hexValue? '0' = some 0 := by decide
  have hhigh : hexValue? (Nat.digitChar (c.toNat / 16)) = some (c.toNat / 16) :=
    hexValue?_digitChar (by omega)
  have hlow : hexValue? (Nat.digitChar (c.toNat % 16)) = some (c.toNat % 16) :=
    hexValue?_digitChar (by omega)
  have hvalue : 16 * (c.toNat / 16) + c.toNat % 16 = c.toNat := Nat.div_add_mod _ _
  simp [hexQuad?, hzero, hhigh, hlow, hvalue]

theorem ofUnit_of_control (h : c.toNat < 0x20) : Point.ofUnit c.toNat = .char c := by
  rw [Point.ofUnit, if_neg (by omega), Char.ofNat_toNat]

/-- One written character is read in one step. -/
theorem readString_quoteChar (start done : List Point) (c : Char) (fuel : Nat) (hrest : rest ≠ []) :
    readString start (fuel + 1) done (asPoints (quoteChar c) ++ rest) =
      readString start fuel (.char c :: done) rest := by
  unfold quoteChar
  by_cases hquote : c = '"'
  · subst hquote
    rfl
  by_cases hbackslash : c = '\\'
  · subst hbackslash
    rfl
  by_cases hcontrol : c.toNat < 0x20
  · have hquad := hexQuad?_control hcontrol rest
    have hsurrogate : ¬ (0xd800 ≤ c.toNat ∧ c.toNat ≤ 0xdbff) := by omega
    have hempty : rest.isEmpty = false := by simpa using hrest
    simp only [hquote, hbackslash, hcontrol, if_true, if_false, List.map_cons, List.map_nil,
      List.cons_append, List.nil_append, readString, hquad]
    simp [hempty, hsurrogate, ofUnit_of_control hcontrol]
  · simp [hquote, hbackslash, hcontrol, readString, Point.code]

theorem readString_quote (start : List Point) (s : List Char) (rest done : List Point)
    (h : s.length < fuel) :
    readString start fuel done (asPoints (s.flatMap quoteChar) ++ .char '"' :: rest) =
      .ok (.ofPoints (done.reverse ++ asPoints s), rest) := by
  induction s generalizing fuel done with
  | nil =>
      obtain ⟨fuel, rfl⟩ : ∃ left, fuel = left + 1 := ⟨fuel - 1, by omega⟩
      simp [readString]
  | cons c s ih =>
      rw [List.length_cons] at h
      obtain ⟨fuel, rfl⟩ : ∃ left, fuel = left + 1 := ⟨fuel - 1, by omega⟩
      rw [List.flatMap_cons, asPoints, List.map_append, List.append_assoc,
        readString_quoteChar _ _ _ _ (by simp), ih (.char c :: done) (by omega)]
      simp

/-! ## Constants -/

theorem spanScalar_join (s : List Point) : asPoints (spanScalar s).1 ++ (spanScalar s).2 = s := by
  fun_induction spanScalar s with
  | case1 c rest hc word more hspan ih => simpa [hspan] using ih
  | case2 => rfl
  | case3 => rfl

theorem spanScalar_append (hword : ∀ c ∈ s, isScalarChar c = true) (rest : List Point) :
    spanScalar (asPoints s ++ rest) = (s ++ (spanScalar rest).1, (spanScalar rest).2) := by
  induction s with
  | nil => rfl
  | cons c s ih =>
      rw [List.forall_mem_cons] at hword
      simp [spanScalar, hword.1, ih hword.2]

/-- A word that is read as a constant before every text is so before every row of points. -/
theorem readScalar_constant (hword : ∀ c ∈ s, isScalarChar c = true)
    (hconstant : ∀ more, constant? (s ++ more) = some (value, more)) (rest : List Point) :
    readScalar (asPoints s ++ rest) = .ok (value, rest) := by
  rw [readScalar, spanScalar_append hword]
  simp only [scalar?, hconstant, spanScalar_join]

/-! ## What is written is read -/

/-- A text is read as a value wherever it stands, as long as not too many containers are open there. -/
structure Writes (depth : Nat) (text : List Char) (value : Value) : Prop where
  noGap : ∀ rest, skipGap (asPoints text ++ rest) = asPoints text ++ rest
  noReturn : '\r' ∉ text
  read : ∀ nesting outer fuel rest, outer + depth ≤ nesting.depth → text.length ≤ fuel →
    readValue nesting outer fuel (asPoints text ++ rest) = .ok (value, rest)

theorem Writes.mono {deeper : Nat} (h : Writes depth text value) (hdepth : depth ≤ deeper) :
    Writes deeper text value where
  noGap := h.noGap
  noReturn := h.noReturn
  read := fun nesting outer fuel rest hopen hfuel =>
    h.read nesting outer fuel rest (by omega) hfuel

theorem skipGap_cons (h : isGap (.char c) = false) (s : List Point) :
    skipGap (.char c :: s) = .char c :: s :=
  List.dropWhile_cons_of_neg (by simp [h])

theorem return_not_mem_quoteChar (c : Char) : '\r' ∉ quoteChar c := by
  unfold quoteChar
  by_cases hquote : c = '"'
  · simp [hquote]
  by_cases hbackslash : c = '\\'
  · simp [hbackslash]
  by_cases hcontrol : c.toNat < 0x20
  · have hdigit {n : Nat} (hn : n < 16) : '\r' ≠ Nat.digitChar n := by
      have hall : ∀ m : Fin 16, '\r' ≠ Nat.digitChar m := by decide
      exact hall ⟨n, hn⟩
    have hhigh : '\r' ≠ Nat.digitChar (c.toNat / 16) := hdigit (by omega)
    have hlow : '\r' ≠ Nat.digitChar (c.toNat % 16) := hdigit (by omega)
    simp [hquote, hbackslash, hcontrol, hhigh, hlow]
  · have hne : '\r' ≠ c := by
      rintro rfl
      exact hcontrol (by decide)
    simp [hquote, hbackslash, hcontrol, hne]

theorem length_le_length_quote (s : List Char) : s.length ≤ (s.flatMap quoteChar).length := by
  induction s with
  | nil => exact Nat.le_refl 0
  | cons c s ih =>
      have hchar : 1 ≤ (quoteChar c).length := by
        unfold quoteChar
        repeat' split
        all_goals simp
      rw [List.flatMap_cons, List.length_append, List.length_cons]
      omega

theorem asPoints_quote (s : String) :
    asPoints (quote s) = .char '"' :: (asPoints (s.toList.flatMap quoteChar) ++ [.char '"']) := by
  simp [quote]

theorem ofPoints_asPoints (s : String) : WideText.ofPoints (asPoints s.toList) = s :=
  WideText.ofPoints_points s

theorem writes_quote (s : String) : Writes 0 (quote s) (.string s) where
  noGap := fun rest => skipGap_cons (by decide) _
  noReturn := by
    simp [quote, return_not_mem_quoteChar]
  read := by
    intro nesting outer fuel rest _ hfuel
    have hlength := length_le_length_quote s.toList
    simp only [quote, List.length_cons, List.length_append, List.length_nil] at hfuel
    obtain ⟨fuel, rfl⟩ : ∃ left, fuel = left + 1 := ⟨fuel - 1, by omega⟩
    simp only [asPoints_quote, List.cons_append, List.append_assoc, List.nil_append, readValue]
    rw [readString_quote _ s.toList rest [] (by omega), List.reverse_nil, List.nil_append,
      ofPoints_asPoints]
    rfl

theorem writes_writeFlag (b : Bool) : Writes 0 (writeFlag b) (.bool b) where
  noGap := fun rest => by cases b <;> exact skipGap_cons (by decide) _
  noReturn := by cases b <;> decide
  read := by
    intro nesting outer fuel rest _ hfuel
    have hlength : 0 < (writeFlag b).length := by cases b <;> decide
    obtain ⟨fuel, rfl⟩ : ∃ left, fuel = left + 1 := ⟨fuel - 1, by omega⟩
    cases b with
    | true =>
        have hscalar : readScalar (asPoints ['t', 'r', 'u', 'e'] ++ rest) = .ok (.bool true, rest) :=
          readScalar_constant (by decide) (fun more => rfl) rest
        exact hscalar
    | false =>
        have hscalar : readScalar (asPoints ['f', 'a', 'l', 's', 'e'] ++ rest) =
            .ok (.bool false, rest) := readScalar_constant (by decide) (fun more => rfl) rest
        exact hscalar

theorem writes_null : Writes 0 "null".toList .null where
  noGap := fun rest => skipGap_cons (by decide) _
  noReturn := by decide
  read := by
    intro nesting outer fuel rest _ hfuel
    obtain ⟨fuel, rfl⟩ : ∃ left, fuel = left + 1 := ⟨fuel - 1, by simp at hfuel; omega⟩
    have hscalar : readScalar (asPoints ['n', 'u', 'l', 'l'] ++ rest) = .ok (.null, rest) :=
      readScalar_constant (by decide) (fun more => rfl) rest
    exact hscalar

/-! ## Objects -/

/-- A field with its key, its written value and the value itself. -/
structure Item where
  key : String
  text : List Char
  value : Value

def Item.written (item : Item) : String × List Char := (item.key, item.text)

theorem writeFields_map_cons (item next : Item) (items : List Item) :
    writeFields ((item :: next :: items).map Item.written) =
      quote item.key ++ ':' :: (item.text ++ ',' :: writeFields ((next :: items).map Item.written)) :=
  rfl

/-- The fields that an object has once some more are read. -/
def putItems (fields : Fields) (items : List Item) : Fields :=
  items.foldl (fun fields item => fields.put item.key item.value) fields

/-- Reading on behind the value of a field. -/
def readRest (nesting : Nesting) (outer fuel : Nat) (fields : Fields) (s : List Point) :
    Except Stop (Value × List Point) :=
  match skipGap s with
  | .char '\x7d' :: rest => .ok (.object fields, rest)
  | .char ',' :: rest => readFields nesting outer fuel fields (skipGap rest)
  | rest => .error (.complaint .expectingComma rest.length)

/-- Reading one field up to what stands behind its value. -/
theorem readFields_item {item : Item} (h : Writes depth item.text item.value) (fields : Fields)
    (hdepth : outer + depth ≤ nesting.depth) (hkey : (quote item.key).length ≤ fuel)
    (htext : item.text.length ≤ fuel) (tail : List Point) :
    readFields nesting outer (fuel + 1) fields
        (asPoints (quote item.key) ++ .char ':' :: (asPoints item.text ++ tail)) =
      readRest nesting outer fuel (fields.put item.key item.value) tail := by
  have hlength := length_le_length_quote item.key.toList
  have hcolon : skipGap (.char ':' :: (asPoints item.text ++ tail)) =
      .char ':' :: (asPoints item.text ++ tail) := skipGap_cons (by decide) _
  simp only [quote, List.length_cons, List.length_append, List.length_nil] at hkey
  simp only [asPoints_quote, List.cons_append, List.append_assoc, List.nil_append, readFields]
  rw [readString_quote _ item.key.toList _ [] (by omega), List.reverse_nil, List.nil_append,
    ofPoints_asPoints]
  simp only [bind, Except.bind, hcolon, h.noGap, h.read nesting outer fuel tail hdepth htext]
  rfl

/-- What follows a comma is the next field's key. -/
theorem skipGap_writeFields (item : Item) (items : List Item) (rest : List Point) :
    skipGap (asPoints (writeFields ((item :: items).map Item.written)) ++ rest) =
      asPoints (writeFields ((item :: items).map Item.written)) ++ rest := by
  cases items <;> exact skipGap_cons (by decide) _

theorem readFields_writeFields {items : List Item} (hne : items ≠ [])
    (hitems : ∀ item ∈ items, Writes depth item.text item.value) (fields : Fields)
    (hdepth : outer + depth ≤ nesting.depth)
    (hfuel : (writeFields (items.map Item.written)).length ≤ fuel) (rest : List Point) :
    readFields nesting outer fuel fields (asPoints (writeFields (items.map Item.written)) ++ rest) =
      .ok (.object (putItems fields items), rest) := by
  induction items generalizing fields fuel with
  | nil => exact absurd rfl hne
  | cons item items ih =>
      rw [List.forall_mem_cons] at hitems
      obtain ⟨hitem, hitems⟩ := hitems
      cases items with
      | nil =>
          simp only [List.map_cons, List.map_nil, Item.written, writeFields, List.length_append,
            List.length_cons, List.length_nil] at hfuel
          obtain ⟨fuel, rfl⟩ : ∃ left, fuel = left + 1 := ⟨fuel - 1, by omega⟩
          have hkey : (quote item.key).length ≤ fuel := by omega
          have hread := readFields_item hitem fields hdepth hkey (by omega) (.char '\x7d' :: rest)
          have htail : skipGap (.char '\x7d' :: rest) = .char '\x7d' :: rest :=
            skipGap_cons (by decide) _
          simpa [Item.written, writeFields, putItems, readRest, htail] using hread
      | cons next items =>
          rw [writeFields_map_cons] at hfuel ⊢
          simp only [List.length_append, List.length_cons] at hfuel
          obtain ⟨fuel, rfl⟩ : ∃ left, fuel = left + 1 := ⟨fuel - 1, by omega⟩
          have hkey : (quote item.key).length ≤ fuel := by omega
          have hread := readFields_item hitem fields hdepth hkey (by omega)
            (.char ',' :: (asPoints (writeFields ((next :: items).map Item.written)) ++ rest))
          have htail (s : List Point) : skipGap (.char ',' :: s) = .char ',' :: s :=
            skipGap_cons (by decide) _
          have hlength : (writeFields ((next :: items).map Item.written)).length ≤ fuel := by omega
          have hrest := ih (by simp) hitems (fields.put item.key item.value) hlength
          simp only [readRest, htail, skipGap_writeFields, hrest] at hread
          simp only [asPoints, List.map_append, List.map_cons, List.append_assoc, List.cons_append]
            at hread ⊢
          rw [hread]
          rfl

theorem return_not_mem_writeFields {items : List Item}
    (h : ∀ item ∈ items, Writes depth item.text item.value) :
    '\r' ∉ writeFields (items.map Item.written) := by
  induction items with
  | nil => decide
  | cons item items ih =>
      rw [List.forall_mem_cons] at h
      have hkey := (writes_quote item.key).noReturn
      have htext := h.1.noReturn
      have hrest := ih h.2
      cases items with
      | nil => simp [Item.written, writeFields, hkey, htext]
      | cons next items =>
          rw [writeFields_map_cons]
          simp only [List.mem_append, List.mem_cons, hkey, htext, hrest]
          decide

/-- An object is written with its fields one after the other. -/
theorem writes_object {items : List Item}
    (h : ∀ item ∈ items, Writes depth item.text item.value) :
    Writes (depth + 1) (writeObject (items.map Item.written)) (.object (putItems [] items)) where
  noGap := fun rest => skipGap_cons (by decide) _
  noReturn := by
    have hfields := return_not_mem_writeFields h
    simp [writeObject, hfields]
  read := by
    intro nesting outer fuel rest hdepth hfuel
    rw [writeObject, List.length_cons] at hfuel
    obtain ⟨fuel, rfl⟩ : ∃ left, fuel = left + 1 := ⟨fuel - 1, by omega⟩
    have hopen : ¬ outer ≥ nesting.depth := by omega
    cases items with
    | nil =>
        have hclose : skipGap (.char '\x7d' :: rest) = .char '\x7d' :: rest :=
          skipGap_cons (by decide) _
        simp [writeObject, writeFields, readValue, hopen, hclose, putItems]
    | cons item items =>
        have hopened : outer + 1 + depth ≤ nesting.depth := by omega
        have hlength : (writeFields ((item :: items).map Item.written)).length ≤ fuel := by omega
        have hread := readFields_writeFields (by simp) h [] hopened hlength rest
        have hstart := skipGap_writeFields item items rest
        obtain ⟨tail, htail⟩ : ∃ tail,
            asPoints (writeFields ((item :: items).map Item.written)) ++ rest = .char '"' :: tail := by
          cases items <;> exact ⟨_, rfl⟩
        rw [htail] at hread hstart
        simp only [writeObject, asPoints, List.map_cons, List.cons_append] at htail ⊢
        simp only [readValue, hopen, if_false, htail, hstart]
        exact hread

/-- An object of one field. -/
theorem writes_field (key : String) (h : Writes depth text value) :
    Writes (depth + 1) (writeObject [(key, text)]) (.object [(key, value)]) := by
  let items : List Item := [⟨key, text, value⟩]
  have hitems : ∀ item ∈ items, Writes depth item.text item.value := List.forall_mem_singleton.2 h
  exact writes_object hitems

/-- An array of one item, which does not look like the end of the array. -/
theorem writes_singleton {tail : List Char} (h : Writes depth (c :: tail) value) (hc : c ≠ ']') :
    Writes (depth + 1) ('[' :: (c :: tail ++ [']'])) (.array [value]) where
  noGap := fun rest => skipGap_cons (by decide) _
  noReturn := by
    have hitem := h.noReturn
    rw [List.mem_cons, List.mem_append]
    simp [hitem]
  read := by
    intro nesting outer fuel rest hdepth hfuel
    simp only [List.length_cons, List.length_append, List.length_nil] at hfuel
    obtain ⟨fuel, rfl⟩ : ∃ left, fuel = left + 2 := ⟨fuel - 2, by omega⟩
    have hopen : ¬ outer ≥ nesting.depth := by omega
    have hgap : skipGap (.char c :: (asPoints tail ++ .char ']' :: rest)) =
        .char c :: (asPoints tail ++ .char ']' :: rest) := h.noGap (.char ']' :: rest)
    have hclose : skipGap (.char ']' :: rest) = .char ']' :: rest := skipGap_cons (by decide) _
    have hitem : readValue nesting (outer + 1) fuel
        (.char c :: (asPoints tail ++ .char ']' :: rest)) = .ok (value, .char ']' :: rest) :=
      h.read nesting (outer + 1) fuel (.char ']' :: rest) (by omega) (by rw [List.length_cons]; omega)
    have hitems : readItems nesting (outer + 1) (fuel + 1) []
        (.char c :: (asPoints tail ++ .char ']' :: rest)) = .ok (.array [value], rest) := by
      simp only [readItems, hitem, bind, Except.bind, hclose, List.reverse_singleton]
    simp [readValue, hopen, hgap, hc, hitems]

/-- What is written is read as a whole text, unless it starts with a byte order mark. -/
theorem Writes.read_ofList (h : Writes depth text value) (hdepth : depth ≤ nesting.depth)
    (hmark : text.head? ≠ some (Char.ofNat 0xfeff)) :
    Json.read nesting (String.ofList text) = .ok value := by
  have hpoints : (WideText.plain (String.ofList text)).points = asPoints text := by
    rw [WideText.points, String.toList_ofList]
  have hread := h.read nesting 0 (2 * (asPoints text).length + 2) [] (by omega)
    (by rw [List.length_map]; omega)
  have hgap := h.noGap []
  rw [List.append_nil] at hread hgap
  have hfirst : (asPoints text).head? ≠ some (.char (Char.ofNat 0xfeff)) := by
    intro hhead
    rw [List.head?_map, Option.map_eq_some_iff] at hhead
    obtain ⟨c, hc, hpoint⟩ := hhead
    exact hmark (by rw [hc, Point.char.inj hpoint])
  have hall : readAll nesting (asPoints text) = .ok value := by
    unfold readAll
    rw [if_neg hfirst, hgap, hread]
    rfl
  unfold Json.read
  rw [hpoints, hall]

/-- A written object is read as a whole text. -/
theorem read_writeObject {items : List Item}
    (h : ∀ item ∈ items, Writes depth item.text item.value) (hdepth : depth < nesting.depth) :
    read nesting (String.ofList (writeObject (items.map Item.written))) =
      .ok (.object (putItems [] items)) := by
  apply (writes_object h).read_ofList hdepth
  rw [writeObject, List.head?_cons]
  decide

def Item.ofText (field : String × String) : Item := ⟨field.1, quote field.2, .string field.2⟩

/-- A written record of texts is read as these texts. -/
theorem read_writeTexts (nesting : Nesting) (fields : List (String × String)) :
    read nesting (String.ofList (writeObject ((fields.map Item.ofText).map Item.written))) =
      .ok (.object (putItems [] (fields.map Item.ofText))) := by
  have hitems : ∀ item ∈ fields.map Item.ofText, Writes 0 item.text item.value := by
    rw [List.forall_mem_map]
    exact fun field _ => writes_quote field.2
  exact read_writeObject hitems (Nat.lt_of_lt_of_le (by decide) nesting.enough)

end Json

end SelfBuild
