import NotebookKernel.Json.Reader
import NotebookKernel.Proofs.Json.OneLine
import NotebookKernel.Proofs.Text.Utf8

/-!
JSON text is read back as the value it was written for.

The reader gives back what follows the value, so each part of the printer is undone by one part of
the reader with any text behind it. Only a number has to know what comes next, because it does not
say itself where it ends: behind a value stands a comma, a closing bracket or nothing.
-/

namespace NotebookKernel.Json

/-! ## Numbers -/

/-- What may stand behind a value. -/
def Ends (rest : List Char) : Prop :=
  ∀ c ∈ rest.head?, c = ',' ∨ c = ']' ∨ c = '\x7d'

theorem Ends.not_isDigit {c : Char} {rest : List Char} (ends : Ends (c :: rest)) :
    ¬ Numeral.isDigit c = true := by
  obtain rfl | rfl | rfl := ends c rfl <;> decide

/-- Reading digits onto a number makes it no smaller. -/
theorem le_ofDigitChars (digits : List Char) (n : Nat) : n ≤ Nat.ofDigitChars 10 digits n := by
  induction digits generalizing n with
  | nil => exact Nat.le_refl n
  | cons c digits ih =>
    rw [Nat.ofDigitChars_cons]
    have more := ih (10 * n + (c.toNat - '0'.toNat))
    omega

theorem wholeDigits_append {digits rest : List Char} {n : Nat}
    (all : ∀ c ∈ digits, Numeral.isDigit c = true) (ends : Ends rest)
    (small : Nat.ofDigitChars 10 digits n < Nat.pow 2 64) :
    wholeDigits n (digits ++ rest) = (Nat.ofDigitChars 10 digits n, 0, rest) := by
  induction digits generalizing n with
  | nil =>
    cases rest with
    | nil => rfl
    | cons c rest =>
      rw [List.nil_append, wholeDigits, if_neg ends.not_isDigit]
      rfl
  | cons c digits ih =>
    rw [List.forall_mem_cons] at all
    have next : n * 10 + digitValue c = 10 * n + (c.toNat - '0'.toNat) := by
      rw [Nat.mul_comm]
      rfl
    rw [Nat.ofDigitChars_cons, ← next] at small ⊢
    have fits : fitsDigit (Nat.pow 2 64) n (digitValue c) = true :=
      decide_eq_true (Nat.lt_of_le_of_lt (le_ofDigitChars digits _) small)
    rw [List.cons_append, wholeDigits, if_pos all.1, if_pos fits]
    exact ih all.2 small

/-- A number that is not zero has no zero in front. -/
theorem head?_decimal_ne_zero {n : Nat} (positive : 0 < n) :
    (Numeral.decimal n).head? ≠ some '0' := by
  induction n using Nat.strongRecOn with
  | ind n ih =>
    unfold Numeral.decimal at ih ⊢
    by_cases digit : n < 10
    · have all : ∀ n : Fin 10, 0 < n.val → [n.val.digitChar].head? ≠ some '0' := by decide
      rw [Nat.toDigits_of_lt_base digit]
      exact all ⟨n, digit⟩ positive
    · have front := ih (n / 10) (by omega) (by omega)
      obtain ⟨c, cs, digits, -⟩ : ∃ c cs, Nat.toDigits 10 (n / 10) = c :: cs ∧ _ :=
        Numeral.decimal_eq_cons (n / 10)
      rw [Nat.toDigits_eq_if (by decide), if_neg digit]
      rw [digits] at front ⊢
      exact front

theorem readMagnitude_decimal {n : Nat} {rest : List Char} (negative : Bool) (ends : Ends rest)
    (small : n < Nat.pow 2 64) :
    readMagnitude negative (Numeral.decimal n ++ rest) = readAfterWhole negative n 0 rest := by
  have all : ∀ c ∈ Numeral.decimal n, Numeral.isDigit c = true :=
    fun c mem => Numeral.isDigit_of_mem_decimal mem
  have value : Nat.ofDigitChars 10 (Numeral.decimal n) 0 = n := Nat.ofDigitChars_ten_toDigits
  have digits := wholeDigits_append all ends (n := 0) (value.symm ▸ small)
  rw [value] at digits
  obtain rfl | positive := Nat.eq_zero_or_pos n
  · have zero : Numeral.decimal 0 = ['0'] := rfl
    rw [zero, List.singleton_append, readMagnitude.eq_def]
    dsimp only
    rw [if_pos rfl]
    cases rest with
    | nil => rfl
    | cons c rest => exact if_neg ends.not_isDigit
  · have noZero := head?_decimal_ne_zero positive
    obtain ⟨c, cs, decimal, digit⟩ := Numeral.decimal_eq_cons n
    rw [decimal] at noZero digits
    have other : c ≠ '0' := fun same => noZero (congrArg some same)
    rw [List.cons_append] at digits
    rw [decimal, List.cons_append, readMagnitude.eq_def]
    dsimp only
    rw [if_neg other, if_pos digit, digits]

/-- Behind the digits of an integer nothing goes on. -/
theorem readAfterWhole_ends {n : Nat} {rest : List Char} (negative : Bool) (ends : Ends rest) :
    readAfterWhole negative n 0 rest =
      if !negative then some (int n, rest)
      else if n = 0 ∨ Nat.pow 2 63 < n then (double? negative n 0).map fun j => (j, rest)
      else some (int (-(n : Int)), rest) := by
  unfold readAfterWhole
  split
  · exact absurd (ends _ rfl) (by decide)
  · exact absurd (ends _ rfl) (by decide)
  · exact absurd (ends _ rfl) (by decide)
  · exact if_neg (fun extra => extra rfl)

theorem readNumber_signed {n : Int} {rest : List Char} (plain : (int n).Plain)
    (ends : Ends rest) : readNumber (Numeral.signed n ++ rest) = some (int n, rest) := by
  obtain ⟨above, below⟩ : -2 ^ 63 ≤ n ∧ n < 2 ^ 64 := plain
  have word : Nat.pow 2 64 = 2 ^ 64 := rfl
  have half : Nat.pow 2 63 = 2 ^ 63 := rfl
  unfold Numeral.signed
  split
  · next negative =>
    have magnitude : ¬ (n.natAbs = 0 ∨ Nat.pow 2 63 < n.natAbs) := by omega
    have value : -(n.natAbs : Int) = n := by omega
    have digits := readMagnitude_decimal (n := n.natAbs) true ends (by omega)
    rw [readAfterWhole_ends true ends, if_neg (by decide), if_neg magnitude, value] at digits
    exact digits
  · next positive =>
    have value : (n.natAbs : Int) = n := by omega
    have digits := readMagnitude_decimal (n := n.natAbs) false ends (by omega)
    rw [readAfterWhole_ends false ends, if_pos (by decide), value] at digits
    obtain ⟨c, cs, decimal, digit⟩ := Numeral.decimal_eq_cons n.natAbs
    rw [decimal, List.cons_append] at digits ⊢
    unfold readNumber
    split
    · next sign =>
      have minus : c = '-' := (List.cons.inj sign).1
      rw [minus] at digit
      exact absurd digit (by decide)
    · exact digits

/-! ## Texts -/

theorem hex4?_low {n : Nat} (low : n < 0x20) :
    hex4? '0' '0' (hexDigit (n / 16)) (hexDigit n) = some n := by
  have all : ∀ n : Fin 0x20, hex4? '0' '0' (hexDigit (n / 16)) (hexDigit n) = some n.val := by
    decide
  exact all ⟨n, low⟩

theorem readText_letter {e d : Char} {rest : List Char} (letter : unescape? e = some d)
    (noNumber : e ≠ 'u') :
    readText ('\\' :: e :: rest) = (readText rest).map fun r => (d :: r.1, r.2) := by
  rw [readText.eq_def]
  dsimp only
  rw [if_neg (by decide), if_pos rfl, if_neg noNumber, letter]

theorem readText_number {a b c d : Char} {n : Nat} (rest : List Char)
    (number : hex4? a b c d = some n) (low : n < 0xD800) :
    readText ('\\' :: 'u' :: a :: b :: c :: d :: rest) =
      (readText rest).map fun r => (Char.ofNat n :: r.1, r.2) := by
  have noLowHalf : ¬ (0xDC00 ≤ n ∧ n ≤ 0xDFFF) := by omega
  have noHighHalf : ¬ (0xD800 ≤ n ∧ n ≤ 0xDBFF) := by omega
  rw [readText.eq_def]
  dsimp only
  rw [if_neg (by decide), if_pos rfl, if_pos rfl, number]
  dsimp only
  rw [if_neg noLowHalf, if_neg noHighHalf]

/-- A character of a text, however it was written. -/
theorem readText_escape (c : Char) (rest : List Char) :
    readText (escape c ++ rest) = (readText rest).map fun r => (c :: r.1, r.2) := by
  unfold escape
  split
  · next quote =>
    subst quote
    exact readText_letter rfl (by decide)
  split
  · next backslash =>
    subst backslash
    exact readText_letter rfl (by decide)
  split
  · next feed =>
    subst feed
    exact readText_letter rfl (by decide)
  split
  · next carriage =>
    subst carriage
    exact readText_letter rfl (by decide)
  split
  · next tab =>
    subst tab
    exact readText_letter rfl (by decide)
  split
  · next backspace =>
    subst backspace
    exact readText_letter rfl (by decide)
  split
  · next formFeed =>
    subst formFeed
    exact readText_letter rfl (by decide)
  split
  · next control =>
    have number := readText_number rest (hex4?_low control) (by omega)
    rw [Char.ofNat_toNat] at number
    exact number
  · next noQuote noBackslash _ _ _ _ _ noControl =>
    rw [List.singleton_append, readText.eq_def]
    dsimp only
    rw [if_neg noQuote, if_neg noBackslash, if_neg noControl]

theorem readText_quoted (text rest : List Char) :
    readText (text.flatMap escape ++ '"' :: rest) = some (text, rest) := by
  induction text with
  | nil =>
    rw [List.flatMap_nil, List.nil_append, readText.eq_def]
    exact if_pos rfl
  | cons c text ih =>
    rw [List.flatMap_cons, List.append_assoc, readText_escape, ih]
    rfl

/-! ## Values -/

theorem skipSpace_cons {c : Char} (noSpace : isSpace c = false) (cs : List Char) :
    skipSpace (c :: cs) = c :: cs :=
  List.dropWhile_cons_of_neg (Bool.eq_false_iff.mp noSpace)

theorem skipSpace_ends {rest : List Char} (ends : Ends rest) : skipSpace rest = rest := by
  cases rest with
  | nil => rfl
  | cons c rest =>
    apply skipSpace_cons
    obtain rfl | rfl | rfl := ends c rfl <;> decide

theorem ends_itemChars (items : List Json) (rest : List Char) : Ends (itemChars items ++ rest) := by
  cases items with
  | nil => exact fun c head => .inr (.inl (Option.some.inj head).symm)
  | cons j items => exact fun c head => .inl (Option.some.inj head).symm

theorem length_itemChars_pos (items : List Json) : 0 < (itemChars items).length := by
  cases items <;> exact Nat.succ_pos _

theorem ends_fieldChars (fields : List (String × Json)) (rest : List Char) :
    Ends (fieldChars fields ++ rest) := by
  cases fields with
  | nil => exact fun c head => .inr (.inr (Option.some.inj head).symm)
  | cons field fields => exact fun c head => .inl (Option.some.inj head).symm

/-- A character that a number may start with. -/
def StartsNumber (c : Char) : Prop :=
  c = '-' ∨ Numeral.isDigit c = true

instance (c : Char) : Decidable (StartsNumber c) :=
  inferInstanceAs (Decidable (_ ∨ _))

theorem StartsNumber.ne {c d : Char} (first : StartsNumber c) (other : ¬ StartsNumber d) : c ≠ d :=
  fun same => other (same ▸ first)

theorem StartsNumber.not_isSpace {c : Char} (first : StartsNumber c) : isSpace c = false := by
  have blank : c ≠ ' ' := first.ne (by decide)
  have feed : c ≠ '\n' := first.ne (by decide)
  have tab : c ≠ '\t' := first.ne (by decide)
  have carriage : c ≠ '\r' := first.ne (by decide)
  simp [isSpace, blank, feed, tab, carriage]

theorem signed_head (n : Int) : ∃ c cs, Numeral.signed n = c :: cs ∧ StartsNumber c := by
  unfold Numeral.signed
  split
  · exact ⟨'-', _, rfl, .inl rfl⟩
  · obtain ⟨c, cs, decimal, digit⟩ := Numeral.decimal_eq_cons n.natAbs
    exact ⟨c, cs, decimal, .inr digit⟩

/-- No value starts with a space or with the end of an array. -/
theorem chars_head (j : Json) (plain : j.Plain) :
    ∃ c cs, j.chars = c :: cs ∧ isSpace c = false ∧ c ≠ ']' := by
  cases j with
  | null => exact ⟨_, _, rfl, by decide⟩
  | bool b => cases b <;> exact ⟨_, _, rfl, by decide⟩
  | int n =>
    obtain ⟨c, cs, signed, first⟩ := signed_head n
    exact ⟨c, cs, signed, first.not_isSpace, first.ne (by decide)⟩
  | float bits => exact plain.elim
  | str text => exact ⟨_, _, rfl, by decide⟩
  | arr items => cases items <;> exact ⟨_, _, rfl, by decide⟩
  | obj fields => cases fields <;> exact ⟨_, _, rfl, by decide⟩

theorem length_chars_pos (j : Json) (plain : j.Plain) : 0 < j.chars.length := by
  obtain ⟨c, cs, chars, _⟩ := chars_head j plain
  rw [chars]
  exact Nat.succ_pos _

theorem readValue_number {c : Char} (cs : List Char) (fuel depth : Nat) (first : StartsNumber c) :
    readValue (fuel + 1) depth (c :: cs) = readNumber (c :: cs) := by
  rw [readValue, skipSpace_cons first.not_isSpace]
  split
  · next head => exact absurd (List.cons.inj head).1 (first.ne (by decide))
  · next head => exact absurd (List.cons.inj head).1 (first.ne (by decide))
  · next head => exact absurd (List.cons.inj head).1 (first.ne (by decide))
  · next head => exact absurd (List.cons.inj head).1 (first.ne (by decide))
  · next head => exact absurd (List.cons.inj head).1 (first.ne (by decide))
  · next head => exact absurd (List.cons.inj head).1 (first.ne (by decide))
  · rfl

theorem readValue_text (fuel depth : Nat) (text rest : List Char) :
    readValue (fuel + 1) depth (quoted text ++ rest) = some (str (String.ofList text), rest) := by
  have opened : readValue (fuel + 1) depth (quoted text ++ rest) =
      (readText (text.flatMap escape ++ ['"'] ++ rest)).map
        fun r => (str (String.ofList r.1), r.2) := rfl
  rw [opened, List.append_assoc, List.singleton_append, readText_quoted]
  rfl

/-- An array that has items. -/
theorem readValue_array {fuel depth : Nat} {c : Char} {cs rest : List Char} {items : List Json}
    (noSpace : isSpace c = false) (noEnd : c ≠ ']')
    (read : readItems fuel depth (c :: cs) = some (items, rest)) :
    readValue (fuel + 1) (depth + 1) ('[' :: c :: cs) = some (arr items, rest) := by
  have bracket : skipSpace ('[' :: c :: cs) = '[' :: c :: cs := skipSpace_cons (by decide) _
  simp only [readValue, bracket, skipSpace_cons noSpace]
  split
  · next head => exact absurd (List.cons.inj head).1 noEnd
  · rw [read]
    rfl

/-- An object that has fields. -/
theorem readValue_object {fuel depth : Nat} {cs rest : List Char} {fields : List (String × Json)}
    (read : readFields fuel depth ('"' :: cs) = some (fields, rest)) :
    readValue (fuel + 1) (depth + 1) ('\x7b' :: '"' :: cs) = some (obj fields, rest) := by
  have opened : readValue (fuel + 1) (depth + 1) ('\x7b' :: '"' :: cs) =
      (readFields fuel depth ('"' :: cs)).map fun r => (obj r.1, r.2) := rfl
  rw [opened, read]
  rfl

mutual

/-- Levels of arrays and objects. -/
def depth : Json → Nat
  | arr items => itemsDepth items + 1
  | obj fields => fieldsDepth fields + 1
  | _ => 0

/-- Levels of the deepest item. -/
def itemsDepth : List Json → Nat
  | [] => 0
  | j :: rest => max (depth j) (itemsDepth rest)

/-- Levels of the deepest field. -/
def fieldsDepth : List (String × Json) → Nat
  | [] => 0
  | (_, j) :: rest => max (depth j) (fieldsDepth rest)

end

/-! ### What fuel is good for -/

/-- With this fuel, values are read back. -/
def ReadsValues (fuel : Nat) : Prop :=
  ∀ (j : Json) (levels : Nat) (rest : List Char), j.Plain → j.chars.length ≤ fuel →
    j.depth ≤ levels → Ends rest → readValue fuel levels (j.chars ++ rest) = some (j, rest)

/-- With this fuel, the items of arrays are read back. -/
def ReadsItems (fuel : Nat) : Prop :=
  ∀ (j : Json) (items : List Json) (levels : Nat) (rest : List Char), PlainItems (j :: items) →
    (j.chars ++ itemChars items).length ≤ fuel → itemsDepth (j :: items) ≤ levels →
    readItems fuel levels (j.chars ++ itemChars items ++ rest) = some (j :: items, rest)

/-- With this fuel, the fields of objects are read back. -/
def ReadsFields (fuel : Nat) : Prop :=
  ∀ (key : String) (j : Json) (fields : List (String × Json)) (levels : Nat) (rest : List Char),
    PlainFields ((key, j) :: fields) →
    (quoted key.toList ++ ':' :: (j.chars ++ fieldChars fields)).length ≤ fuel →
    fieldsDepth ((key, j) :: fields) ≤ levels →
    readFields fuel levels (quoted key.toList ++ ':' :: (j.chars ++ fieldChars fields) ++ rest) =
      some ((key, j) :: fields, rest)

theorem ReadsValues.succ {fuel : Nat} (readsItems : ReadsItems fuel)
    (readsFields : ReadsFields fuel) : ReadsValues (fuel + 1) := by
  intro j levels rest plain enough nested ends
  cases j with
  | null => rfl
  | bool b => cases b <;> rfl
  | int n =>
    obtain ⟨c, cs, signed, first⟩ := signed_head n
    have read := readNumber_signed plain ends
    rw [signed, List.cons_append] at read
    rw [chars, signed, List.cons_append, readValue_number (cs ++ rest) fuel levels first]
    exact read
  | float bits => exact plain.elim
  | str text =>
    have read := readValue_text fuel levels text.toList rest
    rw [String.ofList_toList] at read
    exact read
  | arr items =>
    rw [depth] at nested
    obtain ⟨levels, rfl⟩ : ∃ n, levels = n + 1 := ⟨levels - 1, by omega⟩
    cases items with
    | nil => rfl
    | cons j items =>
      rw [chars, List.length_cons] at enough
      have read := readsItems j items levels rest plain (Nat.le_of_succ_le_succ enough)
        (Nat.le_of_succ_le_succ nested)
      obtain ⟨c, cs, head, noSpace, noEnd⟩ := chars_head j plain.1
      rw [chars, List.cons_append]
      rw [head, List.cons_append, List.cons_append] at read ⊢
      exact readValue_array noSpace noEnd read
  | obj fields =>
    rw [depth] at nested
    obtain ⟨levels, rfl⟩ : ∃ n, levels = n + 1 := ⟨levels - 1, by omega⟩
    cases fields with
    | nil => rfl
    | cons field fields =>
      obtain ⟨key, j⟩ := field
      rw [chars, List.length_cons] at enough
      have read := readsFields key j fields levels rest plain (Nat.le_of_succ_le_succ enough)
        (Nat.le_of_succ_le_succ nested)
      rw [chars, List.cons_append]
      exact readValue_object read

theorem ReadsItems.succ {fuel : Nat} (readsValues : ReadsValues fuel)
    (readsItems : ReadsItems fuel) : ReadsItems (fuel + 1) := by
  intro j items levels rest plain enough nested
  have positive := length_chars_pos j plain.1
  have behind := ends_itemChars items rest
  have more := length_itemChars_pos items
  rw [List.length_append] at enough
  rw [itemsDepth] at nested
  have value := readsValues j levels _ plain.1 (by omega) (by omega) behind
  rw [List.append_assoc, readItems, value]
  dsimp only
  rw [skipSpace_ends behind]
  cases items with
  | nil => rfl
  | cons k items =>
    rw [itemChars, List.length_cons] at enough
    have read := readsItems k items levels rest plain.2 (by omega) (by omega)
    exact congrArg (Option.map fun r => (j :: r.1, r.2)) read

/-- The fields of an object, once the name of the first is read. -/
theorem readFields_name (fuel levels : Nat) (key : String) (rest : List Char) :
    readFields (fuel + 1) levels (quoted key.toList ++ ':' :: rest) =
      match readValue fuel levels rest with
      | none => none
      | some (value, rest) =>
        match skipSpace rest with
        | ',' :: rest => (readFields fuel levels rest).map fun r => ((key, value) :: r.1, r.2)
        | '\x7d' :: rest => some ([(key, value)], rest)
        | _ => none := by
  have name := readText_quoted key.toList (':' :: rest)
  have text : quoted key.toList ++ ':' :: rest =
      '"' :: (key.toList.flatMap escape ++ '"' :: ':' :: rest) := by
    rw [quoted, List.cons_append, List.cons_append, List.append_assoc, List.singleton_append]
  rw [text, readFields, skipSpace_cons (by decide)]
  simp only [name, String.ofList_toList]
  rfl

theorem ReadsFields.succ {fuel : Nat} (readsValues : ReadsValues fuel)
    (readsFields : ReadsFields fuel) : ReadsFields (fuel + 1) := by
  intro key j fields levels rest plain enough nested
  have behind := ends_fieldChars fields rest
  rw [List.length_append, List.length_cons, List.length_append] at enough
  rw [fieldsDepth] at nested
  have value := readsValues j levels _ plain.1 (by omega) (by omega) behind
  rw [List.append_assoc, List.cons_append, List.append_assoc, readFields_name, value]
  dsimp only
  rw [skipSpace_ends behind]
  cases fields with
  | nil => rfl
  | cons field fields =>
    obtain ⟨other, k⟩ := field
    rw [fieldChars, List.length_cons] at enough
    have read := readsFields other k fields levels rest plain.2 (by omega) (by omega)
    exact congrArg (Option.map fun r => ((key, j) :: r.1, r.2)) read

/-- Each of the three readers spends one unit of fuel and leaves what it spends on the others at
least one character shorter, so the induction is on the fuel alone. -/
theorem reads (fuel : Nat) : ReadsValues fuel ∧ ReadsItems fuel ∧ ReadsFields fuel := by
  induction fuel with
  | zero =>
    refine ⟨?_, ?_, ?_⟩
    · intro j levels rest plain enough
      exact absurd (length_chars_pos j plain) (Nat.not_lt.mpr enough)
    · intro j items levels rest plain enough
      rw [List.length_append] at enough
      have positive := length_chars_pos j plain.1
      omega
    · intro key j fields levels rest plain enough
      rw [List.length_append, List.length_cons] at enough
      omega
  | succ fuel ih =>
    obtain ⟨readsValues, readsItems, readsFields⟩ := ih
    exact ⟨ReadsValues.succ readsItems readsFields, ReadsItems.succ readsValues readsItems,
      ReadsFields.succ readsValues readsFields⟩

/-! ## Whole texts -/

/-- The value that a whole text stands for, which may be nested `levels` deep. -/
def parseWithin? (levels : Nat) (cs : List Char) : Option Json :=
  let read : Option Json :=
    match readValue (cs.length + 1) levels cs with
    | some (j, rest) => if skipSpace rest = [] then some j else none
    | none => none
  read.map canonical

/-- The text of a value is read back as that value, with the keys of its objects sorted. -/
theorem parseWithin?_chars {j : Json} {levels : Nat} (plain : j.Plain)
    (nested : j.depth ≤ levels) : parseWithin? levels j.chars = some (canonical j) := by
  have ends : Ends [] := fun c head => nomatch head
  have read := (reads (j.chars.length + 1)).1 j levels [] plain (Nat.le_succ _) nested ends
  rw [List.append_nil] at read
  unfold parseWithin?
  rw [read]
  rfl

/-- The value that a whole payload stands for, which may be nested `levels` deep. -/
def ofBytesWithin? (levels : Nat) (bytes : Bytes) : Option Json :=
  match Utf8.decode bytes with
  | .ok cs => parseWithin? levels cs
  | .error _ => none

/-- The reader is the one that accepts `maxDepth` levels. -/
theorem ofBytesWithin?_maxDepth (bytes : Bytes) :
    ofBytesWithin? maxDepth bytes = ofBytes? bytes :=
  rfl

theorem ofBytesWithin?_chars {j : Json} {levels : Nat} (plain : j.Plain)
    (nested : j.depth ≤ levels) :
    ofBytesWithin? levels (Utf8.encode j.chars) = some (canonical j) := by
  unfold ofBytesWithin?
  rw [Utf8.decode_encode]
  exact parseWithin?_chars plain nested

end NotebookKernel.Json
