import NotebookKernel.Json.Printer
import NotebookKernel.Proofs.Text.Numeral

/-!
JSON text is one line.

Control characters inside texts are escaped, and nothing else that is written between the tokens of
a value is one. So there is no line break in the text of a value, nor a tabulator.
-/

namespace NotebookKernel

/-- A fixed text can be looked through. -/
theorem space_le_of_all {text : List Char} (all : (text.all fun c => 0x20 ≤ c.toNat) = true) :
    ∀ c ∈ text, 0x20 ≤ c.toNat :=
  fun c mem => of_decide_eq_true (List.all_eq_true.mp all c mem)

/-! ## Numbers -/

theorem Numeral.space_le_toDigits (n : Nat) : ∀ c ∈ Nat.toDigits 10 n, 0x20 ≤ c.toNat := by
  intro c mem
  have digit := toNat_of_isDigit (isDigit_of_mem_decimal mem)
  omega

namespace Decimal

theorem Scientific.space_le_text (style : Style) (s : Scientific) :
    ∀ c ∈ s.text style, 0x20 ≤ c.toNat := by
  have digits := Numeral.space_le_toDigits s.digits
  have front : ∀ n, ∀ c ∈ (Nat.toDigits 10 s.digits).take n, 0x20 ≤ c.toNat :=
    fun n c mem => digits c (List.mem_of_mem_take mem)
  have back : ∀ n, ∀ c ∈ (Nat.toDigits 10 s.digits).drop n, 0x20 ≤ c.toNat :=
    fun n c mem => digits c (List.mem_of_mem_drop mem)
  have zeros : ∀ n, ∀ c ∈ List.replicate n '0', 0x20 ≤ c.toNat := by
    intro n c mem
    rw [List.eq_of_mem_replicate mem]
    decide
  have point : 0x20 ≤ '.'.toNat := by decide
  unfold text
  extract_lets shown place mantissa power sign
  split
  · exact List.forall_mem_append.mpr ⟨List.forall_mem_append.mpr
      ⟨digits, zeros _⟩, space_le_of_all (by decide)⟩
  split
  · exact List.forall_mem_append.mpr ⟨front _, List.forall_mem_cons.mpr ⟨point, back _⟩⟩
  split
  · exact List.forall_mem_append.mpr ⟨List.forall_mem_cons.mpr
      ⟨by decide, List.forall_mem_cons.mpr ⟨point, zeros _⟩⟩, digits⟩
  have scaled : ∀ c ∈ mantissa, 0x20 ≤ c.toNat := by
    unfold mantissa shown
    split
    · next first second rest whole =>
      rw [whole, List.forall_mem_cons] at digits
      exact List.forall_mem_cons.mpr ⟨digits.1, List.forall_mem_cons.mpr ⟨point, digits.2⟩⟩
    · exact digits
  have signed : ∀ c ∈ sign, 0x20 ≤ c.toNat := by
    unfold sign
    split
    · exact space_le_of_all (by decide)
    · split <;> exact space_le_of_all (by decide)
  exact List.forall_mem_append.mpr ⟨List.forall_mem_append.mpr
    ⟨scaled, List.forall_mem_cons.mpr ⟨by decide, signed⟩⟩, Numeral.space_le_toDigits _⟩

theorem space_le_textOfBits (style : Style) (bits : UInt64) :
    ∀ c ∈ textOfBits style bits, 0x20 ≤ c.toNat := by
  unfold textOfBits
  extract_lets sign magnitude
  have signed : ∀ c ∈ sign, 0x20 ≤ c.toNat := by
    unfold sign
    split <;> exact space_le_of_all (by decide)
  split
  · exact List.forall_mem_append.mpr ⟨signed, space_le_of_all (by decide)⟩
  · exact List.forall_mem_append.mpr ⟨signed, Scientific.space_le_text style _⟩

end Decimal

namespace Json

theorem space_le_signed (n : Int) : ∀ c ∈ Numeral.signed n, 0x20 ≤ c.toNat := by
  unfold Numeral.signed
  split
  · exact List.forall_mem_cons.mpr ⟨by decide, Numeral.space_le_toDigits _⟩
  · exact Numeral.space_le_toDigits _

/-! ## Texts -/

theorem space_le_hexDigit (n : Nat) : 0x20 ≤ (hexDigit n).toNat := by
  have all : ∀ n : Fin 16, 0x20 ≤ (Nat.digitChar n).toNat := by decide
  exact all ⟨n % 16, Nat.mod_lt n (by decide)⟩

theorem space_le_escape (c : Char) : ∀ d ∈ escape c, 0x20 ≤ d.toNat := by
  have digits : ∀ d ∈ [hexDigit (c.toNat / 16), hexDigit c.toNat], 0x20 ≤ d.toNat :=
    List.forall_mem_cons.mpr ⟨space_le_hexDigit _,
      List.forall_mem_singleton.mpr (space_le_hexDigit _)⟩
  have number : ∀ d ∈ ['\\', 'u', '0', '0'] ++ [hexDigit (c.toNat / 16), hexDigit c.toNat],
      0x20 ≤ d.toNat :=
    List.forall_mem_append.mpr ⟨space_le_of_all (by decide), digits⟩
  have other : ¬ c.toNat < 0x20 → ∀ d ∈ [c], 0x20 ≤ d.toNat :=
    fun high => List.forall_mem_singleton.mpr (Nat.le_of_not_lt high)
  unfold escape
  repeat' split
  all_goals first | exact space_le_of_all (by decide) | exact number | exact other ‹_›

theorem space_le_quoted (text : List Char) : ∀ c ∈ quoted text, 0x20 ≤ c.toNat := by
  refine List.forall_mem_append.mpr ⟨List.forall_mem_cons.mpr ⟨by decide, ?_⟩,
    space_le_of_all (by decide)⟩
  intro c mem
  obtain ⟨d, -, mem⟩ := List.mem_flatMap.mp mem
  exact space_le_escape d c mem

/-- A text in quotes is one line. -/
theorem lineFeed_not_mem_quoted (text : List Char) : '\n' ∉ quoted text :=
  fun mem => absurd (space_le_quoted text _ mem) (by decide)

/-! ## Values -/

/-- A field of an object, with what follows it. -/
theorem space_le_field (key : String) {value rest : List Char}
    (inValue : ∀ c ∈ value, 0x20 ≤ c.toNat) (after : ∀ c ∈ rest, 0x20 ≤ c.toNat) :
    ∀ c ∈ quoted key.toList ++ ':' :: (value ++ rest), 0x20 ≤ c.toNat :=
  List.forall_mem_append.mpr ⟨space_le_quoted key.toList, List.forall_mem_cons.mpr
    ⟨by decide, List.forall_mem_append.mpr ⟨inValue, after⟩⟩⟩

mutual

/-- The text of a value has no control characters. -/
theorem space_le_chars (j : Json) : ∀ c ∈ j.chars, 0x20 ≤ c.toNat := by
  cases j with
  | null => exact space_le_of_all (by decide)
  | bool b => cases b <;> exact space_le_of_all (by decide)
  | int n => exact space_le_signed n
  | float bits => exact Decimal.space_le_textOfBits numberStyle bits
  | str text => exact space_le_quoted text.toList
  | arr items =>
    cases items with
    | nil => exact space_le_of_all (by decide)
    | cons j rest =>
      refine List.forall_mem_cons.mpr ⟨by decide, List.forall_mem_append.mpr ?_⟩
      exact ⟨space_le_chars j, space_le_itemChars rest⟩
  | obj fields =>
    cases fields with
    | nil => exact space_le_of_all (by decide)
    | cons field rest =>
      obtain ⟨key, j⟩ := field
      refine List.forall_mem_cons.mpr ⟨by decide, ?_⟩
      exact space_le_field key (space_le_chars j) (space_le_fieldChars rest)

theorem space_le_itemChars (items : List Json) : ∀ c ∈ itemChars items, 0x20 ≤ c.toNat := by
  cases items with
  | nil => exact space_le_of_all (by decide)
  | cons j rest =>
    refine List.forall_mem_cons.mpr ⟨by decide, List.forall_mem_append.mpr ?_⟩
    exact ⟨space_le_chars j, space_le_itemChars rest⟩

theorem space_le_fieldChars (fields : List (String × Json)) :
    ∀ c ∈ fieldChars fields, 0x20 ≤ c.toNat := by
  cases fields with
  | nil => exact space_le_of_all (by decide)
  | cons field rest =>
    obtain ⟨key, j⟩ := field
    refine List.forall_mem_cons.mpr ⟨by decide, ?_⟩
    exact space_le_field key (space_le_chars j) (space_le_fieldChars rest)

end

/-- The text of a value is one line. -/
theorem lineFeed_not_mem_chars (j : Json) : '\n' ∉ j.chars :=
  fun mem => absurd (space_le_chars j _ mem) (by decide)

/-! ## Values with integers alone -/

mutual

/-- Every number is an integer of 64 bits, with or without a sign. -/
def Plain : Json → Prop
  | int n => -2 ^ 63 ≤ n ∧ n < 2 ^ 64
  | float _ => False
  | arr items => PlainItems items
  | obj fields => PlainFields fields
  | _ => True

/-- Every item is plain. -/
def PlainItems : List Json → Prop
  | [] => True
  | j :: rest => Plain j ∧ PlainItems rest

/-- Every field's value is plain. -/
def PlainFields : List (String × Json) → Prop
  | [] => True
  | (_, j) :: rest => Plain j ∧ PlainFields rest

end

theorem plainItems_map {α : Type} {f : α → Json} (all : ∀ a, (f a).Plain) (l : List α) :
    PlainItems (l.map f) := by
  induction l with
  | nil => exact True.intro
  | cons a l ih => exact ⟨all a, ih⟩

theorem plainFields_map {α : Type} {f : α → String × Json} (all : ∀ a, (f a).2.Plain) (l : List α) :
    PlainFields (l.map f) := by
  induction l with
  | nil => exact True.intro
  | cons a l ih => exact ⟨all a, ih⟩

end Json

end NotebookKernel
