import NotebookKernel.Text.Utf8

/-!
UTF-8 without loss: the bytes of a text are decoded to that text, no other bytes are decoded to it
(`decode_eq_ok_iff`), and a byte below 0x80 stands for its character and is a part of no other.

The decoder goes by the first byte of a sequence, so it has one lemma for each length, with what the
first two bytes have to be like. That the encoder keeps to it is then arithmetic: the lead byte
leaves out the overlong forms because the shorter ones were taken before, and the surrogates
because no character is one.
-/

namespace NotebookKernel.Utf8

variable {a b c d : UInt8} {rest : Bytes} {offset : Nat}

/-! ## The decoder, by the length of a sequence -/

theorem isTail_iff : isTail b = true ↔ 0x80 ≤ b.toNat ∧ b.toNat ≤ 0xBF := by
  simp [isTail, UInt8.le_iff_toNat_le]

theorem lead_iff {low high : UInt8} :
    (low ≤ a && a ≤ high) = true ↔ low.toNat ≤ a.toNat ∧ a.toNat ≤ high.toNat := by
  simp [UInt8.le_iff_toNat_le]

theorem isSecondOfThree_iff : isSecondOfThree a b = true ↔
    (0x80 ≤ b.toNat ∧ b.toNat ≤ 0xBF) ∧ (a.toNat = 0xE0 → 0xA0 ≤ b.toNat) ∧
      (a.toNat = 0xED → b.toNat ≤ 0x9F) := by
  simp only [isSecondOfThree, ← UInt8.toNat_inj, UInt8.le_iff_toNat_le, Bool.and_eq_true]
  split <;> split <;> simp_all <;> omega

theorem isSecondOfFour_iff : isSecondOfFour a b = true ↔
    (0x80 ≤ b.toNat ∧ b.toNat ≤ 0xBF) ∧ (a.toNat = 0xF0 → 0x90 ≤ b.toNat) ∧
      (a.toNat = 0xF4 → b.toNat ≤ 0x8F) := by
  simp only [isSecondOfFour, ← UInt8.toNat_inj, UInt8.le_iff_toNat_le, Bool.and_eq_true]
  split <;> split <;> simp_all <;> omega

theorem not_low_of_le (high : 0x80 ≤ a.toNat) : ¬ a < 0x80 := by
  rw [UInt8.lt_iff_toNat_lt]
  exact Nat.not_lt.mpr high

theorem decodeFrom_one (lead : a.toNat < 0x80) :
    decodeFrom offset (a :: rest) =
      (decodeFrom (offset + 1) rest).map (Char.ofNat a.toNat :: ·) := by
  have low : a < 0x80 := UInt8.lt_iff_toNat_lt.mpr lead
  rw [decodeFrom.eq_def]
  exact if_pos low

/-- A byte above those that lead a sequence of some length leads none of that length. -/
theorem not_lead_of_lt {low high : UInt8} (above : high.toNat < a.toNat) :
    ¬ (low ≤ a && a ≤ high) = true := by
  simp only [Bool.and_eq_true, decide_eq_true_eq, UInt8.le_iff_toNat_le]
  exact fun lead => absurd lead.2 (Nat.not_le.mpr above)

theorem decodeFrom_two (lead : 0xC2 ≤ a.toNat ∧ a.toNat ≤ 0xDF)
    (tail : 0x80 ≤ b.toNat ∧ b.toNat ≤ 0xBF) :
    decodeFrom offset (a :: b :: rest) =
      (decodeFrom (offset + 2) rest).map
        (Char.ofNat (a.toNat % 0x20 * 0x40 + b.toNat % 0x40) :: ·) := by
  have not_low := not_low_of_le (Nat.le_trans (by decide) lead.1)
  have two : (0xC2 ≤ a && a ≤ 0xDF) = true := lead_iff.mpr lead
  rw [decodeFrom.eq_def]
  dsimp only
  rw [if_neg not_low, if_pos two, if_pos (isTail_iff.mpr tail)]
  rfl

theorem decodeFrom_three (lead : 0xE0 ≤ a.toNat ∧ a.toNat ≤ 0xEF)
    (second : 0x80 ≤ b.toNat ∧ b.toNat ≤ 0xBF) (long : a.toNat = 0xE0 → 0xA0 ≤ b.toNat)
    (noSurrogate : a.toNat = 0xED → b.toNat ≤ 0x9F) (tail : 0x80 ≤ c.toNat ∧ c.toNat ≤ 0xBF) :
    decodeFrom offset (a :: b :: c :: rest) =
      (decodeFrom (offset + 3) rest).map
        (Char.ofNat (a.toNat % 0x10 * 0x1000 + b.toNat % 0x40 * 0x40 + c.toNat % 0x40) :: ·) := by
  have not_low := not_low_of_le (Nat.le_trans (by decide) lead.1)
  have not_two : ¬ (0xC2 ≤ a && a ≤ 0xDF) = true :=
    not_lead_of_lt (Nat.lt_of_lt_of_le (by decide) lead.1)
  have three : (0xE0 ≤ a && a ≤ 0xEF) = true := lead_iff.mpr lead
  have good : isSecondOfThree a b = true :=
    isSecondOfThree_iff.mpr ⟨second, long, noSurrogate⟩
  rw [decodeFrom.eq_def]
  dsimp only
  rw [if_neg not_low, if_neg not_two, if_pos three, if_pos good,
    if_pos (isTail_iff.mpr tail)]
  rfl

theorem decodeFrom_four (lead : 0xF0 ≤ a.toNat ∧ a.toNat ≤ 0xF4)
    (second : 0x80 ≤ b.toNat ∧ b.toNat ≤ 0xBF) (long : a.toNat = 0xF0 → 0x90 ≤ b.toNat)
    (small : a.toNat = 0xF4 → b.toNat ≤ 0x8F) (third : 0x80 ≤ c.toNat ∧ c.toNat ≤ 0xBF)
    (tail : 0x80 ≤ d.toNat ∧ d.toNat ≤ 0xBF) :
    decodeFrom offset (a :: b :: c :: d :: rest) =
      (decodeFrom (offset + 4) rest).map
        (Char.ofNat (a.toNat % 0x08 * 0x40000 + b.toNat % 0x40 * 0x1000 + c.toNat % 0x40 * 0x40
          + d.toNat % 0x40) :: ·) := by
  have not_low := not_low_of_le (Nat.le_trans (by decide) lead.1)
  have not_two : ¬ (0xC2 ≤ a && a ≤ 0xDF) = true :=
    not_lead_of_lt (Nat.lt_of_lt_of_le (by decide) lead.1)
  have not_three : ¬ (0xE0 ≤ a && a ≤ 0xEF) = true :=
    not_lead_of_lt (Nat.lt_of_lt_of_le (by decide) lead.1)
  have four : (0xF0 ≤ a && a ≤ 0xF4) = true := lead_iff.mpr lead
  have good : isSecondOfFour a b = true := isSecondOfFour_iff.mpr ⟨second, long, small⟩
  rw [decodeFrom, if_neg not_low, if_neg not_two, if_neg not_three, if_pos four, if_pos good,
    if_pos (isTail_iff.mpr third), if_pos (isTail_iff.mpr tail)]
  rfl

/-! ## Texts -/

theorem encode_append (front rest : List Char) :
    encode (front ++ rest) = encode front ++ encode rest := by
  unfold encode
  exact List.flatMap_append

theorem toNat_ofNat_byte {n : Nat} (small : n < 0x100) : (UInt8.ofNat n).toNat = n := by
  rw [UInt8.toNat_ofNat']
  exact Nat.mod_eq_of_lt small

/-- The bytes of a character, by its number. -/
theorem utf8EncodeChar_eq (char : Char) :
    String.utf8EncodeChar char =
      if char.toNat ≤ 0x7F then [UInt8.ofNat char.toNat]
      else if char.toNat ≤ 0x7FF then
        [UInt8.ofNat (char.toNat / 64 % 32 + 192), UInt8.ofNat (char.toNat % 64 + 128)]
      else if char.toNat ≤ 0xFFFF then
        [UInt8.ofNat (char.toNat / 4096 % 16 + 224), UInt8.ofNat (char.toNat / 64 % 64 + 128),
          UInt8.ofNat (char.toNat % 64 + 128)]
      else
        [UInt8.ofNat (char.toNat / 262144 % 8 + 240), UInt8.ofNat (char.toNat / 4096 % 64 + 128),
          UInt8.ofNat (char.toNat / 64 % 64 + 128), UInt8.ofNat (char.toNat % 64 + 128)] :=
  rfl

/-- The bytes of one character are decoded to it, whatever comes after them. -/
theorem decodeFrom_char (char : Char) (offset : Nat) (rest : Bytes) :
    decodeFrom offset (String.utf8EncodeChar char ++ rest) =
      (decodeFrom (offset + (String.utf8EncodeChar char).length) rest).map (char :: ·) := by
  have back : Char.ofNat char.toNat = char := Char.ofNat_toNat char
  have scalar : char.toNat < 0xD800 ∨ 0xDFFF < char.toNat ∧ char.toNat < 0x110000 := char.valid
  rw [utf8EncodeChar_eq]
  generalize char.toNat = v at back scalar ⊢
  split
  · next one =>
    have value := toNat_ofNat_byte (n := v) (by omega)
    rw [List.singleton_append, decodeFrom_one (by omega), value, back]
    rfl
  split
  · next one two =>
    have lead := toNat_ofNat_byte (n := v / 64 % 32 + 192) (by omega)
    have tail := toNat_ofNat_byte (n := v % 64 + 128) (by omega)
    have value : (v / 64 % 32 + 192) % 0x20 * 0x40 + (v % 64 + 128) % 0x40 = v := by omega
    rw [List.cons_append, List.singleton_append, decodeFrom_two (by omega) (by omega), lead, tail,
      value, back]
    rfl
  split
  · next one two three =>
    have lead := toNat_ofNat_byte (n := v / 4096 % 16 + 224) (by omega)
    have second := toNat_ofNat_byte (n := v / 64 % 64 + 128) (by omega)
    have tail := toNat_ofNat_byte (n := v % 64 + 128) (by omega)
    have value : (v / 4096 % 16 + 224) % 0x10 * 0x1000 + (v / 64 % 64 + 128) % 0x40 * 0x40
        + (v % 64 + 128) % 0x40 = v := by omega
    rw [List.cons_append, List.cons_append, List.singleton_append,
      decodeFrom_three (by omega) (by omega) (by omega) (by omega) (by omega), lead, second, tail,
      value, back]
    rfl
  · next one two three =>
    have lead := toNat_ofNat_byte (n := v / 262144 % 8 + 240) (by omega)
    have second := toNat_ofNat_byte (n := v / 4096 % 64 + 128) (by omega)
    have third := toNat_ofNat_byte (n := v / 64 % 64 + 128) (by omega)
    have tail := toNat_ofNat_byte (n := v % 64 + 128) (by omega)
    have value : (v / 262144 % 8 + 240) % 0x08 * 0x40000 + (v / 4096 % 64 + 128) % 0x40 * 0x1000
        + (v / 64 % 64 + 128) % 0x40 * 0x40 + (v % 64 + 128) % 0x40 = v := by omega
    rw [List.cons_append, List.cons_append, List.cons_append, List.singleton_append,
      decodeFrom_four (by omega) (by omega) (by omega) (by omega) (by omega) (by omega), lead,
      second, third, tail, value, back]
    rfl

theorem decodeFrom_encode (text : List Char) (offset : Nat) :
    decodeFrom offset (encode text) = .ok text := by
  induction text generalizing offset with
  | nil => rfl
  | cons char text ih =>
    change decodeFrom offset (String.utf8EncodeChar char ++ encode text) = _
    rw [decodeFrom_char, ih]
    rfl

/-- Encoding loses nothing. -/
theorem decode_encode (text : List Char) : decode (encode text) = .ok text :=
  decodeFrom_encode text 0

/-! ## What is decoded -/

theorem ofNat_eq_of_toNat {n : Nat} (same : n = b.toNat) : UInt8.ofNat n = b := by
  rw [same, UInt8.ofNat_toNat]

/-- A number that is no surrogate and not too large is the number of its character. -/
theorem toNat_charOfNat {n : Nat} (scalar : n < 0xD800 ∨ 0xDFFF < n ∧ n < 0x110000) :
    (Char.ofNat n).toNat = n := by
  have valid : n.isValidChar := scalar
  unfold Char.ofNat
  rw [dif_pos valid]
  rfl

theorem utf8EncodeChar_one (lead : a.toNat < 0x80) :
    String.utf8EncodeChar (Char.ofNat a.toNat) = [a] := by
  rw [utf8EncodeChar_eq, toNat_charOfNat (by omega), if_pos (by omega), ofNat_eq_of_toNat rfl]

theorem utf8EncodeChar_two (lead : 0xC2 ≤ a.toNat ∧ a.toNat ≤ 0xDF)
    (tail : 0x80 ≤ b.toNat ∧ b.toNat ≤ 0xBF) :
    String.utf8EncodeChar (Char.ofNat (a.toNat % 0x20 * 0x40 + b.toNat % 0x40)) = [a, b] := by
  rw [utf8EncodeChar_eq, toNat_charOfNat (by omega), if_neg (by omega), if_pos (by omega),
    ofNat_eq_of_toNat (b := a) (by omega), ofNat_eq_of_toNat (b := b) (by omega)]

theorem utf8EncodeChar_three (lead : 0xE0 ≤ a.toNat ∧ a.toNat ≤ 0xEF)
    (second : 0x80 ≤ b.toNat ∧ b.toNat ≤ 0xBF) (long : a.toNat = 0xE0 → 0xA0 ≤ b.toNat)
    (noSurrogate : a.toNat = 0xED → b.toNat ≤ 0x9F) (tail : 0x80 ≤ c.toNat ∧ c.toNat ≤ 0xBF) :
    String.utf8EncodeChar
        (Char.ofNat (a.toNat % 0x10 * 0x1000 + b.toNat % 0x40 * 0x40 + c.toNat % 0x40)) =
      [a, b, c] := by
  rw [utf8EncodeChar_eq, toNat_charOfNat (by omega), if_neg (by omega), if_neg (by omega),
    if_pos (by omega), ofNat_eq_of_toNat (b := a) (by omega),
    ofNat_eq_of_toNat (b := b) (by omega), ofNat_eq_of_toNat (b := c) (by omega)]

theorem utf8EncodeChar_four (lead : 0xF0 ≤ a.toNat ∧ a.toNat ≤ 0xF4)
    (second : 0x80 ≤ b.toNat ∧ b.toNat ≤ 0xBF) (long : a.toNat = 0xF0 → 0x90 ≤ b.toNat)
    (small : a.toNat = 0xF4 → b.toNat ≤ 0x8F) (third : 0x80 ≤ c.toNat ∧ c.toNat ≤ 0xBF)
    (tail : 0x80 ≤ d.toNat ∧ d.toNat ≤ 0xBF) :
    String.utf8EncodeChar
        (Char.ofNat (a.toNat % 0x08 * 0x40000 + b.toNat % 0x40 * 0x1000 + c.toNat % 0x40 * 0x40
          + d.toNat % 0x40)) =
      [a, b, c, d] := by
  rw [utf8EncodeChar_eq, toNat_charOfNat (by omega), if_neg (by omega), if_neg (by omega),
    if_neg (by omega), ofNat_eq_of_toNat (b := a) (by omega),
    ofNat_eq_of_toNat (b := b) (by omega), ofNat_eq_of_toNat (b := c) (by omega),
    ofNat_eq_of_toNat (b := d) (by omega)]

/-- A character decoded in front of a text is the front of the bytes. -/
theorem eq_encode_of_map {char : Char} {front : Bytes} {text : List Char}
    (bytes : String.utf8EncodeChar char = front)
    (sound : ∀ {text}, decodeFrom offset rest = .ok text → rest = encode text)
    (read : (decodeFrom offset rest).map (char :: ·) = .ok text) : front ++ rest = encode text := by
  cases decoded : decodeFrom offset rest with
  | error e =>
    rw [decoded] at read
    cases read
  | ok back =>
    rw [decoded] at read
    cases read
    change _ = String.utf8EncodeChar char ++ encode back
    rw [bytes, sound decoded]

/-- What is decoded has the bytes that were read. -/
theorem eq_encode_of_decodeFrom {bytes : Bytes} {text : List Char}
    (read : decodeFrom offset bytes = .ok text) : bytes = encode text := by
  fun_induction decodeFrom offset bytes generalizing text with
  | case1 =>
    cases read
    rfl
  | case2 offset a rest low ih =>
    exact eq_encode_of_map (utf8EncodeChar_one (UInt8.lt_iff_toNat_lt.mp low)) ih read
  | case4 offset a not_low two b rest tail ih =>
    exact eq_encode_of_map (utf8EncodeChar_two (lead_iff.mp two) (isTail_iff.mp tail)) ih read
  | case8 offset a not_low not_two three b second c rest tail ih =>
    obtain ⟨between, long, noSurrogate⟩ := isSecondOfThree_iff.mp second
    exact eq_encode_of_map (utf8EncodeChar_three (lead_iff.mp three) between long noSurrogate
      (isTail_iff.mp tail)) ih read
  | case14 offset a not_low not_two not_three four b second c third d rest tail ih =>
    obtain ⟨between, long, small⟩ := isSecondOfFour_iff.mp second
    exact eq_encode_of_map (utf8EncodeChar_four (lead_iff.mp four) between long small
      (isTail_iff.mp third) (isTail_iff.mp tail)) ih read
  | _ => cases read

/-- Decoding succeeds on the bytes of texts, and on nothing else. -/
theorem decode_eq_ok_iff {bytes : Bytes} {text : List Char} :
    decode bytes = .ok text ↔ bytes = encode text := by
  constructor
  · exact eq_encode_of_decodeFrom
  · intro same
    rw [same, decode_encode]

/-! ## Bytes of a text -/

/-- Every byte of a character outside ASCII has its high bit set. -/
theorem le_of_mem_utf8EncodeChar {char : Char} {byte : UInt8} (wide : 0x80 ≤ char.toNat)
    (mem : byte ∈ String.utf8EncodeChar char) : 0x80 ≤ byte.toNat := by
  have high : ∀ n, 0x80 ≤ n → n < 0x100 → 0x80 ≤ (UInt8.ofNat n).toNat := by
    intro n low small
    rw [toNat_ofNat_byte small]
    exact low
  rw [utf8EncodeChar_eq] at mem
  generalize char.toNat = v at wide mem
  split at mem
  · next one => omega
  split at mem
  · simp only [List.mem_cons, List.not_mem_nil, or_false] at mem
    obtain rfl | rfl := mem <;> exact high _ (by omega) (by omega)
  split at mem
  · simp only [List.mem_cons, List.not_mem_nil, or_false] at mem
    obtain rfl | rfl | rfl := mem <;> exact high _ (by omega) (by omega)
  · simp only [List.mem_cons, List.not_mem_nil, or_false] at mem
    obtain rfl | rfl | rfl | rfl := mem <;> exact high _ (by omega) (by omega)

/-- An ASCII character that a text does not contain is not among the bytes of the text. -/
theorem not_mem_encode {text : List Char} {ascii : Char} (low : ascii.toNat < 0x80)
    (without : ascii ∉ text) : UInt8.ofNat ascii.toNat ∉ encode text := by
  rw [encode, List.mem_flatMap]
  rintro ⟨char, mem, byte⟩
  have value := toNat_ofNat_byte (n := ascii.toNat) (by omega)
  by_cases narrow : char.toNat < 0x80
  · rw [show String.utf8EncodeChar char = [UInt8.ofNat char.toNat] from
      if_pos (Nat.le_of_lt_succ narrow), List.mem_singleton] at byte
    have same := congrArg UInt8.toNat byte
    rw [value, toNat_ofNat_byte (by omega), Char.toNat_inj] at same
    exact without (same ▸ mem)
  · have wide := le_of_mem_utf8EncodeChar (Nat.not_lt.mp narrow) byte
    omega

end NotebookKernel.Utf8
