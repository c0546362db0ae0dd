import Mathlib.Algebra.BigOperators.Fin
import Mathlib.Tactic.Ring
import NotebookKernel.Proofs.Target.Storage

/-!
Numbers in storage, by the places of their bytes.

The byte at a place counts for a power of 256, and the order of the target says which byte has which
place. `Storage.decoded_by_place` says what comes of reading at an offset: the number of the bytes
there if the storage has them all, and an error otherwise. What was put there with the same order is
read again, and the storage read from its other end gives the same in the other order.
-/

namespace NotebookKernel

namespace Endianness

/-- The place of the byte at a position of a number with `size` bytes: how many of its bytes count
for less. -/
def place (order : Endianness) (size position : Nat) : Nat :=
  match order with
  | little => position
  | big => size - 1 - position

/-- The bytes of a number in a given order. -/
def bytesOf (order : Endianness) (size n : Nat) : Bytes :=
  List.ofFn fun i : Fin size => UInt8.ofNat (n / 256 ^ order.place size i)

/-- The other order. -/
def flipped : Endianness → Endianness
  | little => big
  | big => little

end Endianness

/-! ## Places -/

theorem bigEndian_cons (b : UInt8) (bytes : Bytes) :
    bigEndian (b :: bytes) = b.toNat * 256 ^ bytes.length + bigEndian bytes := by
  induction bytes using List.reverseRecOn with
  | nil => simp [bigEndian]
  | append_singleton front last ih =>
    rw [← List.cons_append, bigEndian_concat, bigEndian_concat, ih, List.length_append,
      List.length_singleton, Nat.pow_succ]
    ring

namespace Endianness

/-- A number is the sum of its bytes, each at its place. -/
theorem number_eq_sum (order : Endianness) (bytes : Bytes) :
    order.number bytes =
      ∑ i : Fin bytes.length, (bytes.get i).toNat * 256 ^ order.place bytes.length i := by
  cases order with
  | little =>
    induction bytes with
    | nil => rfl
    | cons b rest ih =>
      change bigEndian (b :: rest).reverse = _
      rw [List.reverse_cons, bigEndian_concat]
      change 256 * little.number rest + _ = _
      rw [ih, Nat.add_comm, Finset.mul_sum]
      refine .trans ?_ (Fin.sum_univ_succ (n := rest.length) _).symm
      apply congrArg₂
      · simp [place]
      · apply Finset.sum_congr rfl
        intro i _
        have next : (b :: rest).get i.succ = rest.get i := rfl
        rw [next, place, place, Fin.val_succ]
        ring
  | big =>
    induction bytes with
    | nil => rfl
    | cons b rest ih =>
      change bigEndian (b :: rest) = _
      rw [bigEndian_cons]
      change _ + big.number rest = _
      rw [ih]
      refine .trans ?_ (Fin.sum_univ_succ (n := rest.length) _).symm
      apply congrArg₂
      · simp [place]
      · apply Finset.sum_congr rfl
        intro i _
        have next : (b :: rest).get i.succ = rest.get i := rfl
        have fewer : rest.length + 1 - 1 - (i + 1) = rest.length - 1 - i := by omega
        rw [next, place, place, Fin.val_succ, List.length_cons, fewer]

theorem length_bytesOf (order : Endianness) (size n : Nat) :
    (order.bytesOf size n).length = size :=
  List.length_ofFn

theorem bytesOf_little (size n : Nat) : little.bytesOf size n = littleEndianBytes size n := by
  induction size generalizing n with
  | zero => rfl
  | succ size ih =>
    rw [littleEndianBytes, ← ih, bytesOf, List.ofFn_succ]
    simp only [place, Fin.val_zero, Nat.pow_zero, Nat.div_one, Fin.val_succ, Nat.pow_succ',
      bytesOf, Nat.div_div_eq_div_mul]

theorem bytesOf_big (size n : Nat) : big.bytesOf size n = (little.bytesOf size n).reverse := by
  apply List.ext_getElem
  · simp [length_bytesOf]
  · intro i _ _
    simp [bytesOf, place]

/-- The bytes of a number denote as much of it as they have places for. -/
theorem number_bytesOf (order : Endianness) (size n : Nat) :
    order.number (order.bytesOf size n) = n % 256 ^ size := by
  cases order with
  | little => rw [bytesOf_little, number_littleEndianBytes]
  | big =>
    rw [bytesOf_big, bytesOf_little, ← number_littleEndianBytes]
    rfl

theorem number_flipped (order : Endianness) (bytes : Bytes) :
    order.flipped.number bytes.reverse = order.number bytes := by
  cases order with
  | little => rfl
  | big => rw [flipped, number, number, List.reverse_reverse]

end Endianness

/-! ## Storage -/

namespace Storage

/-- The number that `size` bytes of the storage denote by their places. All of them are there. -/
def valueAt (s : Storage) (offset size : Nat) (whole : offset + size ≤ s.bytes.length) : Nat :=
  ∑ i : Fin size,
    (s.bytes.get ⟨offset + i, Nat.lt_of_lt_of_le (Nat.add_lt_add_left i.isLt offset) whole⟩).toNat *
      256 ^ s.order.place size i

/-- The storage after the bytes of a number were put at an offset. -/
def putting (s : Storage) (offset size n : Nat) : Storage :=
  { s with bytes := s.bytes.take offset ++ s.order.bytesOf size n ++ s.bytes.drop (offset + size) }

/-- The storage read from its other end, in the other order. -/
def mirrored (s : Storage) : Storage :=
  { s with bytes := s.bytes.reverse, order := s.order.flipped }

variable {s : Storage} {offset size : Nat}

theorem length_window (whole : offset + size ≤ s.bytes.length) :
    ((s.bytes.drop offset).take size).length = size := by
  rw [List.length_take, List.length_drop]
  omega

theorem number_window (whole : offset + size ≤ s.bytes.length) :
    s.order.number ((s.bytes.drop offset).take size) = s.valueAt offset size whole := by
  have length := length_window whole
  rw [Endianness.number_eq_sum]
  apply Fintype.sum_equiv (finCongr length)
  intro i
  simp [length]

theorem slice_whole (whole : offset + size ≤ s.bytes.length) (what : String) :
    s.slice offset size what = .ok ((s.bytes.drop offset).take size) :=
  if_pos whole

theorem slice_short (short : ¬ offset + size ≤ s.bytes.length) (what : String) :
    s.slice offset size what = .error (.malformedStorage what s.bytes) :=
  if_neg short

theorem valueAt_lt (whole : offset + size ≤ s.bytes.length) :
    s.valueAt offset size whole < 256 ^ size := by
  have small := s.order.number_lt ((s.bytes.drop offset).take size)
  rwa [length_window whole, number_window whole] at small

/-! ### Reading -/

variable {width : NativeWidth}

theorem signed_whole (whole : offset + width.bytes ≤ s.bytes.length) :
    s.signed offset width =
      .ok (twosComplement width.bytes (s.valueAt offset width.bytes whole)) := by
  rw [signed, slice_whole whole, ← number_window whole]

theorem signed_short (short : ¬ offset + width.bytes ≤ s.bytes.length) :
    s.signed offset width = .error (.malformedStorage "integer" s.bytes) := by
  rw [signed, slice_short short]

theorem address_whole (whole : offset + s.addressSize ≤ s.bytes.length)
    (size : s.addressSize = 4 ∨ s.addressSize = 8) :
    s.address offset = .ok (s.valueAt offset s.addressSize whole) := by
  rw [address, slice_whole whole, ← number_window whole]
  exact if_pos size

theorem address_odd (whole : offset + s.addressSize ≤ s.bytes.length)
    (odd : ¬ (s.addressSize = 4 ∨ s.addressSize = 8)) :
    s.address offset =
      .error (.malformedStorage "address" ((s.bytes.drop offset).take s.addressSize)) := by
  rw [address, slice_whole whole]
  exact if_neg odd

theorem address_short (short : ¬ offset + s.addressSize ≤ s.bytes.length) :
    s.address offset = .error (.malformedStorage "address" s.bytes) := by
  rw [address, slice_short short]

/-! ### Reading what was put there -/

/-- Nothing gets longer or shorter. -/
theorem whole_putting (whole : offset + size ≤ s.bytes.length) (n : Nat) :
    offset + size ≤ (s.putting offset size n).bytes.length := by
  rw [putting, List.length_append, List.length_append, Endianness.length_bytesOf,
    List.length_take, List.length_drop]
  omega

theorem valueAt_putting (whole : offset + size ≤ s.bytes.length) (n : Nat)
    (whole' : offset + size ≤ (s.putting offset size n).bytes.length) :
    (s.putting offset size n).valueAt offset size whole' = n % 256 ^ size := by
  have front : (s.bytes.take offset).length = offset := by
    rw [List.length_take]
    omega
  have window : ((s.putting offset size n).bytes.drop offset).take size =
      s.order.bytesOf size n := by
    rw [putting, List.append_assoc, List.drop_left' front]
    exact List.take_left' (s.order.length_bytesOf size n)
  rw [← number_window, window]
  exact s.order.number_bytesOf size n

theorem signed_putting {n : Int} (whole : offset + width.bytes ≤ s.bytes.length)
    (lower : -256 ^ width.bytes ≤ 2 * n) (upper : 2 * n < 256 ^ width.bytes) :
    (s.putting offset width.bytes (n % 256 ^ width.bytes).toNat).signed offset width = .ok n := by
  have positive : (0 : Int) < 256 ^ width.bytes := Int.pow_pos (by decide)
  rw [signed_whole (whole_putting whole _), valueAt_putting whole]
  apply congrArg
  rw [twosComplement_eq_iff (Nat.mod_lt _ (Nat.pow_pos (by decide)))]
  refine ⟨lower, upper, ?_⟩
  push_cast
  rw [Int.toNat_of_nonneg (Int.emod_nonneg n positive.ne'), Int.emod_emod]
  exact Int.dvd_self_sub_emod

theorem address_putting {a : Nat} (whole : offset + s.addressSize ≤ s.bytes.length)
    (size : s.addressSize = 4 ∨ s.addressSize = 8) (small : a < 256 ^ s.addressSize) :
    (s.putting offset s.addressSize a).address offset = .ok a := by
  have there := whole_putting whole a
  have value := valueAt_putting whole a there
  rw [Nat.mod_eq_of_lt small] at value
  rw [← congrArg Except.ok value]
  exact address_whole there size

/-! ### Reading from the other end -/

theorem valueAt_mirrored (whole : offset + size ≤ s.bytes.length)
    (whole' : s.bytes.length - (offset + size) + size ≤ s.mirrored.bytes.length) :
    s.mirrored.valueAt (s.bytes.length - (offset + size)) size whole' =
      s.valueAt offset size whole := by
  have window : (s.mirrored.bytes.drop (s.bytes.length - (offset + size))).take size =
      ((s.bytes.drop offset).take size).reverse := by
    have past : s.bytes.length - (s.bytes.length - (offset + size)) = offset + size := by omega
    have before : ((s.bytes.take (offset + size)).length - size) = offset := by
      rw [List.length_take]
      omega
    rw [mirrored, List.drop_reverse, past, List.take_reverse, before, List.drop_take,
      Nat.add_sub_cancel_left]
  rw [← number_window, ← number_window, window]
  exact s.order.number_flipped _

theorem whole_mirrored (whole : offset + size ≤ s.bytes.length) :
    s.bytes.length - (offset + size) + size ≤ s.mirrored.bytes.length := by
  rw [mirrored, List.length_reverse]
  omega

theorem signed_mirrored (whole : offset + width.bytes ≤ s.bytes.length) :
    s.mirrored.signed (s.bytes.length - (offset + width.bytes)) width = s.signed offset width := by
  have there := whole_mirrored whole
  rw [signed_whole there, valueAt_mirrored whole there, signed_whole whole]

theorem address_mirrored (whole : offset + s.addressSize ≤ s.bytes.length)
    (size : s.addressSize = 4 ∨ s.addressSize = 8) :
    s.mirrored.address (s.bytes.length - (offset + s.addressSize)) = s.address offset := by
  have there := whole_mirrored whole
  rw [address_whole whole size, ← congrArg Except.ok (valueAt_mirrored whole there)]
  exact address_whole there size

/-! ### All of it -/

/-- A signed integer is read exactly where the storage has all its bytes, an address where besides
it is of one of two sizes, and both are what the bytes denote by their places; all else is an error
about the storage. What was put at an offset is read there again, and reading in one order is
reading the bytes from their other end in the other. -/
theorem decoded_by_place (s : Storage) (offset : Nat) :
    (∀ width : NativeWidth,
      match s.signed offset width with
      | .ok n => ∃ whole, -256 ^ width.bytes ≤ 2 * n ∧ 2 * n < 256 ^ width.bytes ∧
          (256 ^ width.bytes : Int) ∣ n - s.valueAt offset width.bytes whole
      | .error e => s.bytes.length < offset + width.bytes ∧
          e = .malformedStorage "integer" s.bytes) ∧
    (match s.address offset with
      | .ok a => (s.addressSize = 4 ∨ s.addressSize = 8) ∧
          ∃ whole, a = s.valueAt offset s.addressSize whole
      | .error e =>
          (s.addressSize ≠ 4 ∧ s.addressSize ≠ 8 ∨ s.bytes.length < offset + s.addressSize) ∧
          ∃ bytes, e = .malformedStorage "address" bytes) ∧
    (∀ (width : NativeWidth) (n : Int), offset + width.bytes ≤ s.bytes.length →
      -256 ^ width.bytes ≤ 2 * n → 2 * n < 256 ^ width.bytes →
      (s.putting offset width.bytes (n % 256 ^ width.bytes).toNat).signed offset width = .ok n) ∧
    (∀ a, offset + s.addressSize ≤ s.bytes.length → s.addressSize = 4 ∨ s.addressSize = 8 →
      a < 256 ^ s.addressSize → (s.putting offset s.addressSize a).address offset = .ok a) ∧
    (∀ width : NativeWidth, offset + width.bytes ≤ s.bytes.length →
      s.mirrored.signed (s.bytes.length - (offset + width.bytes)) width =
        s.signed offset width) ∧
    (offset + s.addressSize ≤ s.bytes.length → s.addressSize = 4 ∨ s.addressSize = 8 →
      s.mirrored.address (s.bytes.length - (offset + s.addressSize)) = s.address offset) := by
  refine ⟨?_, ?_, ?_, ?_, ?_, ?_⟩
  · intro width
    by_cases whole : offset + width.bytes ≤ s.bytes.length
    · rw [signed_whole whole]
      exact ⟨whole, (twosComplement_eq_iff (valueAt_lt whole)).mp rfl⟩
    · rw [signed_short whole]
      exact ⟨Nat.lt_of_not_le whole, rfl⟩
  · by_cases whole : offset + s.addressSize ≤ s.bytes.length
    · by_cases size : s.addressSize = 4 ∨ s.addressSize = 8
      · rw [address_whole whole size]
        exact ⟨size, whole, rfl⟩
      · rw [address_odd whole size]
        exact ⟨.inl (not_or.mp size), _, rfl⟩
    · rw [address_short whole]
      exact ⟨.inr (Nat.lt_of_not_le whole), _, rfl⟩
  · intro width n whole lower upper
    exact signed_putting whole lower upper
  · intro a whole size small
    exact address_putting whole size small
  · intro width whole
    exact signed_mirrored whole
  · intro whole size
    exact address_mirrored whole size

/-- Four bytes behind another one, the most significant first, and addresses of as many. -/
def fourBehindOne : Storage :=
  ⟨[7, 0, 0, 0, 0], .big, 4⟩

/-- The least integer of 32 bits and the greatest address are read as they were put, and the address
is read from the other end as well. -/
theorem decoded_by_place_extremes :
    (fourBehindOne.putting 1 4 0x80000000).signed 1 .bits32 = .ok (-2147483648) ∧
      (fourBehindOne.putting 1 4 0xffffffff).address 1 = .ok 0xffffffff ∧
      (fourBehindOne.putting 1 4 0xffffffff).mirrored.address 0 = .ok 0xffffffff := by
  obtain ⟨-, -, integer, address, -⟩ := decoded_by_place fourBehindOne 1
  obtain ⟨-, -, -, -, -, mirrored⟩ :=
    decoded_by_place (fourBehindOne.putting 1 4 0xffffffff) 1
  have least := integer .bits32 (-2147483648) (by decide) (by decide) (by decide)
  have greatest := address 0xffffffff (by decide) (by decide) (by decide)
  have number : ((-2147483648 : Int) % 256 ^ NativeWidth.bits32.bytes).toNat = 0x80000000 := by
    decide
  have length : (fourBehindOne.putting 1 4 0xffffffff).bytes.length = 5 := by decide
  rw [number] at least
  have other := mirrored (by decide) (by decide)
  rw [length] at other
  exact ⟨least, greatest, other.trans greatest⟩

end Storage

end NotebookKernel
