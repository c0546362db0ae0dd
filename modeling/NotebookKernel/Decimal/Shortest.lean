/-!
The shortest decimal that reads back as a given double.

A positive double is `m * 2 ^ q`. The reals that round to it form an interval around it, with its
ends when `m` is even. For one digit, two digits and so on, the two neighbours of the value on that
decimal grid are tried; the first grid with a neighbour inside the interval gives the digits, of
two neighbours the nearer, and of two equally near ones the even.
-/

namespace NotebookKernel.Decimal

/-- A positive number `digits * 10 ^ exponent`. -/
structure Scientific where
  digits : Nat
  exponent : Int
  deriving Repr, DecidableEq, Inhabited

/-- A positive finite double: the fraction `num / den`, and the half widths of the interval of
reals that round to it, below and above, over the same denominator. -/
structure Dyadic where
  num : Nat
  den : Nat
  below : Nat
  above : Nat
  /-- The ends of the interval round to the double too. -/
  closed : Bool

/-- The fraction with a given mantissa and power of two, in quarters of the last place, so that
the half widths are whole. At a power of two the neighbour below is half as far. -/
def Dyadic.ofParts (mantissa : Nat) (power : Int) (narrowBelow : Bool) : Dyadic :=
  let scale : Nat := if 0 ≤ power then Nat.pow 2 power.toNat else 1
  let den : Nat := if 0 ≤ power then 1 else Nat.pow 2 (-power).toNat
  { num := 4 * mantissa * scale
    den := 4 * den
    below := (if narrowBelow then 1 else 2) * scale
    above := 2 * scale
    closed := mantissa % 2 = 0 }

/-- The magnitude of a finite double that is not zero, from its bits. -/
def Dyadic.ofBits (bits : UInt64) : Dyadic :=
  let fraction : Nat := bits.toNat % Nat.pow 2 52
  let biased : Nat := bits.toNat / Nat.pow 2 52 % Nat.pow 2 11
  if biased = 0 then
    .ofParts fraction (-1074) false
  else
    .ofParts (Nat.pow 2 52 + fraction) ((biased : Int) - 1075) (fraction = 0 && 1 < biased)

/-- The point `digits * 10 ^ exponent` lies in the interval of `d`. -/
def Dyadic.holds (d : Dyadic) (digits : Nat) (exponent : Int) : Bool :=
  let up : Nat := if 0 ≤ exponent then Nat.pow 10 exponent.toNat else 1
  let down : Nat := if 0 ≤ exponent then 1 else Nat.pow 10 (-exponent).toNat
  let point := digits * up * d.den
  let low := (d.num - d.below) * down
  let high := (d.num + d.above) * down
  if d.closed then low ≤ point && point ≤ high else low < point && point < high

/-- The two neighbours of `d` on the grid of multiples of `10 ^ exponent`, the nearer first. -/
def Dyadic.neighbours (d : Dyadic) (exponent : Int) : Nat × Nat :=
  let up : Nat := if 0 ≤ exponent then Nat.pow 10 exponent.toNat else 1
  let down : Nat := if 0 ≤ exponent then 1 else Nat.pow 10 (-exponent).toNat
  let floor := d.num * down / (d.den * up)
  let rest := d.num * down % (d.den * up)
  if 2 * rest < d.den * up ∨ (2 * rest = d.den * up ∧ floor % 2 = 0) then
    (floor, floor + 1)
  else
    (floor + 1, floor)

/-- The exponent of the leading decimal digit of `d`. -/
def Dyadic.leading (d : Dyadic) : Int :=
  if d.den ≤ d.num then
    ((Nat.toDigits 10 (d.num / d.den)).length : Int) - 1
  else
    let places := (Nat.toDigits 10 ((d.den - 1) / d.num)).length
    if d.den ≤ d.num * Nat.pow 10 (places - 1) then 1 - (places : Int) else -(places : Int)

/-- Without zeros at the end; `fuel` bounds their number. -/
def Scientific.trimmed (fuel : Nat) (s : Scientific) : Scientific :=
  match fuel with
  | 0 => s
  | fuel + 1 =>
    if s.digits ≠ 0 ∧ s.digits % 10 = 0 then
      Scientific.trimmed fuel ⟨s.digits / 10, s.exponent + 1⟩
    else s

/-- Try the grids from `count` digits on, at most `fuel` of them. -/
def Dyadic.search (d : Dyadic) (lead : Int) (count : Nat) : (fuel : Nat) → Scientific
  | 0 => ⟨(d.neighbours (lead - count + 1)).1, lead - count + 1⟩
  | fuel + 1 =>
    let exponent := lead - count + 1
    let near := d.neighbours exponent
    if d.holds near.1 exponent then ⟨near.1, exponent⟩
    else if d.holds near.2 exponent then ⟨near.2, exponent⟩
    else d.search lead (count + 1) fuel

/-- The shortest decimal that reads back as the double `d`; seventeen digits always do. -/
def Dyadic.shortest (d : Dyadic) : Scientific :=
  (d.search d.leading 1 17).trimmed 20

/-- How a number is written around its digits. -/
structure Style where
  /-- Values below ten to this power are written without an exponent. -/
  positionalBelow : Int
  /-- Values with at most this many zeros after the point are written without an exponent. -/
  zerosAfterPoint : Nat
  /-- An exponent that is not negative has a plus sign. -/
  plusSign : Bool

/-- The text of a positive number. Whole numbers keep one zero after the point. -/
def Scientific.text (style : Style) (s : Scientific) : List Char :=
  let digits := Nat.toDigits 10 s.digits
  let point : Int := digits.length + s.exponent
  if 0 ≤ s.exponent ∧ point ≤ style.positionalBelow then
    digits ++ List.replicate s.exponent.toNat '0' ++ ['.', '0']
  else if 0 < point ∧ point ≤ style.positionalBelow then
    digits.take point.toNat ++ '.' :: digits.drop point.toNat
  else if -(style.zerosAfterPoint : Int) ≤ point ∧ point ≤ 0 then
    '0' :: '.' :: List.replicate (-point).toNat '0' ++ digits
  else
    let mantissa :=
      match digits with
      | first :: second :: rest => first :: '.' :: second :: rest
      | digits => digits
    let power := point - 1
    let sign := if power < 0 then ['-'] else if style.plusSign then ['+'] else []
    mantissa ++ 'e' :: sign ++ Nat.toDigits 10 power.natAbs

/-- The text of a finite double, from its bits. -/
def textOfBits (style : Style) (bits : UInt64) : List Char :=
  let sign := if bits.toNat / Nat.pow 2 63 = 1 then ['-'] else []
  let magnitude := bits.toNat % Nat.pow 2 63
  if magnitude = 0 then sign ++ ['0', '.', '0']
  else sign ++ (Dyadic.ofBits bits).shortest.text style

end NotebookKernel.Decimal
