import NotebookKernel.Json
import NotebookKernel.Text.Numeral

/-!
Reading JSON numbers.

An integer that fits 64 bits stays an integer; minus zero does not. Everything else becomes a
double: the digits are gathered into a 64 bit significand, digits beyond it only count, and the
significand is then multiplied or divided by a power of ten. A number too large for a double is
refused.
-/

namespace NotebookKernel.Json

/-- Room in a 64 bit word for one more decimal digit. -/
def fitsDigit (bound significand digit : Nat) : Bool :=
  significand * 10 + digit < bound

/-- The value of a decimal digit. -/
def digitValue (c : Char) : Nat :=
  c.toNat - '0'.toNat

/-- The doubles at the powers of ten up to 1e308. -/
def powerOfTen (n : Nat) : Float :=
  Float.ofScientific 1 false n

/-- Scale by a power of ten. Below 1e-308 the scaling takes several steps, of which a significand
of 64 bits survives at most two. -/
def scale (value : Float) (exponent : Int) : (fuel : Nat) → Option Float
  | 0 => some 0
  | fuel + 1 =>
    if exponent.natAbs ≤ 308 then
      if 0 ≤ exponent then
        let scaled := value * powerOfTen exponent.natAbs
        if scaled.isInf then none else some scaled
      else some (value / powerOfTen exponent.natAbs)
    else if value == 0 then some value
    else if 0 ≤ exponent then none
    else scale (value / powerOfTen 308) (exponent + 308) fuel

/-- The double with a given sign, significand and power of ten. -/
def double? (negative : Bool) (significand : Nat) (exponent : Int) : Option Json :=
  (scale (UInt64.ofNat significand).toFloat exponent 4).map fun value =>
    float (if negative then -value else value).toBits

/-- The digits of an exponent, read onto `value`; `none` once it leaves 31 bits. -/
def exponentDigits (value : Nat) : List Char → Option Nat × List Char
  | [] => (some value, [])
  | c :: cs =>
    if Numeral.isDigit c then
      if fitsDigit (Nat.pow 2 31) value (digitValue c) then
        exponentDigits (value * 10 + digitValue c) cs
      else (none, (c :: cs).dropWhile Numeral.isDigit)
    else (some value, c :: cs)

/-- The rest of a number after its exponent mark. -/
def readExponent (negative : Bool) (significand : Nat) (start : Int) (cs : List Char) :
    Option (Json × List Char) :=
  let sign : Bool × List Char :=
    match cs with
    | '+' :: rest => (false, rest)
    | '-' :: rest => (true, rest)
    | rest => (false, rest)
  match sign.2 with
  | [] => none
  | c :: _ =>
    if Numeral.isDigit c then
      match exponentDigits 0 sign.2 with
      | (some exponent, rest) =>
        (double? negative significand (if sign.1 then start - exponent else start + exponent)).map
          fun j => (j, rest)
      | (none, rest) =>
        if significand ≠ 0 ∧ !sign.1 then none
        else (double? negative 0 0).map fun j => (j, rest)
    else none

/-- The end of a number that is not an integer: an exponent, or nothing. -/
def readScaled (negative : Bool) (significand : Nat) (exponent : Int) (cs : List Char) :
    Option (Json × List Char) :=
  match cs with
  | 'e' :: rest => readExponent negative significand exponent rest
  | 'E' :: rest => readExponent negative significand exponent rest
  | rest => (double? negative significand exponent).map fun j => (j, rest)

/-- Digits after the point, read onto the significand while they fit; digits after those are
dropped. -/
def fractionDigits (significand : Nat) (exponent : Int) : List Char → Nat × Int × List Char
  | [] => (significand, exponent, [])
  | c :: cs =>
    if Numeral.isDigit c then
      if fitsDigit (Nat.pow 2 64) significand (digitValue c) then
        fractionDigits (significand * 10 + digitValue c) (exponent - 1) cs
      else (significand, exponent, (c :: cs).dropWhile Numeral.isDigit)
    else (significand, exponent, c :: cs)

/-- The rest of a number after its point: at least one digit, then perhaps an exponent. -/
def readFraction (negative : Bool) (significand : Nat) (exponent : Int) (cs : List Char) :
    Option (Json × List Char) :=
  match cs with
  | [] => none
  | c :: _ =>
    if Numeral.isDigit c then
      let (significand, exponent, rest) := fractionDigits significand exponent cs
      readScaled negative significand exponent rest
    else none

/-- Digits before the point, read onto the significand while they fit; digits after those raise
the exponent. -/
def wholeDigits (significand : Nat) : List Char → Nat × Nat × List Char
  | [] => (significand, 0, [])
  | c :: cs =>
    if Numeral.isDigit c then
      if fitsDigit (Nat.pow 2 64) significand (digitValue c) then
        wholeDigits (significand * 10 + digitValue c) cs
      else
        (significand, ((c :: cs).takeWhile Numeral.isDigit).length,
          (c :: cs).dropWhile Numeral.isDigit)
    else (significand, 0, c :: cs)

/-- The rest of a number after its whole digits. -/
def readAfterWhole (negative : Bool) (significand extra : Nat) (cs : List Char) :
    Option (Json × List Char) :=
  match cs with
  | '.' :: rest => readFraction negative significand extra rest
  | 'e' :: _ => readScaled negative significand extra cs
  | 'E' :: _ => readScaled negative significand extra cs
  | rest =>
    if extra ≠ 0 then readScaled negative significand extra rest
    else if !negative then some (int significand, rest)
    else if significand = 0 ∨ Nat.pow 2 63 < significand then
      (double? negative significand 0).map fun j => (j, rest)
    else some (int (-(significand : Int)), rest)

/-- A number without its sign. A zero stands alone before the point. -/
def readMagnitude (negative : Bool) (cs : List Char) : Option (Json × List Char) :=
  match cs with
  | [] => none
  | c :: rest =>
    if c = '0' then
      match rest with
      | d :: _ => if Numeral.isDigit d then none else readAfterWhole negative 0 0 rest
      | [] => readAfterWhole negative 0 0 []
    else if Numeral.isDigit c then
      let (significand, extra, rest) := wholeDigits 0 cs
      readAfterWhole negative significand extra rest
    else none

/-- A number at the start of a text, and what follows it. -/
def readNumber (cs : List Char) : Option (Json × List Char) :=
  match cs with
  | '-' :: rest => readMagnitude true rest
  | rest => readMagnitude false rest

end NotebookKernel.Json
