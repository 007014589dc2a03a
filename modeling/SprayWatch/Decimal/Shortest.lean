/-!
# Shortest decimals

A binary fraction `m * 2 ^ q` stands for all the reals that round to it.  Of the decimals among them,
those with the fewest digits are taken, and of these the nearest.  All arithmetic is exact.
-/

namespace SprayWatch.Decimal

/-- The fraction `m * 2 ^ q`. -/
structure Binary where
  m : Nat
  q : Int
  deriving Repr, DecidableEq

/-- The decimal `digits * 10 ^ exponent`. -/
structure Scaled where
  digits : Nat
  exponent : Int
  deriving Repr, DecidableEq

def fraction (n : Nat) (q : Int) : Nat × Nat :=
  if 0 ≤ q then (n * Nat.pow 2 q.toNat, 1) else (n, Nat.pow 2 (-q).toNat)

/-- How often a number below the denominator has to be multiplied by ten to reach it. -/
def tensBelow (num den : Nat) : Nat → Nat
  | 0 => 0
  | fuel + 1 => if den ≤ num then 0 else 1 + tensBelow (num * 10) den fuel

/-- The exponent of the first digit of a fraction that is not zero. -/
def leadingExponent (num den : Nat) : Int :=
  if den ≤ num then ((Nat.toDigits 10 (num / den)).length : Int) - 1
  else -(tensBelow num den 400 : Int)

def stripZeros (d : Scaled) : Nat → Scaled
  | 0 => d
  | fuel + 1 =>
    if d.digits % 10 = 0 ∧ d.digits ≠ 0 then stripZeros ⟨d.digits / 10, d.exponent + 1⟩ fuel else d

/-- The reals that round to a binary fraction, as bounds in quarters of its last place; the bounds
themselves round to it when its last digit is even. -/
structure Interval where
  low : Nat
  high : Nat
  closed : Bool

def Binary.interval (b : Binary) (narrowBelow : Bool) : Interval :=
  ⟨4 * b.m - (if narrowBelow then 1 else 2), 4 * b.m + 2, b.m % 2 = 0⟩

/-- Is `digits * 10 ^ exponent` within the interval around a fraction with last place `2 ^ q`? -/
def Interval.holds (i : Interval) (q : Int) (d : Scaled) : Bool :=
  let (ln, ld) := fraction i.low (q - 2)
  let (hn, hd) := fraction i.high (q - 2)
  let (dn, dd) := if 0 ≤ d.exponent then (d.digits * Nat.pow 10 d.exponent.toNat, 1)
    else (d.digits, Nat.pow 10 (-d.exponent).toNat)
  if i.closed then ln * dd ≤ dn * ld && dn * hd ≤ hn * dd
  else ln * dd < dn * ld && dn * hd < hn * dd

/-- The decimal of `n` digits to take for a fraction, if one with so few digits rounds to it. -/
def Binary.withDigits? (b : Binary) (i : Interval) (n : Nat) : Option Scaled :=
  let (num, den) := fraction b.m b.q
  let exponent := leadingExponent num den - (n : Int) + 1
  let (sn, sd) := if 0 ≤ exponent then (num, den * Nat.pow 10 exponent.toNat)
    else (num * Nat.pow 10 (-exponent).toNat, den)
  let below := sn / sd
  let rest := sn % sd
  let nearest := if 2 * rest < sd then below
    else if sd < 2 * rest then below + 1
    else if below % 2 = 0 then below else below + 1
  let other := if nearest = below then below + 1 else below
  if i.holds b.q ⟨nearest, exponent⟩ then some ⟨nearest, exponent⟩
  else if i.holds b.q ⟨other, exponent⟩ then some ⟨other, exponent⟩
  else none

/-- The shortest decimal that rounds to a fraction other than zero. -/
def Binary.shortest (b : Binary) (narrowBelow : Bool) : Scaled :=
  let i := b.interval narrowBelow
  let found := (List.range 17).findSome? fun n => b.withDigits? i (n + 1)
  stripZeros (found.getD ⟨b.m, 0⟩) 20

/-- How decimals are written. -/
structure Style where
  /-- leading exponents from which digits are written out in place -/
  leastInPlace : Int
  /-- the last leading exponent for which they are -/
  mostInPlace : Int
  /-- least number of digits of an exponent -/
  exponentDigits : Nat

/-- Digits with a point after the first `places` of them; a zero stands on a side without digits. -/
def inPlace (ds : List Char) (places : Int) : List Char :=
  if places ≤ 0 then ['0', '.'] ++ List.replicate (-places).toNat '0' ++ ds
  else
    let n := places.toNat
    if ds.length ≤ n then ds ++ List.replicate (n - ds.length) '0' ++ ['.', '0']
    else ds.take n ++ ['.'] ++ ds.drop n

def Style.show (s : Style) (d : Scaled) : String :=
  let ds := Nat.toDigits 10 d.digits
  let leading := d.exponent + (ds.length : Int) - 1
  String.ofList <|
    if s.leastInPlace ≤ leading ∧ leading ≤ s.mostInPlace then inPlace ds (leading + 1)
    else
      let mantissa := match ds with
        | c :: c' :: cs => c :: '.' :: c' :: cs
        | cs => cs
      let e := Nat.toDigits 10 leading.natAbs
      mantissa ++ ['e', if leading < 0 then '-' else '+'] ++
        List.replicate (s.exponentDigits - e.length) '0' ++ e

/-- A number is written in place from five places after the point to sixteen before it. -/
def plainStyle : Style := ⟨-5, 15, 2⟩

/-- The place of the sign among the bits of a number, the first place behind the fraction, and the
number of exponents. -/
def signPlace : Nat := Nat.pow 2 63
def fractionEnd : Nat := Nat.pow 2 52
def exponentCount : Nat := Nat.pow 2 11

def ofFloat (x : Float) : String :=
  let bits : Nat := x.toBits.toNat
  let sign := if bits < signPlace then "" else "-"
  let biased : Nat := bits / fractionEnd % exponentCount
  let low : Nat := bits % fractionEnd
  if biased = 0 ∧ low = 0 then sign ++ "0.0"
  else
    let b : Binary := if biased = 0 then ⟨low, -1074⟩ else ⟨fractionEnd + low, (biased : Int) - 1075⟩
    sign ++ plainStyle.show (b.shortest (low = 0 ∧ 1 < biased))

end SprayWatch.Decimal
