namespace Sketchbook.Record

/-- A number of the format; a finite one is `significand * 2 ^ exponent`. -/
inductive Binary64 where
  | finite (significand : Int) (exponent : Int)
  | infinite (negative : Bool)
  | nan
  deriving Repr, DecidableEq

namespace Binary64

def roundDiv (num den : Nat) : Nat :=
  let q := num / den
  let r := num % den
  if 2 * r < den then q
  else if den < 2 * r then q + 1
  else q + q % 2

def twoTo (e : Int) : Nat := Nat.pow 2 e.toNat

def tenTo (e : Int) : Nat := Nat.pow 10 e.toNat

def leastExponent : Int := -1074

/-- The exponent with which a quotient gets a significand of 53 bits, or the least one of the
format. -/
def exponentFor (num den : Nat) : Int :=
  let guess : Int := (Nat.log2 num : Int) - Nat.log2 den - 52
  -- the logarithms are rounded down, so that the guess is too large by one at most
  let e := if num * twoTo (-guess) < den * twoTo guess * twoTo 52 then guess - 1 else guess
  if e < leastExponent then leastExponent else e

/-- The significand and exponent of the positive number nearest to a quotient. -/
def nearest (num den : Nat) : Nat × Int :=
  let e := exponentFor num den
  (roundDiv (num * twoTo (-e)) (den * twoTo e), e)

/-- The number nearest to `digits * 10 ^ exponent`. One that is far outside the format is not
computed. -/
def ofDecimal (negative : Bool) (digits : Nat) (exponent : Int) : Binary64 :=
  if digits = 0 ∨ exponent + Nat.log2 digits / 3 < -340 then .finite 0 0
  else if 310 ≤ exponent then .infinite negative
  else
    let (m, e) := nearest (digits * tenTo exponent) (tenTo (-exponent))
    if twoTo 1024 ≤ m * twoTo e then .infinite negative
    else .finite (if negative then -(m : Int) else m) e

def whole? : Binary64 → Option Int
  | .finite m e =>
    if 0 ≤ e then some (m * twoTo e)
    else if m % twoTo (-e) = 0 then some (m / twoTo (-e)) else none
  | _ => none

end Binary64

end Sketchbook.Record
