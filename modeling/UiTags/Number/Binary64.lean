/-!
# Binary64 values

A binary64 floating-point value is a signed `m * 2^e` with a 53-bit significand, an infinity or
not-a-number. Decimal numbers read from documents are rounded to the nearest such value, a tie
going to the even significand, in exact integer arithmetic.

The finite values kept here are normalised: `m < 2^53`, and either `2^52 ≤ m` with
`-1074 ≤ e ≤ 971`, or `e = -1074` (zero and the subnormal values).
-/

namespace UiTags

/-- A binary64 value: finite `(-1)^neg * m * 2^e`, an infinity, or not-a-number. -/
inductive Binary64 where
  | finite (neg : Bool) (m : Nat) (e : Int)
  | infinite (neg : Bool)
  | nan
  deriving DecidableEq, Repr, Inhabited

namespace Binary64

/-- The least binary exponent, that of the subnormal values. -/
def minExp : Int := -1074

/-- The greatest binary exponent of a finite value. -/
def maxExp : Int := 971

/-- The quotient `n / d` rounded to the nearest integer, a tie going to the even one. -/
def roundHalfEven (n d : Nat) : Nat :=
  let q := n / d
  let r := n % d
  if 2 * r < d then q
  else if 2 * r > d then q + 1
  else if q % 2 == 0 then q else q + 1

/-- `n / (d * 2^e)` as a pair of naturals. -/
def scaled (n d : Nat) (e : Int) : Nat × Nat :=
  if 0 ≤ e then (n, d * Nat.pow 2 e.toNat) else (n * Nat.pow 2 (-e).toNat, d)

/-- The binary exponent at which `n / d` (with `0 < n`, `0 < d`) has a 53-bit significand. -/
def exponentOf (n d : Nat) : Int :=
  let e0 : Int := (Nat.log2 n : Int) - (Nat.log2 d : Int) - 52
  let p := scaled n d e0
  if Nat.pow 2 52 * p.2 ≤ p.1 then e0 else e0 - 1

/-- The nearest binary64 value to `(-1)^neg * n / d`, for `0 < d`. -/
def ofRatio (neg : Bool) (n d : Nat) : Binary64 :=
  if n = 0 then finite neg 0 minExp
  else
    let e := max (exponentOf n d) minExp
    let p := scaled n d e
    let m := roundHalfEven p.1 p.2
    let (m, e) := if m = Nat.pow 2 53 then (Nat.pow 2 52, e + 1) else (m, e)
    if maxExp < e then infinite neg
    else finite neg m (if m = 0 then minExp else e)

/-- The nearest binary64 value to `(-1)^neg * digits * 10^exp10`, where `digits` has `len`
decimal digits. Exponents far outside the binary64 range go straight to infinity or zero. -/
def ofDecimal (neg : Bool) (digits : Nat) (len : Nat) (exp10 : Int) : Binary64 :=
  if digits = 0 then finite neg 0 minExp
  else if 400 < exp10 then infinite neg
  else if (len : Int) + exp10 < -400 then finite neg 0 minExp
  else if 0 ≤ exp10 then ofRatio neg (digits * Nat.pow 10 exp10.toNat) 1
  else ofRatio neg digits (Nat.pow 10 (-exp10).toNat)

/-- Zero, of either sign, is the only finite value with significand zero. -/
def isZero : Binary64 → Bool
  | finite _ m _ => m == 0
  | _ => false

/-- Whether a value is below one: every negative value, and a positive finite one whose
magnitude is a proper fraction; not a value that is no number. -/
def belowOne : Binary64 → Bool
  | finite true _ _ => true
  | finite false m e => if 0 ≤ e then m == 0 else m < Nat.pow 2 (-e).toNat
  | infinite neg => neg
  | nan => false

end Binary64
end UiTags
