import UiTags.Number.Binary64

/-!
# Shortest decimal text of a binary64 value

The digits are the fewest that read back as the same value: for 1, 2, … 17 significant digits
the two neighbours of the value on that decimal grid are tested against the interval of reals
that round to it (its ends included when the significand is even). The first grid with a hit
wins; of two hits the nearer, and of two equally near the even one.

The text places the decimal point positionally when the decimal exponent lies between -4 and
16 and writes an exponent otherwise, keeps a `.0` on whole numbers, writes the exponent with a
sign and at least two digits, and spells the specials `inf`, `-inf` and `nan`.
-/

namespace UiTags
namespace Binary64

/-- A nonnegative rational as numerator and denominator. -/
structure Ratio where
  num : Nat
  den : Nat

/-- `x * 2^f` as a ratio. -/
def pow2Ratio (x : Nat) (f : Int) : Ratio :=
  if 0 ≤ f then ⟨x * Nat.pow 2 f.toNat, 1⟩ else ⟨x, Nat.pow 2 (-f).toNat⟩

/-- `t * 10^s` as a ratio. -/
def pow10Ratio (t : Nat) (s : Int) : Ratio :=
  if 0 ≤ s then ⟨t * Nat.pow 10 s.toNat, 1⟩ else ⟨t, Nat.pow 10 (-s).toNat⟩

/-- `a ≤ b` on ratios with positive denominators. -/
def Ratio.le (a b : Ratio) : Bool := a.num * b.den ≤ b.num * a.den

/-- `a < b` on ratios with positive denominators. -/
def Ratio.lt (a b : Ratio) : Bool := a.num * b.den < b.num * a.den

/-- The distance `|a - b|`, scaled by the common denominator `a.den * b.den`. -/
def Ratio.gap (a b : Ratio) : Nat :=
  let x := a.num * b.den
  let y := b.num * a.den
  if x ≤ y then y - x else x - y

/-- The number of decimal digits of a number, one for zero. -/
def digitCount (t : Nat) : Nat := (Nat.toDigits 10 t).length

/-- The greatest `P` with `10^P ≤ v`, for a positive ratio `v`. -/
def decimalExponent (v : Ratio) : Int :=
  let p0 : Int := (digitCount v.num : Int) - (digitCount v.den : Int)
  if (pow10Ratio 1 (p0 + 1)).le v then p0 + 1
  else if (pow10Ratio 1 p0).le v then p0
  else p0 - 1

/-- A digit string and the position of the decimal point: the value is `0.d₁d₂… * 10^point`. -/
structure Digits where
  digits : List Char
  point : Int

/-- The digits of `t * 10^s` without trailing zeros. -/
def Digits.ofScaled (t : Nat) (s : Int) : Digits :=
  let ds := Nat.toDigits 10 t
  let kept := (ds.reverse.dropWhile (· == '0')).reverse
  ⟨kept, (ds.length : Int) + s⟩

/-- The candidates at `k` significant digits: a hit of the interval `[lo, hi]` (ends included
when `closed`), nearest to `v`. -/
def hitAt (v lo hi : Ratio) (closed : Bool) (point : Int) (k : Nat) : Option Digits :=
  let s := point + 1 - (k : Int)
  let grid := pow10Ratio 1 s
  -- the floor of `v / 10^s`
  let t := (v.num * grid.den) / (v.den * grid.num)
  let inside (x : Ratio) : Bool :=
    if closed then lo.le x && x.le hi else lo.lt x && x.lt hi
  let a := pow10Ratio t s
  let b := pow10Ratio (t + 1) s
  match inside a, inside b with
  | true, true =>
    let ga := a.gap v * b.den
    let gb := b.gap v * a.den
    if ga < gb || (ga == gb && t % 2 == 0) then some (Digits.ofScaled t s)
    else some (Digits.ofScaled (t + 1) s)
  | true, false => some (Digits.ofScaled t s)
  | false, true => some (Digits.ofScaled (t + 1) s)
  | false, false => none

/-- The first precision among `ks` with a hit. -/
def firstHit (v lo hi : Ratio) (closed : Bool) (point : Int) : List Nat → Option Digits
  | [] => none
  | k :: ks =>
    match hitAt v lo hi closed point k with
    | some d => some d
    | none => firstHit v lo hi closed point ks

/-- The shortest digits of the positive value `m * 2^e`. -/
def shortestDigits (m : Nat) (e : Int) : Digits :=
  let v := pow2Ratio (4 * m) (e - 2)
  let hi := pow2Ratio (4 * m + 2) (e - 2)
  let lo := if m = Nat.pow 2 52 ∧ minExp < e then pow2Ratio (4 * m - 1) (e - 2)
    else pow2Ratio (4 * m - 2) (e - 2)
  let point := decimalExponent v
  (firstHit v lo hi (m % 2 == 0) point (List.range' 1 17)).getD
    (Digits.ofScaled (4 * m) (e - 2))

/-- The decimal exponent written after `e`: a sign and at least two digits. -/
def exponentText (x : Int) : List Char :=
  let ds := Nat.toDigits 10 x.natAbs
  (if x < 0 then '-' else '+') :: (if ds.length < 2 then '0' :: ds else ds)

/-- Digits laid out positionally or with an exponent. -/
def Digits.layout (d : Digits) : List Char :=
  let n : Int := d.digits.length
  if -4 < d.point ∧ d.point ≤ 16 then
    if d.point ≤ 0 then
      '0' :: '.' :: (List.replicate (-d.point).toNat '0' ++ d.digits)
    else if n ≤ d.point then
      d.digits ++ List.replicate (d.point - n).toNat '0' ++ ['.', '0']
    else
      d.digits.take d.point.toNat ++ '.' :: d.digits.drop d.point.toNat
  else
    let mant := match d.digits with
      | [] => ['0']
      | [c] => [c]
      | c :: rest => c :: '.' :: rest
    mant ++ 'e' :: exponentText (d.point - 1)

/-- The text of a binary64 value. -/
def text : Binary64 → String
  | nan => "nan"
  | infinite neg => if neg then "-inf" else "inf"
  | finite neg m e =>
    let body := if m = 0 then ['0', '.', '0'] else (shortestDigits m e).layout
    String.ofList (if neg then '-' :: body else body)

end Binary64
end UiTags
