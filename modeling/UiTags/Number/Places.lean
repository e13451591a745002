import UiTags.Number.Binary64

/-!
# Rounding to decimal places

A finite binary64 value rounded to `p` decimal places (to a multiple of `10^-p`; a negative `p`
rounds to tens, hundreds and so on) is taken at its exact value, rounded there to the nearest
multiple, a tie going to the even multiple, and the multiple is then read back as the nearest
binary64 value. A result of zero keeps the sign of the value. Infinities and not-a-number are
left as they are, as are values when `p` is so large that every double is already a multiple,
and when `p` is so small that every double rounds to zero the result is a zero.
-/

namespace UiTags
namespace Binary64

/-- The exact value of a finite binary64 value as a fraction: numerator and positive
denominator. -/
def fraction? : Binary64 → Option (Int × Nat)
  | .finite neg m e =>
    let n : Int := if neg then -(m : Int) else m
    if 0 ≤ e then some (n * Int.ofNat (Nat.pow 2 e.toNat), 1) else some (n, Nat.pow 2 (-e).toNat)
  | _ => none

/-- An integer quotient rounded to the nearest integer, a tie going to the even one. -/
def divRoundEven (n : Int) (d : Nat) : Int :=
  let q := Int.fdiv n d
  let twice := 2 * (n - q * d)
  if twice < d then q
  else if (d : Int) < twice then q + 1
  else if q % 2 == 0 then q else q + 1

/-- A value rounded to `p` decimal places, a tie going to the even last digit. -/
def roundPlaces (x : Binary64) (p : Int) : Binary64 :=
  match x with
  | .finite neg _ _ =>
    if 323 < p then x
    else if p < -308 then .finite neg 0 minExp
    else match x.fraction? with
      | some (n, d) =>
        let k := if 0 ≤ p then divRoundEven (n * Int.ofNat (Nat.pow 10 p.toNat)) d
          else divRoundEven n (d * Nat.pow 10 (-p).toNat)
        if k == 0 then .finite neg 0 minExp
        else if 0 ≤ p then ofRatio (k < 0) k.natAbs (Nat.pow 10 p.toNat)
        else ofRatio (k < 0) (k.natAbs * Nat.pow 10 (-p).toNat) 1
      | none => x
  | _ => x

/-- An integer rounded to a multiple of `10^-p` for a negative `p`, a tie going to the even
multiple; unchanged for `p` not negative. -/
def roundIntPlaces (n : Int) (p : Int) : Int :=
  if 0 ≤ p then n
  else
    let unit := Nat.pow 10 (-p).toNat
    divRoundEven n unit * unit

end Binary64
end UiTags
