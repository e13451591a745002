import UiTags.Number.Binary64
import UiTags.Text.Basic

/-!
# Exact parts of a binary64 value

A finite binary64 value is a fraction whose denominator is a power of two, so it can be read
exactly: as a fraction in lowest terms, as a test for being a whole number, and as
hexadecimal text.

The hexadecimal text writes the 53-bit significand as one leading digit (`1` for a normal
value, `0` for a subnormal one), a point and thirteen hexadecimal places, then `p` and the
binary exponent with its sign: `0x1.8000000000000p+0` is 1.5. Subnormal values all take the
exponent `-1022`; zero is `0x0.0p+0`, with the sign of a negative zero kept. The text names the
value exactly, since the thirteen places hold the 52 bits below the leading one.
-/

namespace UiTags
namespace Binary64

/-- The significand of a normal value is at least this; below it the value is subnormal. -/
def hiddenBit : Nat := Nat.pow 2 52

/-- A finite value as a fraction in lowest terms: the numerator carries the sign (a negative
zero is `0 / 1`), the denominator is a positive power of two. -/
def lowestTerms? : Binary64 → Option (Int × Nat)
  | finite neg m e =>
    let (n, d) := if 0 ≤ e then (m * Nat.pow 2 e.toNat, 1) else (m, Nat.pow 2 (-e).toNat)
    let g := Nat.gcd n d
    let num : Int := (n / g : Nat)
    some (if neg then -num else num, d / g)
  | _ => none

/-- Whether a value is a whole number: finite, with nothing after the point. -/
def isWhole (x : Binary64) : Bool :=
  match x.lowestTerms? with
  | some (_, d) => d == 1
  | none => false

/-- The hexadecimal text of a value: `inf`, `-inf` and `nan` for the values that are not
finite, and otherwise the significand's leading digit, thirteen places and the binary
exponent. -/
def hexText : Binary64 → String
  | nan => "nan"
  | infinite neg => if neg then "-inf" else "inf"
  | finite neg m e =>
    let sign := if neg then "-" else ""
    if m = 0 then sign ++ "0x0.0p+0"
    else
      let exp : Int := if hiddenBit ≤ m then e + 52 else -1022
      let expText := (if exp < 0 then "-" else "+") ++ toString exp.natAbs
      sign ++ "0x" ++ toString (m / hiddenBit) ++ "." ++
        String.ofList (Text.hexDigits 13 (m % hiddenBit)) ++ "p" ++ expText

end Binary64
end UiTags
