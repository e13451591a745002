import UiTags.Number.Binary64

/-!
# Powers of binary64 values

A power of two doubles settles its special cases first: anything to the power zero is one; a
not-a-number base stays not-a-number, and so does a not-a-number exponent unless the base is
one; an infinite exponent gives zero, one or infinity by the size of the base; an infinite base
gives infinity or zero by the sign of the exponent, signed when the exponent is an odd
integer; zero to a negative power is refused, zero to a positive one is zero (signed for an odd
integer exponent); a negative base needs an integral exponent, whose parity gives the sign of
the result; and one to any power is one.

What remains, a positive finite base other than one and a finite non-zero exponent, is the
platform's `pow`, reached through the IEEE bit pattern of each value. A finite case whose
result overflows to infinity is refused.
-/

namespace UiTags
namespace Binary64

/-- Why a power has no binary64 value. -/
inductive PowerError where
  /-- Zero raised to a negative power. -/
  | zeroToNegative
  /-- A negative base raised to a non-integral power, whose value is not real. -/
  | notReal
  /-- A finite power too large for binary64. -/
  | overflow
  deriving DecidableEq, Repr

/-- The IEEE bit pattern of a value: sign, biased exponent and fraction. -/
def bits : Binary64 → UInt64
  | .nan => 0x7FF8000000000000
  | .infinite neg => (if neg then 0x8000000000000000 else 0) ||| 0x7FF0000000000000
  | .finite neg m e =>
    let sign : UInt64 := if neg then 0x8000000000000000 else 0
    if m < Nat.pow 2 52 then sign ||| m.toUInt64
    else sign ||| ((e + 1075).toNat.toUInt64 <<< 52) ||| (m - Nat.pow 2 52).toUInt64

/-- The value with an IEEE bit pattern. -/
def ofBits (b : UInt64) : Binary64 :=
  let neg := (b >>> 63) == 1
  let expBits := ((b >>> 52) &&& 0x7FF).toNat
  let frac := (b &&& 0xFFFFFFFFFFFFF).toNat
  if expBits == 0x7FF then (if frac == 0 then .infinite neg else .nan)
  else if expBits == 0 then .finite neg frac minExp
  else .finite neg (frac + Nat.pow 2 52) ((expBits : Int) - 1075)

/-- Whether a value is an integer: zero, or a finite value with no fraction. -/
def isIntegral : Binary64 → Bool
  | .finite _ m e => m == 0 || 0 ≤ e || m % Nat.pow 2 (-e).toNat == 0
  | _ => false

/-- Whether a value is an odd integer. -/
def isOddIntegral : Binary64 → Bool
  | .finite _ m e =>
    if 0 < e then false
    else
      let d := Nat.pow 2 (-e).toNat
      m % d == 0 && (m / d) % 2 == 1
  | _ => false

/-- Whether a value is one. -/
def isOne : Binary64 → Bool
  | .finite false m e => m == Nat.pow 2 52 && e == -52
  | _ => false

/-- Whether the magnitude of a finite value is below one, one, or above one. -/
def compareOne : Binary64 → Ordering
  | .finite _ m e =>
    if 0 ≤ e then (if m == 0 then .lt else compare (m * Nat.pow 2 e.toNat) 1)
    else compare m (Nat.pow 2 (-e).toNat)
  | _ => .gt

/-- A value with its sign replaced. -/
def withSign (neg : Bool) : Binary64 → Binary64
  | .finite _ m e => .finite neg m e
  | .infinite _ => .infinite neg
  | .nan => .nan

/-- Whether a value is negative (below zero, or negative zero). -/
def signBit : Binary64 → Bool
  | .finite neg _ _ => neg
  | .infinite neg => neg
  | .nan => false

/-- The value one. -/
def one : Binary64 := .finite false (Nat.pow 2 52) (-52)

/-- Positive zero. -/
def zero : Binary64 := .finite false 0 minExp

/-- The platform's power of a positive finite base and a finite exponent. -/
def platformPow (x y : Binary64) : Binary64 :=
  ofBits (Float.pow (Float.ofBits x.bits) (Float.ofBits y.bits)).toBits

/-- The power `x ^ y` of two binary64 values. -/
def power (x y : Binary64) : Except PowerError Binary64 :=
  if y.isZero then .ok one
  else match x, y with
  | .nan, _ => .ok .nan
  | _, .nan => .ok (if x.isOne then one else .nan)
  | _, .infinite yneg =>
    match x.compareOne with
    | .eq => .ok one
    | .gt => .ok (if yneg then zero else .infinite false)
    | .lt => .ok (if yneg then .infinite false else zero)
  | .infinite xneg, _ =>
    let odd := y.isOddIntegral
    if y.signBit then .ok (if odd then .finite xneg 0 minExp else zero)
    else .ok (if odd then .infinite xneg else .infinite false)
  | .finite xneg m _, _ =>
    if m == 0 then
      if y.signBit then .error .zeroToNegative
      else .ok (if y.isOddIntegral then .finite xneg 0 minExp else zero)
    else if xneg && !y.isIntegral then .error .notReal
    else
      let negate := xneg && y.isOddIntegral
      let base := x.withSign false
      if base.isOne then .ok (if negate then one.withSign true else one)
      else match platformPow base y with
        | .infinite _ => .error .overflow
        | r => .ok (if negate then r.withSign true else r)

end Binary64
end UiTags
