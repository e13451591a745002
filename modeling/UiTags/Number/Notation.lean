import UiTags.Number.Places

/-!
# Decimal notations of a float

Three ways to write a binary64 value in decimal with a given precision, each from the value's
exact binary fraction, rounded once, a tie going to the even last digit:

* fixed notation: `p` digits after the point (`3.14`);
* scientific notation: one digit, the point, `p` more digits and a signed exponent of at least
  two digits (`3.14e+00`);
* general notation with `p` significant digits: scientific when the exponent is below -4 or
  not below `p`, fixed otherwise, and trailing zeros (with a point left bare) removed unless
  the alternate form is asked for.

Infinities read `inf`, not-a-number `nan`. The sign of a negative value, zero included, is a
leading `-`; the callers add any other sign or padding.
-/

namespace UiTags
namespace Binary64

/-- The decimal digits of a natural number. -/
def digitChars (n : Nat) : List Char := Nat.toDigits 10 n

/-- Digits padded with leading zeros to at least `k` of them. -/
def padDigits (k : Nat) (ds : List Char) : List Char :=
  List.replicate (k - ds.length) '0' ++ ds

/-- `(n / d) · 10^p` rounded to an integer, a tie going to the even one. -/
def scaledRound (n d : Nat) (p : Int) : Nat :=
  if 0 ≤ p then roundHalfEven (n * Nat.pow 10 p.toNat) d
  else roundHalfEven n (d * Nat.pow 10 (-p).toNat)

/-- The exponent `E` with `10^E ≤ n / d < 10^(E+1)`, for positive `n` and `d`. -/
def decimalExponentOf (n d : Nat) : Int :=
  let e0 : Int := (digitChars n).length - (digitChars d).length
  let below : Bool :=
    if 0 ≤ e0 then n < d * Nat.pow 10 e0.toNat else n * Nat.pow 10 (-e0).toNat < d
  if below then e0 - 1 else e0

/-- The sign and the exact magnitude of a finite value as a fraction. -/
def magnitude? (x : Binary64) : Option (Bool × Nat × Nat) :=
  match x with
  | .finite neg m e =>
    if 0 ≤ e then some (neg, m * Nat.pow 2 e.toNat, 1) else some (neg, m, Nat.pow 2 (-e).toNat)
  | _ => none

/-- The text of a value that is not finite, upper-case when asked. -/
def specialText (upper : Bool) : Binary64 → String
  | .infinite neg => (if neg then "-" else "") ++ (if upper then "INF" else "inf")
  | _ => if upper then "NAN" else "nan"

/-- The digits of a magnitude in fixed notation with `p` digits after the point. -/
def fixedChars (n d : Nat) (p : Nat) : List Char :=
  let ds := padDigits (p + 1) (digitChars (scaledRound n d p))
  let k := ds.length - p
  if p == 0 then ds else ds.take k ++ '.' :: ds.drop k

/-- A magnitude rounded to `p + 1` significant digits: the digits as a number and the
exponent of the first. -/
def significant (n d : Nat) (p : Nat) : Nat × Int :=
  if n == 0 then (0, 0)
  else
    let e := decimalExponentOf n d
    let k := scaledRound n d ((p : Int) - e)
    if Nat.pow 10 (p + 1) ≤ k then (scaledRound n d ((p : Int) - (e + 1)), e + 1) else (k, e)

/-- An exponent as scientific notation writes it: a sign and at least two digits. -/
def exponentChars (e : Int) : List Char :=
  (if e < 0 then '-' else '+') :: padDigits 2 (digitChars e.natAbs)

/-- The digits of a magnitude in scientific notation with `p` digits after the point; with
`alternate` the point stays even when no digit follows it. -/
def scientificChars (n d : Nat) (p : Nat) (alternate : Bool := false) (upper : Bool := false) :
    List Char :=
  let (k, e) := significant n d p
  let ds := padDigits (p + 1) (digitChars k)
  let mant := match ds with
    | first :: rest => if rest.isEmpty && !alternate then [first] else first :: '.' :: rest
    | [] => ['0']
  mant ++ (if upper then 'E' else 'e') :: exponentChars e

/-- Trailing zeros after a point removed, and the point too when nothing follows it. -/
def trimFraction (cs : List Char) : List Char :=
  if cs.contains '.' then
    let t := (cs.reverse.dropWhile (· == '0')).reverse
    if t.getLast? == some '.' then t.dropLast else t
  else cs

/-- The digits of a magnitude in general notation with `p` significant digits (zero counting
as one). -/
def generalChars (n d : Nat) (p : Nat) (alternate : Bool := false) (upper : Bool := false) :
    List Char :=
  let p := max p 1
  let (_, e) := significant n d (p - 1)
  if -4 ≤ e && e < p then
    let places := (p : Int) - 1 - e
    let cs := fixedChars n d places.toNat
    if alternate then (if places == 0 then cs ++ ['.'] else cs) else trimFraction cs
  else
    let cs := scientificChars n d (p - 1) alternate upper
    if alternate then cs
    else
      let (mant, rest) := cs.span fun c => c != 'e' && c != 'E'
      trimFraction mant ++ rest

/-- A value in fixed notation with `p` digits after the point; with `alternate` a point
follows the digits even when no digit follows it. -/
def fixed (x : Binary64) (p : Nat) (upper : Bool := false) (alternate : Bool := false) : String :=
  match x.magnitude? with
  | some (neg, n, d) =>
    String.ofList ((if neg then ['-'] else []) ++ fixedChars n d p ++
      (if alternate && p == 0 then ['.'] else []))
  | none => specialText upper x

/-- A value in scientific notation with `p` digits after the point. -/
def scientific (x : Binary64) (p : Nat) (alternate : Bool := false) (upper : Bool := false) :
    String :=
  match x.magnitude? with
  | some (neg, n, d) =>
    String.ofList ((if neg then ['-'] else []) ++ scientificChars n d p alternate upper)
  | none => specialText upper x

/-- A value in general notation with `p` significant digits. -/
def general (x : Binary64) (p : Nat) (alternate : Bool := false) (upper : Bool := false) :
    String :=
  match x.magnitude? with
  | some (neg, n, d) =>
    String.ofList ((if neg then ['-'] else []) ++ generalChars n d p alternate upper)
  | none => specialText upper x

end Binary64
end UiTags
