import UiTags.Text.Basic
import UiTags.Text.Class.Digit

/-!
# Integer texts

An integer written as text, as a command line takes it: surrounding whitespace is ignored, a
sign may lead, and decimal digits of any script follow, a single underscore allowed between
two digits.
-/

namespace UiTags
namespace Text

/-- The most decimal digits an integer is converted from text or to text with; a longer one
fails to convert. -/
def digitLimit : Nat := 4300

/-- Whether a number has more than `digitLimit` decimal digits. -/
def tooManyDigits (n : Nat) : Bool := Nat.pow 10 digitLimit ≤ n

/-- The value of digits after the first, each possibly preceded by one underscore, added to the
value of those before. -/
def moreDecimal (acc : Nat) : List Char → Option Nat
  | [] => some acc
  | '_' :: d :: rest => (decimalValue? d).bind fun v => moreDecimal (acc * 10 + v) rest
  | c :: rest => (decimalValue? c).bind fun v => moreDecimal (acc * 10 + v) rest

/-- The integer a text spells, if it spells one. -/
def readInt? (s : String) : Option Int :=
  let (neg, body) : Bool × List Char := match (strip s).toList with
    | '-' :: r => (true, r)
    | '+' :: r => (false, r)
    | r => (false, r)
  match body with
  | d :: rest =>
    (decimalValue? d).bind fun v =>
      (moreDecimal v rest).map fun n => if neg then -(n : Int) else n
  | [] => none

/-- The value of a digit in a base up to 36: a decimal digit of any script, or a letter of
either case from `a` for ten; none when it is no digit of the base. -/
def digitIn? (base : Nat) (c : Char) : Option Nat :=
  let v : Option Nat := match decimalValue? c with
    | some d => some d
    | none =>
      if 'a' ≤ c && c ≤ 'z' then some (c.toNat - 'a'.toNat + 10)
      else if 'A' ≤ c && c ≤ 'Z' then some (c.toNat - 'A'.toNat + 10)
      else none
  v.filter (· < base)

/-- The value of digits of a base after the first, each possibly preceded by one underscore,
added to the value of those before. -/
def moreDigits (base acc : Nat) : List Char → Option Nat
  | [] => some acc
  | '_' :: d :: rest => (digitIn? base d).bind fun v => moreDigits base (acc * base + v) rest
  | c :: rest => (digitIn? base c).bind fun v => moreDigits base (acc * base + v) rest

/-- The base a prefix `0x`, `0o` or `0b` names, from the character after the zero. -/
def prefixBase? (c : Char) : Option Nat :=
  if c == 'x' || c == 'X' then some 16
  else if c == 'o' || c == 'O' then some 8
  else if c == 'b' || c == 'B' then some 2
  else none

/-- The integer a text spells in a base: surrounding whitespace ignored, a sign, the prefix of
the base allowed (followed by one optional underscore), then digits with single underscores
between them. Base zero takes the base from the prefix, decimal without one, where a
number of more than one digit may not start with zero unless it is zero. Bases other than zero
and two to thirty-six read nothing. -/
def readIntIn? (base : Nat) (s : String) : Option Int :=
  if !(base == 0 || (2 ≤ base && base ≤ 36)) then none
  else
    let (neg, body) : Bool × List Char := match (strip s).toList with
      | '-' :: r => (true, r)
      | '+' :: r => (false, r)
      | r => (false, r)
    let zeroFirst := match body with
      | c :: _ => decimalValue? c == some 0
      | [] => false
    let named : Option Nat := match body with
      | _ :: p :: _ => if zeroFirst then prefixBase? p else none
      | _ => none
    let (base, digits, legacy) : Nat × List Char × Bool :=
      match named with
      | some b =>
        if base == 0 || base == b then
          let rest := body.drop 2
          (b, (match rest with | '_' :: r => r | r => r), false)
        else (base, body, false)
      | none => if base == 0 then (10, body, zeroFirst) else (base, body, false)
    match digits with
    | d :: rest =>
      (digitIn? base d).bind fun v =>
        (moreDigits base v rest).bind fun n =>
          if legacy && n != 0 then none else some (if neg then -(n : Int) else n)
    | [] => none

end Text
end UiTags
