import UiTags.Number.Binary64
import UiTags.Text.Class.Digit
import UiTags.Text.Class.Blank

/-!
# Reading a float from text

A float is written with blanks around it allowed, a sign, and then either `inf`, `infinity` or
`nan` in any case, or decimal digits with at most one point and at least one digit, and an
exponent `e` with a sign and digits. Decimal digits of any script count as digits, and a
single underscore may stand between two digits. The value is the nearest float.
-/

namespace UiTags
namespace Binary64

/-- Characters as a number reads them: decimal digits of any script as ASCII digits and
blanks as spaces. -/
def asciiForm (cs : List Char) : List Char :=
  cs.map fun c =>
    match Text.decimalValue? c with
    | some d => Char.ofNat ('0'.toNat + d)
    | none => if Text.isBlank c then ' ' else c

/-- The characters without underscores, when every underscore stands between two digits. -/
def withoutUnderscores (cs : List Char) : Option (List Char) :=
  let rec go : Char → List Char → Option (List Char)
    | prev, [] => if prev == '_' then none else some []
    | prev, '_' :: rest => if prev.isDigit then go '_' rest else none
    | prev, c :: rest =>
      if prev == '_' && !c.isDigit then none else (go c rest).map (c :: ·)
  go ' ' cs

/-- Whether characters spell a word, ignoring case. -/
def spells (cs : List Char) (word : String) : Bool :=
  cs.map Char.toLower == word.toList

/-- The value of decimal digits. -/
def decimalDigits (ds : List Char) : Nat :=
  ds.foldl (fun n d => 10 * n + (d.toNat - '0'.toNat)) 0

/-- The float a decimal numeral spells (with no sign), if it spells one. -/
def readDecimal? (neg : Bool) (cs : List Char) : Option Binary64 :=
  let whole := cs.takeWhile Char.isDigit
  let r := cs.drop whole.length
  let (fraction, r) : List Char × List Char := match r with
    | '.' :: more =>
      let f := more.takeWhile Char.isDigit
      (f, more.drop f.length)
    | _ => ([], r)
  if whole.isEmpty && fraction.isEmpty then none
  else
    let expo : Option Int := match r with
      | [] => some 0
      | e :: more =>
        if e == 'e' || e == 'E' then
          let (eneg, ds) : Bool × List Char := match more with
            | '-' :: x => (true, x)
            | '+' :: x => (false, x)
            | x => (false, x)
          if !ds.isEmpty && ds.all Char.isDigit then
            let v : Int := decimalDigits ds
            some (if eneg then -v else v)
          else none
        else none
    expo.map fun e =>
      let all := whole ++ fraction
      ofDecimal neg (decimalDigits all) all.length (e - fraction.length)

/-- The float a text spells, if it spells one. -/
def read? (s : String) : Option Binary64 := do
  let cs := asciiForm s.toList
  let cs ← if cs.contains '_' then withoutUnderscores cs else some cs
  let cs := ((cs.dropWhile (· == ' ')).reverse.dropWhile (· == ' ')).reverse
  let (neg, body) : Bool × List Char := match cs with
    | '-' :: r => (true, r)
    | '+' :: r => (false, r)
    | r => (false, r)
  if spells body "inf" || spells body "infinity" then some (.infinite neg)
  else if spells body "nan" then some .nan
  else readDecimal? neg body

end Binary64
end UiTags
