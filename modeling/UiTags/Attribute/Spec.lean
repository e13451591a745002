import UiTags.Value
import UiTags.Text.Basic
import UiTags.Text.Case
import UiTags.Text.Class.Digit
import UiTags.Text.Integer
import UiTags.Script.Identifier

/-!
# Attribute declarations

A tag declares each attribute once: its name, whether it is required, the texts it may take,
its kind and its default. Checking one supplied value against its declaration gives a verdict:

* an absent value, null or a blank text takes the default, or is refused when required;
* an `any` attribute keeps the value as given;
* a `boolean` takes a truth value, or a text reading `true`, `yes`, `1`, `false`, `no`, `0` in
  any letter case once trimmed;
* an `integer` takes an integer (not a truth value), or a trimmed text of digits with at most
  one leading minus, read as a decimal number;
* a `text` or `identifier` takes the trimmed text of the value; an identifier must be a script
  name, and a text with a list of allowed texts must be one of them.

A trimmed text of digits after leading minus signs that the conversion to an integer cannot take
is not refused but *unreadable*, and the check stops there: a text that is no decimal number (a
superscript digit, a circled digit, two minus signs), or one whose decimal digits before the
first other character are more than `Text.digitLimit`.
-/

namespace UiTags

/-- How a supplied attribute value is read. -/
inductive AttrKind where
  | text
  | boolean
  | integer
  | identifier
  | any
  deriving DecidableEq, Repr, Inhabited

/-- The declaration of one attribute. -/
structure AttrSpec where
  name : String
  required : Bool := false
  allowed : Option (List String) := none
  kind : AttrKind := .text
  default : Value := .null
  deriving Inhabited

/-- Why a supplied value was refused. -/
inductive AttrFault where
  /-- A required attribute is absent or blank; the tag's display name is kept for the message. -/
  | required (display : String)
  | notBoolean
  | notInteger
  | notIdentifier
  | notAllowed (allowed : List String)
  deriving DecidableEq, Repr

namespace AttrFault

/-- The message for a refused value of attribute `name`. -/
def message (name : String) : AttrFault → String
  | required display => s!"{name} attribute is required for {display}"
  | notBoolean => s!"{name} attribute must be a boolean"
  | notInteger => s!"{name} attribute must be an integer"
  | notIdentifier => s!"{name} attribute must be a valid JavaScript function name"
  | notAllowed allowed => s!"{name} attribute must be one of: {Text.commaList allowed}"

/-- Whether the refusal is for an absent required value rather than a bad one. -/
def isMissing : AttrFault → Bool
  | required _ => true
  | _ => false

end AttrFault

/-- Why an integer text of digits does not convert to an integer. -/
inductive Unconvertible where
  /-- It is no decimal number; the trimmed text is kept. -/
  | literal (text : String)
  /-- Its decimal digits before the first other character are more than the limit; their count
  is kept. -/
  | tooManyDigits (count : Nat)
  deriving DecidableEq, Repr

namespace Unconvertible

/-- The message of the conversion's failure, which shows at most 200 characters of the text's
quoted form. -/
def message : Unconvertible → String
  | literal text =>
    "invalid literal for int() with base 10: " ++ String.ofList ((Text.quote text).toList.take 200)
  | tooManyDigits count =>
    s!"Exceeds the limit ({Text.digitLimit} digits) for integer string conversion: value has {count} digits; use sys.set_int_max_str_digits() to increase the limit"

end Unconvertible

/-- The outcome of checking one value against its declaration. -/
inductive Verdict where
  | accept (v : Value)
  | reject (fault : AttrFault)
  /-- An integer text of digits that does not convert to an integer. -/
  | unreadable (why : Unconvertible)
  deriving Inhabited

/-- What the trimmed text of an integer attribute says. -/
inductive Numeral where
  | value (n : Int)
  | unreadable
  /-- A text with at most one minus whose leading decimal digits, counted, exceed the limit. -/
  | tooLong (digits : Nat)
  | notNumeral
  deriving DecidableEq, Repr

/-- The decimal value of a list of decimal digits. -/
def decimalDigits? (cs : List Char) : Option Nat :=
  cs.foldlM (fun n c => (Text.decimalValue? c).map fun d => n * 10 + d) 0

/-- Classify a trimmed text: digits after the leading minus signs make a numeral, which is a
value when there is at most one minus and every digit is a decimal digit. With at most one minus,
the decimal digits before the first other character are counted first, and more than the limit
are too long whatever follows them. -/
def Numeral.ofChars (cs : List Char) : Numeral :=
  let body := cs.dropWhile (· == '-')
  if !body.isEmpty && body.all Text.isDigitChar then
    let signs := cs.length - body.length
    if 1 < signs then .unreadable
    else
      let count := (body.takeWhile fun c => (Text.decimalValue? c).isSome).length
      if Text.digitLimit < count then .tooLong count
      else
        match decimalDigits? body with
        | some n => if signs == 0 then .value n else .value (-(n : Int))
        | none => .unreadable
  else .notNumeral

/-- Whether a supplied value counts as absent: missing, null or a blank text. -/
def isEmptyValue : Option Value → Bool
  | none => true
  | some .null => true
  | some (.str s) => Text.isBlankText s
  | some _ => false

/-- The truth texts, compared after trimming and lowering. -/
def trueTexts : List String := ["true", "yes", "1"]

/-- The falsity texts, compared after trimming and lowering. -/
def falseTexts : List String := ["false", "no", "0"]

namespace AttrSpec

/-- Check a supplied value (`none` when absent) against the declaration; `display` is the
tag's display name for the message of a missing required value. -/
def check (spec : AttrSpec) (raw : Option Value) (display : String) : Verdict :=
  if isEmptyValue raw then
    if spec.required then .reject (.required display) else .accept spec.default
  else
    let v := raw.getD .null
    match spec.kind with
    | .any => .accept v
    | .boolean =>
      match v with
      | .bool b => .accept (.bool b)
      | _ =>
        let t := Text.lower (Text.strip v.text)
        if trueTexts.contains t then .accept (.bool true)
        else if falseTexts.contains t then .accept (.bool false)
        else .reject .notBoolean
    | .integer =>
      match v with
      | .bool _ => .reject .notInteger
      | .int n => .accept (.int n)
      | _ =>
        let t := Text.strip v.text
        match Numeral.ofChars t.toList with
        | .value n => .accept (.int n)
        | .unreadable => .unreadable (.literal t)
        | .tooLong count => .unreadable (.tooManyDigits count)
        | .notNumeral => .reject .notInteger
    | kind =>
      let t := Text.strip v.text
      if kind == .identifier && !Script.isIdentifier t then .reject .notIdentifier
      else
        match spec.allowed with
        | some allowed => if allowed.contains t then .accept (.str t) else .reject (.notAllowed allowed)
        | none => .accept (.str t)

end AttrSpec

end UiTags
