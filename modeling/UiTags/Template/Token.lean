import UiTags.Template.Error
import UiTags.Text.Basic
import UiTags.Text.Quoted
import UiTags.Text.Class.Word
import UiTags.Number.Binary64
import UiTags.Text.Names
import UiTags.Text.Methods
import UiTags.Text.Integer

/-!
# Template tokens

A template is text with three kinds of tag: `{{ … }}` prints an expression, `{% … %}` holds a
statement and `{# … #}` is a comment. Scanning turns the text into literal pieces and, for each
output or statement tag, an opening token, the tokens of its expression and a closing token.
Comments leave nothing, and the text between `{% raw %}` and `{% endraw %}` is taken literally.

Whitespace around tags is controlled as follows:

* a tag that opens with a minus sign (`{%-`, `{{-`, `{#-`) strips all whitespace before it, and
  one that closes with a minus sign (`-%}`, `-}}`, `-#}`) all whitespace after it;
* a statement or comment tag drops the line break right after it;
* a statement or comment tag that stands after nothing but blanks on its line drops those
  blanks, unless it opens with a plus sign.

Inside a tag, tokens are names, quoted texts with escapes, integers (decimal, or binary, octal
and hexadecimal after `0b`, `0o`, `0x`, with single underscores between digits), decimal
fractions with an optional exponent, and operators. A tag ends at its closing mark only outside
brackets, and brackets must pair up.
-/

namespace UiTags
namespace Template

/-- A token of a template. -/
inductive Token where
  /-- Literal text between tags. -/
  | text (s : String)
  /-- The opening of an output tag. -/
  | outputOpen
  /-- The closing of an output tag. -/
  | outputClose
  /-- The opening of a statement tag. -/
  | stmtOpen
  /-- The closing of a statement tag. -/
  | stmtClose
  | name (s : String)
  | str (s : String)
  | int (n : Int)
  | float (x : Binary64)
  /-- An operator or a bracket. -/
  | op (s : String)
  deriving DecidableEq, Repr, Inhabited

/-- The kinds of tag with tokens inside. -/
inductive TagKind where
  | output
  | stmt
  deriving DecidableEq

namespace Token

/-! ## Text between tags -/

/-- The text before the next tag opening, and the rest from the opening on. -/
def breakAtTag : List Char → List Char × List Char
  | [] => ([], [])
  | '{' :: tl@(c :: _) =>
    if c == '{' || c == '%' || c == '#' then ([], '{' :: tl)
    else
      let (t, r) := breakAtTag tl
      ('{' :: t, r)
  | c :: tl =>
    let (t, r) := breakAtTag tl
    (c :: t, r)

/-- The text before a tag, after the whitespace control the tag asks for. A minus sign strips
all trailing whitespace. Otherwise, unless the tag is an output tag or opens with a plus sign,
a last line of nothing but blanks is dropped when it starts a line: after a line break in the
text, or at the start of the text when that starts a line. -/
def leadingText (text : List Char) (sign : Option Char) (output lineStart : Bool) : List Char :=
  if sign == some '-' then Text.trimEndBy Text.isBlank text
  else if sign == some '+' || output then text
  else
    let lastLine := (text.reverse.takeWhile (· != '\n')).reverse
    let before := (text.reverse.dropWhile (· != '\n')).reverse
    if (!before.isEmpty || lineStart) && !lastLine.isEmpty && lastLine.all Text.isBlank then before
    else text

/-- The rest after whitespace that a closing minus sign strips, and whether a line break ended
what was taken. -/
def stripAfter (r : List Char) : List Char × Bool :=
  (r.dropWhile Text.isBlank, (r.takeWhile Text.isBlank).getLast? == some '\n')

/-- The closing mark of a tag at the start of the text: the rest after it, with the whitespace
control it asks for, and whether a line break ended what was taken. -/
def tagEnd : TagKind → List Char → Option (List Char × Bool)
  | .stmt, '+' :: '%' :: '}' :: r => some (r, false)
  | .stmt, '-' :: '%' :: '}' :: r => some (stripAfter r)
  | .stmt, '%' :: '}' :: '\n' :: r => some (r, true)
  | .stmt, '%' :: '}' :: r => some (r, false)
  | .output, '-' :: '}' :: '}' :: r => some (stripAfter r)
  | .output, '}' :: '}' :: r => some (r, false)
  | _, _ => none

/-- The rest after a comment's closing mark, and whether a line break ended what was taken. -/
def commentEnd : List Char → Option (List Char × Bool)
  | [] => none
  | '+' :: '#' :: '}' :: r => some (r, false)
  | '-' :: '#' :: '}' :: r => some (stripAfter r)
  | '#' :: '}' :: '\n' :: r => some (r, true)
  | '#' :: '}' :: r => some (r, false)
  | _ :: r => commentEnd r

/-- The rest after the word `raw` and the closing mark that open a raw section, given the text
after `{%` and its sign, and whether a line break ended what was taken. -/
def rawStart (body : List Char) : Option (List Char × Bool) :=
  match body.dropWhile Text.isBlank with
  | 'r' :: 'a' :: 'w' :: r =>
    match r.dropWhile Text.isBlank with
    | '-' :: '%' :: '}' :: r' => some (stripAfter r')
    | '%' :: '}' :: r' => some (r', false)
    | _ => none
  | _ => none

/-- The closing of a raw section at the start of the text: its sign, the rest after it and
whether a line break ended what was taken. -/
def rawEndHere (cs : List Char) : Option (Option Char × List Char × Bool) :=
  match cs with
  | '{' :: '%' :: more =>
    let (sign, body) : Option Char × List Char := match more with
      | '-' :: b => (some '-', b)
      | '+' :: b => (some '+', b)
      | b => (none, b)
    match body.dropWhile Text.isBlank with
    | 'e' :: 'n' :: 'd' :: 'r' :: 'a' :: 'w' :: r =>
      (tagEnd .stmt (r.dropWhile Text.isBlank)).map fun (rest, nl) => (sign, rest, nl)
    | _ => none
  | _ => none

/-- The text of a raw section up to its closing, with that closing's sign, the rest after it
and whether a line break ended what was taken. -/
def rawBody : List Char → Option (List Char × Option Char × List Char × Bool)
  | [] => none
  | c :: r =>
    match rawEndHere (c :: r) with
    | some (sign, rest, nl) => some ([], sign, rest, nl)
    | none => (rawBody r).map fun (t, s, rest, nl) => (c :: t, s, rest, nl)

/-! ## Tokens inside a tag -/

/-- Whether a character is a decimal digit of any script, as the number rules read digits. -/
def isDigitChar (c : Char) : Bool := (Text.decimalValue? c).isSome

/-- A run of decimal digits (of any script) with single underscores between digits, read from
a text that starts with a digit, and the rest. -/
def digitRun : List Char → List Char × List Char
  | c :: rest =>
    if isDigitChar c then
      let (a, b) := digitRun rest
      (c :: a, b)
    else if c == '_' then
      match rest with
      | d :: _ =>
        if isDigitChar d then
          let (a, b) := digitRun rest
          ('_' :: a, b)
        else ([], c :: rest)
      | [] => ([], [c])
    else ([], c :: rest)
  | [] => ([], [])

/-- Digits satisfying `p`, each possibly after one underscore, and the rest. -/
def underscored (p : Char → Bool) : List Char → List Char × List Char
  | c :: rest =>
    if p c then
      let (a, b) := underscored p rest
      (c :: a, b)
    else if c == '_' then
      match rest with
      | d :: more =>
        if p d then
          let (a, b) := underscored p more
          ('_' :: d :: a, b)
        else ([], c :: rest)
      | [] => ([], [c])
    else ([], c :: rest)
  | [] => ([], [])

/-- The value of digits in a base, underscores skipped: decimal digits of any script, and
letters from `a` (either case) for ten. -/
def digitsValue (base : Nat) (ds : List Char) : Nat :=
  (ds.filter (· != '_')).foldl (fun acc c =>
    let v := match Text.decimalValue? c with
      | some d => d
      | none => if 'a' ≤ c && c ≤ 'f' then c.toNat - 'a'.toNat + 10 else c.toNat - 'A'.toNat + 10
    acc * base + v) 0

/-- Whether a character is a hexadecimal digit: a decimal digit of any script, or a letter from
`a` to `f` of either case. -/
def isHex (c : Char) : Bool := isDigitChar c || ('a' ≤ c && c ≤ 'f') || ('A' ≤ c && c ≤ 'F')

/-- The exponent part `e[+-]digits` of a decimal fraction at the start of the text, and the rest. -/
def exponent? : List Char → Option (List Char × List Char)
  | e :: rest =>
    if e == 'e' || e == 'E' then
      let (sign, r) : List Char × List Char := match rest with
        | '+' :: r => (['+'], r)
        | '-' :: r => (['-'], r)
        | r => ([], r)
      match r with
      | d :: _ =>
        if isDigitChar d then
          let (ds, r') := digitRun r
          some (e :: sign ++ ds, r')
        else none
      | [] => none
    else none
  | [] => none

/-- A decimal fraction from its text of ASCII digits: digits, an optional fraction part and an
optional exponent, underscores skipped. -/
def fractionValue (text : List Char) : Binary64 :=
  let ds := text.filter (· != '_')
  let mantissa := ds.takeWhile fun c => c != 'e' && c != 'E'
  let expText := (ds.dropWhile fun c => c != 'e' && c != 'E').drop 1
  let intDigits := mantissa.takeWhile (· != '.')
  let fracDigits := (mantissa.dropWhile (· != '.')).drop 1
  let (expNeg, expDigits) : Bool × List Char := match expText with
    | '-' :: r => (true, r)
    | '+' :: r => (false, r)
    | r => (false, r)
  let e : Int := digitsValue 10 expDigits
  let exp10 := (if expNeg then -e else e) - fracDigits.length
  let all := intDigits ++ fracDigits
  Binary64.ofDecimal false (digitsValue 10 all) all.length exp10

/-- The integer of decimal digits, which may have at most `Text.digitLimit` of them. -/
def decimalToken (ds : List Char) : Except Error Token :=
  let count := (ds.filter (· != '_')).length
  if Text.digitLimit < count then
    .error (.badValue s!"Exceeds the limit ({Text.digitLimit} digits) for integer string conversion: value has {count} digits; use sys.set_int_max_str_digits() to increase the limit")
  else .ok (.int (digitsValue 10 ds))

/-- A number token at the start of a text that starts with a digit, and the rest, or none when
no number starts there. A decimal fraction needs digits after its point or an exponent, and
cannot follow a point; it is read as the language reads a float literal, which takes ASCII
digits only. An integer is binary, octal or hexadecimal after `0b`, `0o` or `0x`, decimal
from an ASCII digit other than zero, or zeros. -/
def number? (afterDot : Bool) (cs : List Char) : Option (Except Error Token × List Char) :=
  let (whole, r) := digitRun cs
  let fraction : Option (List Char × List Char) :=
    if afterDot || whole.isEmpty then none
    else match r with
      | '.' :: d :: more =>
        if isDigitChar d then
          let (fs, r') := digitRun (d :: more)
          match exponent? r' with
          | some (ex, r'') => some (whole ++ '.' :: fs ++ ex, r'')
          | none => some (whole ++ '.' :: fs, r')
        else (exponent? r).map fun (ex, r') => (whole ++ ex, r')
      | _ => (exponent? r).map fun (ex, r') => (whole ++ ex, r')
  match fraction with
  | some (digits, rest) =>
    match digits.find? fun c => 128 ≤ c.toNat with
    | none => some (.ok (.float (fractionValue digits)), rest)
    | some c =>
      some (.error (.raised "SyntaxError"
        s!"invalid character {Text.quote c.toString} (U+{String.ofList (Text.hexDigits 4 c.toNat |>.map Char.toUpper)})"), rest)
  | none =>
    let zeros (more : List Char) : Option (Except Error Token × List Char) :=
      let (_, r) := underscored (· == '0') more
      some (.ok (.int 0), r)
    match cs with
    | '0' :: b :: more =>
      let based (base : Nat) (p : Char → Bool) : Option (Except Error Token × List Char) :=
        let (ds, r) := underscored p more
        if ds.isEmpty then zeros (b :: more) else some (.ok (.int (digitsValue base ds)), r)
      if b == 'b' || b == 'B' then based 2 (fun c => c == '0' || c == '1')
      else if b == 'o' || b == 'O' then based 8 (fun c => '0' ≤ c && c ≤ '7')
      else if b == 'x' || b == 'X' then based 16 isHex
      else zeros (b :: more)
    | ['0'] => some (.ok (.int 0), [])
    | d :: more =>
      if '1' ≤ d && d ≤ '9' then
        let (ds, r) := underscored isDigitChar more
        some (decimalToken (d :: ds), r)
      else none
    | [] => none

/-- The body of a quoted text up to its closing quote, escapes kept, and the rest after it. -/
def quotedBody (q : Char) : List Char → Option (List Char × List Char)
  | [] => none
  | '\\' :: c :: rest => (quotedBody q rest).map fun (b, r) => ('\\' :: c :: b, r)
  | c :: rest =>
    if c == q then some ([], rest) else (quotedBody q rest).map fun (b, r) => (c :: b, r)

/-- The character with a code point given in hexadecimal digits, if they are all hexadecimal
and name a character. -/
def hexChar? (ds : List Char) : Option Char :=
  if ds.all isHex then
    let n := digitsValue 16 ds
    if n ≤ 0x10FFFF then some (Text.ofCode n) else none
  else none

/-- Whether a character is an octal digit. -/
def isOctal (c : Char) : Bool := '0' ≤ c && c ≤ '7'

/-- A quoted body as its escapes are read from: line breaks made line feeds, and every
character outside ASCII written as an escape (`\xhh`, `\uhhhh` or `\Uhhhhhhhh`), so that a
backslash before such a character escapes the backslash of its escape. -/
def asciiEscaped : List Char → List Char
  | [] => []
  | '\r' :: '\n' :: rest => '\n' :: asciiEscaped rest
  | '\r' :: rest => '\n' :: asciiEscaped rest
  | c :: rest =>
    let n := c.toNat
    (if n < 0x80 then [c]
     else if n < 0x100 then '\\' :: 'x' :: Text.hexDigits 2 n
     else if n < 0x10000 then '\\' :: 'u' :: Text.hexDigits 4 n
     else '\\' :: 'U' :: Text.hexDigits 8 n) ++ asciiEscaped rest

/-- The characters an escaped body stands for: `\n \t \r \a \b \f \v`, the backslash and
both quotes escaped, a backslash before a line break dropped with it, `\x` with two, `\u` with
four and `\U` with eight hexadecimal digits, up to three octal digits, and `\N` with a
character's name in braces. Any other backslash stays as it is. `fuel` bounds the characters
read. -/
def unescapeWith : Nat → List Char → Except Error (List Char)
  | 0, cs => .ok cs
  | _, [] => .ok []
  | fuel + 1, '\\' :: '\n' :: rest => unescapeWith fuel rest
  | fuel + 1, '\\' :: 'x' :: a :: b :: rest =>
    match hexChar? [a, b] with
    | some c => (c :: ·) <$> unescapeWith fuel rest
    | none => .error (.malformed "truncated \\xXX escape")
  | fuel + 1, '\\' :: 'u' :: a :: b :: c :: d :: rest =>
    match hexChar? [a, b, c, d] with
    | some ch => (ch :: ·) <$> unescapeWith fuel rest
    | none => .error (.malformed "truncated \\uXXXX escape")
  | fuel + 1, '\\' :: 'U' :: a :: b :: c :: d :: e :: f :: g :: h :: rest =>
    match hexChar? [a, b, c, d, e, f, g, h] with
    | some ch => (ch :: ·) <$> unescapeWith fuel rest
    | none => .error (.malformed "illegal Unicode character")
  | fuel + 1, '\\' :: 'N' :: rest =>
    match rest with
    | '\x7b' :: more =>
      let name := more.takeWhile (· != '\x7d')
      match more.drop name.length with
      | _ :: after =>
        if name.isEmpty then .error (.malformed "malformed \\N character escape")
        else match Text.charNamed? (String.ofList name) with
          | some ch => (ch :: ·) <$> unescapeWith fuel after
          | none => .error (.malformed "unknown Unicode character name")
      | [] => .error (.malformed "malformed \\N character escape")
    | _ => .error (.malformed "malformed \\N character escape")
  | fuel + 1, '\\' :: c :: rest =>
    if c == 'x' || c == 'u' || c == 'U' then .error (.malformed "truncated escape")
    else if isOctal c then
      match rest with
      | d :: e :: more =>
        if isOctal d && isOctal e then
          (Char.ofNat (digitsValue 8 [c, d, e]) :: ·) <$> unescapeWith fuel more
        else if isOctal d then (Char.ofNat (digitsValue 8 [c, d]) :: ·) <$> unescapeWith fuel (e :: more)
        else (Char.ofNat (digitsValue 8 [c]) :: ·) <$> unescapeWith fuel (d :: e :: more)
      | [d] =>
        if isOctal d then .ok [Char.ofNat (digitsValue 8 [c, d])]
        else .ok [Char.ofNat (digitsValue 8 [c]), d]
      | [] => .ok [Char.ofNat (digitsValue 8 [c])]
    else
      let simple : Option Char := match c with
        | '\\' => some '\\'
        | '\'' => some '\''
        | '"' => some '"'
        | 'a' => some '\x07'
        | 'b' => some '\x08'
        | 'f' => some '\x0c'
        | 'n' => some '\n'
        | 'r' => some '\r'
        | 't' => some '\t'
        | 'v' => some '\x0b'
        | _ => none
      match simple with
      | some s => (s :: ·) <$> unescapeWith fuel rest
      | none => ('\\' :: c :: ·) <$> unescapeWith fuel rest
  | fuel + 1, c :: rest => (c :: ·) <$> unescapeWith fuel rest

/-- The characters a quoted body stands for, its escapes read after the characters outside
ASCII are written as escapes. -/
def unescape (body : List Char) : Except Error (List Char) :=
  let cs := asciiEscaped body
  unescapeWith (cs.length + 1) cs

/-- Whether a character may stand in a name: a word character, or a character that may
continue an identifier. -/
def isNameChar (c : Char) : Bool := Text.isWordChar c || Text.isIdentContinue c

/-- The operators of two characters. -/
def pairOps : List String := ["//", "**", "==", "!=", ">=", "<="]

/-- The operators of one character. -/
def singleOps : List Char :=
  ['+', '-', '/', '*', '%', '~', '[', ']', '(', ')', '{', '}', '=', '.', ':', '|', ',', ';',
   '>', '<']

/-- The closing bracket of an opening one. -/
def closer? : Char → Option Char
  | '(' => some ')'
  | '[' => some ']'
  | '{' => some '}'
  | _ => none

/-- The tokens of a tag up to its closing mark, which counts only outside brackets; the rest
after the mark, and whether a line break ended what the mark took. `waiting` lists the closing
brackets awaited, innermost first; `prev` is the character before the text. -/
def tagTokens (kind : TagKind) :
    Nat → List Char → List Char → Char → Except Error (List Token × List Char × Bool)
  | 0, _, _, _ => .error .tooDeep
  | fuel + 1, cs, waiting, prev =>
    let skipped := cs.takeWhile Text.isBlank
    let cs := cs.dropWhile Text.isBlank
    let prev := skipped.getLast?.getD prev
    let ending := if waiting.isEmpty then tagEnd kind cs else none
    match ending with
    | some (rest, nl) => .ok ([], rest, nl)
    | none =>
      let more (t : Token) (rest : List Char) (waiting : List Char) (last : Char) :
          Except Error (List Token × List Char × Bool) :=
        (tagTokens kind fuel rest waiting last).map fun (ts, r, nl) => (t :: ts, r, nl)
      match cs with
      | [] => .error (.malformed "unexpected end of template")
      | c :: tl =>
        let numberHere := if isDigitChar c then number? (prev == '.') cs else none
        match numberHere with
        | some (.ok t, rest) => more t rest waiting '0'
        | some (.error e, _) => .error e
        | none =>
        if isNameChar c then
          let word := cs.takeWhile isNameChar
          if Text.isIdentifier word then
            more (.name (String.ofList word)) (cs.drop word.length) waiting 'a'
          else .error (.malformed "Invalid character in identifier")
        else if c == '\'' || c == '"' then
          match quotedBody c tl with
          | some (body, rest) =>
            match unescape body with
            | .ok s => more (.str (String.ofList s)) rest waiting c
            | .error e => .error e
          | none => .error (.malformed s!"unexpected char {Text.quote c.toString}")
        else
          match tl with
          | d :: rest' =>
            if pairOps.contains (String.ofList [c, d]) then
              more (.op (String.ofList [c, d])) rest' waiting d
            else if singleOps.contains c then
              match closer? c with
              | some k => more (.op c.toString) tl (k :: waiting) c
              | none =>
                if c == ')' || c == ']' || c == '}' then
                  match waiting with
                  | k :: outer =>
                    if k == c then more (.op c.toString) tl outer c
                    else .error (.malformed s!"unexpected {Text.quote c.toString}, expected {Text.quote k.toString}")
                  | [] => .error (.malformed s!"unexpected {Text.quote c.toString}")
                else more (.op c.toString) tl waiting c
            else .error (.malformed s!"unexpected char {Text.quote c.toString}")
          | [] =>
            if singleOps.contains c && closer? c == none && c != ')' && c != ']' && c != '}' then
              more (.op c.toString) [] waiting c
            else .error (.malformed s!"unexpected char {Text.quote c.toString}")

/-! ## The whole template -/

/-- A text token, or none for empty text. -/
def textToken (cs : List Char) : List Token :=
  if cs.isEmpty then [] else [.text (String.ofList cs)]

/-- The tokens of a template text; `lineStart` says the text starts a line. -/
def scanFrom : Nat → List Char → Bool → Except Error (List Token)
  | 0, _, _ => .error .tooDeep
  | fuel + 1, cs, lineStart =>
    let (before, rest) := breakAtTag cs
    match rest with
    | '{' :: k :: more =>
      let (sign, body) : Option Char × List Char := match more with
        | '-' :: b => (some '-', b)
        | '+' :: b => (some '+', b)
        | b => (none, b)
      let lead := leadingText before sign (k == '{') lineStart
      if k == '#' then
        match commentEnd body with
        | some (r, nl) => (textToken lead ++ ·) <$> scanFrom fuel r nl
        | none => .error (.malformed "Missing end of comment tag")
      else match (if k == '%' then rawStart body else none) with
        | some (after, nl) =>
          match rawBody after with
          | some (content, endSign, r, nl') =>
            let content := leadingText content endSign false nl
            (fun ts => textToken lead ++ textToken content ++ ts) <$> scanFrom fuel r nl'
          | none => .error (.malformed "Missing end of raw directive")
        | none =>
          let kind := if k == '{' then TagKind.output else .stmt
          match tagTokens kind (body.length + 1) body [] (sign.getD k) with
          | .ok (toks, r, nl) =>
            let opening := if k == '{' then Token.outputOpen else .stmtOpen
            let closing := if k == '{' then Token.outputClose else .stmtClose
            (fun ts => textToken lead ++ opening :: toks ++ closing :: ts) <$> scanFrom fuel r nl
          | .error e => .error e
    | _ => .ok (textToken cs)

/-- The tokens of a template. -/
def scan (source : String) : Except Error (List Token) :=
  scanFrom (source.length + 1) source.toList true

end Token
end Template
end UiTags
