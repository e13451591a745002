import UiTags.Markup.Html
import UiTags.Text.Class.Word
import UiTags.Text.Class.Digit
import UiTags.Text.Class.Blank
import UiTags.Text.Methods

/-!
# Addresses in text

`quote` percent-encodes the UTF-8 bytes of a text, leaving letters, digits and `_.-~` (and the
characters asked to be safe) as they are.

`urlize` turns the addresses in a text into links. The text is escaped and cut at runs of
blanks; of each word, opening brackets at its start and closing brackets and punctuation at
its end are set aside (closing brackets taken back where they balance opening ones inside the
word). What remains becomes a link when it is a web address (a scheme or `www.` followed by a
domain, a domain with a common top-level name, or a scheme and a numeric host, then perhaps
a port and a path), a `mailto:` address, or a mail address; or, with extra schemes given,
when it starts with one of them.
-/

namespace UiTags
namespace Html

/-- Whether a byte is left as it is by percent-encoding. -/
def unreserved (b : UInt8) : Bool :=
  let c := Char.ofNat b.toNat
  c.isAlphanum && b.toNat < 128 || c == '_' || c == '.' || c == '-' || c == '~'

/-- A text percent-encoded, its UTF-8 bytes outside the unreserved ones and `safe` written as
`%HH`. -/
def quote (safe : List Char) (s : String) : String :=
  String.join (s.toUTF8.toList.map fun b =>
    if unreserved b || (b.toNat < 128 && safe.contains (Char.ofNat b.toNat)) then
      (Char.ofNat b.toNat).toString
    else "%" ++ String.ofList (Text.hexDigits 2 b.toNat |>.map Char.toUpper))

/-! ## Recognising addresses -/

/-- Positions reached by matching one character that passes a test at any of the given
positions. -/
def stepChar (t : Array Char) (p : Char → Bool) (ps : List Nat) : List Nat :=
  (ps.filter fun i => (t[i]?).any p).map (· + 1)

/-- Positions reached by matching a piece between `lo` and `hi` times. -/
def repeatPiece (piece : List Nat → List Nat) (lo hi : Nat) (ps : List Nat) : List Nat :=
  let rec go : Nat → List Nat → List Nat → List Nat
    | 0, _, acc => acc
    | k + 1, cur, acc =>
      let next := (piece cur).eraseDups
      if next.isEmpty then acc
      else
        let count := hi - k
        go k next (if lo ≤ count then (acc ++ next).eraseDups else acc)
  go hi ps (if lo == 0 then ps else [])

/-- Whether a character matches a lower-case pattern character, ignoring case as the pattern
matcher does: by the character's simple lower-case form, with the dotless `ı` and the long `ſ`
taken as `i` and `s`. The capital `İ` lowers to `i` and the Kelvin sign to `k`. -/
def foldsTo (c : Char) (x : Char) : Bool :=
  c.toLower == x || (x == 'i' && (c == '\u0130' || c == '\u0131')) ||
    (x == 's' && c == '\u017F') || (x == 'k' && c == '\u212A')

/-- Positions reached by matching a word, ignoring case. -/
def stepWord (t : Array Char) (w : String) (ps : List Nat) : List Nat :=
  w.toList.foldl (fun acc c => stepChar t (fun d => foldsTo d c) acc) ps

/-- Whether a character matches a letter from `a` to `z`, ignoring case: an ASCII letter, or a
character that lowers or folds to one. -/
def isLetterFolded (c : Char) : Bool :=
  ('a' ≤ c && c ≤ 'z') || ('A' ≤ c && c ≤ 'Z') ||
    c == '\u0130' || c == '\u0131' || c == '\u017F' || c == '\u212A'

/-- Whether a character is a decimal digit of any script. -/
def isDecimal (c : Char) : Bool := (Text.decimalValue? c).isSome

/-- Whether a character is a hexadecimal digit (decimal of any script, or `a` to `f`). -/
def isHexDigit (c : Char) : Bool := isDecimal c || ('a' ≤ c.toLower && c.toLower ≤ 'f')

/-- Whether a text is a web address. -/
def isWebAddress (cs : List Char) : Bool :=
  let t := cs.toArray
  let start := [0]
  let domainChar (c : Char) : Bool := Text.isWordChar c || c == '%' || c == '-'
  let scheme (ps : List Nat) : List Nat :=
    (stepWord t "https://" ps ++ stepWord t "http://" ps).eraseDups
  let labels (lo hi : Nat) (ps : List Nat) : List Nat :=
    repeatPiece (fun qs => stepChar t (· == '.') (repeatPiece (stepChar t domainChar) lo hi qs))
      1 t.size ps
  -- a scheme or `www.`, subdomains, then a top-level name
  let first :=
    let afterScheme := (scheme start ++ stepWord t "www." start).eraseDups
    let afterSub := (afterScheme ++ labels 1 t.size afterScheme).eraseDups
    (repeatPiece (stepChar t isLetterFolded) 2 63 afterSub ++
      repeatPiece (stepChar t (fun c => Text.isWordChar c || c == '%')) 2 59
        (stepWord t "xn--" afterSub)).eraseDups
  -- labels and a common top-level name
  let second :=
    let afterLabels := labels 2 63 start
    (["com", "net", "int", "edu", "gov", "org", "info", "mil"].map fun w =>
      stepWord t w afterLabels).flatten.eraseDups
  -- a scheme and a numeric host
  let third :=
    let afterScheme := scheme start
    let octet (ps : List Nat) : List Nat := repeatPiece (stepChar t isDecimal) 1 3 ps
    let ipv4 := repeatPiece (fun ps => octet (stepChar t (· == '.') ps)) 3 3 (octet afterScheme)
    let group (ps : List Nat) : List Nat :=
      stepChar t (· == ':') (repeatPiece (stepChar t isHexDigit) 0 4 ps)
    let optGroup (ps : List Nat) : List Nat :=
      let body := repeatPiece (stepChar t isHexDigit) 0 4 ps
      (body ++ stepChar t (· == ':') body).eraseDups
    let ipv6 := stepChar t (· == ']')
      (repeatPiece optGroup 1 6 (repeatPiece group 2 2 (stepChar t (· == '[') afterScheme)))
    (ipv4 ++ ipv6).eraseDups
  let host := (first ++ second ++ third).eraseDups
  let port := (host ++ repeatPiece (stepChar t isDecimal) 1 5 (stepChar t (· == ':') host)).eraseDups
  let pathStarts := stepChar t (fun c => c == '/' || c == '?' || c == '#') port
  let rest := t.toList.drop (pathStarts.foldl min t.size)
  port.contains t.size || (!pathStarts.isEmpty && rest.all (fun c => !Text.isBlank c))

/-- Whether a text is a mail address: something, `@`, and a domain of word characters, dots and
hyphens that starts with a word character and ends with a dot and word characters. -/
def isMailAddress (cs : List Char) : Bool :=
  match Text.lastAt ['@'] cs with
  | some p =>
    let user := cs.take p
    let domain := cs.drop (p + 1)
    !user.isEmpty && !user.any Text.isBlank &&
      (domain.head?.any Text.isWordChar) &&
      domain.all (fun c => Text.isWordChar c || c == '.' || c == '-') &&
      match Text.lastAt ['.'] domain with
      | some k => 1 ≤ k && !(domain.drop (k + 1)).isEmpty && (domain.drop (k + 1)).all Text.isWordChar
      | none => false
  | none => false

/-! ## Linking -/

/-- How links are written: the relation and target attributes, a limit on the length of link
texts, and extra schemes that make links. -/
structure LinkRule where
  rel : Option String := none
  target : Option String := none
  limit : Option Int := none
  schemes : List String := []

/-- The leading brackets of a word: repeated `(`, `<` or `&lt;`. -/
def leadLength (cs : List Char) : Nat :=
  let rec go : Nat → List Char → Nat
    | 0, _ => 0
    | fuel + 1, cs =>
      match cs with
      | '(' :: rest | '<' :: rest => 1 + go fuel rest
      | '&' :: 'l' :: 't' :: ';' :: rest => 4 + go fuel rest
      | _ => 0
  go cs.length cs

/-- Whether characters are wholly closing brackets, dots, commas, line feeds and `&gt;`. -/
def allTrailing (cs : List Char) : Bool :=
  let rec go : Nat → List Char → Bool
    | 0, _ => true
    | _, [] => true
    | fuel + 1, cs =>
      match cs with
      | '&' :: 'g' :: 't' :: ';' :: rest => go fuel rest
      | c :: rest =>
        (c == ')' || c == '>' || c == '.' || c == ',' || c == '\n') && go fuel rest
      | [] => true
  go cs.length cs

/-- Where the trailing punctuation of a word starts, if it has any. -/
def trailStart (cs : List Char) : Option Nat :=
  (List.range cs.length).find? fun i => allTrailing (cs.drop i)

/-- Closing brackets moved back from the tail to the middle while the middle has more opening
ones. -/
def balance (middle tail : List Char) : List Char × List Char :=
  [("(", ")"), ("<", ">"), ("&lt;", "&gt;")].foldl (fun (mid, tl) (o, c) =>
    let opens := Text.count o.toList mid Option.none Option.none
    let closes := Text.count c.toList mid Option.none Option.none
    if opens ≤ closes then (mid, tl)
    else
      let times := min opens (Text.count c.toList tl Option.none Option.none)
      (List.range times).foldl (fun (mid, tl) _ =>
        match Text.firstAt c.toList tl with
        | some k => (mid ++ tl.take (k + c.length), tl.drop (k + c.length))
        | none => (mid, tl)) (mid, tl)) (middle, tail)

/-- A link text cut to the limit: longer than it, the text keeps that many characters (all but
that many when the limit is negative) and ends with `...`. -/
def trimmed (rule : LinkRule) (cs : List Char) : List Char :=
  match rule.limit with
  | some n =>
    if n < cs.length then
      cs.take (if n < 0 then cs.length - n.natAbs else n.toNat) ++ "...".toList
    else cs
  | none => cs

/-- One word with its address made a link. -/
def linkWord (rule : LinkRule) (word : List Char) : List Char :=
  let relAttr := match rule.rel with
    | some r => if r.isEmpty then "" else " rel=\"" ++ escape r ++ "\""
    | none => ""
  let targetAttr := match rule.target with
    | some r => if r.isEmpty then "" else " target=\"" ++ escape r ++ "\""
    | none => ""
  let lead := leadLength word
  let head := word.take lead
  let middle := word.drop lead
  let (middle, tail) :=
    match trailStart middle with
    | some k => (middle.take k, middle.drop k)
    | none => (middle, [])
  let (middle, tail) := balance middle tail
  let m := String.ofList middle
  let linked : String :=
    if isWebAddress middle then
      if m.startsWith "https://" || m.startsWith "http://" then
        "<a href=\"" ++ m ++ "\"" ++ relAttr ++ targetAttr ++ ">" ++ String.ofList (trimmed rule middle) ++ "</a>"
      else
        "<a href=\"https://" ++ m ++ "\"" ++ relAttr ++ targetAttr ++ ">" ++ String.ofList (trimmed rule middle) ++ "</a>"
    else if m.startsWith "mailto:" && isMailAddress (middle.drop 7) then
      "<a href=\"" ++ m ++ "\">" ++ String.ofList (middle.drop 7) ++ "</a>"
    else if middle.contains '@' && !m.startsWith "www." && !m.startsWith "@" &&
        !middle.contains ':' && isMailAddress middle then
      "<a href=\"mailto:" ++ m ++ "\">" ++ m ++ "</a>"
    else
      rule.schemes.foldl (fun acc s =>
        if acc != s && acc.startsWith s then
          "<a href=\"" ++ acc ++ "\"" ++ relAttr ++ targetAttr ++ ">" ++ acc ++ "</a>"
        else acc) m
  head ++ linked.toList ++ tail

/-- Runs of blanks and runs of other characters, in order. -/
def blankRuns (cs : List Char) : List (List Char) :=
  let rec go : Nat → List Char → List (List Char)
    | 0, _ => []
    | _, [] => []
    | fuel + 1, c :: rest =>
      let same := (c :: rest).takeWhile fun d => Text.isBlank d == Text.isBlank c
      same :: go fuel ((c :: rest).drop same.length)
  go cs.length cs

/-- An escaped text with its addresses made links. -/
def urlize (rule : LinkRule) (escaped : String) : String :=
  String.ofList ((blankRuns escaped.toList).flatMap fun w =>
    if w.all Text.isBlank then w else linkWord rule w)

end Html
end UiTags
