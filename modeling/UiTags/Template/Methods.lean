import UiTags.Template.Special
import UiTags.Markup.Strip
import UiTags.Text.Upper
import UiTags.Json.Write

/-!
# Methods of values

The methods templates may call on texts, lists, tuples, dictionaries, ranges and the objects
the library hands to templates.

Texts have the methods of texts: case (`upper`, `lower`, `title`, `capitalize`, `swapcase`,
`casefold`), padding (`center`, `ljust`, `rjust`, `zfill`, `expandtabs`), trimming (`strip`,
`lstrip`, `rstrip`, `removeprefix`, `removesuffix`), searching (`find`, `rfind`, `index`,
`rindex`, `count`, `startswith`, `endswith`), cutting (`split`, `rsplit`, `splitlines`,
`partition`, `rpartition`), building (`join`, `replace`, `format`, `format_map`, `translate`)
and the tests of their characters (`isdigit`, `isalpha`, `isspace`, …). Most take their
arguments by position only.

A safe text keeps its safety through the methods that give texts, and escapes the plain texts
it is given for them (the fill character, the characters to trim, the pattern and its
replacement); `join` escapes the plain items it joins and `format` the values it puts in.
Safe texts also `unescape`, `striptags` and `escape`.

A list or dictionary that is not held in a variable answers its changing methods (`append`,
`pop`, `update`, …) with what they would return; the change itself has no one to see it.
-/

namespace UiTags
namespace Template
namespace Datum

/-! ## Texts -/

/-- The upper-case form of a text. -/
def upperText (s : String) : String := Text.upper s

/-- The lower-case form of a text. -/
def lowerText (s : String) : String := Text.lower s

/-- The first `count` occurrences of the pattern `first :: more`, left to right and without
overlap, replaced; all of them when `count` is none. -/
def replaceSome (first : Char) (more rep : List Char) : Option Nat → List Char → List Char
  | some 0, cs => cs
  | _, [] => []
  | count, c :: rest =>
    if (first :: more).isPrefixOf (c :: rest) then
      rep ++ replaceSome first more rep (count.map (· - 1)) (rest.drop more.length)
    else c :: replaceSome first more rep count rest
termination_by _ cs => cs.length
decreasing_by
  all_goals simp only [List.length_drop, List.length_cons]
  all_goals omega

/-- A text with occurrences of one text replaced by another: the first `count` of them, or all
when `count` is none. An empty pattern occurs before every character and at the end. -/
def replaceText (old new : String) (s : String) (count : Option Nat := Option.none) : String :=
  if old.isEmpty then
    let slots := s.length + 1
    let k := (count.getD slots).min slots
    let cs := s.toList
    String.ofList ((List.range (cs.length + 1)).flatMap fun i =>
      (if i < k then new.toList else []) ++ (cs.drop i).take 1)
  else match old.toList with
    | first :: more => String.ofList (replaceSome first more new.toList count s.toList)
    | [] => s

/-- Whether a character is alphanumeric: a letter, or a digit of any kind. -/
def isAlnumChar (c : Char) : Bool :=
  Text.isAlphaChar c || Text.isDigitChar c || Text.isNumericChar c

/-- The fill character argument of padding methods. -/
def fillArg (v : Option Datum) : Except Error Char :=
  match v with
  | Option.none => .ok ' '
  | some (str t) | some (safe t) =>
    match t.toList with
    | [c] => .ok c
    | _ => .error (.mismatch "The fill character must be exactly one character long")
  | some v => .error (.mismatch s!"The fill character must be a unicode character, not {v.typeName}")

/-- The characters argument of trimming methods: none for blanks. -/
def charsArg (v : Option Datum) : Except Error (Option (List Char)) :=
  match v with
  | Option.none | some none => .ok Option.none
  | some (str t) | some (safe t) => .ok (some t.toList)
  | some v => .error (.mismatch s!"strip arg must be None or str, not {v.typeName}")

/-- The prefixes a `startswith` or `endswith` test tries: one text or a tuple of texts. -/
def affixesArg (name : String) (v : Datum) : Except Error (List (List Char)) :=
  match v with
  | str t | safe t => .ok [t.toList]
  | tuple items => items.mapM fun i =>
    match i with
    | str t | safe t => .ok t.toList
    | x => .error (.mismatch s!"tuple for {name} must only contain str, not {x.typeName}")
  | v => .error (.mismatch s!"{name} first arg must be str or a tuple of str, not {v.typeName}")

/-- A text's characters mapped through a translation table of code points: to a text, a code
point, or nothing. -/
def translateChars (table : List (Datum × Datum)) (cs : List Char) :
    Except Error (List Char) :=
  cs.flatMapM fun c => do
    match ← lookup table (int (Text.codePoint c)) with
    | Option.none => return [c]
    | some none => return []
    | some (str t) | some (safe t) => return t.toList
    | some (int n) =>
      if 0 ≤ n && n < 0x110000 then return [Text.ofCode n.toNat]
      else throw (.badValue "character mapping must be in range(0x110000)")
    | some _ => throw (.mismatch "character mapping must return integer, None or str")

/-- A method of a text; `self` is the text as a value, plain or safe. -/
def textMethod (self : Datum) (s : String) (name : String) (args : List Datum)
    (named : List (String × Datum)) : Except Error Datum := do
  let isSafe := self matches safe _
  let cs := s.toList
  let keep (t : List Char) : Datum := if isSafe then safe (String.ofList t) else str (String.ofList t)
  -- safe text escapes the fill character of padding and the replacement of `replace`
  let escapeSecond : Except Error (List Datum) :=
    if isSafe then args.zipIdx.mapM fun (a, i) => if i == 1 then markupArg a else pure a
    else pure args
  let noArgs : Except Error Unit := do
    let _ ← positional name 0 0 args named
  let charTest (p : Char → Bool) : Except Error Datum := do
    noArgs
    return bool (Text.allOf p cs)
  let search : Except Error (List Char × Option Int × Option Int) := do
    let a ← positional name 1 3 args named
    let part ← textArg (a.headD none)
    return (part.toList, ← boundArg a[1]?, ← boundArg a[2]?)
  match name with
  | "capitalize" => do noArgs; return keep (Text.capitalize cs)
  | "casefold" => do noArgs; return keep (Text.casefold s).toList
  | "lower" => do noArgs; return keep (lowerText s).toList
  | "upper" => do noArgs; return keep (upperText s).toList
  | "title" => do noArgs; return keep (Text.title cs)
  | "swapcase" => do noArgs; return keep (Text.swapCase cs)
  | "center" | "ljust" | "rjust" => do
    let a ← positional name 1 2 (← escapeSecond) named
    let w := (← indexArg (a.headD none)).toNat
    let fill ← fillArg a[1]?
    return keep (match name with
      | "center" => Text.center w fill cs
      | "ljust" => Text.padRight w fill cs
      | _ => Text.padLeft w fill cs)
  | "zfill" => do
    let a ← positional name 1 1 args named
    return keep (Text.zeroFill (← indexArg (a.headD none)).toNat cs)
  | "expandtabs" => do
    let a ← bindParams name ["tabsize"] 0 args named
    let size ← match a.headD Option.none with
      | some v => indexArg v
      | Option.none => pure 8
    return keep (Text.expandTabs size cs)
  | "strip" | "lstrip" | "rstrip" => do
    let a ← positional name 0 1 args named
    let p := Text.trimTest (← charsArg a[0]?)
    let front := if name == "rstrip" then cs else cs.dropWhile p
    return keep (if name == "lstrip" then front else Text.trimEndBy p front)
  | "removeprefix" | "removesuffix" => do
    let a ← positional name 1 1 args named
    let part := (← textArg (a.headD none)).toList
    if name == "removeprefix" then
      return keep (if part.isPrefixOf cs then cs.drop part.length else cs)
    else
      return keep (if part.isSuffixOf cs then cs.take (cs.length - part.length) else cs)
  | "replace" => do
    let a ← positional name 2 3 (← escapeSecond) named
    let old ← textArg (a.headD none)
    let new ← textArg (a.getD 1 none)
    let count ← match a[2]? with
      | some c => do
        let n ← indexArg c
        pure (if n < 0 then Option.none else some n.toNat)
      | Option.none => pure Option.none
    return keep (replaceText old new s count).toList
  | "count" => do
    let (part, start, stop) ← search
    return int (Text.count part cs start stop)
  | "find" | "rfind" | "index" | "rindex" => do
    let (part, start, stop) ← search
    let found := if name == "find" || name == "index" then Text.find part cs start stop
      else Text.rfind part cs start stop
    if found < 0 && (name == "index" || name == "rindex") then
      throw (.badValue "substring not found")
    return int found
  | "startswith" | "endswith" => do
    let a ← positional name 1 3 args named
    let affixes ← affixesArg name (a.headD none)
    let start ← boundArg a[1]?
    let stop ← boundArg a[2]?
    let test := if name == "startswith" then Text.startsWith else Text.endsWith
    return bool (affixes.any fun p => test p cs start stop)
  | "isalnum" => charTest isAlnumChar
  | "isalpha" => charTest Text.isAlphaChar
  | "isascii" => do noArgs; return bool (cs.all fun c => c.toNat < 128)
  | "isdecimal" => charTest Text.isDecimalChar
  | "isdigit" => charTest Text.isDigitChar
  | "isnumeric" => charTest Text.isNumericChar
  | "isspace" => charTest Text.isBlank
  | "isprintable" => do noArgs; return bool (cs.all Text.isPrintable)
  | "isidentifier" => do noArgs; return bool (Text.isIdentifier cs)
  | "islower" => do noArgs; return bool (Text.isLowerText cs)
  | "isupper" => do noArgs; return bool (Text.isUpperText cs)
  | "istitle" => do noArgs; return bool (Text.isTitleText cs)
  | "join" => do
    let a ← positional name 1 1 args named
    let parts ← items (a.headD none)
    if isSafe then
      let texts ← parts.mapM fun p => do
        match p with
        | safe t => pure t
        | p => pure (Html.escape (← text p))
      return safe (s.intercalate texts)
    let texts ← parts.zipIdx.mapM fun (p, i) =>
      match p with
      | str t | safe t => .ok t
      | p => .error (.mismatch s!"sequence item {i}: expected str instance, {p.typeName} found")
    return str (s.intercalate texts)
  | "split" | "rsplit" => do
    let a ← bindParams name ["sep", "maxsplit"] 0 args named
    let sep ← match a.headD Option.none with
      | Option.none | some none => pure Option.none
      | some v => do
        let t ← textArg v
        if t.isEmpty then throw (.badValue "empty separator")
        pure (some t.toList)
    let limit ← match a.getD 1 Option.none with
      | some v => do
        let n ← indexArg v
        pure (if n < 0 then Option.none else some n.toNat)
      | Option.none => pure Option.none
    let pieces := match sep, name with
      | some p, "split" => Text.splitSep p limit cs
      | some p, _ => Text.rsplitSep p limit cs
      | Option.none, "split" => Text.splitBlank limit cs
      | Option.none, _ => Text.rsplitBlank limit cs
    return list (pieces.map keep)
  | "splitlines" => do
    let a ← bindParams name ["keepends"] 0 args named
    let ends ← match a.headD Option.none with
      | some v => do pure ((← indexArg v) != 0)
      | Option.none => pure false
    return list ((Text.splitLines ends cs).map keep)
  | "partition" | "rpartition" => do
    let a ← positional name 1 1 args named
    let sep := (← textArg (a.headD none)).toList
    if sep.isEmpty then throw (.badValue "empty separator")
    let (x, y, z) := if name == "partition" then Text.partition sep cs else Text.rpartition sep cs
    return tuple [keep x, keep y, keep z]
  | "format" => return keep (← formatFields isSafe s args named).toList
  | "format_map" => do
    let a ← positional name 1 1 args named
    match (a.headD none).bare with
    | dict pairs =>
      let keyed := pairs.filterMap fun (k, v) => (text? k).map fun t => (t, v)
      return keep (← formatFieldsWith isSafe s (if isSafe then some [] else Option.none) keyed).toList
    | v => throw (.mismatch s!"{Text.quote v.typeName} object is not subscriptable")
  | "translate" => do
    let a ← positional name 1 1 args named
    match (a.headD none).bare with
    | dict table => return keep (← translateChars table cs)
    | v => throw (.mismatch s!"{Text.quote v.typeName} object is not subscriptable")
  | "escape" =>
    if isSafe then do
      let a ← positional name 1 1 args named
      match a.headD none with
      | safe t => return safe t
      | v => return safe (Html.escape (← text v))
    else throw (.mismatch s!"the method {name} of texts is not supported")
  | "unescape" =>
    if isSafe then do noArgs; return str (Html.unescape s)
    else throw (.mismatch s!"the method {name} of texts is not supported")
  | "striptags" =>
    if isSafe then do noArgs; return str (Html.stripTags s)
    else throw (.mismatch s!"the method {name} of texts is not supported")
  | _ => throw (.mismatch s!"the method {name} of texts is not supported")

/-! ## Sequences and dictionaries -/

/-- The position of the first item equal to a value between bounds, if any. -/
def positionOf (x : Datum) (xs : List Datum) (start stop : Option Int) :
    Except Error (Option Nat) := do
  let (a, b) := sliceBounds xs.length start stop 1
  let rec go : Nat → List Datum → Except Error (Option Nat)
    | _, [] => .ok Option.none
    | i, y :: ys => do
      if (a ≤ i && i < b) then
        if sameObject x y || (← equals x y) then return some i
      go (i + 1) ys
  go 0 xs

/-- The number of items equal to a value. -/
def countOf (x : Datum) (xs : List Datum) : Except Error Nat :=
  xs.foldlM (fun n y => do return if sameObject x y || (← equals x y) then n + 1 else n) 0

/-- A method of a list that is not held anywhere, answering what the method returns. -/
def listMethod (xs : List Datum) (name : String) (args : List Datum)
    (named : List (String × Datum)) : Except Error Datum := do
  match name with
  | "count" => do
    let a ← positional name 1 1 args named
    return int (← countOf (a.headD none) xs)
  | "index" => do
    let a ← positional name 1 3 args named
    let x := a.headD none
    match ← positionOf x xs (← boundArg a[1]?) (← boundArg a[2]?) with
    | some i => return int i
    | Option.none => throw (.badValue s!"{← reprText x} is not in list")
  | "copy" => do
    let _ ← positional name 0 0 args named
    return list xs
  | "append" | "remove" => do
    let a ← positional name 1 1 args named
    if name == "remove" then
      if (← positionOf (a.headD none) xs Option.none Option.none).isNone then
        throw (.badValue "list.remove(x): x not in list")
    return none
  | "extend" => do
    let a ← positional name 1 1 args named
    let _ ← items (a.headD none)
    return none
  | "insert" => do
    let a ← positional name 2 2 args named
    let _ ← indexArg (a.headD none)
    return none
  | "reverse" | "clear" => do
    let _ ← positional name 0 0 args named
    return none
  | "sort" => do
    unless args.isEmpty do throw (.mismatch "sort() takes no positional arguments")
    return none
  | "pop" => do
    let a ← positional name 0 1 args named
    let k ← match a[0]? with
      | some v => indexArg v
      | Option.none => pure (-1)
    if xs.isEmpty then throw (.noIndex "pop from empty list")
    match position xs.length k with
    | some j => return (xs[j]?).getD none
    | Option.none => throw (.noIndex "pop index out of range")
  | _ => throw (.mismatch s!"the method {name} of lists is not supported")

/-- A method of a tuple. -/
def tupleMethod (xs : List Datum) (name : String) (args : List Datum)
    (named : List (String × Datum)) : Except Error Datum := do
  match name with
  | "count" => do
    let a ← positional name 1 1 args named
    return int (← countOf (a.headD none) xs)
  | "index" => do
    let a ← positional name 1 3 args named
    match ← positionOf (a.headD none) xs (← boundArg a[1]?) (← boundArg a[2]?) with
    | some i => return int i
    | Option.none => throw (.badValue "tuple.index(x): x not in tuple")
  | _ => throw (.mismatch s!"the method {name} of tuples is not supported")

/-- A method of a dictionary that is not held anywhere, answering what the method returns. -/
def dictMethod (ps : List (Datum × Datum)) (name : String) (args : List Datum)
    (named : List (String × Datum)) : Except Error Datum := do
  match name with
  | "keys" => do
    let _ ← positional name 0 0 args named
    return view "dict_keys" (ps.map (·.1))
  | "values" => do
    let _ ← positional name 0 0 args named
    return view "dict_values" (ps.map (·.2))
  | "items" => do
    let _ ← positional name 0 0 args named
    return view "dict_items" (ps.map fun (k, v) => tuple [k, v])
  | "get" => do
    let a ← positional name 1 2 args named
    return (← lookup ps (a.headD none)).getD (a.getD 1 none)
  | "copy" => do
    let _ ← positional name 0 0 args named
    return dict ps
  | "setdefault" => do
    let a ← positional name 1 2 args named
    return (← lookup ps (a.headD none)).getD (a.getD 1 none)
  | "pop" => do
    let a ← positional name 1 2 args named
    let key := a.headD none
    match ← lookup ps key, a[1]? with
    | some v, _ => return v
    | Option.none, some d => return d
    | Option.none, Option.none => throw (.noKey (← reprText key))
  | "popitem" => do
    let _ ← positional name 0 0 args named
    match ps.getLast? with
    | some (k, v) => return tuple [k, v]
    | Option.none => throw (.noKey "'popitem(): dictionary is empty'")
  | "update" | "clear" => return none
  | "fromkeys" => do
    let a ← positional name 1 2 args named
    let keys ← items (a.headD none)
    let value := a.getD 1 none
    return dict (← keys.foldlM (fun acc k => insert acc k value) [])
  | _ => throw (.mismatch s!"the method {name} of dictionaries is not supported")

/-- A method of a range. -/
def rangeMethod (start stop step : Int) (name : String) (args : List Datum)
    (named : List (String × Datum)) : Except Error Datum := do
  let a ← positional name 1 1 args named
  let x := a.headD none
  let value? : Option Int := match x with
    | int n => some n
    | bool b => some (if b then 1 else 0)
    | _ => Option.none
  let found : Option Nat := value?.bind fun n =>
    let k := (n - start) / step
    if (n - start) % step == 0 && 0 ≤ k && k < rangeLength start stop step then some k.toNat
    else Option.none
  match name with
  | "count" => return int (if found.isSome then 1 else 0)
  | "index" =>
    match found with
    | some k => return int k
    | Option.none => throw (.badValue s!"{← reprText x} is not in range")
  | _ => throw (.mismatch s!"the method {name} of ranges is not supported")

/-! ## Objects of the library -/

/-- The fields of an object as plain data, nested objects as dictionaries. -/
def dumped : Nat → Datum → Datum
  | 0, v => v
  | fuel + 1, v =>
    match v.bare with
    | record _ fields _ => dict (fields.map fun (k, x) => (str k, dumped fuel x))
    | list xs => list (xs.map (dumped fuel))
    | tuple xs => tuple (xs.map (dumped fuel))
    | dict ps => dict (ps.map fun (k, x) => (k, dumped fuel x))
    | v => v

/-- A JSON string as an object writes it: the quote, the backslash and control characters
escaped, every other character as it is. -/
def compactString (s : String) : List Char :=
  '"' :: s.toList.flatMap (fun c =>
    if c == '"' then ['\\', '"'] else if c == '\\' then ['\\', '\\']
    else if c == '\n' then ['\\', 'n'] else if c == '\r' then ['\\', 'r']
    else if c == '\t' then ['\\', 't'] else if c.toNat == 8 then ['\\', 'b']
    else if c.toNat == 12 then ['\\', 'f']
    else if c.toNat < 0x20 then Json.unitEscape c.toNat
    else [c]) ++ ['"']

/-- An object's fields as compact JSON, with no spaces. -/
def compactJson : Nat → Datum → Except Error (List Char)
  | 0, _ => .error .tooDeep
  | fuel + 1, v =>
    match v.bare with
    | none => .ok "null".toList
    | bool b => .ok (if b then "true" else "false").toList
    | int n => do return (← intText n).toList
    | float x => .ok (Json.numberChars x)
    | str s | safe s => .ok (compactString s)
    | list xs | tuple xs => do
      let parts ← xs.mapM (compactJson fuel)
      return '[' :: (parts.intersperse [',']).flatten ++ [']']
    | dict ps => do
      let parts ← ps.mapM fun (k, x) => do
        return compactString (← text k) ++ ':' :: (← compactJson fuel x)
      return '{' :: (parts.intersperse [',']).flatten ++ ['}']
    | record _ fields _ => compactJson fuel (dict (fields.map fun (k, x) => (str k, x)))
    | v => .error (.mismatch s!"Unable to serialize unknown type: {v.typeName}")

/-- A method of an object the library hands to templates: its fields as a dictionary or as
JSON. -/
def recordMethod (self : Datum) (name : String) (args : List Datum)
    (named : List (String × Datum)) : Except Error Datum := do
  match name with
  | "model_dump" => do
    let _ ← positional name 0 0 args named
    return dumped 64 self
  | "model_dump_json" => do
    let _ ← positional name 0 0 args named
    return str (String.ofList (← compactJson 64 self))
  | _ => throw (.mismatch s!"the method {name} of {self.typeName} is not supported")

/-! ## Calling methods -/

/-- The value a method gives when called on a value that no variable holds. -/
def callMethod (self : Datum) (name : String) (args : List Datum)
    (named : List (String × Datum)) : Except Error Datum :=
  let self := self.bare
  if (specialNames self).contains name then specialMethod self name args named
  else
  match self with
  | str s | safe s =>
    if name == "encode" then encodeText s args named else textMethod self s name args named
  | int n => intMethod n name args named
  | bool b => intMethod (if b then 1 else 0) name args named
  | float x => floatMethod x name args named
  | bytes bs => bytesMethod bs name args named
  | list xs => listMethod xs name args named
  | tuple xs => tupleMethod xs name args named
  | dict ps => dictMethod ps name args named
  | range a b st => rangeMethod a b st name args named
  | record "LoopContext" fields _ =>
    match name, fields.lookup "index0", args with
    | "cycle", some (int i), _ :: _ => .ok ((args[(i.toNat % args.length)]?).getD none)
    | "cycle", _, _ => .error (.mismatch "no items for cycling given")
    | _, _, _ => .error (.mismatch s!"the method {name} of loops is not supported")
  | record .. => recordMethod self name args named
  | v => .error (.mismatch s!"the method {name} of {v.typeName} is not supported")

end Datum
end Template
end UiTags
