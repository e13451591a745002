import UiTags.Text.Quoted

/-!
# Encoding texts as bytes

A text becomes bytes under one of three encodings, UTF-8, ASCII and Latin-1, each known under
several names, and bytes become a text again under the same three.

A character that an encoding cannot hold, or bytes that do not decode, make a *fault*: the
positions it covers (characters when encoding, bytes when decoding) and the reason. An error
handler, named by the caller, decides what a fault becomes:

- `strict` fails, naming the whole run of characters that cannot be encoded, or the bytes of
  one bad sequence;
- `ignore` drops it;
- `replace` writes `?` for each character, or one U+FFFD for each bad sequence;
- `backslashreplace` writes each character or byte as an escape (`\xe9`, `\u20ac`);
- `xmlcharrefreplace` writes each character as a character reference (`&#233;`); it cannot
  repair bytes.

A handler's name is looked up only when a fault needs it, so an unknown name fails only then.

UTF-8 decoding names its faults the standard way: a byte that cannot start a sequence, a byte
that cannot continue the one begun (the fault then covers the bytes before it), or data that
ends inside a sequence (the fault then covers the rest).
-/

namespace UiTags
namespace Text

/-- The encodings a text can be written in. -/
inductive Encoding where
  | utf8
  | ascii
  | latin1
  deriving DecidableEq, Repr

/-- A run of characters or bytes that an encoding cannot handle: where it starts, where it
stops (excluded) and why. -/
structure Fault where
  start : Nat
  stop : Nat
  reason : String
  deriving DecidableEq, Repr

/-- Why encoding or decoding failed. -/
inductive CodecError where
  /-- No encoding goes by this name. -/
  | unknownEncoding (name : String)
  /-- No error handler goes by this name. -/
  | unknownHandler (name : String)
  /-- The encoding cannot hold these characters of the text. -/
  | cannotEncode (encoding : String) (chars : List Char) (fault : Fault)
  /-- These bytes do not decode. -/
  | cannotDecode (encoding : String) (bytes : List UInt8) (fault : Fault)
  /-- The handler cannot repair bytes that do not decode. -/
  | cannotRepair (handler : String)
  deriving Repr

namespace Encoding

/-- The name an encoding goes by in failures. -/
def name : Encoding → String
  | utf8 => "utf-8"
  | ascii => "ascii"
  | latin1 => "latin-1"

/-- An encoding name as lookup compares it: ASCII letters, digits and points in lower case,
with every run of other characters between two of them read as one underscore. -/
def normalName (s : String) : String :=
  let rec go : List Char → Bool → List Char → List Char
    | [], _, out => out.reverse
    | c :: cs, gap, out =>
      if c.isAlphanum || c == '.' then
        let out := if gap && !out.isEmpty then '_' :: out else out
        go cs false (if c.toNat < 128 then c.toLower :: out else out)
      else go cs true out
  String.ofList (go s.toList false [])

/-- The names of UTF-8, after `normalName`. -/
def utf8Names : List String := ["utf_8", "utf8", "u8", "utf", "utf8_ucs2", "utf8_ucs4", "cp65001"]

/-- The names of ASCII, after `normalName`. -/
def asciiNames : List String :=
  ["ascii", "us_ascii", "646", "ansi_x3.4_1968", "ansi_x3_4_1968", "ansi_x3.4_1986", "cp367",
   "csascii", "ibm367", "iso646_us", "iso_646.irv_1991", "iso_ir_6", "us"]

/-- The names of Latin-1, after `normalName`. -/
def latin1Names : List String :=
  ["latin_1", "latin1", "latin", "l1", "iso_8859_1", "iso8859_1", "iso8859", "8859", "cp819",
   "csisolatin1", "ibm819", "iso_8859_1_1987", "iso_ir_100"]

/-- The encoding a name stands for, if any. -/
def ofName? (s : String) : Option Encoding :=
  let n := normalName s
  let alt := n.map fun c => if c == '.' then '_' else c
  let named (names : List String) : Bool := names.contains n || names.contains alt
  if named utf8Names then some utf8
  else if named asciiNames then some ascii
  else if named latin1Names then some latin1
  else none

/-- The code points below which a one-byte encoding holds a character. -/
def limit : Encoding → Nat
  | utf8 => 0x110000
  | ascii => 128
  | latin1 => 256

end Encoding

namespace CodecError

/-- The text of a failure to encode or decode. -/
def message : CodecError → String
  | unknownEncoding n => "unknown encoding: " ++ n
  | unknownHandler n => "unknown error handler name " ++ quote n
  | cannotEncode enc cs f =>
    if f.stop = f.start + 1 then
      let c := (cs[f.start]?).getD ' '
      "'" ++ enc ++ "' codec can't encode character '" ++ String.ofList (codeEscape c) ++
        "' in position " ++ toString f.start ++ ": " ++ f.reason
    else
      "'" ++ enc ++ "' codec can't encode characters in position " ++ toString f.start ++ "-" ++
        toString (f.stop - 1) ++ ": " ++ f.reason
  | cannotDecode enc bs f =>
    if f.stop = f.start + 1 then
      let b := ((bs[f.start]?).getD 0).toNat
      "'" ++ enc ++ "' codec can't decode byte 0x" ++ String.ofList (hexDigits 2 b) ++
        " in position " ++ toString f.start ++ ": " ++ f.reason
    else
      "'" ++ enc ++ "' codec can't decode bytes in position " ++ toString f.start ++ "-" ++
        toString (f.stop - 1) ++ ": " ++ f.reason
  | cannotRepair _ => "don't know how to handle UnicodeDecodeError in error callback"

/-- The class of a failure to encode or decode. -/
def className : CodecError → String
  | unknownEncoding _ | unknownHandler _ => "LookupError"
  | cannotEncode .. => "UnicodeEncodeError"
  | cannotDecode .. => "UnicodeDecodeError"
  | cannotRepair _ => "TypeError"

end CodecError

/-- The bytes a handler writes for a character an encoding cannot hold, or a failure. -/
def encodeRepair (enc : Encoding) (handler : String) (cs : List Char) (i : Nat) (c : Char) :
    Except CodecError (List UInt8) :=
  let ascii (t : List Char) : List UInt8 := t.map fun d => UInt8.ofNat d.toNat
  match handler with
  | "ignore" => .ok []
  | "replace" => .ok [63]
  | "backslashreplace" => .ok (ascii (codeEscape c))
  | "xmlcharrefreplace" => .ok (ascii ("&#" ++ toString c.toNat ++ ";").toList)
  | "strict" | "surrogateescape" | "surrogatepass" =>
    let run := ((cs.drop i).takeWhile fun d => enc.limit ≤ d.toNat).length
    .error (.cannotEncode enc.name cs ⟨i, i + run, "ordinal not in range(" ++ toString enc.limit ++ ")"⟩)
  | h => .error (.unknownHandler h)

/-- The bytes of the characters from position `i` on, under a one-byte encoding. -/
def encodeNarrow (enc : Encoding) (handler : String) (cs : List Char) :
    Nat → List Char → Except CodecError (List UInt8)
  | _, [] => .ok []
  | i, c :: rest => do
    let here ← if c.toNat < enc.limit then pure [UInt8.ofNat c.toNat]
      else encodeRepair enc handler cs i c
    return here ++ (← encodeNarrow enc handler cs (i + 1) rest)

/-- A text's bytes under an encoding, faults handled by the named handler. -/
def encode (enc : Encoding) (handler : String) (s : String) : Except CodecError (List UInt8) :=
  match enc with
  | .utf8 => .ok s.toUTF8.toList
  | enc => encodeNarrow enc handler s.toList 0 s.toList

/-- Whether a byte continues a UTF-8 sequence. -/
def isContinuation (b : UInt8) : Bool := 0x80 ≤ b && b < 0xC0

/-- The character that UTF-8 bytes start with and how many bytes it takes, or how many bytes
the fault at their start covers and why. -/
def utf8Step (bs : List UInt8) : Except (Nat × String) (Char × Nat) :=
  let start := "invalid start byte"
  let cont := "invalid continuation byte"
  let ended : Except (Nat × String) (Char × Nat) := .error (bs.length, "unexpected end of data")
  let low (b : UInt8) : Nat := (b &&& 0x3F).toNat
  match bs with
  | [] => ended
  | b0 :: rest =>
    if b0 < 0x80 then .ok (Char.ofNat b0.toNat, 1)
    else if b0 < 0xC2 then .error (1, start)
    else if b0 < 0xE0 then
      match rest with
      | [] => ended
      | b1 :: _ =>
        if !isContinuation b1 then .error (1, cont)
        else .ok (Char.ofNat ((b0 &&& 0x1F).toNat * 64 + low b1), 2)
    else if b0 < 0xF0 then
      let badSecond (b1 : UInt8) : Bool :=
        !isContinuation b1 || (if b1 < 0xA0 then b0 == 0xE0 else b0 == 0xED)
      match rest with
      | [] => ended
      | [b1] => if badSecond b1 then .error (1, cont) else ended
      | b1 :: b2 :: _ =>
        if badSecond b1 then .error (1, cont)
        else if !isContinuation b2 then .error (2, cont)
        else .ok (Char.ofNat ((b0 &&& 0x0F).toNat * 4096 + low b1 * 64 + low b2), 3)
    else if b0 < 0xF5 then
      let badSecond (b1 : UInt8) : Bool :=
        !isContinuation b1 || (if b1 < 0x90 then b0 == 0xF0 else b0 == 0xF4)
      match rest with
      | [] => ended
      | [b1] => if badSecond b1 then .error (1, cont) else ended
      | [b1, b2] =>
        if badSecond b1 then .error (1, cont)
        else if !isContinuation b2 then .error (2, cont)
        else ended
      | b1 :: b2 :: b3 :: _ =>
        if badSecond b1 then .error (1, cont)
        else if !isContinuation b2 then .error (2, cont)
        else if !isContinuation b3 then .error (3, cont)
        else .ok (Char.ofNat ((b0 &&& 0x07).toNat * 262144 + low b1 * 4096 + low b2 * 64 +
          low b3), 4)
    else .error (1, start)

/-- The first character of bytes under an encoding and how many bytes it takes, or the fault
at their start. -/
def decodeStep (enc : Encoding) (bs : List UInt8) : Except (Nat × String) (Char × Nat) :=
  match enc, bs with
  | .utf8, bs => utf8Step bs
  | .ascii, b :: _ =>
    if b < 0x80 then .ok (Char.ofNat b.toNat, 1) else .error (1, "ordinal not in range(128)")
  | _, b :: _ => .ok (Char.ofNat b.toNat, 1)
  | _, [] => .error (0, "unexpected end of data")

/-- The characters a handler writes for bytes that do not decode, or a failure. -/
def decodeRepair (enc : Encoding) (handler : String) (all bad : List UInt8) (f : Fault) :
    Except CodecError (List Char) :=
  match handler with
  | "ignore" => .ok []
  | "replace" => .ok [Char.ofNat 0xFFFD]
  | "backslashreplace" => .ok (bad.flatMap fun b => '\\' :: 'x' :: hexDigits 2 b.toNat)
  | "strict" | "surrogateescape" | "surrogatepass" => .error (.cannotDecode enc.name all f)
  | "xmlcharrefreplace" | "namereplace" => .error (.cannotRepair handler)
  | h => .error (.unknownHandler h)

/-- The characters of the bytes from position `i` on, at most `fuel` steps. -/
def decodeFrom (enc : Encoding) (handler : String) (all : List UInt8) :
    Nat → Nat → List UInt8 → Except CodecError (List Char)
  | 0, _, _ => .ok []
  | _, _, [] => .ok []
  | fuel + 1, i, bs => do
    match decodeStep enc bs with
    | .ok (c, k) => return c :: (← decodeFrom enc handler all fuel (i + k) (bs.drop k))
    | .error (k, reason) =>
      let k := max k 1
      let here ← decodeRepair enc handler all (bs.take k) ⟨i, i + k, reason⟩
      return here ++ (← decodeFrom enc handler all fuel (i + k) (bs.drop k))

/-- The text bytes decode to under an encoding, faults handled by the named handler. Every step
takes at least one byte, so as many steps as bytes suffice. -/
def decode (enc : Encoding) (handler : String) (bs : List UInt8) : Except CodecError String :=
  String.ofList <$> decodeFrom enc handler bs bs.length 0 bs

end Text
end UiTags
