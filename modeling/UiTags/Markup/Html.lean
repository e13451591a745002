import UiTags.Frame
import UiTags.Text.Basic

/-!
# HTML text

Text placed into markup is escaped: `&`, `<`, `>`, `"` and `'` become `&amp;`, `&lt;`, `&gt;`,
`&#34;` and `&#39;`. Body content captured from a document is markup already and is placed as
it is.

Start tags are written from a tag name and an ordered list of attribute pairs, every value
escaped. Class lists drop blank parts and trim the rest; style lists drop blank declarations,
trim them and strip trailing semicolons, and join them with `; `.
-/

namespace UiTags
namespace Html

/-- The escape of one character. -/
def escapeChar (c : Char) : List Char :=
  if c == '&' then "&amp;".toList
  else if c == '<' then "&lt;".toList
  else if c == '>' then "&gt;".toList
  else if c == '"' then "&#34;".toList
  else if c == '\'' then "&#39;".toList
  else [c]

/-- Escape a text for markup. -/
def escape (s : String) : String :=
  String.ofList (s.toList.flatMap escapeChar)

/-- The escaped text of a value. -/
def text (v : Value) : String := escape v.text

/-- Attribute pairs, each written ` name="value"` with both parts escaped. -/
def attrPairs (pairs : List (String × String)) : String :=
  String.join (pairs.map fun p => " " ++ escape p.1 ++ "=\"" ++ escape p.2 ++ "\"")

/-- A start tag without its closing `>`. -/
def openTag (name : String) (pairs : List (String × String)) : String :=
  "<" ++ name ++ attrPairs pairs

/-- A start tag. -/
def startTag (name : String) (pairs : List (String × String)) : String :=
  openTag name pairs ++ ">"

/-- Class names joined by spaces; absent and blank parts are dropped, the others trimmed. -/
def classes (parts : List (Option String)) : String :=
  " ".intercalate (parts.filterMap fun p => p.bind fun s =>
    let t := Text.strip s
    if t.isEmpty then none else some t)

/-- One style declaration cleaned: trimmed, trailing semicolons dropped, trimmed again. -/
def cleanDeclaration (d : String) : String :=
  Text.strip (Text.trimEndChar ';' (Text.strip d))

/-- Style declarations joined by `; `; blank ones are dropped. -/
def styles (decls : List String) : String :=
  "; ".intercalate ((decls.map cleanDeclaration).filter (!·.isEmpty))

/-- The `height` and `width` declarations of the attributes that are set, in that order. -/
def sizeStyles (attrs : Attrs) : List String :=
  ["height", "width"].filterMap fun name =>
    (attrs.get? name).bind fun v => if v.truthy then some s!"{name}: {v.text}" else none

/-- Declarations from attributes through a property map, then fixed declarations for the flag
attributes that hold. -/
def mappedStyles (attrs : Attrs) (props : List (String × String))
    (flags : List (String × String)) : List String :=
  (props.filterMap fun p =>
    (attrs.get? p.1).bind fun v => if v.truthy then some s!"{p.2}: {v.text}" else none) ++
  (flags.filterMap fun p => if attrs.holds p.1 then some p.2 else none)

/-- The caller's `data-*` attributes, lowered, with their texts, skipping null values and the
names in `taken`. -/
def passthrough (attrs : Attrs) (taken : List String) : List (String × String) :=
  attrs.filterMap fun p =>
    let low := Text.lower p.1
    if low.startsWith "data-" && p.2 != .null && !taken.contains low then some (low, p.2.text)
    else none

/-- Data pairs followed by the caller's `data-*` attributes not already among them. -/
def withPassthrough (attrs : Attrs) (pairs : List (String × String)) :
    List (String × String) :=
  pairs ++ passthrough attrs (pairs.map (·.1))

/-- The body of an element that may load its content from a source: a comment naming the
source and the content, or a loading placeholder when the content is empty; without a source,
the content alone. -/
def sourceBody (source : Option Value) (content : String) : String :=
  match source with
  | some src =>
    if src.truthy then
      "<!-- Content loaded from: " ++ text src ++ " -->\n" ++
        (if content.isEmpty then "<div class=\"bx-source-loading\">Loading content...</div>\n"
         else content ++ "\n")
    else content ++ "\n"
  | none => content ++ "\n"

/-- `true` or `false`. -/
def boolText (b : Bool) : String := if b then "true" else "false"

end Html
end UiTags
