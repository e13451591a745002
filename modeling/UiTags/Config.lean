import UiTags.Value
import UiTags.Text.Basic
import UiTags.Failure
import UiTags.Random.Seed

/-!
# Render settings

The settings shared by markup and scripts: module name and version, where assets live, the
endpoints of remote calls and grid updates, the tags an asset import pulls in by default, and
how element ids are made. The stylesheet and script bases are the configured sources, or the
asset root followed by `/css` and `/js`, without trailing slashes.

Settings are kept as given and checked where they are used: a source that is set must be text
to lose its trailing slashes, and the default import tags must list texts (the items of a
list, the characters of a text or the keys of a mapping).
-/

namespace UiTags

/-- The tags that have their own stylesheet and script, in import order. -/
def assetTags : List String := ["layout", "div", "grid", "tooltip", "pod"]

/-- Render settings. Fields that are only passed on keep their values as given. -/
structure Config where
  moduleName : Value := .str "bx-compat-ui"
  version : Value := .str "1.0.0"
  assetRoot : String := "/bx-compat-ui"
  /-- Where stylesheets live; a falsy value means under the asset root. -/
  cssSrc : Value := .null
  /-- Where scripts live; a falsy value means under the asset root. -/
  scriptSrc : Value := .null
  remoteEndpoint : Value := .str "/bx-compat-ui/remote"
  gridUpdateEndpoint : Value := .str "/bx-compat-ui/gridupdate"
  /-- The tags an asset import pulls in when it names none. -/
  defaultImportTags : Value := .list (assetTags.map .str)
  idStrategy : String := "counter"
  /-- The seed of random element ids; null for none. -/
  idSeed : Value := .null
  /-- The settings given as dates or times, with the name of their kind. They stand as their
  text wherever any value will do, but they are neither text nor a seed. -/
  dated : List (String × String) := []
  deriving Inhabited

namespace Config

/-- A source without trailing slashes, or the fallback when the source is falsy; a truthy
source that is not text (a date or time, whose kind is given, is always truthy) has no slashes
to lose. -/
def base (kind : Option String) (src : Value) (fallback : String) : Except Failure String :=
  match kind, src with
  | some k, _ => .error (.settingNotText k "rstrip")
  | none, .str s => .ok (Text.trimEndChar '/' (if s.isEmpty then fallback else s))
  | none, v =>
    if v.truthy then .error (.settingNotText v.typeName "rstrip")
    else .ok (Text.trimEndChar '/' fallback)

/-- Where stylesheets live. -/
def cssBase (c : Config) : Except Failure String :=
  base (c.dated.lookup "css_src") c.cssSrc (c.assetRoot ++ "/css")

/-- Where scripts live. -/
def scriptBase (c : Config) : Except Failure String :=
  base (c.dated.lookup "script_src") c.scriptSrc (c.assetRoot ++ "/js")

/-- The number the id seed seeds a random source with, or none for a seed that cannot seed
one. -/
def seedNumber? (c : Config) : Option Nat :=
  if (c.dated.lookup "id_seed").isSome then none else Seed.number? c.idSeed

/-- The items listed from a value: list items, mapping keys or text characters. -/
def itemsOf : Value → Except Failure (List Value)
  | .list xs => .ok xs
  | .str s => .ok (s.toList.map fun ch => .str ch.toString)
  | .obj fs => .ok (fs.map fun p => .str p.1)
  | v => .error (.settingNotSequence v.typeName)

/-- The default import tags, each of which must be text. -/
def importTags (c : Config) : Except Failure (List String) := do
  let tags ← itemsOf c.defaultImportTags
  match tags.findIdx? (fun v => !(v matches .str _)) with
  | some i => throw (.settingTagNotText i ((tags[i]?.map Value.typeName).getD ""))
  | none => pure (tags.map Value.text)

theorem base_text (s fallback : String) (h : s.isEmpty = false) :
    base none (.str s) fallback = .ok (Text.trimEndChar '/' s) := by
  simp [base, h]

end Config
end UiTags
