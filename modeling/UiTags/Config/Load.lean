import UiTags.Config
import UiTags.Failure
import UiTags.Toml.Read

/-!
# Settings from a TOML document

A project overrides the render settings in the `[ui]` table of a TOML document; what the table
leaves out keeps its default. The settings are taken as given, with four exceptions, checked
in this order:

* the asset root loses its trailing slashes, so it must be text;
* the default import tags are listed from the value given: the items of an array, the keys of
  a table, or the characters of a text; any other value lists nothing and is refused;
* the id strategy must be `counter` or `random`;
* every default import tag must be one of the tags with assets; an unknown one that is not
  text cannot even be named in the refusal, and is refused as such.

Settings given as dates or times stand as their text, and their kind is kept, since a date is
neither a source nor a seed. The bases are made from the settings where they are needed;
`loadWithBases` makes them at once.
-/

namespace UiTags
namespace Config

/-- A setting of the table, or a default. -/
def setting (ui : TomlTable) (name : String) (default : TomlValue) : TomlValue :=
  (ui.lookup name).getD default

/-- The items listed from a value: array items, table keys or text characters. -/
def listed : TomlValue → Except Failure (List TomlValue)
  | .array items => .ok items
  | .table fields => .ok (fields.map fun p => .str p.1)
  | .str s => .ok (s.toList.map fun c => .str (String.singleton c))
  | v => .error (.settingNotSequence v.typeName)

/-- The unknown tags among listed ones, all of them text, or the failure naming the first one
that is not text. -/
def unknownTags (tags : List TomlValue) : Except Failure (List String) :=
  let unknown := tags.filter fun
    | .str s => !assetTags.contains s
    | _ => true
  match unknown.findIdx? (fun v => !(v matches .str _)) with
  | some i => .error (.settingTagNotText i ((unknown[i]?.map TomlValue.typeName).getD ""))
  | none => .ok (unknown.map fun v => (TomlValue.toValue v).text)

/-- The settings of a `[ui]` table. -/
def ofTable (root : TomlTable) : Except Failure Config := do
  let ui ← match root.lookup "ui" with
    | none => pure []
    | some (.table fields) => pure fields
    | some v => throw (.settingsNotTable v.typeName)
  let raw (name : String) (default : Value) : Value :=
    ((ui.lookup name).map TomlValue.toValue).getD default
  let assetRoot ← match setting ui "asset_root" (.str "/bx-compat-ui") with
    | .str s => pure (Text.trimEndChar '/' s)
    | v => throw (.settingNotText v.typeName "rstrip")
  let tags ← listed (setting ui "default_import_tags" (.array (assetTags.map .str)))
  let idStrategy := raw "id_strategy" (.str "counter")
  if idStrategy != .str "counter" && idStrategy != .str "random" then
    throw (.settingIdStrategy idStrategy.text)
  let unknown ← unknownTags tags
  if !unknown.isEmpty then throw (.settingImportTags unknown)
  let c : Config :=
    { moduleName := raw "module_name" (.str "bx-compat-ui")
      version := raw "version" (.str "1.0.0")
      assetRoot
      cssSrc := raw "css_src" .null
      scriptSrc := raw "script_src" .null
      remoteEndpoint := raw "remote_endpoint" (.str "/bx-compat-ui/remote")
      gridUpdateEndpoint := raw "grid_update_endpoint" (.str "/bx-compat-ui/gridupdate")
      defaultImportTags := .list (tags.map TomlValue.toValue)
      idStrategy := idStrategy.text
      idSeed := raw "id_seed" .null
      dated := ui.filterMap fun (name, v) =>
        match v with
        | .date _ | .time _ | .dateTime .. => some (name, v.typeName)
        | _ => none }
  pure c

/-- The room for nesting values (see `Toml.value`) when settings are loaded on their own. -/
def ownRoom : Nat := 986

/-- The room for nesting values when the render command loads settings, from deeper down. -/
def commandRoom : Nat := 978

/-- The settings of a TOML file's text, read with `room` for nesting values. The file is read
as text, so its line breaks, carriage returns alone among them, read as line feeds. -/
def load (room : Nat) (text : String) : Except Failure Config :=
  match Toml.read room (Text.lineFeeds text) with
  | .ok root => ofTable root
  | .error (.malformed msg) => .error (.toml msg)
  | .error .tooDeep => .error .tomlTooDeep

/-- The settings of a TOML file's text, loaded on their own, with the stylesheet and script
bases they give. -/
def loadWithBases (text : String) : Except Failure (Config × String × String) := do
  let c ← load ownRoom text
  let css ← c.cssBase
  let script ← c.scriptBase
  pure (c, css, script)

end Config
end UiTags
