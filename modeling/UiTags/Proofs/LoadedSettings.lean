import UiTags.Config.Load
import UiTags.Proofs.RenderFailures

/-!
# Settings loaded from a document

Loading settings from a TOML document checks four things: the asset root loses its trailing
slashes, the default import tags are listed from the value given, the id strategy is one of
two, and every listed tag has assets. No other setting is looked at: each is kept as the
settings table gives it, of whatever kind, or takes its default.

So a load that succeeds gives an asset root with no trailing slash, the `counter` or `random`
strategy, and default import tags that are texts naming tags with assets, and keeps the other
settings as given. A load fails on a document that is not TOML (or nests too deeply for the
reader), on an unknown strategy or tag, and where a text or sequence operation meets a value of
another kind: settings that are no table, an asset root that is not text, default import tags
that are no array, table or text, or an item of such an array that is not text. Only these
last failures are of another family than a bad value, and each of them does fail the load.

Main results:

- `Config.ofTable_ok`, `Config.ofTable_error`: what a successful and a failed reading of a
  settings table say about the table.
- `Config.load_outcomes`: what a load gives, for every text.
- `Config.untyped_settings_kept`: a module name given as a number is kept as a number, and
  settings that are no table fail as a missing attribute.
-/

namespace UiTags
namespace Config

/-! ## Kinds of settings -/

/-- A value a text operation applies to. -/
def IsText (v : TomlValue) : Prop := ∃ s, v = .str s

/-- A value whose items can be listed: an array, a table or a text. -/
def IsSequence (v : TomlValue) : Prop :=
  (∃ items, v = .array items) ∨ (∃ fields, v = .table fields) ∨ IsText v

/-- The settings table of a document: its `ui` table, or an empty one when it has no `ui`
entry. -/
inductive SettingsOf (root : TomlTable) : TomlTable → Prop
  | absent : root.lookup "ui" = none → SettingsOf root []
  | table {ui : TomlTable} : root.lookup "ui" = some (.table ui) → SettingsOf root ui

/-- A settings table where a text or sequence operation meets a value of another kind. -/
inductive MistypedSettings (ui : TomlTable) : Prop
  /-- An asset root that is not text loses no trailing slash. -/
  | assetRoot {v : TomlValue} : ui.lookup "asset_root" = some v → ¬IsText v → MistypedSettings ui
  /-- Default import tags that cannot be listed. -/
  | importTags {v : TomlValue} : ui.lookup "default_import_tags" = some v → ¬IsSequence v →
      MistypedSettings ui
  /-- An array of default import tags with an item that is not text, which can be no tag. -/
  | importTag {items : List TomlValue} {v : TomlValue} :
      ui.lookup "default_import_tags" = some (.array items) → v ∈ items → ¬IsText v →
      MistypedSettings ui

/-- A document whose settings are no table, or a table where a text or sequence operation meets
a value of another kind. -/
inductive Mistyped (root : TomlTable) : Prop
  | settings {v : TomlValue} : root.lookup "ui" = some v → (∀ fields, v ≠ .table fields) →
      Mistyped root
  | setting {ui : TomlTable} : SettingsOf root ui → MistypedSettings ui → Mistyped root

/-- What a load promises of the settings it checks. -/
structure Loaded (c : Config) : Prop where
  assetRoot_trimmed : c.assetRoot.toList.getLast? ≠ some '/'
  idStrategy_known : c.idStrategy = "counter" ∨ c.idStrategy = "random"
  importTags_known :
    ∃ tags : List String, c.defaultImportTags = .list (tags.map .str) ∧ ∀ t ∈ tags, t ∈ assetTags

/-- A setting as the settings table gives it, or its default. -/
def given (ui : TomlTable) (name : String) (default : Value) : Value :=
  ((ui.lookup name).map TomlValue.toValue).getD default

/-- The settings a load passes on unchecked, each as the settings table gives it. -/
structure Kept (ui : TomlTable) (c : Config) : Prop where
  moduleName : c.moduleName = given ui "module_name" (.str "bx-compat-ui")
  version : c.version = given ui "version" (.str "1.0.0")
  cssSrc : c.cssSrc = given ui "css_src" .null
  scriptSrc : c.scriptSrc = given ui "script_src" .null
  remoteEndpoint : c.remoteEndpoint = given ui "remote_endpoint" (.str "/bx-compat-ui/remote")
  gridUpdateEndpoint :
    c.gridUpdateEndpoint = given ui "grid_update_endpoint" (.str "/bx-compat-ui/gridupdate")
  idSeed : c.idSeed = given ui "id_seed" .null

/-! ## Trimmed texts and listed tags -/

/-- A text without its trailing `c` does not end in `c`. -/
theorem trimEndChar_getLast? (c : Char) (s : String) :
    (Text.trimEndChar c s).toList.getLast? ≠ some c := by
  intro h
  have hnot := List.head?_dropWhile_not (· == c) s.toList.reverse
  simp only [Text.trimEndChar, Text.trimEndBy, String.toList_ofList, List.getLast?_reverse] at h
  rw [h] at hnot
  simp at hnot

/-- A setting that is not the value given is its default. -/
theorem setting_of_ne {ui : TomlTable} {name : String} {default v : TomlValue}
    (h : setting ui name default = v) (hne : v ≠ default) : ui.lookup name = some v := by
  unfold setting at h
  cases hl : ui.lookup name with
  | none => rw [hl] at h; exact absurd h.symm hne
  | some w => rw [hl] at h; rw [← h]; rfl

/-- Items that are all texts naming tags with assets are the texts of such tags. -/
theorem texts_of_known : ∀ {tags : List TomlValue},
    (∀ v ∈ tags, ∃ s, v = .str s ∧ s ∈ assetTags) →
      ∃ names : List String, tags = names.map .str ∧ ∀ t ∈ names, t ∈ assetTags
  | [], _ => ⟨[], rfl, by simp⟩
  | v :: tags, h => by
    obtain ⟨s, rfl, hs⟩ := h v List.mem_cons_self
    obtain ⟨names, rfl, hnames⟩ := texts_of_known fun w hw => h w (List.mem_cons_of_mem _ hw)
    exact ⟨s :: names, rfl, by simpa [hs] using hnames⟩

/-- The listed items of a sequence; anything else is refused. -/
theorem listed_ok {v : TomlValue} {tags : List TomlValue} (h : listed v = .ok tags) :
    (v = .array tags) ∨ ∀ w ∈ tags, IsText w := by
  cases v with
  | array items => cases h; exact .inl rfl
  | table fields =>
    cases h
    exact .inr fun w hw => by
      obtain ⟨p, -, rfl⟩ := List.mem_map.1 hw
      exact ⟨p.1, rfl⟩
  | str s =>
    cases h
    exact .inr fun w hw => by
      obtain ⟨ch, -, rfl⟩ := List.mem_map.1 hw
      exact ⟨_, rfl⟩
  | _ => cases h

theorem listed_sequence {v : TomlValue} {tags : List TomlValue} (h : listed v = .ok tags) :
    IsSequence v := by
  cases v with
  | array items => exact .inl ⟨items, rfl⟩
  | table fields => exact .inr (.inl ⟨fields, rfl⟩)
  | str s => exact .inr (.inr ⟨s, rfl⟩)
  | _ => cases h

theorem listed_error {v : TomlValue} {f : Failure} (h : listed v = .error f) :
    ¬IsSequence v ∧ f = .settingNotSequence v.typeName := by
  cases v with
  | array | table | str => cases h
  | _ =>
    cases h
    refine ⟨?_, rfl⟩
    rintro (⟨_, h⟩ | ⟨_, h⟩ | ⟨_, h⟩) <;> cases h

/-- No unknown tag among listed ones: each is the text of a tag with assets. -/
theorem unknownTags_nil {tags : List TomlValue} (h : unknownTags tags = .ok []) :
    ∀ v ∈ tags, ∃ s, v = .str s ∧ s ∈ assetTags := by
  unfold unknownTags at h
  dsimp only at h
  split at h
  · cases h
  · simp only [Except.ok.injEq, List.map_eq_nil_iff] at h
    intro v hv
    have hkeep := List.filter_eq_nil_iff.1 h v hv
    cases v with
    | str s => exact ⟨s, rfl, by simpa using hkeep⟩
    | _ => simp at hkeep

/-- A failure naming unknown tags names one that is not text. -/
theorem unknownTags_error {tags : List TomlValue} {f : Failure} (h : unknownTags tags = .error f) :
    (∃ v ∈ tags, ¬IsText v) ∧ ∃ i found, f = .settingTagNotText i found := by
  unfold unknownTags at h
  dsimp only at h
  generalize hu : List.filter _ tags = unknown at h
  have hsub : ∀ v ∈ unknown, v ∈ tags := fun v hv => List.mem_of_mem_filter (hu ▸ hv)
  split at h
  · rename_i i hi
    cases h
    obtain ⟨hlt, hnot, -⟩ := List.findIdx?_eq_some_iff_getElem.1 hi
    refine ⟨⟨_, hsub _ (List.getElem_mem hlt), ?_⟩, _, _, rfl⟩
    rintro ⟨s, hs⟩
    rw [hs] at hnot
    cases hnot
  · cases h

/-! ## Reading a settings table -/

/-- The settings of a document that holds only them. -/
theorem lookup_settings (v : TomlValue) : [("ui", v)].lookup "ui" = some v := rfl

/-- The reading of settings depends on their table alone. -/
theorem ofTable_settings {root ui : TomlTable} (h : SettingsOf root ui) :
    ofTable root = ofTable [("ui", .table ui)] := by
  cases h with
  | absent hl => simp only [ofTable, hl, lookup_settings]
  | table hl => simp only [ofTable, hl, lookup_settings]

/-- Settings that are no table fail as a missing attribute. -/
theorem ofTable_not_table {root : TomlTable} {v : TomlValue} (hl : root.lookup "ui" = some v)
    (hv : ∀ fields, v ≠ .table fields) :
    ofTable root = .error (.settingsNotTable v.typeName) := by
  unfold ofTable
  rw [hl]
  cases v with
  | table fields => exact absurd rfl (hv fields)
  | _ => rfl

/-- Every document has a settings table, or settings that are no table. -/
theorem settingsOf_or (root : TomlTable) :
    (∃ ui, SettingsOf root ui) ∨ ∃ v, root.lookup "ui" = some v ∧ ∀ fields, v ≠ .table fields := by
  cases hl : root.lookup "ui" with
  | none => exact .inl ⟨[], .absent hl⟩
  | some v =>
    cases v with
    | table fields => exact .inl ⟨fields, .table hl⟩
    | _ => exact .inr ⟨_, rfl, fun _ h => by cases h⟩

/-- **A successful reading of a settings table.** The asset root given is text, the
default import tags are listed from the value given, all texts of tags with assets, the id
strategy is `counter` or `random`, and every other setting is kept as given. -/
theorem ofTable_ok {ui : TomlTable} {c : Config} (h : ofTable [("ui", .table ui)] = .ok c) :
    (∃ s, setting ui "asset_root" (.str "/bx-compat-ui") = .str s ∧
      c.assetRoot = Text.trimEndChar '/' s) ∧
    (∃ tags, listed (setting ui "default_import_tags" (.array (assetTags.map .str))) = .ok tags ∧
      (∀ v ∈ tags, ∃ s, v = .str s ∧ s ∈ assetTags) ∧
      c.defaultImportTags = .list (tags.map TomlValue.toValue)) ∧
    (c.idStrategy = "counter" ∨ c.idStrategy = "random") ∧ Kept ui c := by
  unfold ofTable at h
  simp only [lookup_settings, pure_bind] at h
  split at h
  · rename_i s hs
    simp only [except_bind_eq_ok, pure, Except.pure] at h
    obtain ⟨tags, htags, h⟩ := h
    split at h
    · simp [throw, throwThe, MonadExceptOf.throw, bind, Except.bind] at h
    · rename_i hstrategy
      simp only [except_bind_eq_ok] at h
      obtain ⟨unknown, hunknown, h⟩ := h
      split at h
      · simp [throw, throwThe, MonadExceptOf.throw, bind, Except.bind] at h
      · rename_i hnone
        cases h
        have hnil : unknown = [] := by simpa using hnone
        subst hnil
        -- the strategy passed the check, so it is one of the two texts
        have hknown : given ui "id_strategy" (.str "counter") = .str "counter" ∨
            given ui "id_strategy" (.str "counter") = .str "random" :=
          or_iff_not_imp_left.2 (by simpa [given] using hstrategy)
        refine ⟨⟨s, hs, rfl⟩, ⟨tags, htags, unknownTags_nil hunknown, rfl⟩, ?_,
          ⟨rfl, rfl, rfl, rfl, rfl, rfl, rfl⟩⟩
        rcases hknown with hk | hk
        · exact .inl (by simp only [given] at hk; simp [hk, Value.text])
        · exact .inr (by simp only [given] at hk; simp [hk, Value.text])
  · simp [throw, throwThe, MonadExceptOf.throw, bind, Except.bind] at h

/-- **A failed reading of a settings table** fails on a bad value, or where a text or sequence
operation meets a value of another kind. -/
theorem ofTable_error {ui : TomlTable} {f : Failure}
    (h : ofTable [("ui", .table ui)] = .error f) :
    f.kind = .valueError ∨
      ((f.kind = .attributeError ∨ f.kind = .typeError) ∧ MistypedSettings ui) := by
  unfold ofTable at h
  simp only [lookup_settings, pure_bind] at h
  split at h
  · rcases except_bind_eq_error.1 h with hlisted | ⟨tags, htags, h⟩
    · -- default import tags that cannot be listed
      obtain ⟨hseq, rfl⟩ := listed_error hlisted
      have hdefault : TomlValue.array (assetTags.map .str) ≠
          setting ui "default_import_tags" (.array (assetTags.map .str)) := fun he =>
        hseq (he ▸ .inl ⟨_, rfl⟩)
      exact .inr ⟨.inr rfl, .importTags (setting_of_ne rfl (Ne.symm hdefault)) hseq⟩
    split at h
    · simp [throw, throwThe, MonadExceptOf.throw, bind, Except.bind] at h
      subst h
      exact .inl rfl
    · rcases except_bind_eq_error.1 h with hun | ⟨unknown, -, h⟩
      · -- an unknown tag that is not text: it came from an array given in the table
        obtain ⟨⟨v, hv, hnot⟩, i, found, rfl⟩ := unknownTags_error hun
        refine .inr ⟨.inr rfl, ?_⟩
        rcases listed_ok htags with harr | htext
        · have hdefault : TomlValue.array tags ≠ .array (assetTags.map .str) := by
            intro he
            injection he with he
            subst he
            obtain ⟨t, -, rfl⟩ := List.mem_map.1 hv
            exact hnot ⟨t, rfl⟩
          exact .importTag (setting_of_ne harr hdefault) hv hnot
        · exact absurd (htext v hv) hnot
      · split at h
        · simp [throw, throwThe, MonadExceptOf.throw, bind, Except.bind] at h
          subst h
          exact .inl rfl
        · cases h
  · -- an asset root that is not text
    rename_i hv
    simp [throw, throwThe, MonadExceptOf.throw, bind, Except.bind] at h
    subst h
    have hroot : ui.lookup "asset_root" = some (setting ui "asset_root" (.str "/bx-compat-ui")) :=
      setting_of_ne rfl fun he => hv _ he
    exact .inr ⟨.inl rfl, .assetRoot hroot fun ⟨s, hs⟩ => hv s hs⟩

/-- Settings of a wrong kind fail the reading: a successful one found each of them of its kind. -/
theorem ofTable_mistyped {root : TomlTable} (h : Mistyped root) :
    ∃ f, ofTable root = .error f := by
  cases h with
  | settings hv hnt => exact ⟨_, ofTable_not_table hv hnt⟩
  | @setting ui hui hmis =>
    rw [ofTable_settings hui]
    cases hr : ofTable [("ui", .table ui)] with
    | error f => exact ⟨f, rfl⟩
    | ok c =>
      exfalso
      obtain ⟨⟨s, hs, -⟩, ⟨tags, htags, hknown, -⟩, -⟩ := ofTable_ok hr
      cases hmis with
      | assetRoot hl hnot =>
        simp only [setting, hl, Option.getD_some] at hs
        exact hnot ⟨s, hs⟩
      | importTags hl hnot =>
        simp only [setting, hl, Option.getD_some] at htags
        exact hnot (listed_sequence htags)
      | importTag hl hv hnot =>
        simp only [setting, hl, Option.getD_some, listed, Except.ok.injEq] at htags
        subst htags
        obtain ⟨s, rfl, -⟩ := hknown _ hv
        exact hnot ⟨s, rfl⟩

/-! ## Loading a document -/

/-- A load that succeeds read a document whose settings table passed the checks, and kept the
rest of it. -/
theorem load_ok {room : Nat} {text : String} {c : Config} (h : load room text = .ok c) :
    c.Loaded ∧ ∃ root ui, Toml.read room (Text.lineFeeds text) = .ok root ∧ SettingsOf root ui ∧
      Kept ui c := by
  unfold load at h
  split at h
  · rename_i root hroot
    rcases settingsOf_or root with ⟨ui, hui⟩ | ⟨v, hv, hnt⟩
    · rw [ofTable_settings hui] at h
      obtain ⟨⟨s, -, hs⟩, ⟨tags, -, hknown, htags⟩, hstrategy, hkept⟩ := ofTable_ok h
      obtain ⟨names, rfl, hnames⟩ := texts_of_known hknown
      refine ⟨⟨hs ▸ trimEndChar_getLast? '/' s, hstrategy, names, ?_, hnames⟩,
        root, ui, hroot, hui, hkept⟩
      rw [htags, List.map_map]
      rfl
    · rw [ofTable_not_table hv hnt] at h
      cases h
  · cases h
  · cases h

/-- A load that fails read no document, or met a bad value, or met a value of the wrong kind
with a text or sequence operation. -/
theorem load_error {room : Nat} {text : String} {f : Failure} (h : load room text = .error f) :
    f.kind = .tomlDecodeError ∨ f.kind = .recursionError ∨ f.kind = .valueError ∨
      ((f.kind = .attributeError ∨ f.kind = .typeError) ∧
        ∃ root, Toml.read room (Text.lineFeeds text) = .ok root ∧ Mistyped root) := by
  unfold load at h
  split at h
  · rename_i root hroot
    rcases settingsOf_or root with ⟨ui, hui⟩ | ⟨v, hv, hnt⟩
    · rw [ofTable_settings hui] at h
      rcases ofTable_error h with hvalue | ⟨hkind, hmis⟩
      · exact .inr (.inr (.inl hvalue))
      · exact .inr (.inr (.inr ⟨hkind, root, hroot, .setting hui hmis⟩))
    · rw [ofTable_not_table hv hnt] at h
      cases h
      exact .inr (.inr (.inr ⟨.inl rfl, root, hroot, .settings hv hnt⟩))
  · cases h
    exact .inl rfl
  · cases h
    exact .inr (.inl rfl)

/-- **What a load gives**, for every text. A load that succeeds gives an asset root with no
trailing slash, the `counter` or `random` strategy and default import tags that are texts of
tags with assets, and keeps every other setting as the settings table gives it, of whatever
kind. A load that fails reads no TOML document (or one nested too deeply for the reader), or
meets a bad value, or meets a value of the wrong kind with a text or sequence operation; and a
document with a setting of the wrong kind there never loads. -/
theorem load_outcomes (room : Nat) (text : String) :
    (∀ c, load room text = .ok c →
      c.Loaded ∧ ∃ root ui, Toml.read room (Text.lineFeeds text) = .ok root ∧
        SettingsOf root ui ∧ Kept ui c) ∧
    (∀ f, load room text = .error f →
      f.kind = .tomlDecodeError ∨ f.kind = .recursionError ∨ f.kind = .valueError ∨
        ((f.kind = .attributeError ∨ f.kind = .typeError) ∧
          ∃ root, Toml.read room (Text.lineFeeds text) = .ok root ∧ Mistyped root)) ∧
    ∀ root, Toml.read room (Text.lineFeeds text) = .ok root → Mistyped root →
      ∃ f, load room text = .error f := by
  refine ⟨fun _ => load_ok, fun _ => load_error, fun root hroot hmis => ?_⟩
  obtain ⟨f, hf⟩ := ofTable_mistyped hmis
  exact ⟨f, by simp only [load, hroot, hf]⟩

/-- A module name given as a number is kept as a number, and settings that are no table fail
as a missing attribute: neither is refused as a bad value. -/
theorem untyped_settings_kept :
    (∃ c, load ownRoom "[ui]\nmodule_name = 5\n" = .ok c ∧ c.moduleName = .int 5) ∧
    ∃ f, load ownRoom "ui = 5\n" = .error f ∧ f.kind = .attributeError := by
  -- the reader of documents does not reduce in the elaborator, so both loads run in the kernel
  have hkept : (match load ownRoom "[ui]\nmodule_name = 5\n" with
      | .ok c => c.moduleName == .int 5
      | .error _ => false) = true := by decide +kernel
  have hfails : (match load ownRoom "ui = 5\n" with
      | .ok _ => false
      | .error f => f.kind == .attributeError) = true := by decide +kernel
  refine ⟨?_, ?_⟩
  · split at hkept
    · exact ⟨_, ‹_›, by simpa using hkept⟩
    · cases hkept
  · split at hfails
    · cases hfails
    · exact ⟨_, ‹_›, by simpa using hfails⟩

end Config
end UiTags
