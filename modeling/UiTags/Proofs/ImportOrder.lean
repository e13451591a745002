import UiTags.Proofs.LoadedSettings
import UiTags.Markup.Assets

/-!
# The order of imported assets

An asset import links the stylesheet and script of each tag it imports. An import that names
its own tags gets the asset tags among them in asset order, each once, whatever list it names.
An import that names none gets the configured default list as it stands, and loading checks
that list only tag by tag. So the imported tags are in asset order without repeats exactly when
the import names its own tags or the configured list already is so; every stylesheet and
script is then linked once, and two imports that import the same tags link them in the same
order.

Main results:

- `Assets.sublist_eq_of_mem_iff`: two lists in asset order with the same tags are one list.
- `Assets.stylesheets_nodup_iff`, `Assets.scripts_nodup_iff`: links repeat exactly when tags do.
- `Assets.imports_in_asset_order`: the above, for every import under loaded settings.
- `Assets.repeated_default_linked_twice`: a configured tag listed twice is linked twice.
-/

namespace UiTags
namespace Assets

/-! ## Lists in asset order -/

theorem assetTags_nodup : assetTags.Nodup := by decide

/-- A list in the order of a list without repeats is that list filtered by membership. -/
theorem filter_contains_of_sublist {l L : List String} (hL : L.Nodup) (h : l.Sublist L) :
    L.filter l.contains = l := by
  induction h with
  | slnil => rfl
  | cons a h ih =>
    have ha := (List.nodup_cons.1 hL).1
    rw [List.filter_cons_of_neg (by simpa using fun hm => ha (h.subset hm)),
      ih (List.nodup_cons.1 hL).2]
  | cons_cons a h ih =>
    have ha := (List.nodup_cons.1 hL).1
    rw [List.filter_cons_of_pos (by simp)]
    congr 1
    refine (List.filter_congr fun x hx => ?_).trans (ih (List.nodup_cons.1 hL).2)
    have hxa : x ≠ a := fun e => ha (e ▸ hx)
    simp [hxa]

/-- Two lists of tags in asset order with the same tags are the same list. -/
theorem sublist_eq_of_mem_iff {l l' : List String} (h : l.Sublist assetTags) (h' : l'.Sublist assetTags)
    (hmem : ∀ t, t ∈ l ↔ t ∈ l') : l = l' := by
  rw [← filter_contains_of_sublist assetTags_nodup h,
    ← filter_contains_of_sublist assetTags_nodup h']
  exact List.filter_congr fun t _ => by simp [hmem t]

/-! ## The tags of an import -/

variable {c : Config} {f : Frame}

/-- An import that names tags takes the asset tags among them, in asset order. -/
theorem tags_named (h : f.holds "tags" = true) :
    ∃ v : Value, Assets.tags c f = .ok (requested (named v.text)) := by
  simp only [Frame.holds, Attrs.holds] at h
  simp only [Assets.tags, Frame.get?]
  cases hv : f.attrs.get? "tags" with
  | none => simp [hv] at h
  | some v =>
    simp only [hv, Option.map_some, Option.getD_some] at h
    exact ⟨v, by simp [Option.filter, h]⟩

/-- An import that names no tags takes the configured ones. -/
theorem tags_default (h : f.holds "tags" = false) : Assets.tags c f = c.importTags := by
  simp only [Frame.holds, Attrs.holds] at h
  simp only [Assets.tags, Frame.get?]
  cases hv : f.attrs.get? "tags" with
  | none => rfl
  | some v =>
    simp only [hv, Option.map_some, Option.getD_some] at h
    simp [Option.filter, h]

/-- The tags of an import's plan are the tags it imports. -/
theorem plan_tags {p : Plan} (h : plan c f = .ok p) : Assets.tags c f = .ok p.tags := by
  simp only [plan, except_bind_eq_ok] at h
  obtain ⟨_, -, _, -, tags, htags, h⟩ := h
  cases h
  exact htags

/-- Default import tags given as texts are listed as they stand. -/
theorem importTags_of_texts {tags : List String} (h : c.defaultImportTags = .list (tags.map .str)) :
    c.importTags = .ok tags := by
  simp only [Config.importTags, h, Config.itemsOf, bind, Except.bind]
  -- every item is text, so none is reported
  rw [List.findIdx?_eq_none_iff.2 (by simp)]
  simp [pure, Except.pure, Function.comp_def, Value.text]

/-! ## Links -/

/-- The name of a tag's stylesheet or script under a base: the base, `/boxlang-`, the tag and
the extension. -/
def fileName (base ext t : String) : String := base ++ "/boxlang-" ++ t ++ ext

/-- A file name gives back the tag it names. -/
theorem fileName_injective (base ext : String) : Function.Injective (fileName base ext) := by
  intro t u h
  have hl := congrArg String.toList h
  simp only [fileName, String.toList_append, List.append_assoc, List.append_cancel_left_eq,
    List.append_cancel_right_eq] at hl
  exact String.toList_injective hl

theorem stylesheets_eq (p : Plan) :
    stylesheets p = (["ajax-core"] ++ p.tags ++ []).map (fileName p.cssBase ".css") := by
  have hcore : p.cssBase ++ "/boxlang-ajax-core.css" = fileName p.cssBase ".css" "ajax-core" := by
    simp only [fileName, String.append_assoc]
    rfl
  simp only [stylesheets, List.append_nil, List.cons_append, List.nil_append, List.map_cons, hcore]
  rfl

theorem scripts_eq (p : Plan) :
    scripts p = (["ajax-core"] ++ p.tags ++ (if p.defaults then ["ajaxproxy"] else [])).map
      (fileName p.scriptBase ".js") := by
  have hcore : p.scriptBase ++ "/boxlang-ajax-core.js" = fileName p.scriptBase ".js" "ajax-core" := by
    simp only [fileName, String.append_assoc]
    rfl
  have hproxy : p.scriptBase ++ "/boxlang-ajaxproxy.js" =
      fileName p.scriptBase ".js" "ajaxproxy" := by
    simp only [fileName, String.append_assoc]
    rfl
  simp only [scripts, List.cons_append, List.nil_append, List.map_cons, List.map_append, hcore]
  split <;> simp only [hproxy, List.map_cons, List.map_nil] <;> rfl

/-- Names of the tags framed by names of files that are no tags repeat exactly when the tags
do. -/
theorem framed_nodup_iff {name : String → String} (hname : Function.Injective name)
    {a b ts : List String} (hab : (a ++ b).Nodup) (hout : ∀ e ∈ a ++ b, e ∉ assetTags)
    (hts : ∀ t ∈ ts, t ∈ assetTags) : ((a ++ ts ++ b).map name).Nodup ↔ ts.Nodup := by
  have hperm : (a ++ ts ++ b).Perm (ts ++ (a ++ b)) := by
    rw [List.append_assoc]
    refine List.perm_append_comm.trans ?_
    rw [List.append_assoc]
    exact List.Perm.append_left ts List.perm_append_comm
  rw [List.nodup_map_iff hname, hperm.nodup_iff, List.nodup_append]
  refine ⟨fun h => h.1, fun h => ⟨h, hab, fun t ht e he hte => ?_⟩⟩
  exact hout e he (hte ▸ hts t ht)

/-- Each stylesheet is linked once exactly when each imported tag is imported once. -/
theorem stylesheets_nodup_iff {p : Plan} (hp : ∀ t ∈ p.tags, t ∈ assetTags) :
    (stylesheets p).Nodup ↔ p.tags.Nodup := by
  rw [stylesheets_eq]
  exact framed_nodup_iff (fileName_injective _ _) (by decide) (by decide) hp

/-- Each script is loaded once exactly when each imported tag is imported once. -/
theorem scripts_nodup_iff {p : Plan} (hp : ∀ t ∈ p.tags, t ∈ assetTags) :
    (scripts p).Nodup ↔ p.tags.Nodup := by
  rw [scripts_eq]
  split
  · exact framed_nodup_iff (fileName_injective _ _) (by decide) (by decide) hp
  · exact framed_nodup_iff (fileName_injective _ _) (by decide) (by decide) hp

/-! ## Imports under loaded settings -/

/-- **The order of imported assets.** Under settings that loading accepts, every tag that an
asset import brings in has assets; the imported tags are in asset order without repeats (a
sublist of the asset tags) exactly when the import names its own tags or the configured
default list is in asset order without repeats; each stylesheet and script is linked once
exactly when each tag is imported once; and two imports in asset order that bring in the same
tags list them in the same order. -/
theorem imports_in_asset_order (hc : c.Loaded) {p : Plan} (hp : plan c f = .ok p) :
    (∀ t ∈ p.tags, t ∈ assetTags) ∧
    (p.tags.Sublist assetTags ↔
      f.holds "tags" = true ∨ ∃ tags, c.importTags = .ok tags ∧ tags.Sublist assetTags) ∧
    ((stylesheets p).Nodup ↔ p.tags.Nodup) ∧ ((scripts p).Nodup ↔ p.tags.Nodup) ∧
    ∀ (g : Frame) (q : Plan), plan c g = .ok q → p.tags.Sublist assetTags → q.tags.Sublist assetTags →
      (∀ t, t ∈ p.tags ↔ t ∈ q.tags) → p.tags = q.tags := by
  obtain ⟨configured, hconf, hknown⟩ := hc.importTags_known
  have himport := importTags_of_texts hconf
  have htags := plan_tags hp
  -- the two ways an import gets its tags
  have hcases : (f.holds "tags" = true ∧ p.tags.Sublist assetTags) ∨
      (f.holds "tags" = false ∧ p.tags = configured) := by
    cases hholds : f.holds "tags" with
    | true =>
      obtain ⟨v, hv⟩ := tags_named (c := c) hholds
      rw [hv, Except.ok.injEq] at htags
      exact .inl ⟨rfl, htags ▸ requested_sublist _⟩
    | false =>
      rw [tags_default hholds, himport, Except.ok.injEq] at htags
      exact .inr ⟨rfl, htags.symm⟩
  have hasset : ∀ t ∈ p.tags, t ∈ assetTags := by
    rcases hcases with ⟨-, hsub⟩ | ⟨-, rfl⟩
    · exact fun t ht => hsub.subset ht
    · exact hknown
  refine ⟨hasset, ⟨fun hsub => ?_, fun h => ?_⟩, stylesheets_nodup_iff hasset,
    scripts_nodup_iff hasset, fun _ _ _ hs hs' hmem => sublist_eq_of_mem_iff hs hs' hmem⟩
  · rcases hcases with ⟨hholds, -⟩ | ⟨-, rfl⟩
    · exact .inl hholds
    · exact .inr ⟨_, himport, hsub⟩
  · rcases hcases with ⟨-, hsub⟩ | ⟨hholds, rfl⟩
    · exact hsub
    · rcases h with hh | ⟨tags, htags', hsub⟩
      · rw [hholds] at hh
        cases hh
      · rw [himport, Except.ok.injEq] at htags'
        exact htags' ▸ hsub

/-- Under the default settings, an import that names no tags links the assets of the five
tags in asset order, each once. -/
theorem default_imports_in_asset_order :
    Config.Loaded {} ∧
      ∃ p, plan {} ⟨"ajaximport", .plain, .str "", [], [], [], [], []⟩ = .ok p ∧
        p.tags = assetTags ∧ (stylesheets p).Nodup ∧ (scripts p).Nodup := by
  have hloaded : Config.Loaded {} := ⟨by decide, .inl rfl, assetTags, rfl, fun _ h => h⟩
  obtain ⟨-, -, hcss, hjs, -⟩ := imports_in_asset_order hloaded
    (f := ⟨"ajaximport", .plain, .str "", [], [], [], [], []⟩) rfl
  exact ⟨hloaded, _, rfl, rfl, hcss.2 assetTags_nodup, hjs.2 assetTags_nodup⟩

/-- Default import tags that list `grid` twice pass loading, and an import that names no tags
then links the grid stylesheet twice. -/
theorem repeated_default_linked_twice :
    ∃ c, Config.load Config.ownRoom "[ui]\ndefault_import_tags = [\"grid\", \"grid\"]\n" = .ok c ∧
      ∃ p, plan c ⟨"ajaximport", .plain, .str "", [], [], [], [], []⟩ = .ok p ∧
        p.tags = ["grid", "grid"] ∧ ¬(stylesheets p).Nodup := by
  -- the reader of documents does not reduce in the elaborator, so the load runs in the kernel
  have h : (match Config.load Config.ownRoom "[ui]\ndefault_import_tags = [\"grid\", \"grid\"]\n" with
      | .ok c =>
        match plan c ⟨"ajaximport", .plain, .str "", [], [], [], [], []⟩ with
        | .ok p => p.tags == ["grid", "grid"] && !decide (stylesheets p).Nodup
        | .error _ => false
      | .error _ => false) = true := by decide +kernel
  split at h
  · rename_i c hc
    split at h
    · rename_i p hp
      simp only [Bool.and_eq_true, beq_iff_eq, Bool.not_eq_true', decide_eq_false_iff_not] at h
      exact ⟨c, hc, p, hp, h⟩
    · cases h
  · cases h

end Assets
end UiTags
