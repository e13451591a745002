import UiTags.Proofs.ViewParts
import UiTags.Proofs.RenderedScripts
import UiTags.Proofs.BindGrammar

/-!
# The markup of a rendered document

A frame that closes writes its markup, as the template of its tag gives it: a grid, layout, pod
or div view, a grid update's form, an asset import's tags, or nothing. Here each frame's markup
is given as a run of parts (`Output.markupParts`), and shown to read, under the HTML tokenizer,
as exactly those parts: every start tag with its name and its attributes in order, names plain
and distinct and every value decoded to its text up to the input stream's normalisation of
carriage returns and null characters, every value the template places as text read as its
characters, every end tag as itself.

Two conditions make the parts clean. The names a view writes are fixed, but for the caller's
`data-*` names: they must be distinct and plain once lowered, and a render gives that exactly
when each tag supplies such names, since validation carries the supplied names past the declared
ones and no declared name lowers to a `data-` name. And the captured content the view places
must be closed markup, read from the data state back to it.

Main results:

- `Document.markupReady_run`: every frame a session opens holds what its markup needs of its
  attributes, when each start supplies names distinct up to case and plain `data-` names.
- `Output.markupOf_eq`: a frame's markup is its parts written one after another.
- `Output.clean_markupParts`: for such a frame whose captured content is closed, the parts are
  clean, so they read as meant.
- `rendered_markup_reads_as_written`: the markup of every frame a render opens reads as its
  parts.
-/

namespace UiTags

open Html Html.Part

/-! ## The declared names -/

/-- No two declarations of a tag share a name, and no declared name lowers to a `data-` name;
only the names that start with `data` in some letter case are lowered to check. -/
theorem TagDef.declared_names : (TagDef.all.all fun td =>
    decide (td.attrs.map AttrSpec.name).Nodup && td.attrs.all fun s =>
      !decide (Text.StartsWithAnyCase s.name.toList "data") ||
        !(Text.lower s.name).startsWith "data-") = true := by
  decide +kernel

/-- The div is the one tag of the table named `div`. -/
theorem TagDef.eq_div {td : TagDef} (h : td ∈ all) (hn : td.name = "div") : td = div := by
  simp only [all, List.mem_cons, List.not_mem_nil, or_false] at h
  rcases h with rfl | rfl | rfl | rfl | rfl | rfl | rfl | rfl | rfl | rfl
  all_goals first | rfl | exact absurd hn (by decide)

/-- A div declares its element name as a text among the names a div may take, `div` by
default. -/
theorem TagDef.div_tagName : ∃ spec ∈ div.attrs, spec.name = "tagName" ∧ spec.kind = .text ∧
    spec.allowed = some divTagNames ∧ spec.default = .str "div" :=
  ⟨oneOf "tagName" divTagNames false (.str "div"), by simp [div], rfl, rfl, rfl, rfl⟩

section Declared

variable {td : TagDef} (htd : td ∈ TagDef.all)
include htd

theorem TagDef.names_nodup : (td.attrs.map AttrSpec.name).Nodup := by
  have h := List.all_eq_true.1 TagDef.declared_names td htd
  simp only [Bool.and_eq_true, decide_eq_true_eq] at h
  exact h.1

theorem TagDef.not_data {s : AttrSpec} (hs : s ∈ td.attrs) :
    (Text.lower s.name).startsWith "data-" = false := by
  have h := List.all_eq_true.1 TagDef.declared_names td htd
  simp only [Bool.and_eq_true, List.all_eq_true, Bool.or_eq_true, Bool.not_eq_true',
    decide_eq_false_iff_not] at h
  rcases h.2 s hs with hvariant | hlower
  · -- a name that does not start with `data` in any case lowers to no `data` name
    have hdata : ((Text.lower s.name).startsWith "data" = true) = False := by
      rw [← String.ofList_toList (s := s.name), Text.lower_startsWith_iff (by decide)]
      simp [hvariant]
    rw [Bool.eq_false_iff]
    intro hstart
    rw [String.startsWith_string_iff] at hstart
    have hprefix : "data".toList <+: (Text.lower s.name).toList :=
      (by decide : "data".toList <+: "data-".toList).trans hstart
    rw [← String.startsWith_string_iff, hdata] at hprefix
    exact hprefix
  · exact hlower

end Declared

/-! ## The validated set -/

namespace Html

theorem dataNamesPlain_iff (attrs : Attrs) :
    DataNamesPlain attrs ↔ ∀ n ∈ attrs.map Prod.fst,
      (Text.lower n).startsWith "data-" = true → PlainName (Text.lower n) := by
  simp [DataNamesPlain]

/-- Both conditions on the caller's `data-` names read the names only. -/
theorem dataNames_of_names {attrs attrs' : Attrs} (h : attrs'.map Prod.fst = attrs.map Prod.fst) :
    (DataDistinct attrs' ↔ DataDistinct attrs) ∧
      (DataNamesPlain attrs' ↔ DataNamesPlain attrs) := by
  rw [DataDistinct, DataDistinct, dataNamesPlain_iff, dataNamesPlain_iff, h]
  exact ⟨Iff.rfl, Iff.rfl⟩

end Html

namespace Attrs

variable {tag display : String} {specs : List AttrSpec} {raw attrs : Attrs}

/-- With no declared name lowering to a `data-` name, a validated set's `data-` names are the
supplied ones carried: distinct once lowered, and plain when the supplied ones are. -/
theorem validate_dataNames (hd : raw.CaseDistinct) (hs : (specs.map AttrSpec.name).Nodup)
    (hnot : ∀ s ∈ specs, (Text.lower s.name).startsWith "data-" = false)
    (h : validate tag display specs raw = .ok attrs) :
    DataDistinct attrs ∧ (DataNamesPlain raw → DataNamesPlain attrs) := by
  have hnames := validate_names hd hs h
  have hdeclared : ((specs.map AttrSpec.name).filter fun n =>
      (Text.lower n).startsWith "data-") = [] := by
    rw [List.filter_eq_nil_iff]
    intro n hn
    obtain ⟨s, hs', rfl⟩ := List.mem_map.1 hn
    simp [hnot s hs']
  refine ⟨?_, fun hplain => ?_⟩
  · -- the carried names are among the supplied ones, which are distinct once lowered
    rw [DataDistinct, hnames, List.filter_append, hdeclared, List.nil_append]
    refine List.Nodup.sublist ?_ hd
    rw [List.filter_map, List.map_map]
    exact ((List.filter_sublist).trans List.filter_sublist).map _
  · rw [dataNamesPlain_iff, hnames]
    intro n hn hdata
    rcases List.mem_append.1 hn with hn | hn
    · obtain ⟨s, hs', rfl⟩ := List.mem_map.1 hn
      rw [hnot s hs'] at hdata
      cases hdata
    · obtain ⟨p, hp, rfl⟩ := List.mem_map.1 hn
      exact hplain p (List.mem_filter.1 hp).1 hdata

end Attrs

/-- The checks after validation keep the names, when a grid's set names its selection mode:
only a grid's check sets a name. -/
theorem Document.checkStart_names {frames : List Frame} {tag : String} {attrs attrs' : Attrs}
    {hasBody : Bool} (h : checkStart frames tag attrs hasBody = .ok attrs')
    (hsel : tag = "grid" → "selectMode" ∈ attrs.map Prod.fst) :
    attrs'.map Prod.fst = attrs.map Prod.fst := by
  unfold checkStart at h
  split at h
  · rw [checkGrid_eq_ok h]
    split
    · rw [Attrs.names_put, if_pos (hsel rfl)]
    · rfl
  · split at h <;> cases h
    rfl
  · split at h <;> cases h
    rfl
  · rw [checkArea_eq_ok h]
  · split at h <;> cases h
    rfl
  · rw [(checkProxy_eq_ok h).1]
  · rw [checkImport_eq_ok h]
  · cases h
    rfl

/-! ## Frames opened in a session -/

/-- A start whose caller `data-` names, lowered, are plain; any other event. -/
def Event.DataNamesPlain : Event → Prop
  | .start _ raw _ => Html.DataNamesPlain raw
  | _ => True

instance : DecidablePred Event.DataNamesPlain := fun ev =>
  match ev with
  | .start _ raw _ => inferInstanceAs (Decidable (Html.DataNamesPlain raw))
  | .write _ => isTrue trivial
  | .close _ => isTrue trivial
  | .finish => isTrue trivial

/-- What a frame holds for its markup to read as written: its caller's `data-` names are
distinct and plain once lowered, and a div's element name is one a div may take. -/
structure MarkupReady (f : Frame) : Prop where
  dataDistinct : DataDistinct f.attrs
  dataPlain : DataNamesPlain f.attrs
  divName : f.tag = "div" → ((f.get? "tagName").getD (.str "div")).text ∈ TagDef.divTagNames

/-- A div's validated set holds an element name a div may take: the one supplied, checked
against them, or the default `div`. -/
theorem divName_of_validate {raw attrs : Attrs} (hd : raw.CaseDistinct)
    (h : Attrs.validate TagDef.div.name TagDef.div.display TagDef.div.attrs raw = .ok attrs) :
    ∃ v, attrs.find? "tagName" = some v ∧ v.text ∈ TagDef.divTagNames ∧ v ≠ .null := by
  obtain ⟨s, hs, hname, hkind, hallowed, hdefault⟩ := TagDef.div_tagName
  have hnodup := TagDef.names_nodup (by simp [TagDef.all] : TagDef.div ∈ TagDef.all)
  obtain ⟨-, hdeclared, -⟩ := Attrs.validate_exact hd hnodup h
  obtain ⟨v, hv, -, hval⟩ := hdeclared s hs
  rw [hname] at hv
  refine ⟨v, hv, ?_⟩
  -- the value accepted is the default `div`, or a text among the allowed names
  rcases hval with rfl | hadmits
  · rw [hdefault]
    exact ⟨by decide, by simp⟩
  · simp only [AttrSpec.Admits, hkind] at hadmits
    obtain ⟨t, rfl, hin⟩ := hadmits
    exact ⟨hin _ hallowed, by simp⟩

namespace Document

/-- A frame opened for a defined tag, with attributes validated under names distinct up to case
and then checked, is ready for its markup when the supplied `data-` names are plain. -/
theorem markupReady_of_start {frames : List Frame} {tag : String} {raw : Attrs}
    {hasBody : Bool} {td : TagDef} {attrs₀ attrs : Attrs} (hd : raw.CaseDistinct)
    (hplain : DataNamesPlain raw) (htd : definition tag = .ok td)
    (hv : Attrs.validate td.name td.display td.attrs raw = .ok attrs₀)
    (hc : checkStart frames td.name attrs₀ hasBody = .ok attrs) {f : Frame}
    (htag : f.tag = td.name) (hattrs : f.attrs = attrs) : MarkupReady f := by
  have hmem := definition_mem htd
  have hnames := Attrs.validate_names hd (TagDef.names_nodup hmem) hv
  -- a grid's validated set names its selection mode, so the checks keep the names
  have hsel : td.name = "grid" → "selectMode" ∈ attrs₀.map Prod.fst := by
    intro hgrid
    obtain rfl := TagDef.eq_grid hmem hgrid
    obtain ⟨⟨s, hs, hname⟩, -⟩ := TagDef.grid_selectMode
    rw [hnames, List.mem_append]
    exact .inl (List.mem_map.2 ⟨s, hs, hname⟩)
  obtain ⟨hdistinct, hplain'⟩ := Attrs.validate_dataNames hd (TagDef.names_nodup hmem)
    (fun s hs => TagDef.not_data hmem hs) hv
  have hsame := dataNames_of_names (checkStart_names hc hsel)
  refine ⟨hattrs ▸ hsame.1.2 hdistinct, hattrs ▸ hsame.2.2 (hplain' hplain), fun hdiv => ?_⟩
  obtain rfl := TagDef.eq_div hmem (htag ▸ hdiv)
  obtain ⟨v, hv', hin, hnull⟩ := divName_of_validate hd hv
  have hfind : f.attrs.find? "tagName" = some v := by
    rw [hattrs, checkStart_find? hc (by decide), hv']
  have hget : f.get? "tagName" = some v := by
    unfold Frame.get? Attrs.get?
    rw [hfind]
    cases v <;> first | exact absurd rfl hnull | rfl
  rw [hget]
  exact hin

/-- **Every frame a session opens is ready for its markup**, when the session starts with no
frame open and each of its starts supplies names distinct up to case and plain `data-` names. -/
theorem markupReady_run {d : Document} (h₀ : d.frames = []) {evs : List Event}
    (hevs : ∀ ev ∈ evs, ev.CaseDistinct ∧ ev.DataNamesPlain) {f : Frame}
    (hf : f ∈ (d.run evs).frames) : MarkupReady f := by
  rcases mem_stack_run (List.mem_map_of_mem hf : f.opened ∈ stack (d.run evs)) with hnil |
    ⟨pre, tag, raw, hasBody, td, attrs₀, attrs, hpre, htd, hv, hc, hopened⟩
  · simp [stack, h₀] at hnil
  · obtain ⟨hraw, hplain⟩ := hevs (.start tag raw hasBody) (hpre.subset (by simp))
    -- the frame keeps the tag and the attributes it was opened with
    exact markupReady_of_start hraw hplain htd hv hc (by rw [← Frame.opened_tag, hopened])
      (by rw [← Frame.opened_attrs, hopened])

end Document

/-! ## The views of a frame -/

/-- An area's data names are an area's own. -/
theorem LayoutView.area_data (a : Area) (type : Value) :
    ((area a type).data.map (·.1)).Sublist areaDataNames := by
  show List.Sublist _ (["data-area-index"] ++ ["data-title"] ++ ["data-source"] ++
    ["data-collapsible"] ++ ["data-splitter"])
  unfold area
  simp only [List.map_append]
  refine ((((List.Sublist.refl _).append (optionPair_names _ _ _)).append
    (optionPair_names _ _ _)).append ?_).append ?_ <;> split <;> simp

/-- A column's header data names are a column's own. -/
theorem GridView.column_headerData (c : Column) (sortable editable : Bool)
    (decls : List String) :
    ((column c sortable editable decls).headerData.map (·.1)).Sublist headerDataNames := by
  show List.Sublist _ (["data-type"] ++ ["data-sortable"] ++ ["data-number-format"] ++
    ["data-date-format"])
  unfold column
  simp only [List.map_append]
  refine (((List.Sublist.refl _).append ?_).append (optionPair_names _ _ _)).append
    (optionPair_names _ _ _)
  split <;> simp

theorem GridView.columns_ofFrame (f : Frame) :
    ∀ c ∈ (GridView.ofFrame f).columns, (c.headerData.map (·.1)).Sublist headerDataNames := by
  intro c hc
  unfold GridView.ofFrame at hc
  dsimp only at hc
  -- the columns declared, or those of the first row
  split_ifs at hc
  · obtain ⟨p, -, rfl⟩ := List.mem_map.1 hc
    exact column_headerData _ _ _ _
  · obtain ⟨col, -, rfl⟩ := List.mem_map.1 hc
    exact column_headerData _ _ _ _

theorem LayoutView.areas_data_ofFrame (f : Frame) :
    ∀ a ∈ (LayoutView.ofFrame f).areas,
      (a.data.map (·.1)).Sublist areaDataNames ∧ ∃ a' ∈ f.areas, a.content = a'.content := by
  intro a ha
  obtain ⟨a', ha', rfl⟩ := List.mem_map.1 ha
  exact ⟨area_data _ _, a', ha', rfl⟩

/-- Every element name a div may take reads as data, and is written as it is. -/
theorem divTagNames_dataElement : ∀ t ∈ TagDef.divTagNames, DataElement t ∧ escape t = t := by
  decide +kernel

/-! ## The parts of a frame's markup -/

namespace Output

/-- The parts of a closed frame's markup, as its tag's template writes them. -/
def markupParts (c : Config) (f : Frame) : List Part :=
  match f.tag with
  | "grid" => (GridView.ofFrame f).parts
  | "layout" => (LayoutView.ofFrame f).parts
  | "pod" => (PodView.ofFrame f).parts
  | "div" => (DivView.ofFrame f).parts
  | "gridupdate" => (FormView.ofFrame c f).parts
  | "ajaximport" =>
    match Assets.plan c f with
    | .ok p => Assets.parts p
    | .error _ => []
  | _ => []

/-- A frame's markup is its parts written one after another. -/
theorem markupOf_eq {c : Config} {f : Frame} {m : String} {log : List LogLine}
    (h : markupOf c f = .ok (m, log)) : m = writeAll (markupParts c f) := by
  unfold markupOf at h
  -- the parts stay folded while the markup's tag is split, so that the split leaves the goal
  -- alone; each case then reads the parts at its own tag
  split at h
  · rename_i htag
    obtain ⟨rfl, -⟩ := Prod.mk.inj (Except.ok.inj h)
    unfold markupParts
    simp only [htag]
    exact GridView.render_eq _
  · rename_i htag
    obtain ⟨rfl, -⟩ := Prod.mk.inj (Except.ok.inj h)
    unfold markupParts
    simp only [htag]
    exact LayoutView.render_eq _
  · rename_i htag
    obtain ⟨rfl, -⟩ := Prod.mk.inj (Except.ok.inj h)
    unfold markupParts
    simp only [htag]
    exact PodView.render_eq _
  · rename_i htag
    obtain ⟨rfl, -⟩ := Prod.mk.inj (Except.ok.inj h)
    unfold markupParts
    simp only [htag]
    exact DivView.render_eq _
  · rename_i htag
    obtain ⟨rfl, -⟩ := Prod.mk.inj (Except.ok.inj h)
    unfold markupParts
    simp only [htag]
    exact FormView.render_eq _
  · -- an asset import writes the tags its plan gives
    rename_i htag
    obtain ⟨p, hp, hpure⟩ := except_bind_eq_ok.1 h
    obtain ⟨rfl, -⟩ := Prod.mk.inj (Except.ok.inj hpure)
    unfold markupParts
    simp only [htag, hp]
    exact Assets.render_eq p
  · -- a tag with no markup of its own has no parts
    cases h
    unfold markupParts
    split
    all_goals simp_all

/-- **A ready frame's markup parts are clean** when its captured content is closed markup. -/
theorem clean_markupParts (c : Config) {f : Frame} (hf : MarkupReady f)
    (hcontent : Closed f.content) (hareas : ∀ a ∈ f.areas, Closed a.content) :
    Clean (markupParts c f) := by
  -- a view's data pairs, its own and then the caller's, have distinct, plain `data-` names
  have hdata {names : List String} (hnames : DataNames names) {data : List (String × String)}
      (h : ∃ own, data = withPassthrough f.attrs own ∧ (own.map (·.1)).Sublist names) :
      DataNames (data.map (·.1)) := by
    obtain ⟨own, rfl, hown⟩ := h
    exact withPassthrough_names hf.dataDistinct hf.dataPlain hnames hown
  unfold markupParts
  split
  · exact GridView.clean_parts _ (hdata (by decide +kernel) (GridView.data_ofFrame f))
      (GridView.columns_ofFrame f)
  · refine LayoutView.clean_parts _ (hdata (by decide +kernel) (LayoutView.data_ofFrame f)) ?_
    intro a ha
    obtain ⟨hnames, a', ha', hsame⟩ := LayoutView.areas_data_ofFrame f a ha
    exact ⟨hnames, hsame ▸ hareas a' ha'⟩
  · exact PodView.clean_parts _ (hdata (by decide +kernel) (PodView.data_ofFrame f)) hcontent
  · rename_i hdiv
    obtain ⟨hname, hescape⟩ := divTagNames_dataElement _ (hf.divName hdiv)
    refine DivView.clean_parts _ ?_ (hdata (by decide +kernel) (DivView.data_ofFrame f)) hcontent
    have htagName : (DivView.ofFrame f).tagName = (f.get? "tagName").getD (.str "div") := rfl
    rw [Html.text, htagName, hescape]
    exact hname
  · exact FormView.clean_parts _
  · split
    · exact Assets.clean_parts _
    · exact Clean.nil
  · exact Clean.nil

end Output

/-! ## The markup of a rendered document -/

/-- **The markup of a rendered document reads as written.** Render a document from the settings
`c`, every tag supplying attribute names distinct up to case and `data-` names plain once
lowered. Take any frame open at any point of the render (each frame that writes its output is
one, as the innermost frame before its close) whose captured content, its own and its areas', is
closed markup. Its markup is its template's parts written one after another, the parts are
clean, and the markup reads from the data state back to it as exactly the parts' tokens: every
start tag as its name and its attributes in order, with plain, distinct names and each value its
text up to the input stream's normalisation, every value placed as text as its characters,
every end tag as itself. The markup is closed, so what follows it reads as it would alone. -/
theorem rendered_markup_reads_as_written {c : Config} {d₀ : Document}
    (hc : Document.create c = .ok d₀) {nodes : List Node} (hd : Node.caseDistinctAll nodes = true)
    (hplain : ∀ ev ∈ Node.eventsAll nodes, ev.DataNamesPlain) {pre : List Event}
    (hpre : pre <+: Node.eventsAll nodes) {f : Frame} (hf : f ∈ (d₀.run pre).frames)
    {o : Output} (ho : Output.ofFrame c f = .ok o) (hcontent : Closed f.content)
    (hareas : ∀ a ∈ f.areas, Closed a.content) :
    o.markup = writeAll (Output.markupParts c f) ∧ Clean (Output.markupParts c f) ∧
      Reads o.markup ((Output.markupParts c f).flatMap reading) ∧ Closed o.markup := by
  have hevs (ev : Event) (hev : ev ∈ pre) : ev.CaseDistinct ∧ ev.DataNamesPlain :=
    ⟨Node.eventsAll_caseDistinct nodes hd ev (hpre.subset hev), hplain ev (hpre.subset hev)⟩
  have hready := Document.markupReady_run (Document.create_frames hc) hevs hf
  obtain ⟨⟨log, hm⟩, -⟩ := Output.ofFrame_parts ho
  have heq := Output.markupOf_eq hm
  have hclean := Output.clean_markupParts c hready hcontent hareas
  refine ⟨heq, hclean, ?_, ?_⟩
  · rw [heq]
    exact hclean.reads
  · rw [heq]
    exact hclean.closed

/-- A document of one titled pod with a caller `data-x` attribute and bold text in it: the frame
its start opens writes markup that reads as its parts. -/
theorem titled_pod_markup_reads :
    ∃ f ∈ (({ config := {}, ids := .counter 0 } : Document).run
        [.start "pod" [("title", .str "News"), ("data-x", .str "1")] true,
          .write "<b>Hi</b>"]).frames,
      ∃ o, Output.ofFrame {} f = .ok o ∧ o.markup = writeAll (Output.markupParts {} f) ∧
        Clean (Output.markupParts {} f) ∧
        Reads o.markup ((Output.markupParts {} f).flatMap reading) ∧ Closed o.markup := by
  have hc : Document.create {} = .ok { config := {}, ids := .counter 0 } := rfl
  -- the session holds one pod frame holding the bold text, whose output is given
  have hrun : ((({ config := {}, ids := .counter 0 } : Document).run
      [.start "pod" [("title", .str "News"), ("data-x", .str "1")] true,
        .write "<b>Hi</b>"]).frames.map fun f =>
        f.content == "<b>Hi</b>" && f.areas.isEmpty && (Output.ofFrame {} f).toBool) = [true] := by
    decide +kernel
  obtain ⟨f, hframes, hf⟩ := List.map_eq_singleton_iff.1 hrun
  simp only [Bool.and_eq_true, beq_iff_eq, List.isEmpty_iff] at hf
  obtain ⟨⟨hbody, hareas⟩, hok⟩ := hf
  have hmem : f ∈ (({ config := {}, ids := .counter 0 } : Document).run
      [.start "pod" [("title", .str "News"), ("data-x", .str "1")] true,
        .write "<b>Hi</b>"]).frames := by
    rw [hframes]
    exact List.mem_singleton_self f
  cases ho : Output.ofFrame {} f with
  | error e =>
    rw [ho] at hok
    cases hok
  | ok o =>
    have hcontent : Closed f.content := by
      rw [hbody]
      exact ⟨⟨_, rfl⟩, by decide⟩
    have hd : Node.caseDistinctAll [.tag "pod" [("title", .str "News"), ("data-x", .str "1")]
        [.text "<b>Hi</b>"]] = true := by
      decide +kernel
    have hplain : ∀ ev ∈ Node.eventsAll [.tag "pod" [("title", .str "News"),
        ("data-x", .str "1")] [.text "<b>Hi</b>"]], ev.DataNamesPlain := by
      decide +kernel
    exact ⟨f, hmem, o, ho, rendered_markup_reads_as_written hc hd hplain ⟨[.close "pod"], rfl⟩
      hmem ho hcontent (by simp [hareas])⟩

end UiTags
