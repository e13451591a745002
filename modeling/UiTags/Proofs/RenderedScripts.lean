import UiTags.Proofs.ScriptElements
import UiTags.Proofs.GridCells

/-!
# The scripts of a rendered document

A document's scripts are written by the frames its render opens: a frame that closes as the
innermost one writes its output, whose script is the one `Output.scriptOf` gives. Every such
script is empty or a script element that ends at its own end tag, in every document whose tags
each supply attribute names distinct up to case, unless the comment of a bind expression opens
`<!--`.

The names a script writes unquoted come from validation. Every tag declares the callbacks its
script calls, and a proxy its class name, as identifiers with no default, so the validated
value of each is null or a text that passes the name check; the checks after validation pass
these values on as they are, and a proxy's check makes the last part of a component's path pass
the name check when no class name is given. Every frame open in a session was opened by one of
its starts (`Document.mem_stack_run`), so every such frame has its names checked.

Main results:

- `Document.namesChecked_run`: every frame open in a session whose starts supply names distinct
  up to case has its script names checked.
- `rendered_scripts_end_at_close`: every frame a render opens has its names checked, and its
  script ends at its end tag; every comment stays on its line, and every string literal reads
  back as its text.
- `Script.commented_script_tag_keeps_open`: a bind of `x <!--<script>` keeps the element open.
-/

namespace UiTags

open Script

/-! ## Script names are declared -/

/-- Every name a tag's script writes is declared by the tag, as an identifier with no default;
none of them is the selection mode a grid's check may set. -/
theorem TagDef.scriptNames_declared : ∀ td ∈ TagDef.all, ∀ a ∈ scriptNames td.name,
    a ≠ "selectMode" ∧ (∃ spec ∈ td.attrs, spec.name = a) ∧
      ∀ spec ∈ td.attrs, spec.name = a → spec.kind = .identifier ∧ spec.default = .null := by
  have h : (TagDef.all.all fun td => (scriptNames td.name).all fun a =>
      a != "selectMode" && td.attrs.any (·.name == a) && td.attrs.all fun spec =>
        spec.name != a || (spec.kind == .identifier && spec.default == .null)) = true := by
    decide +kernel
  simp only [List.all_eq_true, Bool.and_eq_true, List.any_eq_true, beq_iff_eq, Bool.or_eq_true,
    bne_iff_ne, ne_eq] at h
  intro td htd a ha
  obtain ⟨⟨hsel, hdecl⟩, hkinds⟩ := h td htd a ha
  refine ⟨hsel, hdecl, fun spec hspec hname => ?_⟩
  rcases hkinds spec hspec with hne | hk
  · exact absurd hname hne
  · exact hk

/-- With supplied names distinct up to case, a name declared only as an identifier with no
default is validated to null or to a text that passes the name check. -/
theorem Attrs.validate_nameChecked {tag display : String} {specs : List AttrSpec}
    {raw attrs : Attrs} (hd : raw.CaseDistinct) (hv : validate tag display specs raw = .ok attrs)
    {a : String} (hdecl : ∃ spec ∈ specs, spec.name = a)
    (hkinds : ∀ spec ∈ specs, spec.name = a → spec.kind = .identifier ∧ spec.default = .null) :
    NameChecked ((attrs.find? a).getD .null) := by
  obtain ⟨spec, hspec, rfl⟩ := hdecl
  obtain ⟨spec', hspec', hname, v, hfind, hcheck⟩ := validate_declared hd hv hspec
  obtain ⟨hk, hdef⟩ := hkinds spec' hspec' hname
  rw [hfind]
  -- the value accepted is the default null, or an identifier
  rcases AttrSpec.check_accept hcheck with rfl | hadmits
  · rw [hdef]
    exact nameChecked_null
  · simp only [AttrSpec.Admits, hk] at hadmits
    obtain ⟨t, rfl, ht, -⟩ := hadmits
    exact fun _ => ht

/-! ## Frame attributes as the output reads them -/

/-- The output reads an attribute as given, null when it is absent. -/
theorem Output.attr_eq_find (f : Frame) (name : String) :
    Output.attr f name = (f.attrs.find? name).getD .null := by
  unfold Output.attr Frame.get? Attrs.get?
  cases f.attrs.find? name with
  | none => rfl
  | some v => cases v <;> rfl

/-- An attribute holds exactly when the output reads it as truthy. -/
theorem Output.holds_eq_truthy (f : Frame) (name : String) :
    f.attrs.holds name = (Output.attr f name).truthy := by
  unfold Attrs.holds Output.attr Frame.get?
  cases f.attrs.get? name <;> rfl

/-! ## The checks after validation -/

namespace Document

/-- An area's check passes its attributes on as they are. -/
theorem checkArea_eq_ok {frames : List Frame} {attrs attrs' : Attrs}
    (h : checkArea frames attrs = .ok attrs') : attrs' = attrs := by
  unfold checkArea at h
  split at h
  · split at h
    · cases h
      rfl
    · dsimp only at h
      split at h
      · cases h
      · split at h
        · cases h
        · cases h
          rfl
  · cases h
    rfl

/-- An import's check passes its attributes on as they are. -/
theorem checkImport_eq_ok {attrs attrs' : Attrs} (h : checkImport attrs = .ok attrs') :
    attrs' = attrs := by
  unfold checkImport at h
  split at h
  · dsimp only at h
    split at h
    · cases h
      rfl
    · cases h
  · cases h
    rfl

/-- A proxy's check passes its attributes on as they are, once the last part of a component's
path passes the name check when no class name is given. -/
theorem checkProxy_eq_ok {attrs attrs' : Attrs} (h : checkProxy attrs = .ok attrs') :
    attrs' = attrs ∧ (((attrs.find? "cfc").getD .null).truthy = true →
      attrs.holds "jsClassName" = false →
      isIdentifier (Output.lastSegment ((attrs.find? "cfc").getD .null).text) = true) := by
  unfold checkProxy at h
  dsimp only at h
  split at h
  · cases h
  · split at h
    · split at h
      · rename_i hname
        cases h
        exact ⟨rfl, fun _ _ => hname⟩
      · cases h
    · rename_i hcond
      cases h
      refine ⟨rfl, fun hcfc hgiven => ?_⟩
      simp [hcfc, hgiven] at hcond

/-- The checks after validation pass the attributes on as they are, but for the selection mode a
grid sets when many rows are selected. -/
theorem checkStart_find? {frames : List Frame} {tag : String} {attrs attrs' : Attrs}
    {hasBody : Bool} (h : checkStart frames tag attrs hasBody = .ok attrs') {name : String}
    (hname : name ≠ "selectMode") : attrs'.find? name = attrs.find? name := by
  unfold checkStart at h
  split at h
  · rw [checkGrid_eq_ok h]
    split
    · exact Attrs.find?_put_ne attrs _ hname
    · rfl
  · split at h <;> cases h
    rfl
  · split at h <;> cases h
    rfl
  · rw [checkArea_eq_ok h]
  · split at h <;> cases h
    rfl
  · rw [(checkProxy_eq_ok h).1]
  · rw [checkImport_eq_ok h]
  · cases h
    rfl

/-! ## Every open frame has its names checked -/

/-- A frame opened for a defined tag, with attributes validated under names distinct up to case
and then checked, has its script names checked. -/
theorem namesChecked_of_start {frames : List Frame} {tag : String} {raw : Attrs}
    {hasBody : Bool} {td : TagDef} {attrs₀ attrs : Attrs} (hd : raw.CaseDistinct)
    (htd : definition tag = .ok td)
    (hv : Attrs.validate td.name td.display td.attrs raw = .ok attrs₀)
    (hc : checkStart frames td.name attrs₀ hasBody = .ok attrs) {f : Frame}
    (htag : f.tag = td.name) (hattrs : f.attrs = attrs) : NamesChecked f := by
  have hdecl := TagDef.scriptNames_declared td (definition_mem htd)
  -- each script name keeps its validated value through the checks after validation
  have hname : ∀ a ∈ scriptNames f.tag, NameChecked (Output.attr f a) := by
    intro a ha
    rw [htag] at ha
    obtain ⟨hsel, hspec, hkinds⟩ := hdecl a ha
    rw [Output.attr_eq_find, hattrs, checkStart_find? hc hsel]
    exact Attrs.validate_nameChecked hd hv hspec hkinds
  refine ⟨hname, fun hproxy hcfc => ?_⟩
  rw [htag] at hproxy
  rw [hproxy] at hc
  obtain ⟨rfl, hlast⟩ := checkProxy_eq_ok (by simpa [checkStart] using hc)
  unfold Output.proxyClass
  dsimp only
  split
  next hnone =>
    -- no class name given: the last part of the component's path, which the proxy's check passed
    simp only [Bool.and_eq_true, Bool.not_eq_true'] at hnone
    rw [Output.attr_eq_find, hattrs] at hcfc ⊢
    exact hlast hcfc (by rw [← hattrs, Output.holds_eq_truthy]; exact hnone.2)
  next hgiven =>
    -- a class name given: one of the proxy's script names
    have hsome : (Output.attr f "jsClassName").truthy = true := by simpa [hcfc] using hgiven
    exact hname "jsClassName" (by rw [htag, hproxy]; decide) hsome

theorem create_frames {c : Config} {d : Document} (h : create c = .ok d) : d.frames = [] := by
  unfold create at h
  split at h <;> cases h
  rfl

/-- **Open frames have their names checked.** In a session started with no frame open, whose
starts each supply attribute names distinct up to case, every open frame has its script names
checked: the frame was opened by a start, as that start validated and checked it. -/
theorem namesChecked_run {d : Document} (h₀ : d.frames = []) {evs : List Event}
    (hevs : ∀ ev ∈ evs, ev.CaseDistinct) {f : Frame} (hf : f ∈ (d.run evs).frames) :
    NamesChecked f := by
  rcases mem_stack_run (List.mem_map_of_mem hf : f.opened ∈ stack (d.run evs)) with hnil |
    ⟨pre, tag, raw, hasBody, td, attrs₀, attrs, hpre, htd, hv, hc, hopened⟩
  · simp [stack, h₀] at hnil
  · have hraw : raw.CaseDistinct := hevs (.start tag raw hasBody) (hpre.subset (by simp))
    -- the frame keeps the tag and the attributes it was opened with
    exact namesChecked_of_start hraw htd hv hc (by rw [← Frame.opened_tag, hopened])
      (by rw [← Frame.opened_attrs, hopened])

end Document

/-! ## The scripts of a rendered document -/

/-- **The scripts of a rendered document end at their end tags.** Render a document from the
settings `c`, with every tag supplying attribute names distinct up to case. Every frame open at
any point of the render (among them each frame that writes its output, as the innermost frame
open before its close) has the names its script writes checked, and its script is empty or a
script element that ends exactly at its own end tag, unless the comment of its bind expression
opens `<!--`. Every comment written into a script stays on its line, with no `</` in it, and
every text written as a string literal reads back, whatever follows it, as the text's code
units up to its closing quote. -/
theorem rendered_scripts_end_at_close {c : Config} {d₀ : Document}
    (hc : Document.create c = .ok d₀) {nodes : List Node} (hd : Node.caseDistinctAll nodes = true)
    {pre : List Event} (hpre : pre <+: Node.eventsAll nodes) {f : Frame}
    (hf : f ∈ (d₀.run pre).frames) {o : Output} (ho : Output.ofFrame c f = .ok o)
    (hbind : ¬ ['<', '!', '-', '-'] <:+: (comment (Output.attr f "bind")).toList) :
    NamesChecked f ∧ (o.script = "" ∨ EndsAtClose o.script) ∧
      (∀ v : Value, StaysInComment (comment v)) ∧
      ∀ (s : String) (rest : List Char),
        readLiteral ((quotedText s).toList ++ rest) = some (codeUnits s.toList, rest) := by
  have hevs (ev : Event) (hev : ev ∈ pre) : ev.CaseDistinct :=
    Node.eventsAll_caseDistinct nodes hd ev (hpre.subset hev)
  have hnames := Document.namesChecked_run (Document.create_frames hc) hevs hf
  obtain ⟨-, log, hs⟩ := Output.ofFrame_parts ho
  exact ⟨hnames, scriptOf_endsAtClose hnames hbind hs, comment_stays_in_line,
    readLiteral_quotedText⟩

/-- A document of one pod with a source: the frame its start opens has its names checked, and
its script is a script element that ends at its own end tag. -/
theorem sourced_pod_script_ends_at_close :
    Document.create {} = .ok { config := {}, ids := .counter 0 } ∧
      ∃ f ∈ (({ config := {}, ids := .counter 0 } : Document).run
          [.start "pod" [("source", .str "/news")] false]).frames,
        ∃ o, Output.ofFrame {} f = .ok o ∧ NamesChecked f ∧ EndsAtClose o.script := by
  have hc : Document.create {} = .ok { config := {}, ids := .counter 0 } := rfl
  -- the session holds one pod frame, with a source and no bind, whose output is given
  have hrun : ((({ config := {}, ids := .counter 0 } : Document).run
      [.start "pod" [("source", .str "/news")] false]).frames.map fun f =>
        f.tag == "pod" && f.holds "source" && Output.attr f "bind" == .null &&
          (Output.ofFrame {} f).toBool) = [true] := by
    decide +kernel
  obtain ⟨f, hframes, hf⟩ := List.map_eq_singleton_iff.1 hrun
  simp only [Bool.and_eq_true, beq_iff_eq] at hf
  obtain ⟨⟨⟨htag, hsource⟩, hnull⟩, hok⟩ := hf
  have hmem : f ∈ (({ config := {}, ids := .counter 0 } : Document).run
      [.start "pod" [("source", .str "/news")] false]).frames := by
    rw [hframes]
    exact List.mem_singleton_self f
  cases ho : Output.ofFrame {} f with
  | error e =>
    rw [ho] at hok
    cases hok
  | ok o =>
    have hbind : ¬ ['<', '!', '-', '-'] <:+: (comment (Output.attr f "bind")).toList := by
      have hcomment : comment .null = "" := by decide +kernel
      rw [hnull, hcomment]
      simp
    have hscript : o.script ≠ "" := by
      obtain ⟨-, sl, hs⟩ := Output.ofFrame_parts ho
      unfold Output.scriptOf at hs
      rw [htag] at hs
      have hpod := Except.ok.inj hs
      rw [if_pos hsource] at hpod
      rw [← (Prod.mk.inj hpod).1]
      exact Script.block_ne_empty _ _
    have hd : Node.caseDistinctAll [.tag "pod" [("source", .str "/news")] []] = true := by
      decide +kernel
    obtain ⟨hnames, hends, -⟩ :=
      rendered_scripts_end_at_close hc hd ⟨[.close "pod"], rfl⟩ hmem ho hbind
    exact ⟨hc, f, hmem, o, ho, hnames, hends.resolve_left hscript⟩

namespace Script

open Html

/-- A div bound to `x <!--<script>`: the comment of its request opens escaped text and starts a
script tag in it, so the tokenizer reads the whole text after the start tag, the block's own end
tag included, without ending the element, and the element does not end at its end tag. -/
theorem commented_script_tag_keeps_open :
    let f : Frame :=
      { tag := "div", kind := .plain, id := .str "div_1", attrs := [("bind", .str "x <!--<script>")] }
    ∃ o, Output.ofFrame {} f = .ok o ∧
      (∃ rest, o.script = scriptStart ++ rest ∧ ScriptState.run .data rest.toList = some .escaped) ∧
      ¬ EndsAtClose o.script := by
  intro f
  obtain ⟨o, ho⟩ : ∃ o, Output.ofFrame {} f = .ok o := ⟨_, rfl⟩
  obtain ⟨-, sl, hs⟩ := Output.ofFrame_parts ho
  have hdiv : Output.scriptOf {} f = .ok (divScript (.str "div_1") (Bind.parse "x <!--<script>")
      (.str "x <!--<script>") (.bool true) (.str "/bx-compat-ui/remote") .null,
      Output.bindWarnings "x <!--<script>") := rfl
  rw [hdiv, Except.ok.injEq, Prod.mk.injEq] at hs
  have hparse : Bind.parse "x <!--<script>" = .generic "x <!--<script>" := by decide +kernel
  have hcomment : comment (.str "x <!--<script>") = "x <!--<script>" := by decide +kernel
  -- the whole script, its literals turned into characters and read by the kernel
  have hwhole : ScriptState.run .data o.script.toList = some .escaped := by
    rw [← hs.1, hparse]
    unfold divScript block whenReady responseHelpers bindRequest
    simp only [hcomment, toList_lines, List.flatMap_cons, List.flatMap_nil, String.toList_append]
    repeat rw [String.toList_ofList]
    decide +kernel
  have hstart : ScriptState.run .data scriptStart.toList = some .data := keeps_ofList (by decide)
  have hend : ScriptState.run .data scriptClose.toList = none := by
    unfold scriptClose
    rw [String.toList_ofList]
    rfl
  obtain ⟨rest, hrest⟩ : ∃ rest, o.script = scriptStart ++ rest :=
    ⟨_, by rw [← hs.1]; unfold divScript; rw [block_eq, String.append_assoc]⟩
  have hrun : ScriptState.run .data rest.toList = some .escaped := by
    rw [hrest, String.toList_append, ScriptState.run_append, hstart] at hwhole
    exact hwhole
  refine ⟨o, ho, ⟨rest, hrest, hrun⟩, ?_⟩
  -- an element ending at its end tag would leave the tokenizer nowhere after it
  rintro ⟨content, hcontent, hk⟩
  rw [hcontent, String.append_assoc] at hrest
  have hsplit : rest.toList = content.toList ++ scriptClose.toList := by
    simpa only [String.toList_append, List.append_cancel_left_eq] using (congrArg String.toList hrest).symm
  unfold Keeps at hk
  rw [hsplit, ScriptState.run_append, hk] at hrun
  rw [Option.bind_some, hend] at hrun
  exact absurd hrun (by simp)

end Script
end UiTags
