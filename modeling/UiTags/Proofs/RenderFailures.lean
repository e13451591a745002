import UiTags.Proofs.TextPlacement
import UiTags.Proofs.Validation
import UiTags.Command

/-!
# The failures a render raises

The render command reports the failures of the library's own families and of bad values
(`Command.reported`); any other failure ends it without a word. A render raises only reported
failures when the settings it reads have their declared kinds and no tag is given two attribute
names that are equal once lowered. Validation then sets every declared attribute to a value its
declaration accepted, so the checks that compare the page size and the page with one compare
numbers; the output of a closed tag reads its settings only where their kinds are sure.

Two names of one tag that differ only in case break this: the one written last is the one
validated, and the other is carried over the validated value under its own name, whatever it
holds. A grid given the page size `x` and `PAGESIZE` `2` then compares the text `x` with one,
which fails as a comparison of values of the wrong kind.

Main results:

- `Document.startChecks_failure_reported`, `Document.close_failure_reported`: what one start
  and one close can fail with.
- `Document.exec_failure_reported`: what a run of events can fail with.
- `render_failures_reported`: a render raises only reported failures.
- `colliding_page_size_unreported`: the grid whose page size is given twice.
-/

namespace UiTags

/-! ## Settings of their declared kinds -/

namespace Config

/-- Settings whose checked fields have their declared kinds: the stylesheet and script sources
text or null, the default import tags a list of texts, the seed an integer or null, and no
setting given as a date or time. The other settings are only passed on, as any value. -/
structure Typed (c : Config) : Prop where
  cssSrc : c.cssSrc = .null ∨ ∃ s, c.cssSrc = .str s
  scriptSrc : c.scriptSrc = .null ∨ ∃ s, c.scriptSrc = .str s
  importTags : ∃ tags : List String, c.defaultImportTags = .list (tags.map .str)
  idSeed : c.idSeed = .null ∨ ∃ n, c.idSeed = .int n
  undated : c.dated = []

/-- A source that is text or null gives a base. -/
theorem base_ok {src : Value} (h : src = .null ∨ ∃ s, src = .str s) (fallback : String) :
    ∃ b, base none src fallback = .ok b := by
  rcases h with rfl | ⟨s, rfl⟩
  · exact ⟨_, rfl⟩
  · exact ⟨_, rfl⟩

variable {c : Config}

theorem Typed.cssBase_ok (hc : c.Typed) : ∃ b, c.cssBase = .ok b := by
  unfold cssBase
  rw [hc.undated]
  exact base_ok hc.cssSrc _

theorem Typed.scriptBase_ok (hc : c.Typed) : ∃ b, c.scriptBase = .ok b := by
  unfold scriptBase
  rw [hc.undated]
  exact base_ok hc.scriptSrc _

theorem Typed.importTags_ok (hc : c.Typed) : ∃ tags, c.importTags = .ok tags := by
  obtain ⟨tags, htags⟩ := hc.importTags
  simp only [Config.importTags, htags, itemsOf, bind, Except.bind]
  -- every item of the list is text, so no item is reported
  rw [List.findIdx?_eq_none_iff.2 (by simp)]
  exact ⟨_, rfl⟩

/-- Settings of their declared kinds always give a seed. -/
theorem Typed.seedNumber_isSome (hc : c.Typed) : c.seedNumber?.isSome = true := by
  unfold seedNumber?
  rw [hc.undated]
  rcases hc.idSeed with h | ⟨n, h⟩ <;> simp [h, Seed.number?]

end Config

/-! ## The output of a closed tag -/

namespace Assets

variable {c : Config} (hc : c.Typed) (f : Frame)
include hc

theorem cssBase_ok : ∃ b, Assets.cssBase c f = .ok b := by
  unfold Assets.cssBase
  split
  · exact ⟨_, rfl⟩
  · exact hc.cssBase_ok

theorem scriptBase_ok : ∃ b, Assets.scriptBase c f = .ok b := by
  unfold Assets.scriptBase
  split
  · exact ⟨_, rfl⟩
  · exact hc.scriptBase_ok

theorem tags_ok : ∃ tags, Assets.tags c f = .ok tags := by
  unfold Assets.tags
  split
  · exact ⟨_, rfl⟩
  · exact hc.importTags_ok

theorem plan_ok : ∃ p, plan c f = .ok p := by
  obtain ⟨css, hcss⟩ := cssBase_ok hc f
  obtain ⟨script, hscript⟩ := scriptBase_ok hc f
  obtain ⟨tags, htags⟩ := tags_ok hc f
  simp only [plan, hcss, hscript, htags, bind, Except.bind, pure, Except.pure]
  exact ⟨_, rfl⟩

end Assets

namespace Output

variable {c : Config} (hc : c.Typed) (f : Frame)
include hc

theorem markupOf_ok : ∃ r, markupOf c f = .ok r := by
  obtain ⟨p, hp⟩ := Assets.plan_ok hc f
  unfold markupOf
  split <;> simp [hp, bind, Except.bind, pure, Except.pure]

theorem scriptOf_ok : ∃ r, scriptOf c f = .ok r := by
  obtain ⟨css, hcss⟩ := Assets.cssBase_ok hc f
  obtain ⟨script, hscript⟩ := Assets.scriptBase_ok hc f
  unfold scriptOf
  split <;> simp [hcss, hscript, bind, Except.bind, pure, Except.pure]
  -- what is left is a div, whose script is chosen by whether it is bound
  split <;> simp

/-- With settings of their declared kinds, every closed tag gives its output. -/
theorem ofFrame_ok : ∃ o, ofFrame c f = .ok o := by
  obtain ⟨⟨m, ml⟩, hm⟩ := markupOf_ok hc f
  obtain ⟨⟨s, sl⟩, hs⟩ := scriptOf_ok hc f
  simp only [ofFrame, hm, hs, Except.mapError, bind, Except.bind, pure, Except.pure]
  exact ⟨_, rfl⟩

end Output

/-! ## Failures the command reports -/

/-- A bind in `Except` fails exactly when its first part fails or its second part does. -/
theorem except_bind_eq_error {ε α β : Type} {x : Except ε α} {f : α → Except ε β} {e : ε} :
    x >>= f = .error e ↔ x = .error e ∨ ∃ a, x = .ok a ∧ f a = .error e := by
  cases x <;> simp [bind, Except.bind]

namespace Command

/-- A refused attribute is reported, missing or bad. -/
@[simp] theorem reported_badAttribute (tag name : String) (fault : AttrFault) :
    reported (.badAttribute tag name fault) = true := by
  simp only [reported, Failure.kind, AttrFault.kind]
  split <;> rfl

end Command

/-! ## The tag table -/

namespace TagDef

/-- The grid is the one tag of the table named `grid`. -/
theorem eq_grid {td : TagDef} (h : td ∈ all) (hn : td.name = "grid") : td = grid := by
  simp only [all, List.mem_cons, List.not_mem_nil, or_false] at h
  rcases h with rfl | rfl | rfl | rfl | rfl | rfl | rfl | rfl | rfl | rfl
  · rfl
  all_goals exact absurd hn (by decide)

/-- The grid declares its page size and page, as integers whose defaults, when given, are
numbers. -/
theorem grid_pages : ∀ name ∈ ["pageSize", "page"],
    (∃ spec ∈ grid.attrs, spec.name = name) ∧
      ∀ spec ∈ grid.attrs, spec.name = name → spec.kind = .integer ∧
        ∀ v, Value.present (some spec.default) = some v → v.belowOne?.isSome = true := by
  have h : (["pageSize", "page"].all fun name => grid.attrs.any (·.name == name) &&
      grid.attrs.all fun spec => spec.name != name || (spec.kind == .integer &&
        (Value.present (some spec.default)).all fun v => v.belowOne?.isSome)) = true := by
    decide +kernel
  simp only [List.all_eq_true, Bool.and_eq_true, List.any_eq_true, beq_iff_eq, Bool.or_eq_true,
    bne_iff_ne, ne_eq, Option.all_eq_true] at h
  intro name hname
  obtain ⟨hdecl, hkinds⟩ := h name hname
  refine ⟨hdecl, fun spec hspec hsn => ?_⟩
  rcases hkinds spec hspec with hne | ⟨hk, hdef⟩
  · exact absurd hsn hne
  · exact ⟨by simpa using hk, fun v hv => hdef v hv⟩

end TagDef

/-! ## Starting a tag -/

namespace Document

variable {e : Failure}

theorem definition_error {tag : String} (h : definition tag = .error e) : e = .unknownTag tag := by
  unfold definition at h
  split at h <;> cases h
  rfl

theorem definition_mem {tag : String} {td : TagDef} (h : definition tag = .ok td) :
    td ∈ TagDef.all := by
  unfold definition TagDef.lookup at h
  split at h
  · rename_i hl
    cases h
    exact List.mem_of_find?_eq_some hl
  · cases h

theorem parentCheck_error {frames : List Frame} {td : TagDef} (h : parentCheck frames td = .error e) :
    Command.reported e = true := by
  unfold parentCheck at h
  split at h
  · split at h <;> cases h
    rfl
  · cases h

/-- A page size or page fails its check by being below one, or by being no number. -/
theorem checkAtLeastOne_error {attrs : Attrs} {name : String}
    (h : checkAtLeastOne attrs name = .error e) :
    e = .gridPageBelowOne name ∨
      ∃ v, Value.present (attrs.find? name) = some v ∧ v.belowOne? = none := by
  unfold checkAtLeastOne at h
  split at h
  · cases h
  · rename_i v hv
    split at h
    · cases h
      exact .inl rfl
    · cases h
    · exact .inr ⟨v, hv, ‹_›⟩

/-- A grid's check fails with a reported failure, unless its page size or page is no number. -/
theorem checkGrid_error {attrs : Attrs} (h : checkGrid attrs = .error e) :
    Command.reported e = true ∨ ∃ name ∈ ["pageSize", "page"], ∃ v,
      Value.present (attrs.find? name) = some v ∧ v.belowOne? = none := by
  unfold checkGrid at h
  -- selecting many rows sets the selection mode, which neither page check reads
  generalize hset : (if attrs.holds "multirowselect" = true then
    attrs.put "selectMode" (.str "multi") else attrs) = attrs' at h
  have hfind : ∀ name ∈ ["pageSize", "page"], attrs'.find? name = attrs.find? name := by
    intro name hname
    rw [← hset]
    split
    · exact Attrs.find?_put_ne _ _ (by simp at hname; rcases hname with rfl | rfl <;> decide)
    · rfl
  have hpage : ∀ name ∈ ["pageSize", "page"], checkAtLeastOne attrs' name = .error e →
      Command.reported e = true ∨ ∃ name ∈ ["pageSize", "page"], ∃ v,
        Value.present (attrs.find? name) = some v ∧ v.belowOne? = none := by
    intro name hname hc
    rcases checkAtLeastOne_error hc with rfl | ⟨v, hv, hb⟩
    · exact .inl rfl
    · exact .inr ⟨name, hname, v, hfind name hname ▸ hv, hb⟩
  rcases except_bind_eq_error.1 h with hc | ⟨_, -, h⟩
  · exact hpage "pageSize" (by simp) hc
  rcases except_bind_eq_error.1 h with hc | ⟨_, -, h⟩
  · exact hpage "page" (by simp) hc
  -- the query check refuses only with its own failure
  left
  split at h
  · cases h
  · cases h
  · split at h <;> cases h
    rfl
  · cases h
    rfl

theorem checkArea_error {frames : List Frame} {attrs : Attrs} (h : checkArea frames attrs = .error e) :
    Command.reported e = true := by
  unfold checkArea at h
  dsimp only at h
  split at h
  · split at h
    · cases h
    · split at h
      · cases h
        rfl
      · split at h <;> cases h
        rfl
  · cases h

theorem checkProxy_error {attrs : Attrs} (h : checkProxy attrs = .error e) :
    Command.reported e = true := by
  unfold checkProxy at h
  dsimp only at h
  split at h
  · cases h
    rfl
  · split at h
    · split at h <;> cases h
      rfl
    · cases h

theorem checkImport_error {attrs : Attrs} (h : checkImport attrs = .error e) :
    Command.reported e = true := by
  unfold checkImport at h
  dsimp only at h
  split at h
  · split at h <;> cases h
    rfl
  · cases h

/-- The checks after validation fail with a reported failure, unless a grid's page size or page
is no number. -/
theorem checkStart_error {frames : List Frame} {tag : String} {attrs : Attrs} {hasBody : Bool}
    (h : checkStart frames tag attrs hasBody = .error e) :
    Command.reported e = true ∨ tag = "grid" ∧ ∃ name ∈ ["pageSize", "page"], ∃ v,
      Value.present (attrs.find? name) = some v ∧ v.belowOne? = none := by
  unfold checkStart at h
  split at h
  · rcases checkGrid_error h with hr | hnum
    · exact .inl hr
    · exact .inr ⟨rfl, hnum⟩
  · split at h <;> cases h
    exact .inl rfl
  · split at h <;> cases h
    exact .inl rfl
  · exact .inl (checkArea_error h)
  · split at h <;> cases h
    exact .inl rfl
  · exact .inl (checkProxy_error h)
  · exact .inl (checkImport_error h)
  · cases h

/-- With supplied names distinct up to case, a validated grid's page size and page, when given,
are numbers. -/
theorem grid_pages_orderable {raw attrs : Attrs} (hd : raw.CaseDistinct)
    (h : Attrs.validate "grid" "Grid" TagDef.grid.attrs raw = .ok attrs) {name : String}
    (hname : name ∈ ["pageSize", "page"]) {v : Value}
    (hv : Value.present (attrs.find? name) = some v) : v.belowOne?.isSome = true := by
  obtain ⟨⟨spec, hspec, hsn⟩, hkinds⟩ := TagDef.grid_pages name hname
  obtain ⟨spec', hspec', hsn', v', hfind, hcheck⟩ := Attrs.validate_declared hd h hspec
  rw [hsn] at hfind hsn'
  obtain ⟨hk, hdef⟩ := hkinds spec' hspec' hsn'
  rw [hfind] at hv
  -- the value validated is the declaration's default or an integer read from the supplied one
  rcases AttrSpec.check_integer hk hcheck with rfl | ⟨n, rfl⟩
  · exact hdef v hv
  · cases hv
    rfl

/-- With supplied names distinct up to case, the checks a start makes fail only with reported
failures. -/
theorem startChecks_failure_reported {frames : List Frame} {tag : String} {raw : Attrs}
    {hasBody : Bool} (hd : raw.CaseDistinct) (h : startChecks frames tag raw hasBody = .error e) :
    Command.reported e = true := by
  unfold startChecks at h
  rcases except_bind_eq_error.1 h with hdef | ⟨td, htd, h⟩
  · rw [definition_error hdef]
    rfl
  rcases except_bind_eq_error.1 h with hp | ⟨_, -, h⟩
  · exact parentCheck_error hp
  rcases except_bind_eq_error.1 h with hv | ⟨attrs, hvalid, h⟩
  · rcases Attrs.validate_error hv with ⟨name, fault, rfl⟩ | ⟨text, rfl⟩
    · exact Command.reported_badAttribute _ _ _
    · rfl
  rcases except_bind_eq_error.1 h with hc | ⟨_, -, h⟩
  · rcases checkStart_error hc with hr | ⟨hgrid, name, hname, v, hv, hb⟩
    · exact hr
    · -- a grid's page size and page are numbers, so their comparisons with one succeed
      have htd : td = TagDef.grid := TagDef.eq_grid (definition_mem htd) hgrid
      subst htd
      have := grid_pages_orderable hd hvalid hname hv
      rw [hb] at this
      cases this
  · cases h

end Document

/-! ## Closing a tag and finishing -/

namespace Document

variable {e : Failure}

/-- Emitting fails exactly with the failure of the frame's output. -/
theorem emit_failure {d : Document} {f : Frame} (h : (d.emit f).2 = some e) :
    ∃ log, d.output f = .error (log, e) := by
  rw [emit_eq] at h
  cases ho : d.output f with
  | ok o =>
    rw [ho] at h
    cases h
  | error p =>
    obtain ⟨log, e'⟩ := p
    rw [ho] at h
    cases h
    exact ⟨log, rfl⟩

/-- Settling a closed frame fails by refusing its body, as a tag that takes none or as a bound
div, or with the failure of its output. -/
theorem settle_failure_cases {d : Document} {f : Frame} (h : (d.settle f).2 = some e) :
    (∃ msg, e = .bodyNotAllowed f.tag msg) ∨ e = .bindWithBody ∨
      ∃ log, d.output f = .error (log, e) := by
  unfold settle at h
  dsimp only at h
  split at h
  · split at h
    · cases h
      exact .inl ⟨_, rfl⟩
    · split at h
      · cases h
      · exact .inr (.inr (emit_failure h))
  · cases h
  · split at h
    · cases h
      exact .inr (.inl rfl)
    · exact .inr (.inr (emit_failure h))

/-- The document a close pops reads the settings and the templates of the one it closes. -/
theorem output_popped (d : Document) (f : Frame) (rest : List Frame) (ht : d.templates = []) :
    (d.popped f rest).output f = Output.ofFrame d.config f := by
  simp [output, popped, note, ht]

/-- With settings of their declared kinds and the packaged templates, a close fails only with
reported failures: it is refused, or the closed frame refuses its body. -/
theorem close_failure_reported {d : Document} (hc : d.config.Typed) (ht : d.templates = [])
    {tag : String} (h : (d.close tag).2 = some e) : Command.reported e = true := by
  rcases close_cases d tag with ⟨e', hclose, hr⟩ | ⟨td, f, rest, -, -, -, hclose⟩
  · rw [hclose] at h
    cases h
    rcases hr with ⟨-, rfl⟩ | ⟨td, -, ⟨-, rfl⟩ | ⟨f, rest, -, -, rfl⟩⟩ <;> rfl
  · rw [hclose] at h
    rcases settle_failure_cases h with ⟨msg, rfl⟩ | rfl | ⟨log, hout⟩
    · rfl
    · rfl
    · -- the output of the closed frame does not fail
      obtain ⟨o, ho⟩ := Output.ofFrame_ok hc f
      rw [output_popped d f rest ht, ho] at hout
      cases hout

theorem finish_error {d : Document} (h : d.finish = .error e) : Command.reported e = true := by
  unfold finish at h
  split at h <;> cases h
  rfl

/-! ## Runs of events -/

/-- Documents that agree but for their logs have the same settings and templates. -/
theorem settings_of_eraseLog {d d' : Document} (h : d.eraseLog = d'.eraseLog) :
    d.config = d'.config ∧ d.templates = d'.templates := by
  obtain ⟨hc, -, -, -, ht⟩ := eraseLog_eq_iff.1 h
  exact ⟨hc, ht⟩

theorem settings_write (d : Document) (text : String) :
    (d.write text).config = d.config ∧ (d.write text).templates = d.templates := by
  unfold write
  split <;> exact ⟨rfl, rfl⟩

theorem settings_settle (d : Document) (f : Frame) :
    (d.settle f).1.config = d.config ∧ (d.settle f).1.templates = d.templates := by
  rcases settle_cases d f with ⟨-, e, h⟩ | ⟨-, k, c, p, -, h⟩ | ⟨-, -, h⟩ <;> rw [h]
  · exact ⟨rfl, rfl⟩
  · have hr := eraseLog_register d f k
    split at hr
    · obtain ⟨hc, ht⟩ := settings_of_eraseLog hr
      exact ⟨hc, ht⟩
    · exact settings_of_eraseLog hr
  · rcases emit_cases d f with ⟨-, -, h'⟩ | ⟨o, -, -, h'⟩
    · exact settings_of_eraseLog h'
    · obtain ⟨hc, ht⟩ := settings_of_eraseLog h'
      rw [hc, ht]
      exact settings_write d o.text

/-- No event changes a document's settings or templates. -/
theorem settings_step (d : Document) (ev : Event) :
    (d.step ev).1.config = d.config ∧ (d.step ev).1.templates = d.templates := by
  cases ev with
  | start tag raw hasBody =>
    cases hs : d.start tag raw hasBody with
    | error e => rw [step_start_error hs]; exact ⟨rfl, rfl⟩
    | ok d' =>
      rw [step_start_ok hs]
      obtain ⟨td, attrs, -, h⟩ := start_ok_eraseLog hs
      obtain ⟨hc, ht⟩ := settings_of_eraseLog h
      exact ⟨hc, ht⟩
  | write text => exact settings_write d text
  | close tag =>
    rw [step_close]
    rcases close_cases d tag with ⟨e, h, -⟩ | ⟨td, f, rest, -, -, -, h⟩ <;> rw [h]
    · exact ⟨rfl, rfl⟩
    · exact settings_settle _ f
  | finish => rw [step_finish]; exact ⟨rfl, rfl⟩

end Document

/-- A start whose supplied names are distinct up to case; any other event. -/
def Event.CaseDistinct : Event → Prop
  | .start _ raw _ => raw.CaseDistinct
  | _ => True

namespace Document

variable {e : Failure}

/-- One event, on a document with settings of their declared kinds and the packaged templates,
fails only with reported failures. -/
theorem step_failure_reported {d : Document} (hc : d.config.Typed) (ht : d.templates = [])
    {ev : Event} (hev : ev.CaseDistinct) (h : (d.step ev).2 = some e) :
    Command.reported e = true := by
  cases ev with
  | start tag raw hasBody =>
    cases hs : d.start tag raw hasBody with
    | error e' =>
      rw [step_start_error hs] at h
      cases h
      rw [start_eq_checks] at hs
      cases hcheck : startChecks d.frames tag raw hasBody with
      | error e'' =>
        rw [hcheck] at hs
        cases hs
        exact startChecks_failure_reported hev hcheck
      | ok x =>
        rw [hcheck] at hs
        cases hs
    | ok d' =>
      rw [step_start_ok hs] at h
      cases h
  | write text =>
    rw [step_write] at h
    cases h
  | close tag =>
    rw [step_close] at h
    exact close_failure_reported hc ht h
  | finish =>
    cases hf : d.finish with
    | ok html =>
      rw [step_finish_ok hf] at h
      cases h
    | error e' =>
      rw [step_finish_error hf] at h
      cases h
      exact finish_error hf

/-- A run of events whose starts supply names distinct up to case, on a document with settings
of their declared kinds and the packaged templates, stops only at reported failures; each event
keeps the settings and templates. -/
theorem exec_failure_reported {d : Document} (hc : d.config.Typed) (ht : d.templates = [])
    {evs : List Event} (hevs : ∀ ev ∈ evs, ev.CaseDistinct) (h : (d.exec evs).2 = some e) :
    Command.reported e = true := by
  induction evs generalizing d with
  | nil => cases h
  | cons ev evs ih =>
    rw [exec_cons] at h
    obtain ⟨hcfg, htpl⟩ := settings_step d ev
    rcases hs : d.step ev with ⟨d', _ | e'⟩
    · rw [hs] at h hcfg htpl
      exact ih (hcfg ▸ hc) (htpl.trans ht) (fun ev' h' => hevs ev' (List.mem_cons_of_mem _ h')) h
    · rw [hs] at h
      cases h
      exact step_failure_reported hc ht (hevs ev List.mem_cons_self) (by rw [hs])

/-- A fresh document fails only for an unknown id strategy when its settings have their declared
kinds. -/
theorem create_failure_reported {c : Config} (hc : c.Typed) (h : create c = .error e) :
    Command.reported e = true := by
  obtain ⟨n, hn⟩ := Option.isSome_iff_exists.1 hc.seedNumber_isSome
  unfold create IdSource.create at h
  rw [hn] at h
  split at h
  · cases h
  · rename_i hsrc
    split at hsrc <;> cases hsrc
    cases h
    rfl

theorem create_ok {c : Config} {d : Document} (h : create c = .ok d) :
    d.config = c ∧ d.templates = [] := by
  unfold create at h
  split at h <;> cases h
  exact ⟨rfl, rfl⟩

end Document

/-! ## Trees -/

namespace Node

mutual

/-- Whether every tag of a node is given attribute names distinct up to case. -/
def caseDistinct : Node → Bool
  | .text _ => true
  | .tag _ attrs children => decide attrs.CaseDistinct && caseDistinctAll children

/-- Whether every tag of some nodes is given attribute names distinct up to case. -/
def caseDistinctAll : List Node → Bool
  | [] => true
  | n :: ns => caseDistinct n && caseDistinctAll ns

end

mutual

theorem events_caseDistinct : ∀ n : Node, n.caseDistinct = true → ∀ ev ∈ events n, ev.CaseDistinct
  | .text s, _, ev, hev => by
    simp only [events, List.mem_singleton] at hev
    subst hev
    trivial
  | .tag name attrs children, h, ev, hev => by
    simp only [caseDistinct, Bool.and_eq_true, decide_eq_true_eq] at h
    simp only [events, List.cons_append, List.mem_cons, List.mem_append, List.not_mem_nil,
      or_false] at hev
    rcases hev with rfl | hev | rfl
    · exact h.1
    · exact eventsAll_caseDistinct children h.2 ev hev
    · trivial

theorem eventsAll_caseDistinct :
    ∀ ns : List Node, caseDistinctAll ns = true → ∀ ev ∈ eventsAll ns, ev.CaseDistinct
  | [], _, ev, hev => by simp [eventsAll] at hev
  | n :: ns, h, ev, hev => by
    simp only [caseDistinctAll, Bool.and_eq_true] at h
    simp only [eventsAll, List.mem_append] at hev
    rcases hev with hev | hev
    · exact events_caseDistinct n h.1 ev hev
    · exact eventsAll_caseDistinct ns h.2 ev hev

end

end Node

/-! ## Rendering a tree -/

/-- The default settings have their declared kinds. -/
theorem Config.typed_default : Config.Typed {} :=
  ⟨.inl rfl, .inl rfl, ⟨assetTags, rfl⟩, .inl rfl, rfl⟩

/-- A render, from settings of their declared kinds and of a tree whose tags are each given
attribute names distinct up to case, fails only with failures the render command reports: a
failure of the library's own families or a bad value. -/
theorem render_failures_reported {c : Config} (hc : c.Typed) {nodes : List Node}
    (hn : Node.caseDistinctAll nodes = true) {e : Failure}
    (h : (Document.create c >>= fun d => (d.renderAll nodes).2) = .error e) :
    Command.reported e = true := by
  rcases except_bind_eq_error.1 h with hcreate | ⟨d, hd, hrender⟩
  · exact Document.create_failure_reported hc hcreate
  obtain ⟨hcfg, htpl⟩ := Document.create_ok hd
  rw [Document.renderAll_result] at hrender
  rcases hx : d.exec (Node.eventsAll nodes) with ⟨d', _ | e'⟩ <;> rw [hx] at hrender
  · -- every node rendered, and only the finish can fail
    exact Document.finish_error hrender
  · cases hrender
    exact Document.exec_failure_reported (hcfg ▸ hc) htpl (Node.eventsAll_caseDistinct nodes hn)
      (by rw [hx])

/-- A grid column outside any grid is refused with a reported failure. -/
theorem stray_column_reported :
    Config.Typed {} ∧
      Node.caseDistinctAll [.tag "gridcolumn" [("name", .str "a")] []] = true ∧
      (Document.create {} >>= fun d => (d.renderAll [.tag "gridcolumn" [("name", .str "a")] []]).2) =
        .error (.outsideParent "gridcolumn" "GridColumn" "Grid") ∧
      Command.reported (.outsideParent "gridcolumn" "GridColumn" "Grid") = true := by
  have hn : Node.caseDistinctAll [.tag "gridcolumn" [("name", .str "a")] []] = true := by
    decide +kernel
  have h : (Document.create {} >>= fun d =>
      (d.renderAll [.tag "gridcolumn" [("name", .str "a")] []]).2) =
      .error (.outsideParent "gridcolumn" "GridColumn" "Grid") := by
    rfl
  exact ⟨Config.typed_default, hn, h, render_failures_reported Config.typed_default hn h⟩

/-- A grid given the page size twice, as `pageSize` and as `PAGESIZE`, validates the one written
last and carries the other over it: the text `x` is then compared with one, and the render fails
with a comparison of values of the wrong kind, a failure the render command does not report. -/
theorem colliding_page_size_unreported :
    Config.Typed {} ∧
      Node.caseDistinctAll
        [.tag "grid" [("name", .str "g"), ("pageSize", .str "x"), ("PAGESIZE", .str "2")] []] =
        false ∧
      (Document.create {} >>= fun d => (d.renderAll
        [.tag "grid" [("name", .str "g"), ("pageSize", .str "x"), ("PAGESIZE", .str "2")] []]).2) =
        .error (.unorderedWithInt "str") ∧
      Command.reported (.unorderedWithInt "str") = false ∧
      (Failure.unorderedWithInt "str").exceptionName = "TypeError" ∧
      (Failure.unorderedWithInt "str").message =
        "'<' not supported between instances of 'str' and 'int'" := by
  refine ⟨Config.typed_default, by decide +kernel, by rfl, rfl, rfl, ?_⟩
  decide

end UiTags
