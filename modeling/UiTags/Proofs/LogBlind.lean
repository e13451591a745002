import UiTags.Proofs.BorderAreas

/-!
# The log is never read

Every event adds lines to a document's log, and no event reads it. So two documents that agree
but for their logs go through every event alike: they fail alike, and after the event they
again agree but for their logs. A session is determined, up to its log, by where it starts
without its log.

Main results:

- `Document.step_congr`: one event keeps documents that agree but for their logs in step, with
  the same failure.
- `Document.exec_congr`: so does a run of events that stops at its first failure.
- `Document.reclaimsIn_congr`: whether a run starts an area at the position of an open area of
  its layout does not depend on the log.
-/

namespace UiTags
namespace Document

variable {d d' : Document}

/-- Documents agree but for their logs when every other field agrees. -/
theorem eraseLog_eq_iff :
    d.eraseLog = d'.eraseLog ↔
      d.config = d'.config ∧ d.ids = d'.ids ∧ d.frames = d'.frames ∧ d.out = d'.out ∧
        d.templates = d'.templates := by
  cases d
  cases d'
  simp [eraseLog]

/-! ## Starting a tag -/

/-- What a start checks before it opens a frame: the tag's definition, the parent it needs,
and its attributes, validated and then checked against the open frames. -/
def startChecks (frames : List Frame) (tag : String) (raw : Attrs) (hasBody : Bool) :
    Except Failure (TagDef × Attrs) := do
  let td ← definition tag
  parentCheck frames td
  let attrs ← Attrs.validate td.name td.display td.attrs raw
  let attrs ← checkStart frames td.name attrs hasBody
  pure (td, attrs)

/-- A start makes its checks on the open frames, then opens the frame. -/
theorem start_eq_checks (d : Document) (tag : String) (raw : Attrs) (hasBody : Bool) :
    d.start tag raw hasBody =
      (startChecks d.frames tag raw hasBody).map fun x => d.openFrame x.1 x.2 := by
  rw [start_eq, startChecks]
  simp only [bind, Except.bind]
  cases definition tag with
  | error e => rfl
  | ok td =>
    simp only
    cases parentCheck d.frames td with
    | error e => rfl
    | ok u =>
      simp only
      cases Attrs.validate td.name td.display td.attrs raw with
      | error e => rfl
      | ok a =>
        simp only
        cases checkStart d.frames td.name a hasBody <;> rfl

theorem openFrame_congr (h : d.eraseLog = d'.eraseLog) (td : TagDef) (attrs : Attrs) :
    (d.openFrame td attrs).eraseLog = (d'.openFrame td attrs).eraseLog := by
  obtain ⟨hc, hi, hf, ho, ht⟩ := eraseLog_eq_iff.1 h
  rw [eraseLog_openFrame, eraseLog_openFrame, eraseLog_eq_iff]
  simp [hc, hi, hf, ho, ht]

/-- The frames once a frame opened: the fresh frame on top of those that were open. -/
theorem frames_openFrame (d : Document) (td : TagDef) (attrs : Attrs) :
    (d.openFrame td attrs).frames =
      { tag := td.name, kind := td.frame, id := (openId d.ids td attrs).1, attrs } :: d.frames :=
  congrArg Document.frames (eraseLog_openFrame d td attrs)

/-! ## Writing, registering, emitting and settling -/

theorem write_congr (h : d.eraseLog = d'.eraseLog) (text : String) :
    (d.write text).eraseLog = (d'.write text).eraseLog := by
  obtain ⟨hc, hi, hf, ho, ht⟩ := eraseLog_eq_iff.1 h
  unfold write
  rw [hf]
  cases d'.frames <;> simp [eraseLog_eq_iff, hc, hi, ho, ht]

theorem register_congr (h : d.eraseLog = d'.eraseLog) (f : Frame) (k : FrameKind) :
    (d.register f k).eraseLog = (d'.register f k).eraseLog := by
  obtain ⟨hc, hi, hf, ho, ht⟩ := eraseLog_eq_iff.1 h
  rw [eraseLog_register, eraseLog_register, hf]
  split
  · simp [eraseLog_eq_iff, hc, hi, ho, ht]
  · exact h

/-- The output a frame gives reads the settings, the given templates and the depth, none of
which is the log. -/
theorem output_congr (h : d.eraseLog = d'.eraseLog) (f : Frame) : d.output f = d'.output f := by
  obtain ⟨hc, -, hf, -, ht⟩ := eraseLog_eq_iff.1 h
  simp only [output, depth, hc, hf, ht]

theorem emit_congr (h : d.eraseLog = d'.eraseLog) (f : Frame) :
    (d.emit f).1.eraseLog = (d'.emit f).1.eraseLog ∧ (d.emit f).2 = (d'.emit f).2 := by
  rw [emit_eq, emit_eq, output_congr h f]
  cases d'.output f with
  | ok o =>
    refine ⟨?_, rfl⟩
    rw [eraseLog_write_noteAll, eraseLog_write_noteAll]
    exact write_congr h o.text
  | error p => exact ⟨by simpa using h, rfl⟩

theorem settle_congr (h : d.eraseLog = d'.eraseLog) (f : Frame) :
    (d.settle f).1.eraseLog = (d'.settle f).1.eraseLog ∧ (d.settle f).2 = (d'.settle f).2 := by
  unfold settle
  -- every branch is taken on the closed frame alone
  rcases bodyless? f.tag with _ | msg <;> rcases hc : childOf? f.tag with _ | ⟨k, c, p⟩ <;>
    cases hb : Text.isBlankText f.content <;>
    simp only [Bool.not_true, Bool.not_false, Bool.and_true, Bool.and_false,
      Bool.false_eq_true, if_true, if_false]
  · -- a body that is not blank: a bound div refuses it, other tags emit
    by_cases hd : (f.tag == "div" && f.holds "bind") = true
    · simp only [hd, if_true]
      exact ⟨h, trivial⟩
    · simp only [hd]
      exact emit_congr h f
  · exact emit_congr h f
  · exact ⟨register_congr h f k, trivial⟩
  · exact ⟨register_congr h f k, trivial⟩
  · exact ⟨h, trivial⟩
  · exact emit_congr h f
  · exact ⟨h, trivial⟩
  · exact ⟨register_congr h f k, trivial⟩

/-! ## Closing a tag, and one event -/

theorem close_congr (h : d.eraseLog = d'.eraseLog) (tag : String) :
    (d.close tag).1.eraseLog = (d'.close tag).1.eraseLog ∧ (d.close tag).2 = (d'.close tag).2 := by
  have hf := (eraseLog_eq_iff.1 h).2.2.1
  unfold close
  cases definition tag with
  | error e => exact ⟨h, rfl⟩
  | ok td =>
    simp only
    rw [hf]
    cases d'.frames with
    | nil => exact ⟨h, rfl⟩
    | cons f rest =>
      simp only
      split
      · exact ⟨h, rfl⟩
      · -- the popped documents agree but for their logs
        obtain ⟨hc, hi, -, ho, ht⟩ := eraseLog_eq_iff.1 h
        refine settle_congr ?_ f
        rw [eraseLog_note, eraseLog_note, eraseLog_eq_iff]
        exact ⟨hc, hi, rfl, ho, ht⟩

/-- A close of the tag whose frame is innermost pops the frame and settles it. -/
theorem close_eq_settle {d : Document} {tag : String} {td : TagDef} {f : Frame}
    {rest : List Frame} (hl : TagDef.lookup tag = some td) (hf : d.frames = f :: rest)
    (ht : f.tag = td.name) : d.close tag = (d.popped f rest).settle f := by
  rcases close_cases d tag with ⟨e, -, hr⟩ | ⟨td', f', rest', hl', hf', -, h⟩
  · -- none of the refusals applies
    rcases hr with ⟨hl', -⟩ | ⟨td', hl', ⟨hf', -⟩ | ⟨f', rest', hf', hne, -⟩⟩
    · rw [hl] at hl'
      cases hl'
    · rw [hf] at hf'
      cases hf'
    · rw [hl] at hl'
      cases hl'
      rw [hf] at hf'
      cases hf'
      exact absurd ht hne
  · rw [hf] at hf'
    cases hf'
    exact h

/-- One event keeps documents that agree but for their logs in step. -/
theorem step_congr (h : d.eraseLog = d'.eraseLog) (ev : Event) :
    (d.step ev).1.eraseLog = (d'.step ev).1.eraseLog ∧ (d.step ev).2 = (d'.step ev).2 := by
  have hf := (eraseLog_eq_iff.1 h).2.2.1
  cases ev with
  | start tag raw hasBody =>
    unfold step
    simp only [start_eq_checks, hf]
    cases startChecks d'.frames tag raw hasBody with
    | error e => exact ⟨h, rfl⟩
    | ok x => exact ⟨openFrame_congr h x.1 x.2, rfl⟩
  | write text => exact ⟨write_congr h text, rfl⟩
  | close tag => exact close_congr h tag
  | finish =>
    have hfin : d.finish = d'.finish := by
      unfold finish
      rw [hf, (eraseLog_eq_iff.1 h).2.2.2.1]
    cases hd' : d'.finish with
    | ok html =>
      rw [step_finish_ok (hfin.trans hd'), step_finish_ok hd']
      exact ⟨h, rfl⟩
    | error e =>
      rw [step_finish_error (hfin.trans hd'), step_finish_error hd']
      exact ⟨h, rfl⟩

/-! ## Runs that stop at the first failure -/

/-- Run events in order until one fails: the document reached, and the failure that stopped the
run, if any. -/
def exec (d : Document) : List Event → Document × Option Failure
  | [] => (d, none)
  | ev :: evs =>
    match d.step ev with
    | (d', some e) => (d', some e)
    | (d', none) => exec d' evs

@[simp] theorem exec_nil (d : Document) : d.exec [] = (d, none) := rfl

theorem exec_cons (d : Document) (ev : Event) (evs : List Event) :
    d.exec (ev :: evs) =
      match d.step ev with
      | (d', some e) => (d', some e)
      | (d', none) => d'.exec evs := rfl

/-- A run that stops at its first failure, over events one after another. -/
theorem exec_append (d : Document) (evs evs' : List Event) :
    d.exec (evs ++ evs') =
      match d.exec evs with
      | (d', some e) => (d', some e)
      | (d', none) => d'.exec evs' := by
  induction evs generalizing d with
  | nil => rfl
  | cons ev evs ih =>
    rw [List.cons_append, exec_cons, exec_cons]
    rcases d.step ev with ⟨d₁, _ | e⟩
    · exact ih d₁
    · rfl

/-- A run of one event is the event. -/
theorem exec_singleton (d : Document) (ev : Event) : d.exec [ev] = d.step ev := by
  rw [exec_cons]
  rcases d.step ev with ⟨d₁, _ | e⟩ <;> rfl

/-- A run keeps documents that agree but for their logs in step. -/
theorem exec_congr (h : d.eraseLog = d'.eraseLog) (evs : List Event) :
    (d.exec evs).1.eraseLog = (d'.exec evs).1.eraseLog ∧ (d.exec evs).2 = (d'.exec evs).2 := by
  induction evs generalizing d d' with
  | nil => exact ⟨h, rfl⟩
  | cons ev evs ih =>
    obtain ⟨h₁, he⟩ := step_congr h ev
    rw [exec_cons, exec_cons]
    rcases hs : d.step ev with ⟨d₁, _ | e⟩ <;> rcases hs' : d'.step ev with ⟨d₁', _ | e'⟩ <;>
      rw [hs, hs'] at h₁ he <;> cases he
    · exact ih h₁
    · exact ⟨h₁, rfl⟩

/-! ## Areas started where an open area stands -/

theorem reclaims_congr (h : d.eraseLog = d'.eraseLog) (ev : Event) :
    d.reclaims ev = d'.reclaims ev := by
  obtain ⟨-, hi, hf, -, -⟩ := eraseLog_eq_iff.1 h
  cases ev with
  | start tag raw hasBody =>
    unfold reclaims
    simp only [start_eq_checks, hf]
    cases startChecks d'.frames tag raw hasBody with
    | error e => rfl
    | ok x =>
      simp only [Except.map, frames_openFrame, hi, hf]
  | write text => rfl
  | close tag => rfl
  | finish => rfl

theorem reclaimsIn_congr (h : d.eraseLog = d'.eraseLog) (evs : List Event) :
    reclaimsIn d evs = reclaimsIn d' evs := by
  induction evs generalizing d d' with
  | nil => rfl
  | cons ev evs ih =>
    simp only [reclaimsIn, reclaims_congr h ev, ih (step_congr h ev).1]

end Document
end UiTags
