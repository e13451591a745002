import UiTags.Tree

/-!
# Sessions of events

A host drives a document with events: a tag starts, text is written, a tag ends, the document
is finished. A session goes on after an event that fails, with the document that event left.
This module gives the events and the session's step and run, and says once what each event can
do to a document:

* a start either fails and leaves the document as it was, or pushes one fresh frame;
* a close either is refused (unknown tag, nothing open, another tag innermost) and leaves the
  document as it was, or pops the innermost frame and settles it; a failure after the pop
  changes nothing else;
* writing and settling never change which frames are open.

Main results:

- `stack_step`: an event keeps the stack of open frames, pushes one, or pops the innermost.
- `base_run`: while a run stays at least `k` frames deep, the `k` outermost frames stay as
  they were opened.
- `session_failures_atomic`: failed events change nothing beyond what the pop removed, and a
  counting session numbers the ids it draws `1, 2, …`, all distinct.
-/

namespace UiTags

/-- What the host reports to a document. -/
inductive Event where
  /-- A tag starts, with its supplied attributes and whether its body holds anything. -/
  | start (tag : String) (attrs : Attrs) (hasBody : Bool)
  /-- Text for the innermost open tag, or the document. -/
  | write (text : String)
  /-- A tag ends. -/
  | close (tag : String)
  /-- The document is finished. -/
  | finish

/-- A bind in `Except` succeeds exactly when both of its parts do. -/
theorem except_bind_eq_ok {ε α β : Type} {x : Except ε α} {f : α → Except ε β} {b : β} :
    x >>= f = .ok b ↔ ∃ a, x = .ok a ∧ f a = .ok b := by
  cases x <;> simp [bind, Except.bind]

namespace Frame

/-- A frame as it was opened: its tag, kind, id and attributes, with nothing registered or
written into it. -/
def opened (f : Frame) : Frame :=
  { tag := f.tag, kind := f.kind, id := f.id, attrs := f.attrs }

@[simp] theorem opened_tag (f : Frame) : f.opened.tag = f.tag := rfl

@[simp] theorem opened_kind (f : Frame) : f.opened.kind = f.kind := rfl

@[simp] theorem opened_id (f : Frame) : f.opened.id = f.id := rfl

@[simp] theorem opened_attrs (f : Frame) : f.opened.attrs = f.attrs := rfl

@[simp] theorem opened_opened (f : Frame) : f.opened.opened = f.opened := rfl

/-- Adding body text keeps how a frame was opened. -/
@[simp] theorem opened_body (f : Frame) (body : List String) :
    { f with body }.opened = f.opened := rfl

end Frame

namespace Document

/-! ## Steps and runs -/

/-- One event: the document the session goes on with, and the failure the event raised. A
start that fails and a finish leave the document as it was. -/
def step (d : Document) : Event → Document × Option Failure
  | .start tag attrs hasBody =>
    match d.start tag attrs hasBody with
    | .ok d' => (d', none)
    | .error e => (d, some e)
  | .write text => (d.write text, none)
  | .close tag => d.close tag
  | .finish =>
    match d.finish with
    | .ok _ => (d, none)
    | .error e => (d, some e)

theorem step_start_error {d : Document} {tag : String} {raw : Attrs} {hasBody : Bool}
    {e : Failure} (h : d.start tag raw hasBody = .error e) :
    d.step (.start tag raw hasBody) = (d, some e) := by
  unfold step
  simp only [h]

theorem step_start_ok {d d' : Document} {tag : String} {raw : Attrs} {hasBody : Bool}
    (h : d.start tag raw hasBody = .ok d') : d.step (.start tag raw hasBody) = (d', none) := by
  unfold step
  simp only [h]

@[simp] theorem step_write (d : Document) (text : String) :
    d.step (.write text) = (d.write text, none) := rfl

@[simp] theorem step_close (d : Document) (tag : String) : d.step (.close tag) = d.close tag :=
  rfl

theorem step_finish_ok {d : Document} {html : String} (h : d.finish = .ok html) :
    d.step .finish = (d, none) := by
  unfold step
  simp only [h]

theorem step_finish_error {d : Document} {e : Failure} (h : d.finish = .error e) :
    d.step .finish = (d, some e) := by
  unfold step
  simp only [h]

/-- Finishing changes nothing. -/
@[simp] theorem step_finish (d : Document) : (d.step .finish).1 = d := by
  cases h : d.finish with
  | ok html => rw [step_finish_ok h]
  | error e => rw [step_finish_error h]

/-- The document after a run of events, each handing the document it left to the next. -/
def run (d : Document) : List Event → Document
  | [] => d
  | ev :: evs => run (d.step ev).1 evs

@[simp] theorem run_nil (d : Document) : d.run [] = d := rfl

@[simp] theorem run_cons (d : Document) (ev : Event) (evs : List Event) :
    d.run (ev :: evs) = (d.step ev).1.run evs := rfl

theorem run_append (d : Document) (evs evs' : List Event) :
    d.run (evs ++ evs') = (d.run evs).run evs' := by
  induction evs generalizing d with
  | nil => rfl
  | cons ev evs ih => exact ih _

/-- A property that every event keeps holds after every run. -/
theorem run_invariant (P : Document → Prop) (hstep : ∀ d ev, P d → P (d.step ev).1)
    {d : Document} (hd : P d) (evs : List Event) : P (d.run evs) := by
  induction evs generalizing d with
  | nil => exact hd
  | cons ev evs ih => exact ih (hstep d ev hd)

/-- The open frames as they were opened, innermost first. -/
def stack (d : Document) : List Frame := d.frames.map Frame.opened

/-- The document without its log, which no event reads. -/
def eraseLog (d : Document) : Document := { d with log := [] }

@[simp] theorem eraseLog_note (d : Document) (level : LogLevel) (source : LogSource)
    (text : String) : (d.note level source text).eraseLog = d.eraseLog := rfl

@[simp] theorem eraseLog_noteAll (d : Document) (lines : List LogLine) :
    (d.noteAll lines).eraseLog = d.eraseLog := rfl

@[simp] theorem frames_note (d : Document) (level : LogLevel) (source : LogSource)
    (text : String) : (d.note level source text).frames = d.frames := rfl

@[simp] theorem frames_noteAll (d : Document) (lines : List LogLine) :
    (d.noteAll lines).frames = d.frames := rfl

@[simp] theorem ids_note (d : Document) (level : LogLevel) (source : LogSource)
    (text : String) : (d.note level source text).ids = d.ids := rfl

@[simp] theorem ids_noteAll (d : Document) (lines : List LogLine) :
    (d.noteAll lines).ids = d.ids := rfl

@[simp] theorem frames_eraseLog (d : Document) : d.eraseLog.frames = d.frames := rfl

@[simp] theorem ids_eraseLog (d : Document) : d.eraseLog.ids = d.ids := rfl

@[simp] theorem out_eraseLog (d : Document) : d.eraseLog.out = d.out := rfl

theorem depth_eq_length_stack (d : Document) : d.depth = (stack d).length := by
  simp [depth, stack]

/-! ## Starting a tag -/

/-- The check a child tag makes before anything else: an open frame of its parent's kind. -/
def parentCheck (frames : List Frame) (td : TagDef) : Except Failure Unit :=
  match childOf? td.name with
  | some (kind, child, parent) =>
    if (nearest? frames kind).isNone then .error (.outsideParent td.name child parent) else .ok ()
  | none => .ok ()

theorem parentCheck_eq_ok {frames : List Frame} {td : TagDef} {u : Unit} :
    parentCheck frames td = .ok u ↔
      ∀ k c p, childOf? td.name = some (k, c, p) → (nearest? frames k).isSome := by
  unfold parentCheck
  rcases childOf? td.name with _ | ⟨k, c, p⟩
  · simp
  · cases h : nearest? frames k <;> simp [h]

/-- A start is the lookup, the parent check, the validation and the checks taken together, in
that order, and then the frame opens. -/
theorem start_eq (d : Document) (tag : String) (raw : Attrs) (hasBody : Bool) :
    d.start tag raw hasBody = (do
      let td ← definition tag
      parentCheck d.frames td
      let attrs ← Attrs.validate td.name td.display td.attrs raw
      let attrs ← checkStart d.frames td.name attrs hasBody
      pure (d.openFrame td attrs)) := by
  unfold start parentCheck
  cases definition tag with
  | error e => rfl
  | ok td =>
    simp only [bind, Except.bind]
    rcases childOf? td.name with _ | ⟨k, c, p⟩
    · rfl
    · simp only
      cases (nearest? d.frames k).isNone <;> rfl

/-- A start succeeds exactly when every check passes; the document is then the one with the
frame opened. -/
theorem start_eq_ok {d d' : Document} {tag : String} {raw : Attrs} {hasBody : Bool} :
    d.start tag raw hasBody = .ok d' ↔
      ∃ td attrs₀ attrs, definition tag = .ok td ∧
        (∀ k c p, childOf? td.name = some (k, c, p) → (nearest? d.frames k).isSome) ∧
        Attrs.validate td.name td.display td.attrs raw = .ok attrs₀ ∧
        checkStart d.frames td.name attrs₀ hasBody = .ok attrs ∧
        d' = d.openFrame td attrs := by
  rw [start_eq]
  simp only [except_bind_eq_ok, parentCheck_eq_ok, pure, Except.pure, Except.ok.injEq]
  constructor
  · rintro ⟨td, htd, -, hparent, attrs₀, hv, attrs, hs, rfl⟩
    exact ⟨td, attrs₀, attrs, htd, hparent, hv, hs, rfl⟩
  · rintro ⟨td, attrs₀, attrs, htd, hparent, hv, hs, rfl⟩
    exact ⟨td, htd, (), hparent, attrs₀, hv, attrs, hs, rfl⟩

/-- The id a frame opens with, and the id source after it: the truthy given id, else a fresh
one drawn for a tag with an id prefix, else the empty id. -/
def openId (ids : IdSource) (td : TagDef) (attrs : Attrs) : Value × IdSource :=
  let given := (attrs.find? "id").getD .null
  if given.truthy then (given, ids)
  else match td.idPrefix with
    | some pre => (.str (ids.next pre).1, (ids.next pre).2)
    | none => (.str "", ids)

/-- Opening a frame pushes the fresh frame and takes its id from the id source; nothing else
changes but the log. -/
theorem eraseLog_openFrame (d : Document) (td : TagDef) (attrs : Attrs) :
    (d.openFrame td attrs).eraseLog =
      { d with ids := (openId d.ids td attrs).2,
               frames := { tag := td.name, kind := td.frame, id := (openId d.ids td attrs).1,
                           attrs } :: d.frames }.eraseLog := by
  unfold openFrame openId
  by_cases hg : ((attrs.find? "id").getD .null).truthy
  · simp only [hg, if_true]
    rfl
  · simp only [hg]
    cases td.idPrefix <;> rfl

/-- What a successful start does: it pushes one fresh frame for the tag's definition, with
the validated attributes, and draws its id. -/
theorem start_ok_eraseLog {d d' : Document} {tag : String} {raw : Attrs} {hasBody : Bool}
    (h : d.start tag raw hasBody = .ok d') :
    ∃ td attrs, TagDef.lookup tag = some td ∧
      d'.eraseLog =
        { d with ids := (openId d.ids td attrs).2,
                 frames := { tag := td.name, kind := td.frame, id := (openId d.ids td attrs).1,
                             attrs } :: d.frames }.eraseLog := by
  obtain ⟨td, -, attrs, htd, -, -, -, rfl⟩ := start_eq_ok.1 h
  refine ⟨td, attrs, ?_, eraseLog_openFrame d td attrs⟩
  unfold definition at htd
  cases hl : TagDef.lookup tag <;> simp_all

/-! ## Writing -/

@[simp] theorem ids_write (d : Document) (text : String) : (d.write text).ids = d.ids := by
  unfold write
  split <;> rfl

@[simp] theorem stack_write (d : Document) (text : String) :
    stack (d.write text) = stack d := by
  unfold write stack
  split <;> simp_all

/-- Log lines and written text do not meet. -/
theorem eraseLog_write_noteAll (d : Document) (lines : List LogLine) (text : String) :
    ((d.noteAll lines).write text).eraseLog = (d.write text).eraseLog := by
  unfold write
  simp only [frames_noteAll]
  split <;> rfl

/-! ## Closing a tag -/

/-- The document once its innermost frame `f` is popped, leaving `rest` open. -/
def popped (d : Document) (f : Frame) (rest : List Frame) : Document :=
  { d with frames := rest }.note .debug .frames s!"Closed {f.tag} frame {f.id.text}"

@[simp] theorem eraseLog_popped (d : Document) (f : Frame) (rest : List Frame) :
    (d.popped f rest).eraseLog = { d with frames := rest }.eraseLog := rfl

/-- The refusals of a close, made before anything changes: the tag is unknown, no frame is
open, or another tag's frame is innermost. -/
def CloseRefusal (d : Document) (tag : String) (e : Failure) : Prop :=
  (TagDef.lookup tag = none ∧ e = .unknownTag tag) ∨
  ∃ td, TagDef.lookup tag = some td ∧
    ((d.frames = [] ∧ e = .closeNothingOpen td.name) ∨
     ∃ f rest, d.frames = f :: rest ∧ f.tag ≠ td.name ∧ e = .closeMismatch td.name f.tag)

/-- A close is refused with the document as it was, or it pops the innermost frame, which
belongs to the tag, and settles it. -/
theorem close_cases (d : Document) (tag : String) :
    (∃ e, d.close tag = (d, some e) ∧ CloseRefusal d tag e) ∨
    ∃ td f rest, TagDef.lookup tag = some td ∧ d.frames = f :: rest ∧ f.tag = td.name ∧
      d.close tag = (d.popped f rest).settle f := by
  unfold close definition
  cases hl : TagDef.lookup tag with
  | none => exact .inl ⟨_, rfl, .inl ⟨hl, rfl⟩⟩
  | some td =>
    simp only
    cases hf : d.frames with
    | nil => exact .inl ⟨_, rfl, .inr ⟨td, hl, .inl ⟨hf, rfl⟩⟩⟩
    | cons f rest =>
      by_cases ht : f.tag = td.name
      · exact .inr ⟨td, f, rest, rfl, rfl, ht, by
        simp only
        rw [if_neg (by simp [ht])]
        rfl⟩
      · exact .inl ⟨_, by simp only [bne_iff_ne.2 ht, if_true], .inr ⟨td, hl, .inr ⟨f, rest, hf, ht, rfl⟩⟩⟩

/-- What a closed child frame adds to its parent: a column, a row or an area, each at the next
index of its list. -/
def adopt (f : Frame) (p : Frame) : Frame :=
  match f.tag with
  | "gridcolumn" =>
    let name := Output.attr f "name"
    { p with columns := p.columns ++
      [{ name := name.text, header := (Output.attrOr f "header" name).text,
         index := p.columns.length, attrs := f.attrs }] }
  | "gridrow" =>
    let data := match Output.attr f "data" with
      | .obj fs => fs
      | _ => []
    { p with rows := p.rows ++ [{ index := p.rows.length, data }] }
  | _ =>
    { p with areas := p.areas ++
      [{ id := f.id, index := p.areas.length, title := f.get? "title",
         position := f.get? "position", content := f.content, attrs := f.attrs }] }

@[simp] theorem opened_adopt (f p : Frame) : (adopt f p).opened = p.opened := by
  unfold adopt
  split <;> rfl

/-- Registering adds the child to the innermost open frame of its parent's kind, when there is
one. -/
theorem eraseLog_register (d : Document) (f : Frame) (k : FrameKind) :
    (d.register f k).eraseLog =
      if (nearest? d.frames k).isSome then
        { d with frames := updateNearest k (adopt f) d.frames }.eraseLog
      else d.eraseLog := by
  unfold register
  cases nearest? d.frames k with
  | none => rfl
  | some parent =>
    simp only [Option.isSome_some, if_true]
    unfold adopt
    -- the same three-way dispatch on the child's tag stands on both sides
    by_cases h₁ : f.tag = "gridcolumn"
    · simp only [h₁]
      rfl
    · by_cases h₂ : f.tag = "gridrow"
      · simp only [h₂]
        rfl
      · simp only
        rfl

/-- The output a closed frame gives, from the packaged templates or the given ones. -/
def output (d : Document) (f : Frame) : Except (List LogLine × Failure) Output :=
  if d.templates.isEmpty then Output.ofFrame d.config f
  else Output.withTemplates d.config d.templates d.depth f

theorem emit_eq (d : Document) (f : Frame) :
    d.emit f = match d.output f with
      | .ok o => ((d.noteAll o.log).write o.text, none)
      | .error (log, e) => (d.noteAll log, some e) := rfl

/-- Emitting writes the frame's output where text would go, or fails having written nothing. -/
theorem emit_cases (d : Document) (f : Frame) :
    (∃ e, (d.emit f).2 = some e ∧ (d.emit f).1.eraseLog = d.eraseLog) ∨
    ∃ o, d.output f = .ok o ∧ (d.emit f).2 = none ∧
      (d.emit f).1.eraseLog = (d.write o.text).eraseLog := by
  rw [emit_eq]
  cases d.output f with
  | error p => exact .inl ⟨p.2, rfl, rfl⟩
  | ok o => exact .inr ⟨o, rfl, rfl, eraseLog_write_noteAll d o.log o.text⟩

/-- Whether a frame's body is blank. -/
def blankBody (f : Frame) : Bool := Text.isBlankText f.content

/-- A closed frame refuses a body it cannot place: a tag that takes none, or a bound div. -/
def refusesBody (f : Frame) : Bool :=
  !blankBody f && ((bodyless? f.tag).isSome || f.tag == "div" && f.holds "bind")

/-- Settling a closed frame refuses a body it cannot place and changes nothing, registers a
child into its parent, or emits the frame's output. -/
theorem settle_cases (d : Document) (f : Frame) :
    (refusesBody f ∧ ∃ e, d.settle f = (d, some e)) ∨
    (refusesBody f = false ∧ ∃ k c p, childOf? f.tag = some (k, c, p) ∧
      d.settle f = (d.register f k, none)) ∨
    (refusesBody f = false ∧ childOf? f.tag = none ∧ d.settle f = d.emit f) := by
  unfold settle refusesBody blankBody
  rcases hb : bodyless? f.tag with _ | msg <;> rcases hc : childOf? f.tag with _ | ⟨k, c, p⟩
  · -- neither bodyless nor a child: only a bound div refuses its body
    by_cases hd : (f.tag == "div" && f.holds "bind" && !Text.isBlankText f.content) = true
    · refine .inl ⟨?_, .bindWithBody, by simp [hd]⟩
      simp only [Bool.and_eq_true, Bool.not_eq_true'] at hd
      simp [hd]
    · refine .inr (.inr ⟨?_, rfl, by simp [hd]⟩)
      simp only [Bool.and_eq_true, Bool.not_eq_true', not_and] at hd
      cases hbl : Text.isBlankText f.content <;> simp_all
  · -- the area: a child that is not bodyless, and no div
    have hdiv : f.tag ≠ "div" := by
      intro h
      simp [h, childOf?] at hc
    exact .inr (.inl ⟨by simp [hdiv], k, c, p, rfl, by simp⟩)
  · by_cases hl : Text.isBlankText f.content
    · exact .inr (.inr ⟨by simp [hl], rfl, by simp [hl]⟩)
    · exact .inl ⟨by simp [hl], .bodyNotAllowed f.tag msg, by simp [hl]⟩
  · by_cases hl : Text.isBlankText f.content
    · exact .inr (.inl ⟨by simp [hl], k, c, p, rfl, by simp [hl]⟩)
    · exact .inl ⟨by simp [hl], .bodyNotAllowed f.tag msg, by simp [hl]⟩

/-! ## The stack of open frames -/

theorem stack_eq_of_eraseLog {d d' : Document} (h : d.eraseLog = d'.eraseLog) :
    stack d = stack d' := by
  have := congrArg Document.frames h
  simp only [frames_eraseLog] at this
  simp [stack, this]

/-- Adding a child to a frame keeps how every frame was opened. -/
theorem map_opened_updateNearest (k : FrameKind) (f : Frame) (fs : List Frame) :
    (updateNearest k (adopt f) fs).map Frame.opened = fs.map Frame.opened := by
  induction fs with
  | nil => rfl
  | cons g gs ih =>
    unfold updateNearest
    split <;> simp [ih]

@[simp] theorem stack_register (d : Document) (f : Frame) (k : FrameKind) :
    stack (d.register f k) = stack d := by
  have h := eraseLog_register d f k
  split at h
  · rw [stack_eq_of_eraseLog h]
    exact map_opened_updateNearest k f d.frames
  · exact stack_eq_of_eraseLog h

@[simp] theorem stack_emit (d : Document) (f : Frame) : stack (d.emit f).1 = stack d := by
  rcases emit_cases d f with ⟨-, -, h⟩ | ⟨o, -, -, h⟩
  · exact stack_eq_of_eraseLog h
  · rw [stack_eq_of_eraseLog h, stack_write]

/-- Settling a closed frame keeps the stack: a parent gains a child, or the innermost frame
or the document gains text. -/
@[simp] theorem stack_settle (d : Document) (f : Frame) : stack (d.settle f).1 = stack d := by
  rcases settle_cases d f with ⟨-, e, h⟩ | ⟨-, k, c, p, -, h⟩ | ⟨-, -, h⟩ <;> rw [h]
  · exact stack_register d f k
  · exact stack_emit d f

/-- What one event does to the stack of open frames: nothing, push one frame, or pop the
innermost. -/
theorem stack_step (d : Document) (ev : Event) :
    stack (d.step ev).1 = stack d ∨ (∃ f, stack (d.step ev).1 = f :: stack d) ∨
      ∃ f, stack d = f :: stack (d.step ev).1 := by
  cases ev with
  | start tag raw hasBody =>
    cases h : d.start tag raw hasBody with
    | error e =>
      rw [step_start_error h]
      exact .inl rfl
    | ok d' =>
      obtain ⟨td, attrs, -, h'⟩ := start_ok_eraseLog h
      rw [step_start_ok h]
      exact .inr (.inl ⟨_, stack_eq_of_eraseLog h'⟩)
  | write text => exact .inl (stack_write d text)
  | close tag =>
    rw [step_close]
    rcases close_cases d tag with ⟨e, h, -⟩ | ⟨td, f, rest, -, hf, -, h⟩
    · rw [h]
      exact .inl rfl
    · refine .inr (.inr ⟨f.opened, ?_⟩)
      rw [h, stack_settle, stack_eq_of_eraseLog (eraseLog_popped d f rest)]
      simp [stack, hf]
  | finish => exact .inl (by rw [step_finish])

/-- The `k` outermost open frames as they were opened. -/
def base (d : Document) (k : Nat) : List Frame := (stack d).drop (d.depth - k)

/-- An event that leaves at least `k` frames open, from a document with at least `k`, keeps
the `k` outermost as they were opened. -/
theorem base_step {d : Document} {ev : Event} {k : Nat} (hk : k ≤ d.depth)
    (hk' : k ≤ (d.step ev).1.depth) : (d.step ev).1.base k = d.base k := by
  unfold base
  rw [depth_eq_length_stack] at hk hk' ⊢
  rw [depth_eq_length_stack]
  rcases stack_step d ev with h | ⟨f, h⟩ | ⟨f, h⟩
  · rw [h]
  · rw [h, List.length_cons, Nat.succ_sub hk, List.drop_succ_cons]
  · rw [h, List.length_cons, Nat.succ_sub hk', List.drop_succ_cons]

/-- A run that never leaves fewer than `k` frames open keeps the `k` outermost as they were
opened. -/
theorem base_run {d : Document} {evs : List Event} {k : Nat}
    (h : ∀ n, k ≤ (d.run (evs.take n)).depth) : (d.run evs).base k = d.base k := by
  induction evs generalizing d with
  | nil => rfl
  | cons ev evs ih =>
    have h₀ : k ≤ d.depth := h 0
    have h₁ : k ≤ (d.step ev).1.depth := h 1
    rw [run_cons, ih (fun n => h (n + 1)), base_step h₀ h₁]

/-- While a run keeps at least as many frames open as at its start, the frames open at the
start stay at the bottom of the stack, as they were opened. -/
theorem stack_suffix_run {d : Document} {evs : List Event}
    (h : ∀ n, d.depth ≤ (d.run (evs.take n)).depth) : stack d <:+ stack (d.run evs) := by
  have hb := base_run h
  unfold base at hb
  rw [Nat.sub_self, List.drop_zero] at hb
  rw [← hb]
  exact List.drop_suffix _ _

/-- Every frame open after a step was open before it, or is the frame a start just opened: the
tag's definition, with the attributes validated and then checked. -/
theorem mem_stack_step {d : Document} {ev : Event} {f : Frame} (hf : f ∈ stack (d.step ev).1) :
    f ∈ stack d ∨ ∃ tag raw hasBody td attrs₀ attrs, ev = .start tag raw hasBody ∧
      definition tag = .ok td ∧ Attrs.validate td.name td.display td.attrs raw = .ok attrs₀ ∧
      checkStart d.frames td.name attrs₀ hasBody = .ok attrs ∧
      f = { tag := td.name, kind := td.frame, id := (openId d.ids td attrs).1, attrs } := by
  cases ev with
  | start tag raw hasBody =>
    cases h : d.start tag raw hasBody with
    | error e =>
      rw [step_start_error h] at hf
      exact .inl hf
    | ok d' =>
      obtain ⟨td, attrs₀, attrs, htd, -, hv, hc, rfl⟩ := start_eq_ok.1 h
      rw [step_start_ok h, stack_eq_of_eraseLog (eraseLog_openFrame d td attrs)] at hf
      simp only [stack, List.map_cons, List.mem_cons] at hf
      rcases hf with rfl | hf
      · exact .inr ⟨tag, raw, hasBody, td, attrs₀, attrs, rfl, htd, hv, hc, rfl⟩
      · exact .inl hf
  | write text =>
    rw [step_write, stack_write] at hf
    exact .inl hf
  | close tag =>
    rw [step_close] at hf
    left
    rcases close_cases d tag with ⟨e, h, -⟩ | ⟨td, g, rest, -, hg, -, h⟩
    · rwa [h] at hf
    · rw [h, stack_settle, stack_eq_of_eraseLog (eraseLog_popped d g rest)] at hf
      simp only [stack, hg, List.map_cons, List.mem_cons] at hf ⊢
      exact .inr hf
  | finish =>
    rw [step_finish] at hf
    exact .inl hf

/-- **Open frames come from starts.** Every frame open after a run was open at its start, or was
opened by one of its starts, as that start opened it: after the events `pre` before it, the tag's
definition with the attributes validated and checked against the frames then open. -/
theorem mem_stack_run {d : Document} {evs : List Event} {f : Frame}
    (hf : f ∈ stack (d.run evs)) :
    f ∈ stack d ∨ ∃ pre tag raw hasBody td attrs₀ attrs, pre ++ [.start tag raw hasBody] <+: evs ∧
      definition tag = .ok td ∧ Attrs.validate td.name td.display td.attrs raw = .ok attrs₀ ∧
      checkStart (d.run pre).frames td.name attrs₀ hasBody = .ok attrs ∧
      f = { tag := td.name, kind := td.frame, id := (openId (d.run pre).ids td attrs).1,
            attrs } := by
  induction evs generalizing d with
  | nil => exact .inl hf
  | cons ev evs ih =>
    rw [run_cons] at hf
    rcases ih hf with hf | ⟨pre, tag, raw, hasBody, td, attrs₀, attrs, hpre, hrest⟩
    · -- open after the first step: open before it, or opened by it
      rcases mem_stack_step hf with hf | ⟨tag, raw, hasBody, td, attrs₀, attrs, rfl, hrest⟩
      · exact .inl hf
      · exact .inr ⟨[], tag, raw, hasBody, td, attrs₀, attrs, by simp, hrest⟩
    · -- opened by a later start, after the first event and `pre`
      refine .inr ⟨ev :: pre, tag, raw, hasBody, td, attrs₀, attrs, ?_, by rwa [run_cons]⟩
      simpa using hpre

/-! ## Failures -/

theorem ids_eq_of_eraseLog {d d' : Document} (h : d.eraseLog = d'.eraseLog) : d.ids = d'.ids := by
  simpa using congrArg Document.ids h

/-- A failure while settling a closed frame changes nothing but the log. -/
theorem settle_failure {d : Document} {f : Frame} {e : Failure} (h : (d.settle f).2 = some e) :
    (d.settle f).1.eraseLog = d.eraseLog := by
  rcases settle_cases d f with ⟨-, e', h'⟩ | ⟨-, k, c, p, -, h'⟩ | ⟨-, -, h'⟩
  · rw [h']
  · rw [h'] at h
    cases h
  · rw [h'] at h ⊢
    rcases emit_cases d f with ⟨-, -, h''⟩ | ⟨o, -, hnone, -⟩
    · exact h''
    · rw [hnone] at h
      cases h

@[simp] theorem ids_settle (d : Document) (f : Frame) : (d.settle f).1.ids = d.ids := by
  rcases settle_cases d f with ⟨-, e, h⟩ | ⟨-, k, c, p, -, h⟩ | ⟨-, -, h⟩
  · rw [h]
  · rw [h]
    have hr := eraseLog_register d f k
    split at hr <;> rw [ids_eq_of_eraseLog hr]
  · rw [h]
    rcases emit_cases d f with ⟨-, -, h'⟩ | ⟨o, -, -, h'⟩
    · exact ids_eq_of_eraseLog h'
    · rw [ids_eq_of_eraseLog h', ids_write]

@[simp] theorem ids_close (d : Document) (tag : String) : (d.close tag).1.ids = d.ids := by
  rcases close_cases d tag with ⟨e, h, -⟩ | ⟨td, f, rest, -, -, -, h⟩ <;> rw [h]
  rw [ids_settle]
  rfl

/-- A close that fails was refused and changed nothing, or it popped the innermost frame and
changed nothing else; one that succeeds pops the innermost frame too, keeping every other frame
as it was opened. -/
theorem close_atomic (d : Document) (tag : String) :
    (∃ e, d.close tag = (d, some e) ∧ CloseRefusal d tag e) ∨
    ∃ f rest, d.frames = f :: rest ∧ stack (d.close tag).1 = rest.map Frame.opened ∧
      ∀ e, (d.close tag).2 = some e →
        (d.close tag).1.eraseLog = { d with frames := rest }.eraseLog := by
  rcases close_cases d tag with hr | ⟨td, f, rest, -, hf, -, h⟩
  · exact .inl hr
  · refine .inr ⟨f, rest, hf, ?_, fun e he => ?_⟩
    · rw [h, stack_settle, stack_eq_of_eraseLog (eraseLog_popped d f rest)]
      rfl
    · rw [h] at he ⊢
      rw [settle_failure he, eraseLog_popped]

/-! ## Element ids drawn by a session -/

/-- The id an event draws, with the prefix it is drawn for: a start that opens a frame for a
tag with an id prefix, and gives it no truthy id, draws the id that frame opens with. -/
def drawn (d : Document) : Event → Option (String × Value)
  | .start tag raw hasBody =>
    match d.start tag raw hasBody, (TagDef.lookup tag).bind (·.idPrefix) with
    | .ok d', some pre =>
      match d'.frames with
      | f :: _ => if ((f.attrs.find? "id").getD .null).truthy then none else some (pre, f.id)
      | [] => none
    | _, _ => none
  | _ => none

/-- The ids a run of events draws, in order. -/
def drawnIds (d : Document) : List Event → List (String × Value)
  | [] => []
  | ev :: evs => (d.drawn ev).toList ++ drawnIds (d.step ev).1 evs

/-- One event under a counter: it draws at most one id, numbered one past the counter, and
moves the counter past it. -/
theorem drawn_counter {d : Document} {n : Nat} (hd : d.ids = .counter n) (ev : Event) :
    (d.step ev).1.ids = .counter (n + (d.drawn ev).toList.length) ∧
      ∀ p ∈ d.drawn ev, p.2 = .str (p.1 ++ "_" ++ toString (n + 1)) := by
  cases ev with
  | start tag raw hasBody =>
    cases h : d.start tag raw hasBody with
    | error e =>
      unfold drawn
      simp [step_start_error h, h, hd]
    | ok d' =>
      obtain ⟨td, attrs, hl, h'⟩ := start_ok_eraseLog h
      have hids := ids_eq_of_eraseLog h'
      have hframes := congrArg Document.frames h'
      simp only [frames_eraseLog] at hframes
      have htext (s : String) : toString s = s := rfl
      rw [step_start_ok h, hids]
      unfold openId
      by_cases hg : ((attrs.find? "id").getD .null).truthy
      · have hnone : d.drawn (.start tag raw hasBody) = none := by
          unfold drawn
          simp only [h, hl, Option.bind_some]
          cases td.idPrefix <;> simp [hg, hframes]
        simp [hg, hd, hnone]
      · cases hp : td.idPrefix with
        | none =>
          have hnone : d.drawn (.start tag raw hasBody) = none := by
            unfold drawn
            simp [h, hl, hp]
          simp [hg, hd, hnone]
        | some pre =>
          have hsome : d.drawn (.start tag raw hasBody) =
              some (pre, .str (pre ++ "_" ++ toString (n + 1))) := by
            unfold drawn
            simp [h, hl, hp, hframes, openId, hg, hd, IdSource.next, htext]
          simp [hg, hd, hsome, IdSource.next, htext]
  | write text => unfold drawn; simp [hd]
  | close tag => unfold drawn; simp [hd]
  | finish => unfold drawn; simp [hd]

/-- Under a counter at `n`, a run draws its ids numbered `n + 1, n + 2, …` in order, each
after its own prefix, and leaves the counter at the last of them. -/
theorem drawnIds_counter {d : Document} {n : Nat} (hd : d.ids = .counter n) (evs : List Event) :
    ∃ pres : List String,
      drawnIds d evs = pres.mapIdx (fun j pre => (pre, .str (pre ++ "_" ++ toString (n + j + 1)))) ∧
      (d.run evs).ids = .counter (n + pres.length) := by
  induction evs generalizing d n with
  | nil => exact ⟨[], rfl, by simpa using hd⟩
  | cons ev evs ih =>
    obtain ⟨hids, hid⟩ := drawn_counter hd ev
    cases hdr : d.drawn ev with
    | none =>
      rw [hdr, Option.toList_none, List.length_nil, Nat.add_zero] at hids
      obtain ⟨pres, hpres, hrun⟩ := ih hids
      exact ⟨pres, by rw [drawnIds, hdr, Option.toList_none, List.nil_append, hpres], hrun⟩
    | some p =>
      obtain ⟨pre, id⟩ := p
      rw [hdr, Option.toList_some, List.length_singleton] at hids
      have hp : id = .str (pre ++ "_" ++ toString (n + 1)) := hid (pre, id) (by rw [hdr]; rfl)
      obtain ⟨pres, hpres, hrun⟩ := ih hids
      refine ⟨pre :: pres, ?_, ?_⟩
      · rw [drawnIds, hdr, Option.toList_some, List.singleton_append, hpres, List.mapIdx_cons, hp]
        congr 2
        funext j pre
        have hj : n + 1 + j + 1 = n + (j + 1) + 1 := by omega
        rw [hj]
      · rw [run_cons, hrun, List.length_cons]
        congr 1
        omega

/-- An id numbered after an underscore gives its number back, whatever its prefix. -/
theorem numbered_inj {pre pre' : String} {i j : Nat}
    (h : pre ++ "_" ++ toString i = pre' ++ "_" ++ toString j) : i = j := by
  have digits (m : Nat) : ∀ c ∈ (toString m).toList.reverse, (c != '_') = true := by
    intro c hc
    have hc' : c ∈ Nat.toDigits 10 m := by
      simpa [Nat.toString_eq_repr, Nat.toList_repr] using hc
    have : c ≠ '_' := fun hu => Nat.underscore_not_in_toDigits (hu ▸ hc')
    simpa using this
  have last (s : String) (m : Nat) :
      (s ++ "_" ++ toString m).toList.reverse.takeWhile (· != '_') = (toString m).toList.reverse := by
    simp only [String.toList_append, List.reverse_append, List.append_assoc]
    rw [List.takeWhile_append_of_pos (digits m)]
    simp
  have h' := congrArg (fun t : String => t.toList.reverse.takeWhile (· != '_')) h
  simp only [last] at h'
  have hs : Nat.toDigits 10 i = Nat.toDigits 10 j := by
    simpa [Nat.toString_eq_repr, Nat.toList_repr] using h'
  rw [← Nat.ofDigitChars_ten_toDigits (n := i), hs, Nat.ofDigitChars_ten_toDigits]

/-- Ids numbered by their place in the list are pairwise distinct. -/
theorem nodup_numbered (n : Nat) (pres : List String) :
    ((pres.mapIdx fun j pre => (pre, Value.str (pre ++ "_" ++ toString (n + j + 1)))).map
      Prod.snd).Nodup := by
  induction pres generalizing n with
  | nil => simp
  | cons pre pres ih =>
    rw [List.mapIdx_cons, List.map_cons, List.nodup_cons]
    refine ⟨?_, ?_⟩
    · simp only [List.mem_map, List.mem_mapIdx, not_exists, not_and]
      rintro _ ⟨j, hj, rfl⟩ heq
      simp only [Value.str.injEq] at heq
      have := numbered_inj heq
      omega
    · have hfun : (fun j pre => (pre, Value.str (pre ++ "_" ++ toString (n + (j + 1) + 1)))) =
          (fun j pre => (pre, Value.str (pre ++ "_" ++ toString (n + 1 + j + 1)))) := by
        funext j pre
        have hj : n + (j + 1) + 1 = n + 1 + j + 1 := by omega
        rw [hj]
      rw [hfun]
      exact ih (n + 1)

/-! ## Failed events change nothing -/

/-- The events of a session are atomic. A start that fails leaves the document as it was. A
close refused by the tag lookup or the pop leaves it as it was; any other close pops exactly the
innermost frame, keeps every other frame as it was opened, and if it then fails changes nothing
else. A finish changes nothing. And a session counting from zero numbers the ids it draws
`<prefix>_1, <prefix>_2, …` in the order of the starts that draw them, all distinct. -/
theorem session_failures_atomic :
    (∀ (d : Document) tag raw hasBody e, d.start tag raw hasBody = .error e →
      d.step (.start tag raw hasBody) = (d, some e)) ∧
    (∀ (d : Document) tag,
      (∃ e, d.step (.close tag) = (d, some e) ∧ CloseRefusal d tag e) ∨
      ∃ f rest, d.frames = f :: rest ∧ stack (d.step (.close tag)).1 = rest.map Frame.opened ∧
        ∀ e, (d.step (.close tag)).2 = some e →
          (d.step (.close tag)).1.eraseLog = { d with frames := rest }.eraseLog) ∧
    (∀ d : Document, (d.step .finish).1 = d) ∧
    (∀ d : Document, d.ids = .counter 0 → ∀ evs, ∃ pres : List String,
      drawnIds d evs = pres.mapIdx (fun j pre => (pre, .str (pre ++ "_" ++ toString (j + 1)))) ∧
      ((drawnIds d evs).map Prod.snd).Nodup) := by
  refine ⟨fun d tag raw hasBody e h => step_start_error h, fun d tag => close_atomic d tag,
    step_finish, fun d hd evs => ?_⟩
  obtain ⟨pres, hpres, -⟩ := drawnIds_counter hd evs
  simp only [Nat.zero_add] at hpres
  refine ⟨pres, hpres, ?_⟩
  rw [hpres]
  simpa using nodup_numbered 0 pres

/-- A fresh counting document: its ids start from zero, so a pod and a div opened in turn
draw ids numbered one and two. -/
theorem counting_session_ids :
    ({ config := {}, ids := .counter 0 } : Document).ids = .counter 0 ∧
    ∃ pres : List String,
      drawnIds { config := {}, ids := .counter 0 }
          [.start "pod" [] false, .start "div" [] false, .close "div", .close "pod"] =
        pres.mapIdx (fun j pre => (pre, .str (pre ++ "_" ++ toString (j + 1)))) ∧
      ((drawnIds { config := {}, ids := .counter 0 }
          [.start "pod" [] false, .start "div" [] false, .close "div", .close "pod"]).map
        Prod.snd).Nodup :=
  ⟨rfl, session_failures_atomic.2.2.2 _ rfl _⟩

end Document
end UiTags
