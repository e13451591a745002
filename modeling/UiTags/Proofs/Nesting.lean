import UiTags.Proofs.RenderFailures

/-!
# Nesting of a rendered tree

Rendering a tag starts it, renders its children and ends it. Whatever the tree, a node that
renders without failure leaves the stack of open frames as it found it: the frames opened inside
it are all closed again, and the frames beneath keep how they were opened (they may gain body
text or children). So when a tag ends, its own frame is the innermost one and its name is
known, and the end is never refused: it pops the frame and settles it.

A whole document rendered from no open frame therefore never fails for nesting except where a
child tag starts outside its parent or a closed tag refuses its body: never because a tag is
closed with nothing open or with another tag innermost, never because tags are left open at the
end, and never because the name at the end is unknown.

Main results:

- `Document.renderNode_stack`: a node that renders leaves the stack as it found it.
- `Document.close_after_children`: the end of a tag whose children rendered pops its own frame.
- `Document.renderNode_nesting`: rendering fails for nesting only by a misplaced child or a
  refused body.
- `Document.rendering_keeps_nesting`: all of it, for one node and for a whole document.
-/

namespace UiTags

/-! ## Failures by where they arise -/

namespace Failure

/-- A failure of the settings or of the templates: the only failures a closed frame's output
can give. -/
def OfOutput : Failure → Prop
  | .settingNotText .. | .settingNotSequence _ | .settingTagNotText .. | .template _ => True
  | _ => False

/-- The failures that report nesting, as they can arise while a tree renders: a child tag
outside its parent, or a body its tag refuses. -/
def NestingByTree (e : Failure) : Prop :=
  e.kind = .invalidNesting → (∃ tag child parent, e = .outsideParent tag child parent) ∨
    ∃ tag msg, e = .bodyNotAllowed tag msg

theorem OfOutput.kind_ne {e : Failure} (h : e.OfOutput) : e.kind ≠ .invalidNesting := by
  cases e
  case settingNotText | settingNotSequence | settingTagNotText => simp [kind]
  case template err =>
    -- a template failure is a value error when reported, else a template error
    rw [kind]
    split <;> simp
  all_goals simp [OfOutput] at h

theorem nestingByTree_of_kind_ne {e : Failure} (h : e.kind ≠ .invalidNesting) :
    e.NestingByTree :=
  fun hk => absurd hk h

/-- A failure that can arise while a tree renders is none of the refusals of an end or of the
document's finish: those report nesting, and are neither a misplaced child nor a refused body. -/
theorem NestingByTree.not_refused {e : Failure} (h : e.NestingByTree) :
    (∀ tag, e ≠ .closeNothingOpen tag) ∧ (∀ tag other, e ≠ .closeMismatch tag other) ∧
      ∀ tags, e ≠ .unclosed tags := by
  refine ⟨?_, ?_, ?_⟩
  · rintro tag rfl
    rcases h rfl with ⟨_, _, _, ⟨⟩⟩ | ⟨_, _, ⟨⟩⟩
  · rintro tag other rfl
    rcases h rfl with ⟨_, _, _, ⟨⟩⟩ | ⟨_, _, ⟨⟩⟩
  · rintro tags rfl
    rcases h rfl with ⟨_, _, _, ⟨⟩⟩ | ⟨_, _, ⟨⟩⟩

end Failure

/-! ## What a closed frame's output can fail on -/

/-- A failure mapped in `Except` comes from a failure before the map. -/
theorem mapError_eq_error {ε ε' α : Type} {x : Except ε α} {g : ε → ε'} {e' : ε'} :
    x.mapError g = .error e' ↔ ∃ e, x = .error e ∧ g e = e' := by
  cases x <;> simp [Except.mapError]

namespace Config

variable {c : Config} {e : Failure}

theorem base_error {kind : Option String} {src : Value} {fallback : String}
    (h : base kind src fallback = .error e) : e.OfOutput := by
  unfold base at h
  split at h
  · cases h
    trivial
  · cases h
  · split at h <;> cases h
    trivial

theorem importTags_error (h : c.importTags = .error e) : e.OfOutput := by
  unfold importTags at h
  rcases except_bind_eq_error.1 h with h | ⟨tags, -, h⟩
  · unfold itemsOf at h
    split at h <;> cases h
    trivial
  · split at h <;> cases h
    trivial

end Config

namespace Assets

variable {c : Config} {f : Frame} {e : Failure}

theorem cssBase_error (h : cssBase c f = .error e) : e.OfOutput := by
  unfold cssBase at h
  split at h
  · cases h
  · exact Config.base_error h

theorem scriptBase_error (h : scriptBase c f = .error e) : e.OfOutput := by
  unfold scriptBase at h
  split at h
  · cases h
  · exact Config.base_error h

theorem plan_error (h : plan c f = .error e) : e.OfOutput := by
  unfold plan at h
  rcases except_bind_eq_error.1 h with h | ⟨_, -, h⟩
  · exact cssBase_error h
  rcases except_bind_eq_error.1 h with h | ⟨_, -, h⟩
  · exact scriptBase_error h
  rcases except_bind_eq_error.1 h with h | ⟨_, -, h⟩
  · unfold tags at h
    split at h
    · cases h
    · exact Config.importTags_error h
  · cases h

end Assets

namespace Output

variable {c : Config} {f : Frame} {e : Failure}

theorem markupOf_error (h : markupOf c f = .error e) : e.OfOutput := by
  unfold markupOf at h
  split at h <;> try cases h
  rcases except_bind_eq_error.1 h with h | ⟨_, -, h⟩
  · exact Assets.plan_error h
  · cases h

theorem scriptOf_error (h : scriptOf c f = .error e) : e.OfOutput := by
  unfold scriptOf at h
  split at h
  case h_5 =>
    dsimp only at h
    split at h <;> cases h
  case h_7 =>
    -- only an asset import reads settings for its script
    rcases except_bind_eq_error.1 h with h | ⟨_, -, h⟩
    · exact Assets.cssBase_error h
    rcases except_bind_eq_error.1 h with h | ⟨_, -, h⟩
    · exact Assets.scriptBase_error h
    · cases h
  all_goals cases h

end Output

namespace Fragment

variable {c : Config} {f : Frame} {e : Failure}

theorem markup?_error {name : String} {names : Except Failure Template.Names}
    (h : markup? c f = some (name, names)) (he : names = .error e) : e.OfOutput := by
  unfold markup? at h
  split at h <;> cases h <;> try cases he
  · rcases hl : layout (LayoutView.ofFrame f) with err | ns <;> rw [hl] at he <;> cases he
    trivial
  · rcases hp : Assets.plan c f with err | p <;> rw [hp] at he <;> cases he
    exact Assets.plan_error hp

theorem script?_error {wired : Bool} {proxyClass : Value} {name : String}
    {names : Except Failure Template.Names} (h : script? c f wired proxyClass = some (name, names))
    (he : names = .error e) : e.OfOutput := by
  unfold script? at h
  split at h
  case h_7 =>
    cases h
    rcases except_bind_eq_error.1 he with he | ⟨_, -, he⟩
    · exact Assets.cssBase_error he
    rcases except_bind_eq_error.1 he with he | ⟨_, -, he⟩
    · exact Assets.scriptBase_error he
    · cases he
  case h_3 | h_4 =>
    split at h <;> cases h
    cases he
  case h_5 =>
    dsimp only at h
    split at h <;> cases h
    cases he
  all_goals cases h <;> cases he

end Fragment

namespace Output

variable {c : Config} {f : Frame} {e : Failure} {log : List LogLine}

theorem ofFrame_error (h : ofFrame c f = .error (log, e)) : e.OfOutput := by
  unfold ofFrame at h
  rcases except_bind_eq_error.1 h with h | ⟨⟨_, markupLog⟩, -, h⟩
  · obtain ⟨e', hm, he⟩ := mapError_eq_error.1 h
    cases he
    exact markupOf_error hm
  dsimp only at h
  rcases except_bind_eq_error.1 h with h | ⟨⟨_, _⟩, -, h⟩
  · obtain ⟨e', hs, he⟩ := mapError_eq_error.1 h
    cases he
    exact scriptOf_error hs
  · cases h

/-- A fragment is written from a given template when its template is replaced, else natively;
it fails by its names or by the template. -/
theorem fragment_error {given : List (String × String)} {holders : Nat}
    {opt : Option (String × Except Failure Template.Names)} {native : String}
    (hopt : ∀ name names e', opt = some (name, names) → names = .error e' → e'.OfOutput)
    (h : (match opt with
      | some (name, names) =>
        if Fragment.replaced given name = true then
          (do (Template.render (Fragment.library given) name (← names)
            (Template.Depth.fragment + holders)).mapError Failure.template)
        else Except.ok native
      | none => Except.ok native) = .error e) : e.OfOutput := by
  split at h
  · rename_i name names
    split at h
    · rcases except_bind_eq_error.1 h with h | ⟨_, -, h⟩
      · exact hopt name names e rfl h
      · obtain ⟨err, -, rfl⟩ := mapError_eq_error.1 h
        trivial
    · cases h
  · cases h

theorem withTemplates_error {given : List (String × String)} {holders : Nat}
    (h : withTemplates c given holders f = .error (log, e)) : e.OfOutput := by
  unfold withTemplates at h
  rcases except_bind_eq_error.1 h with h | ⟨⟨_, markupLog⟩, -, h⟩
  · obtain ⟨e', hm, he⟩ := mapError_eq_error.1 h
    cases he
    exact markupOf_error hm
  dsimp only at h
  rcases except_bind_eq_error.1 h with h | ⟨_, -, h⟩
  · obtain ⟨e', hm, he⟩ := mapError_eq_error.1 h
    cases he
    exact fragment_error (fun _ _ _ hfrag he' => Fragment.markup?_error hfrag he') hm
  rcases except_bind_eq_error.1 h with h | ⟨⟨_, scriptLog⟩, -, h⟩
  · obtain ⟨e', hs, he⟩ := mapError_eq_error.1 h
    cases he
    exact scriptOf_error hs
  dsimp only at h
  rcases except_bind_eq_error.1 h with h | ⟨_, -, h⟩
  · obtain ⟨e', hm, he⟩ := mapError_eq_error.1 h
    cases he
    exact fragment_error (fun _ _ _ hfrag he' => Fragment.script?_error hfrag he') hm
  · cases h

end Output

namespace Document

variable {e : Failure}

theorem output_error {d : Document} {f : Frame} {log : List LogLine}
    (h : d.output f = .error (log, e)) : e.OfOutput := by
  unfold output at h
  split at h
  · exact Output.ofFrame_error h
  · exact Output.withTemplates_error h

/-! ## What a start can fail on -/

theorem checkAtLeastOne_kind {attrs : Attrs} {name : String}
    (h : checkAtLeastOne attrs name = .error e) : e.kind ≠ .invalidNesting := by
  rcases checkAtLeastOne_error h with rfl | ⟨v, hv, hb⟩
  · simp [Failure.kind]
  · unfold checkAtLeastOne at h
    rw [hv] at h
    simp only [hb] at h
    cases h
    simp [Failure.kind]

theorem checkGrid_kind {attrs : Attrs} (h : checkGrid attrs = .error e) :
    e.kind ≠ .invalidNesting := by
  unfold checkGrid at h
  rcases except_bind_eq_error.1 h with hc | ⟨_, -, h⟩
  · exact checkAtLeastOne_kind hc
  rcases except_bind_eq_error.1 h with hc | ⟨_, -, h⟩
  · exact checkAtLeastOne_kind hc
  -- the query check refuses only with its own failure
  split at h
  · cases h
  · cases h
  · split at h <;> cases h
    simp [Failure.kind]
  · cases h
    simp [Failure.kind]

/-- The checks of a start on a tag's attributes taken together never refuse for nesting. -/
theorem checkStart_kind {frames : List Frame} {tag : String} {attrs : Attrs} {hasBody : Bool}
    (h : checkStart frames tag attrs hasBody = .error e) : e.kind ≠ .invalidNesting := by
  unfold checkStart at h
  split at h
  · exact checkGrid_kind h
  · split at h <;> cases h
    simp [Failure.kind]
  · split at h <;> cases h
    simp [Failure.kind]
  · unfold checkArea at h
    dsimp only at h
    split at h
    · split at h
      · cases h
      · split at h
        · cases h
          simp [Failure.kind]
        · split at h <;> cases h
          simp [Failure.kind]
    · cases h
  · split at h <;> cases h
    simp [Failure.kind]
  · unfold checkProxy at h
    dsimp only at h
    split at h
    · cases h
      simp [Failure.kind]
    · split at h
      · split at h <;> cases h
        simp [Failure.kind]
      · cases h
  · unfold checkImport at h
    dsimp only at h
    split at h
    · split at h <;> cases h
      simp [Failure.kind]
    · cases h
  · cases h

/-- A start fails for nesting only when a child tag starts outside its parent. -/
theorem start_nesting {d : Document} {tag : String} {raw : Attrs} {hasBody : Bool}
    (h : d.start tag raw hasBody = .error e) : e.NestingByTree := by
  rw [start_eq_checks] at h
  rcases hc : startChecks d.frames tag raw hasBody with err | x <;> rw [hc] at h <;> cases h
  unfold startChecks at hc
  rcases except_bind_eq_error.1 hc with hdef | ⟨td, -, hc⟩
  · rw [definition_error hdef]
    exact Failure.nestingByTree_of_kind_ne (by simp [Failure.kind])
  rcases except_bind_eq_error.1 hc with hp | ⟨_, -, hc⟩
  · -- the parent check refuses a child outside its parent
    unfold parentCheck at hp
    split at hp
    · split at hp <;> cases hp
      exact fun _ => .inl ⟨_, _, _, rfl⟩
    · cases hp
  rcases except_bind_eq_error.1 hc with hv | ⟨_, -, hc⟩
  · apply Failure.nestingByTree_of_kind_ne
    rcases Attrs.validate_error hv with ⟨name, fault, rfl⟩ | ⟨text, rfl⟩
    · simp only [Failure.kind, AttrFault.kind]
      split <;> simp
    · simp [Failure.kind]
  rcases except_bind_eq_error.1 hc with hk | ⟨_, -, hc⟩
  · exact Failure.nestingByTree_of_kind_ne (checkStart_kind hk)
  · cases hc

/-- Settling a closed frame fails for nesting only by refusing its body. -/
theorem settle_nesting {d : Document} {f : Frame} (h : (d.settle f).2 = some e) :
    e.NestingByTree := by
  rcases settle_failure_cases h with ⟨msg, rfl⟩ | rfl | ⟨log, hout⟩
  · exact fun _ => .inr ⟨_, _, rfl⟩
  · exact Failure.nestingByTree_of_kind_ne (by simp [Failure.kind])
  · exact Failure.nestingByTree_of_kind_ne (output_error hout).kind_ne

/-! ## The stack across a node -/

/-- The end of a tag whose start opened a frame, and whose children then left the stack as the
start left it, is never refused: the tag's own frame is innermost, the end pops it and settles
it, and the stack is back as it was before the start. -/
theorem close_after_children {d d₁ d₂ : Document} {name : String} {raw : Attrs} {hasBody : Bool}
    (hs : d.start name raw hasBody = .ok d₁) (hst : stack d₂ = stack d₁) :
    ∃ td f rest, TagDef.lookup name = some td ∧ d₂.frames = f :: rest ∧ f.tag = td.name ∧
      d₂.close name = (d₂.popped f rest).settle f ∧ stack (d₂.close name).1 = stack d := by
  obtain ⟨td, attrs, hl, he⟩ := start_ok_eraseLog hs
  -- the start pushed one frame for the tag onto the frames it found
  have hpush : stack d₂ =
      { tag := td.name, kind := td.frame, id := (openId d.ids td attrs).1, attrs } :: stack d := by
    rw [hst, stack_eq_of_eraseLog he]
    rfl
  obtain ⟨f, rest, hf⟩ : ∃ f rest, d₂.frames = f :: rest := by
    cases hfr : d₂.frames with
    | nil => simp [stack, hfr] at hpush
    | cons f rest => exact ⟨f, rest, rfl⟩
  simp only [stack, hf, List.map_cons, List.cons.injEq] at hpush
  obtain ⟨hopened, hrest⟩ := hpush
  have ht : f.tag = td.name := by rw [← Frame.opened_tag, hopened]
  have hclose := close_eq_settle hl hf ht
  refine ⟨td, f, rest, hl, hf, ht, hclose, ?_⟩
  rw [hclose, stack_settle]
  simpa [stack, popped, note] using hrest

/-- How a tag renders: its start fails; or it starts and its children fail; or it starts, its
children render and the tag ends. -/
theorem renderNode_tag_cases (d : Document) (name : String) (attrs : Attrs)
    (children : List Node) :
    (∃ e, d.start name attrs (Node.hasBody children) = .error e ∧
      d.renderNode (.tag name attrs children) = (d, some e)) ∨
    ∃ d₁, d.start name attrs (Node.hasBody children) = .ok d₁ ∧
      ((∃ d₂ e, d₁.renderNodes children = (d₂, some e) ∧
        d.renderNode (.tag name attrs children) = (d₂, some e)) ∨
       ∃ d₂, d₁.renderNodes children = (d₂, none) ∧
        d.renderNode (.tag name attrs children) = d₂.close name) := by
  rw [renderNode]
  cases hs : d.start name attrs (Node.hasBody children) with
  | error e => exact .inl ⟨e, rfl, rfl⟩
  | ok d₁ =>
    refine .inr ⟨d₁, rfl, ?_⟩
    rcases hc : d₁.renderNodes children with ⟨d₂, _ | e⟩
    · exact .inr ⟨d₂, rfl, by simp [afterStart, hc]⟩
    · exact .inl ⟨d₂, e, rfl, by simp [afterStart, hc]⟩

/-- How nodes render: the first fails, or it renders and the rest follow. -/
theorem renderNodes_cons_cases (d : Document) (n : Node) (ns : List Node) :
    (∃ d₁ e, d.renderNode n = (d₁, some e) ∧ d.renderNodes (n :: ns) = (d₁, some e)) ∨
    ∃ d₁, d.renderNode n = (d₁, none) ∧ d.renderNodes (n :: ns) = d₁.renderNodes ns := by
  rw [renderNodes]
  rcases hn : d.renderNode n with ⟨d₁, _ | e⟩
  · exact .inr ⟨d₁, rfl, rfl⟩
  · exact .inl ⟨d₁, e, rfl, rfl⟩

mutual

/-- A node that renders without failure leaves the stack of open frames as it found it. -/
theorem renderNode_stack (d : Document) :
    ∀ n : Node, (d.renderNode n).2 = none → stack (d.renderNode n).1 = stack d
  | .text s => by
    intro _
    rw [renderNode]
    exact stack_write d s
  | .tag name attrs children => by
    intro h
    rcases renderNode_tag_cases d name attrs children with
      ⟨e, -, hr⟩ | ⟨d₁, hs, ⟨d₂, e, -, hr⟩ | ⟨d₂, hc, hr⟩⟩
    · rw [hr] at h
      cases h
    · rw [hr] at h
      cases h
    · -- the children restored the stack the start left, so the end pops the tag's frame
      have hst := renderNodes_stack d₁ children (by rw [hc])
      rw [hc] at hst
      obtain ⟨-, -, -, -, -, -, -, hback⟩ := close_after_children hs hst
      rw [hr]
      exact hback

/-- Nodes that render without failure leave the stack of open frames as they found it. -/
theorem renderNodes_stack (d : Document) :
    ∀ ns : List Node, (d.renderNodes ns).2 = none → stack (d.renderNodes ns).1 = stack d
  | [] => fun _ => rfl
  | n :: ns => by
    intro h
    rcases renderNodes_cons_cases d n ns with ⟨d₁, e, -, hr⟩ | ⟨d₁, hn, hr⟩
    · rw [hr] at h
      cases h
    · rw [hr] at h ⊢
      have h₁ := renderNode_stack d n (by rw [hn])
      rw [hn] at h₁
      rw [renderNodes_stack d₁ ns h, h₁]

end

/-! ## Failures of a rendered tree -/

mutual

/-- A node fails to render for nesting only where a child tag starts outside its parent or a
closed tag refuses its body. -/
theorem renderNode_nesting (d : Document) :
    ∀ (n : Node) (e : Failure), (d.renderNode n).2 = some e → e.NestingByTree
  | .text s => by
    intro e h
    rw [renderNode] at h
    cases h
  | .tag name attrs children => by
    intro e h
    rcases renderNode_tag_cases d name attrs children with
      ⟨e', hs, hr⟩ | ⟨d₁, hs, ⟨d₂, e', hc, hr⟩ | ⟨d₂, hc, hr⟩⟩
    · rw [hr] at h
      cases h
      exact start_nesting hs
    · rw [hr] at h
      cases h
      exact renderNodes_nesting d₁ children e (by rw [hc])
    · -- the end is not refused; only settling the tag's frame can fail
      have hst := renderNodes_stack d₁ children (by rw [hc])
      rw [hc] at hst
      obtain ⟨-, f, rest, -, -, -, hclose, -⟩ := close_after_children hs hst
      rw [hr, hclose] at h
      exact settle_nesting h

/-- Nodes fail to render for nesting only where a child tag starts outside its parent or a
closed tag refuses its body. -/
theorem renderNodes_nesting (d : Document) :
    ∀ (ns : List Node) (e : Failure), (d.renderNodes ns).2 = some e → e.NestingByTree
  | [] => by
    intro e h
    cases h
  | n :: ns => by
    intro e h
    rcases renderNodes_cons_cases d n ns with ⟨d₁, e', hn, hr⟩ | ⟨d₁, hn, hr⟩
    · rw [hr] at h
      cases h
      exact renderNode_nesting d n e (by rw [hn])
    · rw [hr] at h
      exact renderNodes_nesting d₁ ns e h

end

/-- A document rendered from no open frame finishes whenever its nodes render. -/
theorem renderAll_error {d : Document} (h₀ : d.frames = []) {nodes : List Node}
    (h : (d.renderAll nodes).2 = .error e) : (d.renderNodes nodes).2 = some e := by
  rw [renderAll] at h
  rcases hr : d.renderNodes nodes with ⟨d₁, _ | e'⟩
  · rw [hr] at h
    -- the nodes left no frame open, so finishing succeeds
    have hst := renderNodes_stack d nodes (by rw [hr])
    rw [hr] at hst
    have hnil : d₁.frames = [] := by
      simpa [stack, h₀] using hst
    simp only [finish, hnil, List.isEmpty_nil, if_true] at h
    cases h
  · rw [hr] at h
    cases h
    rfl

/-- Rendering keeps the nesting of the tree. A node that renders leaves the stack of open frames
as it found it, same frames in the same order, each as it was opened. The end of every tag whose
start and children rendered is accepted: its name is known, its own frame is innermost, and the
end pops that frame and settles it. And a document rendered from no open frame fails for
nesting only where a child tag starts outside its parent or a closed tag refuses its body: it is
never refused a close with nothing open or another tag innermost, nor left with tags open. -/
theorem rendering_keeps_nesting :
    (∀ (d : Document) (n : Node), (d.renderNode n).2 = none →
      stack (d.renderNode n).1 = stack d) ∧
    (∀ (d d₁ d₂ : Document) (name : String) (raw : Attrs) (children : List Node),
      d.start name raw (Node.hasBody children) = .ok d₁ →
      d₁.renderNodes children = (d₂, none) →
      ∃ td f rest, TagDef.lookup name = some td ∧ d₂.frames = f :: rest ∧
        f.tag = td.name ∧ d₂.close name = (d₂.popped f rest).settle f) ∧
    (∀ (d : Document) (nodes : List Node) (e : Failure), d.frames = [] →
      (d.renderAll nodes).2 = .error e →
      (∀ tag, e ≠ .closeNothingOpen tag) ∧ (∀ tag other, e ≠ .closeMismatch tag other) ∧
      (∀ tags, e ≠ .unclosed tags) ∧
      (e.kind = .invalidNesting → (∃ tag child parent, e = .outsideParent tag child parent) ∨
        ∃ tag msg, e = .bodyNotAllowed tag msg)) := by
  refine ⟨renderNode_stack, ?_, ?_⟩
  · intro d d₁ d₂ name raw children hs hc
    have hst := renderNodes_stack d₁ children (by rw [hc])
    rw [hc] at hst
    obtain ⟨td, f, rest, hl, hf, ht, hclose, -⟩ := close_after_children hs hst
    exact ⟨td, f, rest, hl, hf, ht, hclose⟩
  · intro d nodes e h₀ h
    have hn := renderNodes_nesting d nodes e (renderAll_error h₀ h)
    exact ⟨hn.not_refused.1, hn.not_refused.2.1, hn.not_refused.2.2, hn⟩

/-- A column inside a pod but in no grid: the document fails with the column outside its
parent, and that failure is no refused end and no tag left open. -/
theorem column_in_pod_misplaced :
    ({ config := {}, ids := .counter 0 } : Document).frames = [] ∧
    (({ config := {}, ids := .counter 0 } : Document).renderAll
        [.tag "pod" [] [.tag "gridcolumn" [("name", .str "a")] []]]).2 =
      .error (.outsideParent "gridcolumn" "GridColumn" "Grid") ∧
    ∀ tags, Failure.outsideParent "gridcolumn" "GridColumn" "Grid" ≠ .unclosed tags :=
  ⟨rfl, by rfl, (rendering_keeps_nesting.2.2 { config := {}, ids := .counter 0 }
    [.tag "pod" [] [.tag "gridcolumn" [("name", .str "a")] []]] _ rfl (by rfl)).2.2.1⟩

end Document
end UiTags
