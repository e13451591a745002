import UiTags.Tree
import UiTags.Proofs.SlotDocument

/-!
# Where the texts of a tree go

A tree renders as the events of a walk around it: a text is written, a tag starts, its children
render and the tag ends. Number the texts of the tree that are not blank in document order and
put slot `i` in place of the `i`-th: the walk becomes a run of slot events, the same for every
tree with the tree's shape and blank texts. Since the machine never looks into a text that is
not blank, that run ends in one slot document whatever fills the slots; so a tree that renders
does so to pieces that hold every slot once, filled by the tree's own texts.

The exception is a border layout with an area that starts where an open area of the same layout
stands: the outer area registers after the inner one, its region shows only the outer area, and
the inner area's text is lost. `Document.reclaimsIn` says that no such area starts.

Main results:

- `Document.renderNodes_eq_exec`: rendering nodes is running the events of their walk.
- `texts_written_once`: a tree rendered from a fresh document, whose border areas never take
  the position of an open area, writes each of its texts that is not blank verbatim and exactly
  once, into markup that is the same for every choice of those texts.
- `nested_area_text_dropped`: an area at the top of a border layout that holds another area at
  the top renders without the inner area's text.
-/

namespace UiTags

namespace Node

/-! ## Texts, walks and slot plans of a tree -/

mutual

/-- The texts of a node that are not blank, in document order. -/
def texts : Node → List String
  | .text s => if Text.isBlankText s then [] else [s]
  | .tag _ _ children => textsAll children

/-- The texts of nodes that are not blank, in document order. -/
def textsAll : List Node → List String
  | [] => []
  | n :: ns => texts n ++ textsAll ns

end

mutual

/-- The events a session sees while a node renders. -/
def events : Node → List Event
  | .text s => [.write s]
  | .tag name attrs children =>
    .start name attrs (hasBody children) :: eventsAll children ++ [.close name]

/-- The events a session sees while nodes render one after another. -/
def eventsAll : List Node → List Event
  | [] => []
  | n :: ns => events n ++ eventsAll ns

end

mutual

/-- The node with its texts that are not blank replaced: the first by `g k`, the next by
`g (k + 1)`, and so on. -/
def relabel (g : Nat → String) (k : Nat) : Node → Node
  | .text s => if Text.isBlankText s then .text s else .text (g k)
  | .tag name attrs children => .tag name attrs (relabelAll g k children)

/-- Nodes with their texts that are not blank replaced, counting from `k`. -/
def relabelAll (g : Nat → String) (k : Nat) : List Node → List Node
  | [] => []
  | n :: ns => relabel g k n :: relabelAll g (k + (texts n).length) ns

end

mutual

/-- The events of a node with its texts that are not blank as slots, counting from `k`. -/
def plan (k : Nat) : Node → List SlotEvent
  | .text s => if Text.isBlankText s then [.write (.lit s)] else [.write (.slot k)]
  | .tag name attrs children =>
    .start name attrs (hasBody children) :: planAll k children ++ [.close name]

/-- The events of nodes with their texts that are not blank as slots, counting from `k`. -/
def planAll (k : Nat) : List Node → List SlotEvent
  | [] => []
  | n :: ns => plan k n ++ planAll (k + (texts n).length) ns

end

mutual

/-- The texts counted in a node are not blank. -/
theorem isBlankText_of_mem_texts : ∀ (n : Node) {s : String}, s ∈ texts n →
    Text.isBlankText s = false
  | .text t, s, h => by
    by_cases ht : Text.isBlankText t
    · simp [texts, ht] at h
    · simp only [texts, ht, Bool.false_eq_true, if_false, List.mem_singleton] at h
      rw [h]
      simpa using ht
  | .tag _ _ children, _, h => isBlankText_of_mem_textsAll children h

/-- The texts counted in nodes are not blank. -/
theorem isBlankText_of_mem_textsAll : ∀ (ns : List Node) {s : String}, s ∈ textsAll ns →
    Text.isBlankText s = false
  | [], _, h => by simp [textsAll] at h
  | n :: ns, _, h => by
    rcases List.mem_append.1 h with h | h
    · exact isBlankText_of_mem_texts n h
    · exact isBlankText_of_mem_textsAll ns h

end

/-- Texts that are not blank in place of texts that are not blank keep whether nodes make a
body. -/
theorem hasBody_relabelAll {g : Nat → String} (hg : Filling g) (k : Nat) (ns : List Node) :
    hasBody (relabelAll g k ns) = hasBody ns := by
  induction ns generalizing k with
  | nil => rfl
  | cons n ns ih =>
    simp only [hasBody, relabelAll, List.any_cons] at ih ⊢
    rw [ih]
    cases n with
    | text s => by_cases hs : Text.isBlankText s <;> simp [relabel, hs, hg k]
    | tag => rfl

mutual

/-- The walk of a relabelled node is its slot plan, filled. -/
theorem events_relabel {g : Nat → String} (hg : Filling g) :
    ∀ (k : Nat) (n : Node), events (relabel g k n) = (plan k n).map (SlotEvent.fill g)
  | k, .text s => by
    by_cases hs : Text.isBlankText s <;> simp [relabel, events, plan, hs, SlotEvent.fill, Piece.fill]
  | k, .tag name attrs children => by
    simp [relabel, events, plan, hasBody_relabelAll hg, eventsAll_relabelAll hg k children,
      SlotEvent.fill]

/-- The walk of relabelled nodes is their slot plan, filled. -/
theorem eventsAll_relabelAll {g : Nat → String} (hg : Filling g) :
    ∀ (k : Nat) (ns : List Node), eventsAll (relabelAll g k ns) = (planAll k ns).map (SlotEvent.fill g)
  | _, [] => rfl
  | k, n :: ns => by
    simp [relabelAll, eventsAll, planAll, events_relabel hg k n,
      eventsAll_relabelAll hg (k + (texts n).length) ns]

end

mutual

/-- Relabelling a node by its own texts gives it back. -/
theorem relabel_self {g : Nat → String} : ∀ (k : Nat) (n : Node),
    (∀ i (hi : i < (texts n).length), g (k + i) = (texts n)[i]) → relabel g k n = n
  | k, .text s, h => by
    by_cases hs : Text.isBlankText s
    · simp [relabel, hs]
    · have h₀ := h 0 (by simp [texts, hs])
      simp only [texts, hs, Bool.false_eq_true, if_false, Nat.add_zero,
        List.getElem_singleton] at h₀
      simp [relabel, hs, h₀]
  | k, .tag name attrs children, h => by
    rw [relabel, relabelAll_self k children h]

/-- Relabelling nodes by their own texts gives them back. -/
theorem relabelAll_self {g : Nat → String} : ∀ (k : Nat) (ns : List Node),
    (∀ i (hi : i < (textsAll ns).length), g (k + i) = (textsAll ns)[i]) → relabelAll g k ns = ns
  | _, [], _ => rfl
  | k, n :: ns, h => by
    have hlen : (textsAll (n :: ns)).length = (texts n).length + (textsAll ns).length := by
      simp [textsAll]
    -- the texts of the first node come first, those of the rest after them
    have h₁ : ∀ i (hi : i < (texts n).length), g (k + i) = (texts n)[i] := by
      intro i hi
      rw [h i (by omega)]
      exact List.getElem_append_left hi
    have h₂ : ∀ i (hi : i < (textsAll ns).length),
        g (k + (texts n).length + i) = (textsAll ns)[i] := by
      intro i hi
      rw [Nat.add_assoc, h _ (by omega)]
      simp [textsAll]
    rw [relabelAll, relabel_self k n h₁, relabelAll_self _ ns h₂]

end

mutual

/-- The slots a node's plan writes are the numbers of its texts, in order. -/
theorem slots_plan : ∀ (k : Nat) (n : Node),
    (plan k n).flatMap SlotEvent.slots = List.range' k (texts n).length
  | k, .text s => by
    by_cases hs : Text.isBlankText s <;> simp [plan, texts, hs, SlotEvent.slots]
  | k, .tag name attrs children => by
    simp [plan, texts, SlotEvent.slots, slots_planAll k children]

/-- The slots the plan of nodes writes are the numbers of their texts, in order. -/
theorem slots_planAll : ∀ (k : Nat) (ns : List Node),
    (planAll k ns).flatMap SlotEvent.slots = List.range' k (textsAll ns).length
  | _, [] => rfl
  | k, n :: ns => by
    rw [planAll, textsAll, List.flatMap_append, slots_plan k n,
      slots_planAll (k + (texts n).length) ns, List.length_append, List.range'_append_1]

end

end Node

/-! ## Rendering a tree is running its walk -/

namespace Document

mutual

theorem renderNode_eq_exec (d : Document) : ∀ n : Node, d.renderNode n = d.exec (Node.events n)
  | .text s => by rw [renderNode, Node.events, exec_singleton, step_write]
  | .tag name attrs children => by
    rw [renderNode, Node.events, List.cons_append, exec_cons]
    cases hs : d.start name attrs (Node.hasBody children) with
    | error e => rw [step_start_error hs, afterStart]
    | ok d₁ =>
      rw [step_start_ok hs, afterStart]
      simp only
      rw [exec_append, renderNodes_eq_exec d₁ children]
      rcases d₁.exec (Node.eventsAll children) with ⟨d₂, _ | e⟩
      · simp only
        rw [exec_singleton, step_close]
      · rfl

theorem renderNodes_eq_exec (d : Document) :
    ∀ ns : List Node, d.renderNodes ns = d.exec (Node.eventsAll ns)
  | [] => rfl
  | n :: ns => by
    rw [renderNodes, Node.eventsAll, exec_append, renderNode_eq_exec d n]
    rcases d.exec (Node.events n) with ⟨d₁, _ | e⟩
    · exact renderNodes_eq_exec d₁ ns
    · rfl

end

/-- A whole render gives the failure that stopped its nodes, or the finished document. -/
theorem renderAll_result (d : Document) (nodes : List Node) :
    (d.renderAll nodes).2 =
      match d.exec (Node.eventsAll nodes) with
      | (_, some e) => .error e
      | (d₁, none) => d₁.finish := by
  rw [renderAll, ← renderNodes_eq_exec]
  rcases d.renderNodes nodes with ⟨d₁, _ | e⟩
  · simp only
    cases d₁.finish <;> rfl
  · rfl

/-- Finishing reads no log. -/
theorem finish_eraseLog (d : Document) : d.eraseLog.finish = d.finish := rfl

end Document

namespace SlotDoc

/-- A fresh document is the empty slot document, whatever fills the slots. -/
theorem create_eq_fill {c : Config} {d : Document} (hd : Document.create c = .ok d)
    (g : Nat → String) : d = ({ config := c, ids := d.ids } : SlotDoc).fill g := by
  unfold Document.create at hd
  split at hd
  · cases hd
    rfl
  · cases hd

/-- A slot document with no open frame finishes with its text. -/
theorem finish_fill {S : SlotDoc} (h : S.frames = []) (g : Nat → String) :
    (S.fill g).finish = .ok (Piece.spell g S.out) := by
  simp [Document.finish, fill, h]

end SlotDoc

/-! ## Every text once -/

/-- A tree rendered from a fresh document, in which no area of a border layout starts at the
position of an open area of the same layout, writes each of its texts that is not blank exactly
once and verbatim: the markup is pieces holding the number of each text once, and the same
pieces, filled by any other texts that are not blank, are what the tree renders to with those
texts in place of its own. -/
theorem texts_written_once {c : Config} {d : Document} (hd : Document.create c = .ok d)
    {nodes : List Node} {html : String} (hok : (d.renderAll nodes).2 = .ok html)
    (hr : Document.reclaimsIn d (Node.eventsAll nodes) = false) :
    ∃ ps : List Piece, (Piece.slots ps).Perm (List.range (Node.textsAll nodes).length) ∧
      html = Piece.spell (fun i => (Node.textsAll nodes).getD i "") ps ∧
      ∀ g, Filling g → (d.renderAll (Node.relabelAll g 0 nodes)).2 = .ok (Piece.spell g ps) := by
  -- the tree's own texts fill the slots, and a text that is not blank fills those past them
  let g₀ : Nat → String := fun i => (Node.textsAll nodes).getD i "x"
  have hg₀ : Filling g₀ := by
    intro i
    by_cases hi : i < (Node.textsAll nodes).length
    · have h : g₀ i = (Node.textsAll nodes)[i] := by simp [g₀, List.getElem?_eq_getElem hi]
      rw [h]
      exact Node.isBlankText_of_mem_textsAll nodes (List.getElem_mem hi)
    · have h : g₀ i = "x" := by simp [g₀, List.getElem?_eq_none (Nat.le_of_not_lt hi)]
      rw [h]
      decide
  have hself : Node.relabelAll g₀ 0 nodes = nodes :=
    Node.relabelAll_self 0 nodes fun i hi => by simp [g₀, List.getElem?_eq_getElem hi]
  let S₀ : SlotDoc := { config := c, ids := d.ids }
  -- the run of the tree, whatever texts it holds, is the plan's run from the empty slot document
  have hrun : ∀ g, Filling g → (d.renderAll (Node.relabelAll g 0 nodes)).2 =
      match (S₀.fill g).exec ((Node.planAll 0 nodes).map (SlotEvent.fill g)) with
      | (_, some e) => .error e
      | (d₁, none) => d₁.finish := by
    intro g hg
    rw [Document.renderAll_result, Node.eventsAll_relabelAll hg, ← SlotDoc.create_eq_fill hd]
  have hplan : Node.eventsAll nodes = (Node.planAll 0 nodes).map (SlotEvent.fill g₀) := by
    rw [← Node.eventsAll_relabelAll hg₀, hself]
  obtain ⟨d₁, hexec⟩ : ∃ d₁,
      (S₀.fill g₀).exec ((Node.planAll 0 nodes).map (SlotEvent.fill g₀)) = (d₁, none) := by
    have h := hrun g₀ hg₀
    rw [hself, hok] at h
    revert h
    rcases (S₀.fill g₀).exec ((Node.planAll 0 nodes).map (SlotEvent.fill g₀)) with ⟨d₁, _ | e⟩
    · exact fun _ => ⟨d₁, rfl⟩
    · intro h
      cases h
  obtain ⟨S', hperm, hS'⟩ := SlotDoc.exec_fill hg₀ _ S₀ (Document.shaped_of_frames_nil rfl)
    (by rw [hexec]) (by rw [← hplan, ← SlotDoc.create_eq_fill hd]; exact hr)
  -- the run closes every frame, so the markup is the slot document's own text
  have hfin : d₁.finish = .ok html := by
    have h := hrun g₀ hg₀
    rw [hself, hok, hexec] at h
    exact h.symm
  have hd₁ : d₁.eraseLog = S'.fill g₀ := by
    have h := (hS' g₀ hg₀).2
    rw [hexec] at h
    exact h
  have hframes : S'.frames = [] := by
    have h := ((Document.finish_eq_ok _ _).1 (hd₁ ▸ (Document.finish_eraseLog d₁).trans hfin)).1
    simpa using h
  have hslots : (Piece.slots S'.out).Perm (List.range (Node.textsAll nodes).length) := by
    have h := hperm
    simp only [SlotDoc.slots, hframes, List.flatMap_nil, List.append_nil, S₀, Piece.slots_nil,
      List.nil_append, Node.slots_planAll, ← List.range_eq_range'] at h
    exact h
  refine ⟨S'.out, hslots, ?_, fun g hg => ?_⟩
  · -- filled by the tree's texts, the slots spell the markup
    have h := hfin
    rw [← Document.finish_eraseLog, hd₁, SlotDoc.finish_fill hframes] at h
    rw [← Except.ok.inj h]
    refine Piece.spell_congr fun i hi => ?_
    have hi' : i < (Node.textsAll nodes).length := List.mem_range.1 (hslots.subset hi)
    simp [g₀, List.getElem?_eq_getElem hi']
  · rw [hrun g hg]
    obtain ⟨hok', hfill⟩ := hS' g hg
    rcases hg' : (S₀.fill g).exec ((Node.planAll 0 nodes).map (SlotEvent.fill g)) with
      ⟨d₂, _ | e⟩
    · rw [hg'] at hfill
      simp only
      rw [← Document.finish_eraseLog, hfill, SlotDoc.finish_fill hframes]
    · rw [hg'] at hok'
      cases hok'

/-- A border layout with a text at the top and one in the center, rendered from a fresh counting
document: its areas take distinct positions, and each text is written once. -/
theorem border_texts_written_once :
    Document.create {} = .ok { config := {}, ids := .counter 0 } ∧
      (({ config := {}, ids := .counter 0 } : Document).renderAll
        [.tag "layout" [("type", .str "border")]
          [.tag "layoutarea" [("position", .str "top")] [.text "Menu"],
           .tag "layoutarea" [("position", .str "center")] [.text "Body"]]]).2 =
        .ok "<div id=\"layout_1\" class=\"bx-layout bx-layout-border\" data-layout-type=\"border\">\n        <div id=\"layoutarea_2\" class=\"bx-border-region bx-border-top\" data-area-index=\"0\">\nMenu\n\n        </div>\n\n    <div class=\"bx-border-middle\">\n        <div id=\"layoutarea_3\" class=\"bx-border-region bx-border-center\" data-area-index=\"1\">\nBody\n\n        </div>\n\n    </div>\n</div>\n" ∧
      Document.reclaimsIn { config := {}, ids := .counter 0 } (Node.eventsAll
        [.tag "layout" [("type", .str "border")]
          [.tag "layoutarea" [("position", .str "top")] [.text "Menu"],
           .tag "layoutarea" [("position", .str "center")] [.text "Body"]]]) = false ∧
      ∃ ps : List Piece, (Piece.slots ps).Perm (List.range (Node.textsAll
          [.tag "layout" [("type", .str "border")]
            [.tag "layoutarea" [("position", .str "top")] [.text "Menu"],
             .tag "layoutarea" [("position", .str "center")] [.text "Body"]]]).length) ∧
        "<div id=\"layout_1\" class=\"bx-layout bx-layout-border\" data-layout-type=\"border\">\n        <div id=\"layoutarea_2\" class=\"bx-border-region bx-border-top\" data-area-index=\"0\">\nMenu\n\n        </div>\n\n    <div class=\"bx-border-middle\">\n        <div id=\"layoutarea_3\" class=\"bx-border-region bx-border-center\" data-area-index=\"1\">\nBody\n\n        </div>\n\n    </div>\n</div>\n" =
          Piece.spell (fun i => (Node.textsAll
            [.tag "layout" [("type", .str "border")]
              [.tag "layoutarea" [("position", .str "top")] [.text "Menu"],
               .tag "layoutarea" [("position", .str "center")] [.text "Body"]]]).getD i "") ps ∧
        ∀ g, Filling g → (({ config := {}, ids := .counter 0 } : Document).renderAll
          (Node.relabelAll g 0
            [.tag "layout" [("type", .str "border")]
              [.tag "layoutarea" [("position", .str "top")] [.text "Menu"],
               .tag "layoutarea" [("position", .str "center")] [.text "Body"]]])).2 =
            .ok (Piece.spell g ps) := by
  have hd : Document.create {} = .ok { config := {}, ids := .counter 0 } := rfl
  have hr : Document.reclaimsIn { config := {}, ids := .counter 0 } (Node.eventsAll
      [.tag "layout" [("type", .str "border")]
        [.tag "layoutarea" [("position", .str "top")] [.text "Menu"],
         .tag "layoutarea" [("position", .str "center")] [.text "Body"]]]) = false := by
    decide +kernel
  -- the render is evaluated once, as an option, where the kernel can compare texts
  have hok : (({ config := {}, ids := .counter 0 } : Document).renderAll
      [.tag "layout" [("type", .str "border")]
        [.tag "layoutarea" [("position", .str "top")] [.text "Menu"],
         .tag "layoutarea" [("position", .str "center")] [.text "Body"]]]).2 =
      .ok "<div id=\"layout_1\" class=\"bx-layout bx-layout-border\" data-layout-type=\"border\">\n        <div id=\"layoutarea_2\" class=\"bx-border-region bx-border-top\" data-area-index=\"0\">\nMenu\n\n        </div>\n\n    <div class=\"bx-border-middle\">\n        <div id=\"layoutarea_3\" class=\"bx-border-region bx-border-center\" data-area-index=\"1\">\nBody\n\n        </div>\n\n    </div>\n</div>\n" := by
    have h : (({ config := {}, ids := .counter 0 } : Document).renderAll
        [.tag "layout" [("type", .str "border")]
          [.tag "layoutarea" [("position", .str "top")] [.text "Menu"],
           .tag "layoutarea" [("position", .str "center")] [.text "Body"]]]).2.toOption =
        some "<div id=\"layout_1\" class=\"bx-layout bx-layout-border\" data-layout-type=\"border\">\n        <div id=\"layoutarea_2\" class=\"bx-border-region bx-border-top\" data-area-index=\"0\">\nMenu\n\n        </div>\n\n    <div class=\"bx-border-middle\">\n        <div id=\"layoutarea_3\" class=\"bx-border-region bx-border-center\" data-area-index=\"1\">\nBody\n\n        </div>\n\n    </div>\n</div>\n" := by
      decide +kernel
    revert h
    cases (({ config := {}, ids := .counter 0 } : Document).renderAll
        [.tag "layout" [("type", .str "border")]
          [.tag "layoutarea" [("position", .str "top")] [.text "Menu"],
           .tag "layoutarea" [("position", .str "center")] [.text "Body"]]]).2 <;>
      simp [Except.toOption]
  exact ⟨hd, hok, hr, texts_written_once hd hok hr⟩

/-! ## An area inside an area at the same position -/

/-- A border layout whose top area holds another area at the top renders without an error,
and the markup holds only the outer area's text: the inner area registers first, the outer one
after it at the same position, and the top region shows the last area registered. -/
theorem nested_area_text_dropped :
    ((({ config := {}, ids := .counter 0 } : Document).renderAll
      [.tag "layout" [("type", .str "border")]
        [.tag "layoutarea" [("position", .str "top")]
          [.text "OUTER", .tag "layoutarea" [("position", .str "top")] [.text "INNER"]]]]).2.toOption) =
      some "<div id=\"layout_1\" class=\"bx-layout bx-layout-border\" data-layout-type=\"border\">\n        <div id=\"layoutarea_2\" class=\"bx-border-region bx-border-top\" data-area-index=\"1\">\nOUTER\n\n        </div>\n\n    <div class=\"bx-border-middle\">\n    </div>\n</div>\n" := by
  decide +kernel

end UiTags
