import UiTags.Proofs.BorderAreas

/-!
# Texts with open slots

A rendered document is text in which the texts of its text nodes stand. To say where they
stand, and that each stands once, such a text is written as a list of pieces: fixed text, or a
slot that a text node fills. A function of the fillings is *filled out* by a list of pieces
(`Fills`) when, for every filling of the slots by texts that are not blank, it gives the text
the pieces spell.

The markup of a pod, of a div and of each area of a layout places its content once, between
fixed text, so it is filled out by the pieces of the content between fixed pieces. A border
layout places the area at each of its five positions; when its areas are at distinct border
positions, that places every area once.

Main results:

- `Spells.join`: joined texts, each filled out, are filled out by the pieces joined.
- `Html.sourceBody_spells`: the body of an element that may load a source keeps the slots of
  its content, once each.
- `LayoutView.render_spells`: the markup of a layout is filled out by pieces holding the slots
  of the areas it shows.
- `LayoutView.borderSlots_perm`: a border layout with its areas at distinct border positions
  shows each area once.
-/

namespace UiTags

/-- A stretch of text: fixed text, or the slot a text node fills. -/
inductive Piece where
  | lit (s : String)
  | slot (i : Nat)

namespace Piece

/-- The text a piece stands for when slot `i` holds `g i`. -/
def fill (g : Nat → String) : Piece → String
  | lit s => s
  | slot i => g i

/-- The slot of a piece, if it is one. -/
def slot? : Piece → Option Nat
  | lit _ => none
  | slot i => some i

/-- Whether a piece is blank whatever fills it: only blank fixed text is. -/
def blank : Piece → Bool
  | lit s => Text.isBlankText s
  | slot _ => false

/-- Whether a piece is empty whatever fills it: only empty fixed text is. -/
def empty : Piece → Bool
  | lit s => s.isEmpty
  | slot _ => false

/-- The text pieces spell when slot `i` holds `g i`. -/
def spell (g : Nat → String) (ps : List Piece) : String := String.join (ps.map (fill g))

/-- The slots of pieces, in order. -/
def slots (ps : List Piece) : List Nat := ps.filterMap slot?

section Spell

variable {g : Nat → String} {p : Piece} {ps qs : List Piece}

@[simp] theorem spell_nil : spell g [] = "" := rfl

@[simp] theorem spell_cons : spell g (p :: ps) = p.fill g ++ spell g ps := by
  simp [spell]

@[simp] theorem spell_append : spell g (ps ++ qs) = spell g ps ++ spell g qs := by
  simp [spell]

@[simp] theorem fill_lit (s : String) : (lit s).fill g = s := rfl

@[simp] theorem slots_nil : slots [] = [] := rfl

@[simp] theorem slots_cons_lit (s : String) : slots (lit s :: ps) = slots ps := rfl

@[simp] theorem slots_cons_slot (i : Nat) : slots (slot i :: ps) = i :: slots ps := rfl

@[simp] theorem slots_append : slots (ps ++ qs) = slots ps ++ slots qs := by
  simp [slots]

end Spell

/-- Pieces that are empty whatever fills them hold no slot. -/
theorem slots_eq_nil_of_empty {ps : List Piece} (h : ps.all empty = true) : slots ps = [] := by
  induction ps with
  | nil => rfl
  | cons p ps ih =>
    simp only [List.all_cons, Bool.and_eq_true] at h
    cases p with
    | lit s => exact ih h.2
    | slot i => simp [empty] at h

/-- Pieces that are empty whatever fills them spell the empty text. -/
theorem spell_eq_empty {g : Nat → String} {ps : List Piece} (h : ps.all empty = true) :
    spell g ps = "" := by
  induction ps with
  | nil => rfl
  | cons p ps ih =>
    simp only [List.all_cons, Bool.and_eq_true] at h
    cases p with
    | lit s => simp [String.isEmpty_iff.1 h.1, ih h.2]
    | slot i => simp [empty] at h

/-- Pieces that are blank whatever fills them hold no slot. -/
theorem slots_eq_nil_of_blank {ps : List Piece} (h : ps.all blank = true) : slots ps = [] := by
  induction ps with
  | nil => rfl
  | cons p ps ih =>
    simp only [List.all_cons, Bool.and_eq_true] at h
    cases p with
    | lit s => exact ih h.2
    | slot i => simp [blank] at h

/-- Pieces that are blank whatever fills them spell one text whatever fills them. -/
theorem spell_eq_of_blank {ps : List Piece} (h : ps.all blank = true) (g g' : Nat → String) :
    spell g ps = spell g' ps := by
  induction ps with
  | nil => rfl
  | cons p ps ih =>
    simp only [List.all_cons, Bool.and_eq_true] at h
    cases p with
    | lit s => simp [ih h.2]
    | slot i => simp [blank] at h

/-- Fillings that agree on the slots of pieces spell them alike. -/
theorem spell_congr {ps : List Piece} {g g' : Nat → String} (h : ∀ i ∈ slots ps, g i = g' i) :
    spell g ps = spell g' ps := by
  induction ps with
  | nil => rfl
  | cons p ps ih =>
    cases p with
    | lit s => simp [ih (by simpa using h)]
    | slot i =>
      simp only [slots_cons_slot, List.mem_cons, forall_eq_or_imp] at h
      simp [fill, h.1, ih h.2]

end Piece

/-! ## Fillings and what they fill out -/

/-- A filling of the slots: each by a text that is not blank. -/
def Filling (g : Nat → String) : Prop := ∀ i, Text.isBlankText (g i) = false

/-- A function of the fillings that the pieces spell out, whatever fills the slots. -/
def Fills (f : (Nat → String) → String) (ps : List Piece) : Prop :=
  ∀ g, Filling g → f g = Piece.spell g ps

theorem isBlankText_append (a b : String) :
    Text.isBlankText (a ++ b) = (Text.isBlankText a && Text.isBlankText b) := by
  simp [Text.isBlankText]

theorem isEmpty_append (a b : String) : (a ++ b).isEmpty = (a.isEmpty && b.isEmpty) := by
  rw [Bool.eq_iff_iff, Bool.and_eq_true, String.isEmpty_iff, String.isEmpty_iff,
    String.isEmpty_iff, String.append_eq_empty_iff]

section Filling

variable {g : Nat → String} (hg : Filling g)
include hg

/-- Filled out, pieces are blank exactly when each is blank whatever fills it. -/
theorem isBlankText_spell (ps : List Piece) :
    Text.isBlankText (Piece.spell g ps) = ps.all Piece.blank := by
  induction ps with
  | nil => rfl
  | cons p ps ih =>
    rw [Piece.spell_cons, isBlankText_append, ih, List.all_cons]
    cases p with
    | lit s => rfl
    | slot i => simp [Piece.blank, Piece.fill, hg i]

/-- Filled out, pieces are empty exactly when each is empty whatever fills it. -/
theorem isEmpty_spell (ps : List Piece) : (Piece.spell g ps).isEmpty = ps.all Piece.empty := by
  induction ps with
  | nil => rfl
  | cons p ps ih =>
    rw [Piece.spell_cons, isEmpty_append, ih, List.all_cons]
    cases p with
    | lit s => rfl
    | slot i =>
      -- a filling is not blank, so not empty
      have hne : (g i).isEmpty = false := by
        cases he : (g i).isEmpty
        · rfl
        · have hi := hg i
          rw [String.isEmpty_iff.1 he] at hi
          cases hi
      simp [Piece.empty, Piece.fill, hne]

end Filling

namespace Fills

variable {f h : (Nat → String) → String} {P Q : List Piece}

theorem lit (s : String) : Fills (fun _ => s) [.lit s] := fun g _ => by simp

theorem spell (P : List Piece) : Fills (fun g => Piece.spell g P) P := fun _ _ => rfl

theorem append (hf : Fills f P) (hh : Fills h Q) : Fills (fun g => f g ++ h g) (P ++ Q) :=
  fun g hg => by simp only [hf g hg, hh g hg, Piece.spell_append]

/-- Fixed text on both sides. -/
theorem wrap (A B : String) (hf : Fills f P) :
    Fills (fun g => A ++ f g ++ B) (.lit A :: P ++ [.lit B]) :=
  fun g hg => by simp [hf g hg, String.append_assoc]

/-- Text that no filling changes. -/
theorem const {s : String} (h : ∀ g, f g = s) : Fills f [.lit s] := fun g _ => by simp [h g]

/-- Filled-out text between fixed text. -/
theorem between {A B : String} (h : ∀ g, f g = A ++ Piece.spell g P ++ B) :
    Fills f (.lit A :: P ++ [.lit B]) :=
  fun g _ => by simp [h g, String.append_assoc]

/-- Functions that agree on every filling are filled out alike. -/
theorem congr {f' : (Nat → String) → String} (hf : Fills f P) (h : ∀ g, Filling g → f g = f' g) :
    Fills f' P :=
  fun g hg => (h g hg).symm.trans (hf g hg)

end Fills

/-- A function of the fillings filled out by pieces whose slots, in order, are `s`. -/
def Spells (f : (Nat → String) → String) (s : List Nat) : Prop :=
  ∃ Q, Piece.slots Q = s ∧ Fills f Q

namespace Spells

variable {f h : (Nat → String) → String} {s t : List Nat}

theorem const {c : String} (hc : ∀ g, f g = c) : Spells f [] := ⟨[.lit c], rfl, Fills.const hc⟩

/-- Text that no filling changes. -/
theorem fixed (hf : ∀ g g', f g = f g') : Spells f [] := const fun g => hf g fun _ => ""

theorem append (hf : Spells f s) (hh : Spells h t) : Spells (fun g => f g ++ h g) (s ++ t) := by
  obtain ⟨P, hP, hfill⟩ := hf
  obtain ⟨Q, hQ, hhill⟩ := hh
  exact ⟨P ++ Q, by simp [hP, hQ], hfill.append hhill⟩

theorem cast (hst : s = t) (hf : Spells f s) : Spells f t := hst ▸ hf

/-- Filled-out text between fixed text. -/
theorem between {A B : String} {P : List Piece} (hf : ∀ g, f g = A ++ Piece.spell g P ++ B) :
    Spells f (Piece.slots P) :=
  ⟨_, by simp, Fills.between hf⟩

/-- Texts joined, each filled out, are filled out by the pieces joined. -/
theorem join {α : Type} {F : (Nat → String) → α → String} {s : α → List Nat} :
    ∀ xs : List α, (∀ x ∈ xs, Spells (F · x) (s x)) →
      Spells (fun g => String.join (xs.map (F g))) (xs.flatMap s)
  | [], _ => ⟨[], rfl, fun g _ => rfl⟩
  | x :: xs, hxs => by
    have hx := hxs x List.mem_cons_self
    have hrest := join xs fun y hy => hxs y (List.mem_cons_of_mem x hy)
    simpa [List.flatMap_cons] using hx.append hrest

end Spells

/-! ## Bodies that may load a source -/

namespace Html

/-- Content that is not empty stands in the body between fixed text. -/
theorem sourceBody_of_ne (src : Option Value) :
    ∃ A, ∀ c : String, c.isEmpty = false → sourceBody src c = A ++ c ++ "\n" := by
  cases src with
  | none => exact ⟨"", fun c _ => by simp [sourceBody]⟩
  | some v =>
    by_cases hv : v.truthy
    · refine ⟨?A, fun c hc => ?h⟩
      case h =>
        simp only [sourceBody, hv, if_true, hc, Bool.false_eq_true, if_false]
        rw [← String.append_assoc]
    · exact ⟨"", fun c _ => by simp [sourceBody, hv]⟩

/-- The body of an element that may load a source keeps the slots of its content, once each. -/
theorem sourceBody_spells (src : Option Value) (P : List Piece) :
    Spells (fun g => sourceBody src (Piece.spell g P)) (Piece.slots P) := by
  by_cases hP : P.all Piece.empty
  · -- the content is empty whatever fills it
    refine Spells.cast (Piece.slots_eq_nil_of_empty hP).symm
      (@Spells.const _ (sourceBody src "") fun g => ?_)
    rw [Piece.spell_eq_empty hP]
  · -- the content is not empty whatever fills it, and stands between fixed text
    obtain ⟨A, hA⟩ := sourceBody_of_ne src
    refine ⟨.lit A :: P ++ [.lit "\n"], by simp, fun g hg => ?_⟩
    have hne : (Piece.spell g P).isEmpty = false := by
      rw [isEmpty_spell hg]
      simpa using hP
    simp [hA _ hne, String.append_assoc]

/-- Markup that holds a body that may load a source between text no filling changes keeps the
slots of the content. -/
theorem sourceBody_between {F A B : (Nat → String) → String} {src : Option Value}
    {P : List Piece} (h : ∀ g, F g = A g ++ sourceBody src (Piece.spell g P) ++ B g)
    (hA : ∀ g g', A g = A g') (hB : ∀ g g', B g = B g') : Spells F (Piece.slots P) := by
  obtain ⟨Q, hQ, hfill⟩ := sourceBody_spells src P
  refine ⟨.lit (A fun _ => "") :: Q ++ [.lit (B fun _ => "")], by simp [hQ],
    (Fills.wrap _ _ hfill).congr fun g _ => ?_⟩
  rw [h g, hA g, hB g]

end Html

/-! ## Pods and divs -/

theorem append_middle (x c y z : String) : x ++ (c ++ y) ++ z = x ++ c ++ (y ++ z) := by
  simp [String.append_assoc]

namespace PodView

/-- A pod places its body between fixed text. -/
theorem render_spells (p : PodView) (P : List Piece) :
    Spells (fun g => render { p with content := Piece.spell g P }) (Piece.slots P) :=
  Html.sourceBody_between
    (fun g => by
      unfold render
      simp only
      rw [String.append_assoc, String.append_assoc])
    (by intro g g'; rfl) (by intro g g'; rfl)

end PodView

namespace DivView

/-- A div places its content between fixed text, or a loading note in its place when it loads
its content on page load. -/
theorem render_spells (v : DivView) (P : List Piece) :
    Spells (fun g => render { v with content := Piece.spell g P })
      (if v.loading then [] else Piece.slots P) := by
  by_cases hl : v.loading
  · rw [if_pos hl]
    exact @Spells.const _ (render v) fun g => by unfold render; simp [hl]
  · rw [if_neg hl]
    refine @Spells.between _ ?A ?B _ fun g => ?h
    case h =>
      unfold render
      simp only [hl, Bool.false_eq_true, if_false]
      rw [String.append_assoc, String.append_assoc, append_middle]

end DivView

/-! ## Layouts -/

namespace LayoutView

@[simp] theorem area_content (a : Area) (t : Value) (c : String) :
    area { a with content := c } t = { area a t with content := c } := rfl

@[simp] theorem areaOpen_content (a : AreaView) (c classes : String) :
    areaOpen { a with content := c } classes = areaOpen a classes := rfl

@[simp] theorem titleLine_content (a : AreaView) (c indent : String) :
    titleLine indent { a with content := c } = titleLine indent a := rfl

@[simp] theorem areaBody_content (a : AreaView) (c : String) :
    areaBody { a with content := c } = Html.sourceBody a.source c := rfl

/-- Area views whose contents the pieces spell. -/
def filled (g : Nat → String) (xs : List (AreaView × List Piece)) : List AreaView :=
  xs.map fun x => { x.1 with content := Piece.spell g x.2 }

/-- The slots of areas, in order. -/
def areaSlots (xs : List (AreaView × List Piece)) : List Nat := xs.flatMap fun x => Piece.slots x.2

theorem zipIdx_filled (g : Nat → String) (xs : List (AreaView × List Piece)) :
    (filled g xs).zipIdx =
      xs.zipIdx.map fun x => ({ x.1.1 with content := Piece.spell g x.1.2 }, x.2) := by
  simp [filled, List.zipIdx_map, Prod.map]

theorem flatMap_zipIdx {β : Type} (f : AreaView × List Piece → List β) :
    ∀ (xs : List (AreaView × List Piece)) (k : Nat),
      (xs.zipIdx k).flatMap (fun x => f x.1) = xs.flatMap f
  | [], _ => rfl
  | x :: xs, k => by simp [List.zipIdx_cons, flatMap_zipIdx f xs (k + 1)]

/-- Tab headers name the areas; the panels hold their bodies, each once, in order. -/
theorem tabPart_spells (xs : List (AreaView × List Piece)) :
    Spells (fun g => tabPart (filled g xs)) (areaSlots xs) := by
  unfold tabPart
  simp only [zipIdx_filled, List.map_map]
  refine Spells.cast ?_ (Spells.append (Spells.append (Spells.append (Spells.append
    (Spells.append (Spells.fixed fun _ _ => rfl)
      (@Spells.join _ _ (fun _ => []) xs.zipIdx fun x _ => Spells.fixed fun _ _ => rfl))
    (Spells.fixed fun _ _ => rfl)) (Spells.fixed fun _ _ => rfl))
    (@Spells.join _ _ (fun x => Piece.slots x.1.2) xs.zipIdx fun x _ => by
      obtain ⟨⟨a, P⟩, i⟩ := x
      exact Html.sourceBody_between
        (fun g => by
          simp only [Function.comp_apply, areaOpen_content, areaBody_content]
          rw [String.append_assoc])
        (by intro g g'; rfl) (by intro g g'; rfl)))
    (Spells.fixed fun _ _ => rfl))
  simp [areaSlots, flatMap_zipIdx (fun x => Piece.slots x.2)]

/-- Accordion panels hold their bodies, each once, in order. -/
theorem accordionPart_spells (xs : List (AreaView × List Piece)) :
    Spells (fun g => accordionPart (filled g xs)) (areaSlots xs) := by
  unfold accordionPart filled
  simp only [List.map_map]
  refine @Spells.join _ _ (fun x => Piece.slots x.2) xs fun x _ => ?_
  obtain ⟨a, P⟩ := x
  exact Html.sourceBody_between
    (fun g => by
      simp only [Function.comp_apply, areaOpen_content, areaBody_content]
      rw [String.append_assoc, String.append_assoc])
    (by intro g g'; rfl) (by intro g g'; rfl)

/-- Box items hold their bodies, each once, in order. -/
theorem boxPart_spells (xs : List (AreaView × List Piece)) :
    Spells (fun g => boxPart (filled g xs)) (areaSlots xs) := by
  unfold boxPart filled
  simp only [List.map_map]
  refine @Spells.join _ _ (fun x => Piece.slots x.2) xs fun x _ => ?_
  obtain ⟨a, P⟩ := x
  exact Html.sourceBody_between
    (fun g => by
      simp only [Function.comp_apply, areaOpen_content, titleLine_content, areaBody_content]
      rw [String.append_assoc])
    (by intro g g'; rfl) (by intro g g'; rfl)

/-! ### Border regions -/

/-- The positions of a border layout in the order its markup shows them. -/
def borderOrder : List String := ["top", "left", "center", "right", "bottom"]

/-- The area a border layout shows at a position, with the pieces of its content. -/
def pick (xs : List (AreaView × List Piece)) (p : String) : Option (AreaView × List Piece) :=
  (xs.filter fun x => x.1.position == some (.str p)).getLast?

/-- The slots of the area a border layout shows at a position. -/
def pickSlots (xs : List (AreaView × List Piece)) (p : String) : List Nat :=
  ((pick xs p).map fun x => Piece.slots x.2).getD []

theorem at?_filled (g : Nat → String) (xs : List (AreaView × List Piece)) (p : String) :
    at? (filled g xs) p = (pick xs p).map fun x => { x.1 with content := Piece.spell g x.2 } := by
  unfold at? filled pick
  rw [List.filter_map, List.getLast?_map]
  rfl

/-- A region holds the body of the area it shows. -/
theorem region_spells (xs : List (AreaView × List Piece)) (p : String) :
    Spells (fun g => ((at? (filled g xs) p).map region).getD "") (pickSlots xs p) := by
  simp only [at?_filled, pickSlots]
  cases pick xs p with
  | none => exact Spells.fixed fun _ _ => rfl
  | some x =>
    obtain ⟨a, P⟩ := x
    exact Html.sourceBody_between
      (fun g => by
        simp only [Option.map_some, Option.getD_some]
        unfold region
        simp only [areaOpen_content, titleLine_content, areaBody_content]
        rw [String.append_assoc, String.append_assoc])
      (by intro g g'; rfl) (by intro g g'; rfl)

/-- A border layout holds the bodies of the areas it shows, position by position. -/
theorem borderPart_spells (xs : List (AreaView × List Piece)) :
    Spells (fun g => borderPart (filled g xs)) (borderOrder.flatMap (pickSlots xs)) := by
  unfold borderPart
  simp only
  refine Spells.cast (by simp [borderOrder]) (((((((region_spells xs "top").append
    (Spells.fixed fun _ _ => rfl)).append (region_spells xs "left")).append
    (region_spells xs "center")).append (region_spells xs "right")).append
    (Spells.fixed fun _ _ => rfl)).append (region_spells xs "bottom"))

theorem pick_spec {xs : List (AreaView × List Piece)} {p : String} {x : AreaView × List Piece}
    (h : pick xs p = some x) : x ∈ xs ∧ x.1.position = some (.str p) := by
  have hx := List.mem_of_getLast? h
  rw [List.mem_filter, beq_iff_eq] at hx
  exact hx

theorem pick_of_mem {xs : List (AreaView × List Piece)} (hnd : (xs.map (·.1.position)).Nodup)
    {x : AreaView × List Piece} (hx : x ∈ xs) {p : String} (hp : x.1.position = some (.str p)) :
    pick xs p = some x := by
  have hfilter : (xs.filter fun y => y.1.position == some (.str p)) = [x] :=
    filter_key_eq (·.1.position) hnd hx hp
  rw [pick, hfilter]
  rfl

theorem mem_borderOrder {s : String} (hs : s ∈ TagDef.borderPositions) : s ∈ borderOrder := by
  simp only [TagDef.borderPositions, List.mem_cons, List.not_mem_nil, or_false] at hs
  rcases hs with rfl | rfl | rfl | rfl | rfl <;> decide

/-- Areas at distinct border positions are, in the order of the regions, the areas a border
layout shows. -/
theorem borderOrder_picks_perm {xs : List (AreaView × List Piece)}
    (hnd : (xs.map (·.1.position)).Nodup)
    (hon : ∀ x ∈ xs, ∃ s ∈ TagDef.borderPositions, x.1.position = some (.str s)) :
    (borderOrder.filterMap (pick xs)).Perm xs := by
  -- areas shown at distinct positions are distinct
  have hpicks : (borderOrder.filterMap (pick xs)).Nodup := by
    refine List.pairwise_filterMap.2 ((show borderOrder.Nodup by decide).imp
      fun hpq x hx y hy hxy => hpq ?_)
    have hpos := (pick_spec hx).2
    rw [hxy, (pick_spec hy).2, Option.some_inj, Value.str.injEq] at hpos
    exact hpos.symm
  have hxs : xs.Nodup :=
    List.Pairwise.of_map _ (fun _ _ hne hxy => hne (congrArg (·.1.position) hxy)) hnd
  rw [List.perm_ext_iff_of_nodup hpicks hxs]
  intro x
  rw [List.mem_filterMap]
  constructor
  · rintro ⟨p, -, hp⟩
    exact (pick_spec hp).1
  · intro hx
    obtain ⟨s, hs, hpos⟩ := hon x hx
    exact ⟨s, mem_borderOrder hs, pick_of_mem hnd hx hpos⟩

theorem flatMap_pickSlots (xs : List (AreaView × List Piece)) (ps : List String) :
    ps.flatMap (pickSlots xs) = (ps.filterMap (pick xs)).flatMap fun x => Piece.slots x.2 := by
  induction ps with
  | nil => rfl
  | cons p ps ih =>
    cases h : pick xs p <;> simp [h, ih, pickSlots]

/-- A border layout whose areas are at distinct border positions shows every area once. -/
theorem borderSlots_perm {xs : List (AreaView × List Piece)}
    (hnd : (xs.map (·.1.position)).Nodup)
    (hon : ∀ x ∈ xs, ∃ s ∈ TagDef.borderPositions, x.1.position = some (.str s)) :
    (borderOrder.flatMap (pickSlots xs)).Perm (areaSlots xs) := by
  rw [flatMap_pickSlots]
  exact (borderOrder_picks_perm hnd hon).flatMap_right _

/-! ### The markup of a layout -/

/-- The slots of the areas a layout shows: a border layout shows the area at each border
position, the other types every area. -/
def shownSlots (type : Value) (xs : List (AreaView × List Piece)) : List Nat :=
  if type == .str "border" then borderOrder.flatMap (pickSlots xs) else areaSlots xs

end LayoutView

namespace Spells

theorem ite {f h : (Nat → String) → String} {s t : List Nat} {c : Prop} [Decidable c]
    (hf : Spells f s) (hh : Spells h t) :
    Spells (fun g => if c then f g else h g) (if c then s else t) := by
  split
  · exact hf
  · exact hh

end Spells

namespace LayoutView

/-- The markup of a layout holds the bodies of the areas it shows between fixed text. -/
theorem render_spells (l : LayoutView) (xs : List (AreaView × List Piece)) :
    Spells (fun g => render { l with areas := filled g xs }) (shownSlots l.type xs) := by
  unfold render
  simp only
  refine Spells.cast ?_ (((Spells.fixed fun _ _ => rfl).append (Spells.ite (tabPart_spells xs)
    (Spells.ite (accordionPart_spells xs) (Spells.ite (borderPart_spells xs)
      (boxPart_spells xs))))).append (Spells.fixed fun _ _ => rfl))
  unfold shownSlots
  rw [List.nil_append, List.append_nil]
  -- only a border layout shows its areas by position
  by_cases ht : (l.type == .str "tab") = true
  · have hb : (l.type == .str "border") = false := by rw [beq_iff_eq.1 ht]; decide
    simp [ht, hb]
  · by_cases ha : (l.type == .str "accordion") = true
    · have hb : (l.type == .str "border") = false := by rw [beq_iff_eq.1 ha]; decide
      simp [ht, ha, hb]
    · simp [ht, ha]

end LayoutView

end UiTags
