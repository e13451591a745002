import UiTags.Proofs.ScriptData
import UiTags.Proofs.ElementIds

/-!
# Script elements end at their end tags

Every script a frame gives is one block: the start tag `<script type="text/javascript">`, the
block's text, and the end tag `</script>`. The element ends where the block means it to when
the tokenizer reads the block's text from the script data state back to it (`EndsAtClose`):
it then reads on up to the end tag's `>` and ends the element there, and nowhere before.

The block's fixed text keeps the state; so do the values written into it as string literals,
the callbacks and class names written as names when they pass the name check, and the line of
a comment that opens no `<!--`. Validation checks the names; nothing checks the comment of a
bind expression, and one that writes `<!--<script>` leaves the tokenizer in the double-escaped
states, where the block's own end tag only leads back to escaped text, and the element stays
open past it.

Main results:

- `Script.EndsAtClose.ends_at_close`: such an element ends exactly at its end tag.
- `Script.block_endsAtClose`: a block whose text keeps the state ends at its end tag.
- `Script.scriptOf_endsAtClose`: so does the script of every frame whose names pass the check
  (`Script.NamesChecked`) and whose bind comment opens no `<!--`.

Fixed text is checked as the list of its characters (`Html.keeps_ofList`): a literal is matched
with `String.ofList` of its characters, so that no proof decodes it.
-/

namespace UiTags
namespace Script

open Html

/-- The start tag of every script element. -/
def scriptStart : String := "<script type=\"text/javascript\">"

/-- The end tag of every script element, and the line feed after it. -/
def scriptClose : String := "</script>\n"

/-- A script element that ends at its own end tag: its start tag, a text that the tokenizer reads
from the script data state back to it, and its end tag. -/
def EndsAtClose (s : String) : Prop :=
  ∃ content, s = scriptStart ++ content ++ scriptClose ∧ Keeps content

/-- A text the tokenizer reads through is read through up to every prefix of it. -/
theorem ScriptState.run_isSome_of_prefix {q : ScriptState} {p l : List Char} (hp : p <+: l)
    (h : (ScriptState.run q l).isSome) : (ScriptState.run q p).isSome := by
  obtain ⟨t, rfl⟩ := hp
  rw [ScriptState.run_append] at h
  cases hq : ScriptState.run q p with
  | none => rw [hq] at h; exact h
  | some _ => rfl

/-- **The element ends at its end tag.** After the start tag, the tokenizer reads every prefix of
the text and of `</script` without ending the element, and ends it at the end tag's `>`. -/
theorem EndsAtClose.ends_at_close {s : String} (h : EndsAtClose s) :
    ∃ content, s = scriptStart ++ content ++ scriptClose ∧
      (∀ p, p <+: (content ++ "</script").toList → (ScriptState.run .data p).isSome) ∧
      ScriptState.run .data (content ++ "</script>").toList = none := by
  obtain ⟨content, rfl, hk⟩ := h
  unfold Keeps at hk
  refine ⟨content, rfl, fun p hp => ScriptState.run_isSome_of_prefix hp ?_, ?_⟩
  · rw [String.toList_append, ScriptState.run_append, hk]
    rfl
  · rw [String.toList_append, ScriptState.run_append, hk]
    rfl

/-! ## Blocks -/

theorem toList_lines (xs : List String) : (lines xs).toList = xs.flatMap (·.toList ++ ['\n']) := by
  induction xs with
  | nil => rfl
  | cons x xs ih =>
    rw [lines, List.map_cons, String.join_cons, String.toList_append, ← lines, ih,
      List.flatMap_cons, String.toList_append]
    rfl

/-- The text of a block between its start and end tags: the function expression around the
block's code and closing part. -/
def blockText (body ready : String) : String :=
  "\n(function() \x7b\n    'use strict';\n\n" ++ body ++ ready ++ "\x7d)();\n"

theorem block_eq (body ready : String) :
    block body ready = scriptStart ++ blockText body ready ++ scriptClose := by
  have hopen : lines ["<script type=\"text/javascript\">", "(function() \x7b", "    'use strict';", ""] =
      scriptStart ++ "\n(function() \x7b\n    'use strict';\n\n" := by
    apply String.toList_inj.1
    rw [toList_lines, String.toList_append]
    unfold scriptStart
    repeat rw [List.flatMap_cons]
    repeat rw [String.toList_ofList]
    rfl
  have hclose : lines ["\x7d)();", "</script>"] = "\x7d)();\n" ++ scriptClose := by
    apply String.toList_inj.1
    rw [toList_lines, String.toList_append]
    unfold scriptClose
    repeat rw [List.flatMap_cons]
    repeat rw [String.toList_ofList]
    rfl
  -- rewritten, not closed by defeq: a string equation up to association is slow to check
  rewrite [block, hopen, hclose]
  unfold blockText
  simp only [String.append_assoc]

/-- A script block ends at its end tag when its code and its closing part keep the script data
state. -/
theorem block_endsAtClose {body ready : String} (hb : Keeps body) (hr : Keeps ready) :
    EndsAtClose (block body ready) :=
  ⟨blockText body ready, block_eq body ready,
    (((keeps_ofList (by decide)).append hb).append hr).append (keeps_ofList (by decide))⟩

theorem keeps_whenReady : Keeps whenReady := by
  unfold whenReady
  repeat' first
    | with_reducible exact keeps_ofList (by decide)
    | with_reducible apply keeps_lines_cons
    | with_reducible exact keeps_lines_nil

theorem keeps_responseHelpers : Keeps responseHelpers := by
  unfold responseHelpers
  repeat' first
    | with_reducible exact keeps_ofList (by decide)
    | with_reducible apply keeps_lines_cons
    | with_reducible exact keeps_lines_nil

/-- The request function of a bind expression keeps the state when the comment written for the
expression opens no `<!--`: the rest is fixed text and string literals. -/
theorem keeps_bindRequest (bind : Bind) {raw : Value} (endpoint : Value)
    (hopen : ¬ ['<', '!', '-', '-'] <:+: (comment raw).toList) :
    Keeps (bindRequest bind raw endpoint) := by
  unfold bindRequest
  cases bind
  all_goals
    repeat' first
      | with_reducible exact keeps_ofList (by decide)
      | with_reducible assumption
      | with_reducible apply keeps_commentLine_after
      | with_reducible apply Keeps.append
      | with_reducible apply keeps_lines_cons
      | with_reducible apply keeps_join_map
      | intro _
      | with_reducible exact keeps_lines_nil
      | with_reducible exact keeps_quoted _
      | with_reducible exact keeps_quotedText _

/-! ## The scripts of frames -/

section Builders

variable {onLoad onEdit onSort onChange onSuccess onError onBindError : Value}

theorem gridScript_endsAtClose (gridId gridName : Value) (hload : NameChecked onLoad)
    (hedit : NameChecked onEdit) (hsort : NameChecked onSort) (hchange : NameChecked onChange) :
    EndsAtClose (gridScript gridId gridName onLoad onEdit onSort onChange) := by
  apply block_endsAtClose _ keeps_whenReady
  repeat' first
    | with_reducible exact keeps_ofList (by decide)
    | with_reducible assumption
    | with_reducible apply Keeps.append
    | with_reducible apply keeps_lines_cons
    | with_reducible apply keeps_invoke
    | with_reducible exact keeps_lines_nil
    | with_reducible exact keeps_quoted _

theorem updateScript_endsAtClose (gridName formId endpoint : Value) (target : UpdateTarget)
    (hsuccess : NameChecked onSuccess) (herror : NameChecked onError) :
    EndsAtClose (updateScript gridName formId endpoint target onSuccess onError) := by
  apply block_endsAtClose _ keeps_whenReady
  cases target
  all_goals
    repeat' first
      | with_reducible exact keeps_ofList (by decide)
      | with_reducible assumption
      | with_reducible apply Keeps.append
      | with_reducible apply keeps_lines_cons
      | with_reducible apply keeps_invoke
      | with_reducible apply keeps_ite
      | with_reducible exact keeps_lines_nil
      | with_reducible exact keeps_responseHelpers
      | with_reducible exact keeps_quoted _
      | with_reducible exact keeps_quotedText _
      | with_reducible exact keeps_boolLiteral _

theorem layoutScript_endsAtClose (layoutId layoutType : Value) :
    EndsAtClose (layoutScript layoutId layoutType) := by
  apply block_endsAtClose _ keeps_whenReady
  repeat' first
    | with_reducible exact keeps_ofList (by decide)
    | with_reducible apply Keeps.append
    | with_reducible apply keeps_lines_cons
    | with_reducible apply keeps_ite
    | with_reducible exact keeps_lines_nil
    | with_reducible exact keeps_responseHelpers
    | with_reducible exact keeps_quoted _

theorem podScript_endsAtClose (podId : Value) (hbind : NameChecked onBindError) :
    EndsAtClose (podScript podId onBindError) := by
  apply block_endsAtClose _ keeps_whenReady
  repeat' first
    | with_reducible exact keeps_ofList (by decide)
    | with_reducible assumption
    | with_reducible apply Keeps.append
    | with_reducible apply keeps_lines_cons
    | with_reducible apply keeps_invoke
    | with_reducible exact keeps_lines_nil
    | with_reducible exact keeps_responseHelpers
    | with_reducible exact keeps_quoted _

theorem divScript_endsAtClose (divId : Value) (bind : Bind) {raw : Value}
    (bindOnLoad endpoint : Value) (hbind : NameChecked onBindError)
    (hopen : ¬ ['<', '!', '-', '-'] <:+: (comment raw).toList) :
    EndsAtClose (divScript divId bind raw bindOnLoad endpoint onBindError) := by
  have hrequest := keeps_bindRequest bind endpoint hopen
  apply block_endsAtClose _ keeps_whenReady
  repeat' first
    | with_reducible exact keeps_ofList (by decide)
    | with_reducible assumption
    | with_reducible apply Keeps.append
    | with_reducible apply keeps_lines_cons
    | with_reducible apply keeps_invoke
    | with_reducible apply keeps_ite
    | with_reducible exact keeps_lines_nil
    | with_reducible exact keeps_responseHelpers
    | with_reducible exact keeps_quoted _

/-- A proxy's script: its class name is written only when it has a component, and must then pass
the check. -/
theorem proxyScript_endsAtClose {cfc className : Value} (bind : Option Bind) {raw : Value}
    (endpoint : Value) (hclass : cfc.truthy = true → isIdentifier className.text = true)
    (hsuccess : NameChecked onSuccess) (herror : NameChecked onError)
    (hopen : ¬ ['<', '!', '-', '-'] <:+: (comment raw).toList) :
    EndsAtClose (proxyScript cfc className bind raw endpoint onSuccess onError) := by
  have hname (hc : cfc.truthy = true) : Keeps className.text :=
    keeps_of_lt_not_mem (lt_not_mem_of_isIdentifier (hclass hc))
  have hrequest (b : Bind) := keeps_bindRequest b endpoint hopen
  unfold proxyScript
  cases bind <;>
    [refine block_endsAtClose ?_ (keeps_ofList rfl); refine block_endsAtClose ?_ keeps_whenReady]
  -- the class part names the class only under its own test of the component
  all_goals
    split_ifs
    all_goals
      repeat' first
        | with_reducible exact keeps_ofList (by decide)
        | with_reducible assumption
        | with_reducible exact hrequest _
        | with_reducible exact hname ‹_›
        | with_reducible apply Keeps.append
        | with_reducible apply keeps_lines_cons
        | with_reducible apply keeps_invoke
        | with_reducible exact keeps_lines_nil
        | with_reducible exact keeps_whenReady
        | with_reducible exact keeps_responseHelpers
        | with_reducible exact keeps_quoted _

theorem importScript_endsAtClose (version cssSrc scriptSrc endpoint : Value)
    (params : List (String × String)) :
    EndsAtClose (importScript version cssSrc scriptSrc endpoint params) := by
  apply block_endsAtClose _ keeps_whenReady
  repeat' first
    | with_reducible exact keeps_ofList (by decide)
    | with_reducible apply Keeps.append
    | with_reducible apply keeps_lines_cons
    | with_reducible apply keeps_join_map
    | intro _
    | with_reducible exact keeps_lines_nil
    | with_reducible exact keeps_quoted _
    | with_reducible exact keeps_quotedText _

end Builders

/-! ## Frames -/

/-- The attributes a tag declares as script names: the callbacks its script calls, and the class
name a proxy defines. Its script writes each of them unquoted. -/
def scriptNames : String → List String
  | "grid" => ["onLoad", "onEdit", "onSort", "onChange"]
  | "gridupdate" => ["onSuccess", "onError"]
  | "pod" => ["onBindError"]
  | "div" => ["onBindError"]
  | "ajaxproxy" => ["jsClassName", "onSuccess", "onError"]
  | _ => []

/-- The names a frame's script writes unquoted pass the name check when they are given: each of
its tag's script names, and the class name of a proxy with a component, the one given or else
the last part of the component's path. -/
structure NamesChecked (f : Frame) : Prop where
  declared : ∀ a ∈ scriptNames f.tag, NameChecked (Output.attr f a)
  className : f.tag = "ajaxproxy" → (Output.attr f "cfc").truthy = true →
    isIdentifier (Output.proxyClass f).text = true

theorem nameChecked_null : NameChecked .null := fun h => absurd h (by decide)

/-- The script of a frame whose names pass the check, and whose bind comment opens no `<!--`, is
empty or a script element that ends at its end tag. -/
theorem scriptOf_endsAtClose {c : Config} {f : Frame} {s : String} {log : List LogLine}
    (hnames : NamesChecked f)
    (hbind : ¬ ['<', '!', '-', '-'] <:+: (comment (Output.attr f "bind")).toList)
    (h : Output.scriptOf c f = .ok (s, log)) : s = "" ∨ EndsAtClose s := by
  have hname := hnames.declared
  unfold Output.scriptOf at h
  -- one case per tag; each script takes the names its tag declares
  split at h
  next htag =>
    rw [htag] at hname
    obtain ⟨rfl, -⟩ := Prod.mk.inj (Except.ok.inj h)
    exact .inr (gridScript_endsAtClose _ _ (hname _ (by decide)) (hname _ (by decide))
      (hname _ (by decide)) (hname _ (by decide)))
  next htag =>
    rw [htag] at hname
    obtain ⟨rfl, -⟩ := Prod.mk.inj (Except.ok.inj h)
    exact .inr (updateScript_endsAtClose _ _ _ _ (hname _ (by decide)) (hname _ (by decide)))
  next =>
    split at h <;> obtain ⟨rfl, -⟩ := Prod.mk.inj (Except.ok.inj h)
    · exact .inr (layoutScript_endsAtClose _ _)
    · exact .inl rfl
  next htag =>
    rw [htag] at hname
    split at h <;> obtain ⟨rfl, -⟩ := Prod.mk.inj (Except.ok.inj h)
    · exact .inr (podScript_endsAtClose _ (hname _ (by decide)))
    · exact .inl rfl
  next htag =>
    rw [htag] at hname
    dsimp only at h
    split at h <;> obtain ⟨rfl, -⟩ := Prod.mk.inj (Except.ok.inj h)
    · exact .inr (divScript_endsAtClose _ _ _ _ (hname _ (by decide)) hbind)
    · exact .inl rfl
  next htag =>
    have hclass := hnames.className htag
    rw [htag] at hname
    obtain ⟨rfl, -⟩ := Prod.mk.inj (Except.ok.inj h)
    exact .inr (proxyScript_endsAtClose _ _ hclass (hname _ (by decide)) (hname _ (by decide))
      hbind)
  next =>
    -- an import whose asset locations are given
    cases hcss : Assets.cssBase c f <;> cases hjs : Assets.scriptBase c f <;>
      simp only [hcss, hjs, bind, Except.bind, pure, Except.pure, reduceCtorEq,
        Except.ok.injEq, Prod.mk.injEq] at h
    obtain ⟨rfl, -⟩ := h
    exact .inr (importScript_endsAtClose _ _ _ _ _)
  next =>
    obtain ⟨rfl, -⟩ := Prod.mk.inj (Except.ok.inj h)
    exact .inl rfl

end Script
end UiTags
