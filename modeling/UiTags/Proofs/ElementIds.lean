import UiTags.Proofs.StartTags
import UiTags.Output
import UiTags.Proofs.Session
import UiTags.Proofs.ScriptLiterals
import Mathlib.Tactic.SplitIfs

/-!
# Element ids in markup and in scripts

A grid, a grid update, and a layout, pod or div that is wired by a script, write their element
id twice: escaped for markup in the root element's `id` attribute, and escaped for scripts in
the literal the script passes to `document.getElementById`. A page reads the first as a parser
decodes an attribute value, and gives the second to the script engine as part of the script's
text, which the page's input stream has normalised (a carriage return, alone or before a line
feed, becomes a line feed, and a null character the replacement character) and which the engine
reads as a string literal.

The two readings agree exactly when the id holds no carriage return. The escaper for scripts
writes a carriage return as the escape `\r`, which reads back as a carriage return, while markup
keeps it as it is and the input stream turns it into a line feed; a null character reads as the
replacement character on both sides.

Main results:

- `Html.read_first_attr`: once a parser has read past the first attribute of a start tag,
  that attribute stays the tag's first, whatever follows.
- `Html.read_root_id`: a start tag written `<name id="…" …` reads with `id` first, its value
  the id normalised.
- `readLiteral_normalize_quoted`: a script literal of a text, normalised by the input stream,
  reads as the text with null characters replaced.
-/

namespace UiTags
namespace Html

/-! ## The first attribute of a start tag -/

namespace TagReading

@[simp] theorem begin_attrs (r : TagReading) (n : List Char) : (r.begin n).attrs = r.commit.attrs :=
  rfl

@[simp] theorem pushName_attrs (r : TagReading) (c : Char) : (r.pushName c).attrs = r.attrs := rfl

@[simp] theorem pushValue_attrs (r : TagReading) (c : Char) : (r.pushValue c).attrs = r.attrs :=
  rfl

@[simp] theorem finish_attrs (r : TagReading) (b : Bool) : (r.finish b).attrs = r.commit.attrs :=
  rfl

/-- Finishing the attribute being read keeps every attribute read before it. -/
@[simp] theorem attrs_prefix_commit (r : TagReading) : r.attrs <+: r.commit.attrs := by
  rcases r with ⟨tag, attrs, _ | ⟨n, v⟩⟩
  · exact List.prefix_refl _
  · show attrs <+: addAttr attrs (String.ofList n, String.ofList (decodeValue v))
    unfold addAttr
    split
    · exact List.prefix_refl _
    · exact List.prefix_append _ _

end TagReading

/-- A parser never drops an attribute it has read: each step keeps the attributes read so far
at the front of those it goes on with. -/
theorem attrs_prefix_step {m m' : TagMode} {r r' : TagReading} {c : Char}
    (h : step m r c = .next m' r') : r.attrs <+: r'.attrs := by
  unfold step at h
  split at h <;> split_ifs at h <;> cases h <;> simp

/-- A finished tag has the attributes read, with the one being read added when it is new. -/
theorem attrs_done {m : TagMode} {r : TagReading} {c : Char} {t : StartTag}
    (h : step m r c = .done t) : t.attrs = r.commit.attrs := by
  unfold step at h
  split at h <;> split_ifs at h <;> cases h <;> rfl

/-- The first of some attributes is still first with more after them. -/
theorem head?_of_isPrefix {l l' : List (String × String)} {p : String × String} (h : l <+: l')
    (hp : l.head? = some p) : l'.head? = some p := by
  obtain ⟨t, rfl⟩ := h
  simp [hp]

/-- The places between attributes: after a value, before a name, and after a `/`. -/
def Between (m : TagMode) : Prop :=
  m = .afterValue ∨ m = .beforeName ∨ m = .selfClosing

/-- Between attributes, a parser either stays between attributes with nothing read, or begins
a name, which finishes the attribute read before it. -/
theorem step_between {m m' : TagMode} {r r' : TagReading} {c : Char} (hm : Between m)
    (h : step m r c = .next m' r') : (r' = r ∧ Between m') ∨ ∃ n, r' = r.begin n := by
  rcases hm with rfl | rfl | rfl <;> simp only [step] at h <;> split_ifs at h <;> cases h <;>
    simp [Between]

/-- Where a parser stands towards the attribute `p`: it is the first attribute read, or it is the
attribute just read, with none before it, and the parser is between attributes. -/
def FirstIs (p : String × String) (m : TagMode) (r : TagReading) : Prop :=
  r.attrs.head? = some p ∨ (r.attrs = [] ∧ r.commit.attrs = [p] ∧ Between m)

/-- One step keeps an attribute first. -/
theorem FirstIs.step {p : String × String} {m m' : TagMode} {r r' : TagReading} {c : Char}
    (hf : FirstIs p m r) (h : step m r c = .next m' r') : FirstIs p m' r' := by
  rcases hf with hhead | ⟨hnil, hcommit, hm⟩
  · exact .inl (head?_of_isPrefix (attrs_prefix_step h) hhead)
  · rcases step_between hm h with ⟨rfl, hm'⟩ | ⟨n, rfl⟩
    · exact .inr ⟨hnil, hcommit, hm'⟩
    · exact .inl (by simp [hcommit])

/-- **Once read, the first attribute stays first.** A tag read to its end from a parser that
stands before or at the attribute `p`, with none before it, has `p` first. -/
theorem read_first_attr {p : String × String} :
    ∀ {m : TagMode} {r : TagReading} {cs rest : List Char} {t : StartTag}, FirstIs p m r →
      read m r cs = some (t, rest) → t.attrs.head? = some p
  | _, _, [], _, _, _, h => by cases h
  | m, r, c :: cs, rest, t, hf, h => by
    rw [read_cons] at h
    split at h
    · rename_i m' r' hstep
      exact read_first_attr (hf.step hstep) h
    · rename_i t' hstep
      cases h
      rw [attrs_done hstep]
      rcases hf with hhead | ⟨-, hcommit, -⟩
      · exact head?_of_isPrefix (TagReading.attrs_prefix_commit r) hhead
      · simp [hcommit]

/-- **The id a root element is read with.** A start tag written `<tag id="…"`, whatever follows
the id's closing quote, reads with `id` as its first attribute, its value the id as the input
stream gives it. -/
theorem read_root_id {tag : String} (htag : TagName tag) (v : String) (more : List Char)
    {t : StartTag} {rest : List Char}
    (h : readStartTag (("<" ++ tag ++ " id=\"" ++ escape v ++ "\"").toList ++ more) =
      some (t, rest)) :
    t.attrs.head? = some ("id", streamText v) := by
  obtain ⟨⟨hne, hplain⟩, hsmall⟩ := htag
  obtain ⟨c, n, hcn⟩ := List.exists_cons_of_ne_nil hne
  have hc : plainChar c = true := hplain c (by simp [hcn])
  have hn : ∀ d ∈ n, plainChar d = true := fun d hd => hplain d (by simp [hcn, hd])
  have hletter : 'a' ≤ c ∧ c ≤ 'z' := by simpa [hcn] using hsmall
  have hid : PlainName "id" := by decide
  have htext : ("<" ++ tag ++ " id=\"" ++ escape v ++ "\"").toList ++ more =
      '<' :: c :: (n ++ ((" " ++ escape "id" ++ "=\"" ++ escape v ++ "\"").toList ++ more)) := by
    rw [escape_plain hid.2]
    simp [hcn]
  rw [htext, readStartTag, if_pos (Or.inl hletter), nameChar_plain hc, read_tagName _ _ hn,
    read_pair tagName_endsAtBlank _ hid v] at h
  -- the id is the attribute being read, and none was read before it
  refine read_first_attr (.inr ⟨rfl, ?_, .inl rfl⟩) h
  rw [commit_attrs]
  simp [addAttr, TagReading.commit, escape, decodeValue_escape, streamText]

/-- A carriage return that no line feed follows at the seam is normalised alike on its own and
joined to the text after it. -/
theorem normalize_append (a : List Char) {b : List Char} (hb : b.head? ≠ some '\n') :
    normalize (a ++ b) = normalize a ++ normalize b := by
  induction a using normalize.induct with
  | case1 => rfl
  | case2 cs ih => simp [normalize, ih]
  | case3 cs hcs ih =>
    have hhead : cs.head? ≠ some '\n' := by
      cases cs with
      | nil => simp
      | cons d cs => simpa using hcs cs
    have hseam : (cs ++ b).head? ≠ some '\n' := by
      cases cs with
      | nil => simpa using hb
      | cons d cs => simpa using hhead
    rw [List.cons_append, normalize_cr hseam, normalize_cr hhead, ih]
    rfl
  | case4 cs ih => simp [normalize, ih]
  | case5 c cs _ hcr hnul ih =>
    rw [List.cons_append, normalize_cons hcr hnul, normalize_cons hcr hnul, ih]
    rfl

/-- The input stream gives no carriage return. -/
theorem cr_not_mem_normalize (cs : List Char) : '\r' ∉ normalize cs := by
  induction cs using normalize.induct with
  | case1 => simp [normalize]
  | case2 cs ih => simpa [normalize] using ih
  | case3 cs hcs ih =>
    have hhead : cs.head? ≠ some '\n' := by
      cases cs with
      | nil => simp
      | cons d cs => simpa using hcs cs
    rw [normalize_cr hhead]
    simpa using ih
  | case4 cs ih => simpa [normalize] using ih
  | case5 c cs _ hcr hnul ih =>
    rw [normalize_cons hcr hnul]
    simpa [Ne.symm hcr] using ih

end Html

namespace Script

/-! ## The id a script looks up -/

/-- A text without carriage returns as the input stream gives it: each null character replaced
by the replacement character. -/
def nulReplaced (cs : List Char) : List Char :=
  cs.map fun c => if c = '\x00' then '\uFFFD' else c

@[simp] theorem nulReplaced_nil : nulReplaced [] = [] := rfl

@[simp] theorem nulReplaced_cons (c : Char) (cs : List Char) :
    nulReplaced (c :: cs) = (if c = '\x00' then '\uFFFD' else c) :: nulReplaced cs := rfl

@[simp] theorem nulReplaced_append (a b : List Char) :
    nulReplaced (a ++ b) = nulReplaced a ++ nulReplaced b :=
  List.map_append

/-- Text without a carriage return reaches the engine with only its null characters replaced. -/
theorem normalize_append_of_cr_not_mem {cs : List Char} (h : '\r' ∉ cs) (rest : List Char) :
    Html.normalize (cs ++ rest) = nulReplaced cs ++ Html.normalize rest := by
  induction cs with
  | nil => rfl
  | cons c cs ih =>
    have hcr : c ≠ '\r' := fun e => h (e ▸ List.mem_cons_self)
    have ih := ih (fun e => h (List.mem_cons_of_mem _ e))
    by_cases hnul : c = '\x00'
    · subst hnul
      rw [List.cons_append, Html.normalize.eq_4, ih]
      rfl
    · rw [List.cons_append, Html.normalize_cons hcr hnul, ih]
      simp [nulReplaced, hnul]

theorem normalize_of_cr_not_mem {cs : List Char} (h : '\r' ∉ cs) :
    Html.normalize cs = nulReplaced cs := by
  simpa [Html.normalize] using normalize_append_of_cr_not_mem h []

/-- Escaping commutes with replacing null characters: the escaper keeps both the null
character and the replacement character, and writes no null character for any other. -/
theorem nulReplaced_escape (cs : List Char) :
    nulReplaced (cs.flatMap escapeChar) = (nulReplaced cs).flatMap escapeChar := by
  have hchar : ∀ c, nulReplaced (escapeChar c) = escapeChar (if c = '\x00' then '\uFFFD' else c) := by
    intro c
    by_cases hnul : c = '\x00'
    · subst hnul
      decide
    · rw [if_neg hnul]
      by_cases hc : c ∈ escapedChars
      · have htable : escapedChars.all (fun c => nulReplaced (escapeChar c) == escapeChar c) = true := by
          decide
        simpa using List.all_eq_true.1 htable c hc
      · simp [escapeChar_of_not_mem hc, nulReplaced, hnul]
  induction cs with
  | nil => rfl
  | cons c cs ih =>
    rw [List.flatMap_cons, nulReplaced_append, ih, hchar, nulReplaced_cons, List.flatMap_cons]

theorem cr_not_mem_escape (s : String) : '\r' ∉ (escape s).toList := by
  rw [escape, String.toList_ofList, List.mem_flatMap]
  rintro ⟨c, -, hc⟩
  exact escapeChar_no_breaker c '\r' hc (by decide)

/-- **A literal as the engine reads it.** A script literal of a text, followed by any text, reaches
the engine normalised by the input stream, and reads as the text's code units with null characters
replaced, the rest normalised after it. -/
theorem readLiteral_normalize_quoted (s : String) (rest : List Char) :
    readLiteral (Html.normalize ((quotedText s).toList ++ rest)) =
      some (codeUnits (nulReplaced s.toList), Html.normalize rest) := by
  have hlit : (quotedText s).toList ++ rest = ('\'' :: (escape s).toList ++ ['\'']) ++ rest := by
    simp [quotedText]
  have hcr : '\r' ∉ '\'' :: (escape s).toList ++ ['\''] := by
    simpa using cr_not_mem_escape s
  rw [hlit, normalize_append_of_cr_not_mem hcr]
  simp only [nulReplaced_cons, nulReplaced_append, nulReplaced_nil, List.cons_append,
    List.append_assoc]
  rw [escape, String.toList_ofList, nulReplaced_escape]
  exact readFrom_escaped _ _

/-- Code units hold the unit of a carriage return exactly where the characters hold one: no other
character has that code point, and no surrogate is that small. -/
theorem cr_mem_codeUnits {cs : List Char} : 13 ∈ codeUnits cs ↔ '\r' ∈ cs := by
  have hunit : ∀ n, 13 ∈ utf16 n ↔ n = 13 := by
    intro n
    unfold utf16
    split <;> simp <;> omega
  have hpoint : ∀ c, Text.codePoint c = 13 ↔ c = '\r' := fun c =>
    ⟨fun h => codePoint_injective (h.trans (by decide)), fun h => h ▸ by decide⟩
  simp [codeUnits, hunit, hpoint]

theorem cr_mem_nulReplaced {cs : List Char} : '\r' ∈ nulReplaced cs ↔ '\r' ∈ cs := by
  simp only [nulReplaced, List.mem_map]
  constructor
  · rintro ⟨c, hc, he⟩
    split at he
    · simp at he
    · exact he ▸ hc
  · exact fun h => ⟨'\r', h, by decide⟩

/-- **Markup and script read an id alike exactly when it has no carriage return.** As the
input stream gives it, a carriage return is a line feed; read from a script literal, where the
escaper writes it as `\r`, it is a carriage return. -/
theorem codeUnits_normalize_eq_iff (cs : List Char) :
    codeUnits (Html.normalize cs) = codeUnits (nulReplaced cs) ↔ '\r' ∉ cs := by
  constructor
  · intro heq hcr
    have h13 : 13 ∈ codeUnits (nulReplaced cs) := cr_mem_codeUnits.2 (cr_mem_nulReplaced.2 hcr)
    rw [← heq] at h13
    exact Html.cr_not_mem_normalize cs (cr_mem_codeUnits.1 h13)
  · intro h
    rw [normalize_of_cr_not_mem h]

/-! ## The scripts' lookups -/

/-- The call by which a script looks up the element of an id, as written. -/
def lookupCall (v : Value) : List Char := ("document.getElementById(" ++ quoted v ++ ")").toList

/-- A script, as the input stream gives it to the engine, passes `document.getElementById` a
literal that reads as the given code units. -/
def LooksUp (script : String) (units : List Nat) : Prop :=
  ∃ pre rest after, Html.normalize script.toList = pre ++ "document.getElementById(".toList ++ rest ∧
    readLiteral rest = some (units, ')' :: after)

theorem quoted_of_ne_null {v : Value} (hv : v ≠ .null) : quoted v = quotedText v.text := by
  cases v <;> first | exact absurd rfl hv | rfl

/-- A script that writes the lookup of a value's text passes the engine that text, with null
characters replaced. -/
theorem looksUp_of_infix {script : String} {v : Value} (hv : v ≠ .null)
    (h : lookupCall v <:+: script.toList) :
    LooksUp script (codeUnits (nulReplaced v.text.toList)) := by
  obtain ⟨pre, post, hs⟩ := h
  have hcall : "document.getElementById(".toList =
      nulReplaced "document.getElementById(".toList := by decide
  have hcr : '\r' ∉ "document.getElementById(".toList := by decide
  have hclose : Html.normalize (')' :: post) = ')' :: Html.normalize post :=
    Html.normalize_cons (by decide) (by decide) post
  refine ⟨Html.normalize pre, (quotedText v.text).toList ++ ')' :: post |> Html.normalize,
    Html.normalize post, ?_, ?_⟩
  · rw [← hs, List.append_assoc, Html.normalize_append pre (by simp [lookupCall]), lookupCall,
      quoted_of_ne_null hv]
    simp only [String.toList_append, List.append_assoc]
    rw [normalize_append_of_cr_not_mem hcr, ← hcall]
    rfl
  · rw [readLiteral_normalize_quoted, hclose]

/-- A block whose code holds a lookup line, a lead ending in `document.getElementById(`, then
the value's literal, `);` and a line feed, looks the value up. -/
theorem block_lookup {body ready : String} {v : Value} (pre lead : String)
    (hlead : ∃ l, lead = l ++ "document.getElementById(")
    (hbody : ∃ post, body = pre ++ (lead ++ (quoted v ++ (");\n" ++ post)))) :
    lookupCall v <:+: (block body ready).toList := by
  obtain ⟨l, rfl⟩ := hlead
  obtain ⟨post, rfl⟩ := hbody
  have hend : ");\n".toList = ')' :: ";\n".toList := rfl
  have hline : lookupCall v <:+:
      (pre ++ (l ++ "document.getElementById(" ++ (quoted v ++ (");\n" ++ post)))).toList :=
    ⟨pre.toList ++ l.toList, ";\n".toList ++ post.toList, by simp [lookupCall, hend]⟩
  -- the code sits between the block's opening lines and its closing part
  refine hline.trans ?_
  unfold block
  simp only [String.toList_append]
  exact (List.infix_append _ _ _).trans (List.prefix_append _ _).isInfix

/- Each script's lookup line follows the code before its `init` function. -/

theorem gridScript_lookup (gridId gridName onLoad onEdit onSort onChange : Value) :
    lookupCall gridId <:+: (gridScript gridId gridName onLoad onEdit onSort onChange).toList :=
  block_lookup (lines ["    function init() \x7b"])
    "        const gridElement = document.getElementById("
    ⟨"        const gridElement = ", by decide⟩
    ⟨_, by simp only [String.append_assoc]; exact rfl⟩

theorem updateScript_lookup (gridName formId endpoint : Value) (target : UpdateTarget)
    (onSuccess onError : Value) :
    lookupCall formId <:+: (updateScript gridName formId endpoint target onSuccess onError).toList :=
  block_lookup ("    const gridName = " ++ quoted gridName ++ ";\n" ++ responseHelpers ++ "\n" ++
      lines ["    function init() \x7b"])
    "        const updateForm = document.getElementById("
    ⟨"        const updateForm = ", by decide⟩
    ⟨_, by simp only [String.append_assoc]; exact rfl⟩

theorem layoutScript_lookup (layoutId layoutType : Value) :
    lookupCall layoutId <:+: (layoutScript layoutId layoutType).toList :=
  block_lookup (responseHelpers ++ "\n" ++ lines ["    function init() \x7b"])
    "        const layoutElement = document.getElementById("
    ⟨"        const layoutElement = ", by decide⟩
    ⟨_, by simp only [String.append_assoc]; exact rfl⟩

theorem podScript_lookup (podId onBindError : Value) :
    lookupCall podId <:+: (podScript podId onBindError).toList :=
  block_lookup (responseHelpers ++ "\n" ++ lines ["    function init() \x7b"])
    "        const podElement = document.getElementById("
    ⟨"        const podElement = ", by decide⟩
    ⟨_, by simp only [String.append_assoc]; exact rfl⟩

theorem divScript_lookup (divId : Value) (bind : Bind) (raw bindOnLoad endpoint onBindError : Value) :
    lookupCall divId <:+: (divScript divId bind raw bindOnLoad endpoint onBindError).toList :=
  block_lookup (responseHelpers ++ "\n" ++ bindRequest bind raw endpoint ++ "\n" ++
      lines ["    function init() \x7b"])
    "        const divElement = document.getElementById("
    ⟨"        const divElement = ", by decide⟩
    ⟨_, by simp only [String.append_assoc]; exact rfl⟩

end Script
end UiTags

/-! ## Root elements and their scripts -/

namespace UiTags

namespace Html

/-- A root element's start tag opens with its id. -/
theorem startTag_root_opens (tag : String) (id : Value) (classes style : String)
    (data : List (String × String)) :
    ∃ more, (startTag tag (rootPairs id classes style data)).toList =
      ("<" ++ tag ++ " id=\"" ++ escape id.text ++ "\"").toList ++ more := by
  have hsplit : "\" class=\"" = "\"" ++ " class=\"" := by decide
  rw [startTag_root, hsplit]
  simp only [text, String.toList_append, List.append_assoc]
  exact ⟨_, rfl⟩

theorem opens_of_root {html tag : String} {id : Value} {classes style : String}
    {data : List (String × String)}
    (h : ∃ rest, html.toList = (startTag tag (rootPairs id classes style data)).toList ++ rest) :
    ∃ more, html.toList = ("<" ++ tag ++ " id=\"" ++ escape id.text ++ "\"").toList ++ more := by
  obtain ⟨rest, hrest⟩ := h
  obtain ⟨more, hmore⟩ := startTag_root_opens tag id classes style data
  exact ⟨more ++ rest, by rw [hrest, hmore, List.append_assoc]⟩

end Html

/-- A grid update's form opens with its id. -/
theorem FormView.render_opens (v : FormView) :
    ∃ more, v.render.toList =
      ("<" ++ "form" ++ " id=\"" ++ Html.escape v.id.text ++ "\"").toList ++ more := by
  have hopen : "<form id=\"" = "<" ++ "form" ++ " id=\"" := by decide
  have hsplit : "\" class=\"bx-grid-update\" method=\"" =
      "\"" ++ " class=\"bx-grid-update\" method=\"" := by decide
  unfold FormView.render
  rw [hopen, hsplit]
  simp only [Html.text, String.toList_append, List.append_assoc]
  exact ⟨_, rfl⟩

/-! ## The ids of open frames -/

namespace Document

/-- A frame opens with the truthy id given, or a text. -/
theorem openId_ne_null (ids : IdSource) (td : TagDef) (attrs : Attrs) :
    (openId ids td attrs).1 ≠ .null := by
  unfold openId
  by_cases hgiven : ((attrs.find? "id").getD .null).truthy
  · simp only [hgiven, if_true]
    intro hnull
    rw [hnull] at hgiven
    cases hgiven
  · simp only [hgiven]
    cases td.idPrefix <;> exact fun h => by cases h

/-- Every event keeps the ids of the open frames other than null: a start pushes a frame with
the id it opens with, and the other events push nothing. -/
theorem stack_ids_step {d : Document} (hd : ∀ f ∈ stack d, f.id ≠ .null) (ev : Event) :
    ∀ f ∈ stack (d.step ev).1, f.id ≠ .null := by
  cases ev with
  | start tag raw hasBody =>
    cases h : d.start tag raw hasBody with
    | error e =>
      rw [step_start_error h]
      exact hd
    | ok d' =>
      obtain ⟨td, attrs, -, h'⟩ := start_ok_eraseLog h
      rw [step_start_ok h, stack_eq_of_eraseLog h']
      intro f hf
      simp only [stack, List.map_cons, List.mem_cons] at hf
      rcases hf with rfl | hf
      · exact openId_ne_null _ _ _
      · exact hd f hf
  | write text =>
    rw [step_write, stack_write]
    exact hd
  | close tag =>
    rw [step_close]
    rcases close_cases d tag with ⟨e, h, -⟩ | ⟨td, f, rest, -, hf, -, h⟩
    · rw [h]
      exact hd
    · rw [h, stack_settle, stack_eq_of_eraseLog (eraseLog_popped d f rest)]
      intro g hg
      exact hd g (by simp only [stack, hf, List.map_cons, List.mem_cons] at hg ⊢; exact .inr hg)
  | finish =>
    rw [step_finish]
    exact hd

/-- **Open frames have ids.** In a session started with no frame open, every frame open after
any run of events has an id that is not null. -/
theorem frame_id_ne_null {d : Document} (h₀ : d.frames = []) (evs : List Event) :
    ∀ f ∈ (d.run evs).frames, f.id ≠ .null := by
  have hstart : ∀ f ∈ stack d, f.id ≠ .null := by simp [stack, h₀]
  have hrun := run_invariant (fun d => ∀ f ∈ stack d, f.id ≠ .null)
    (fun _ ev hd => stack_ids_step hd ev) hstart evs
  intro f hf
  exact hrun f.opened (List.mem_map_of_mem hf)

end Document

theorem Script.block_ne_empty (body ready : String) : Script.block body ready ≠ "" := by
  intro h
  have := congrArg String.length h
  simp [Script.block, Script.lines] at this

/-- The id of the element a closed frame's script looks up: a grid update's form id, else the
frame's own. -/
def elementId (f : Frame) : Value :=
  if f.tag = "gridupdate" then FormView.formId f else f.id

theorem elementId_of_ne {f : Frame} (h : f.tag ≠ "gridupdate") : elementId f = f.id :=
  if_neg h

/-- What a closed frame's output does with an element id: a start tag read at the start of its
markup has the attribute `id` first, with the id as the input stream gives it; and its script,
as the input stream gives it, passes `document.getElementById` a literal that reads as the id's
code units, null characters replaced. -/
def ServesId (o : Output) (id : String) : Prop :=
  (∀ t rest, Html.readStartTag o.markup.toList = some (t, rest) →
    t.attrs.head? = some ("id", Html.streamText id)) ∧
  Script.LooksUp o.script (Script.codeUnits (Script.nulReplaced id.toList))

theorem servesId_of {o : Output} {tag : String} {v : Value} (hv : v ≠ .null)
    (htag : Html.TagName tag)
    (hm : ∃ more,
      o.markup.toList = ("<" ++ tag ++ " id=\"" ++ Html.escape v.text ++ "\"").toList ++ more)
    (hs : Script.lookupCall v <:+: o.script.toList) : ServesId o v.text := by
  obtain ⟨more, hmore⟩ := hm
  refine ⟨fun t rest h => ?_, Script.looksUp_of_infix hv hs⟩
  rw [hmore] at h
  exact Html.read_root_id htag v.text more h

theorem Output.ofFrame_parts {c : Config} {f : Frame} {o : Output}
    (h : Output.ofFrame c f = .ok o) :
    (∃ ml, Output.markupOf c f = .ok (o.markup, ml)) ∧ ∃ sl, Output.scriptOf c f = .ok (o.script, sl) := by
  unfold Output.ofFrame at h
  cases hm : Output.markupOf c f with
  | error e => simp [hm, Except.mapError, bind, Except.bind] at h
  | ok m =>
    cases hs : Output.scriptOf c f with
    | error e => simp [hm, hs, Except.mapError, bind, Except.bind] at h
    | ok sc =>
      simp only [hm, hs, Except.mapError, bind, Except.bind, pure, Except.pure,
        Except.ok.injEq] at h
      subst h
      exact ⟨⟨_, rfl⟩, _, rfl⟩

theorem FormView.formId_ne_null (f : Frame) : FormView.formId f ≠ .null := by
  unfold FormView.formId
  split
  · rintro h
    rename_i htruthy
    rw [h] at htruthy
    cases htruthy
  · exact fun h => by cases h

section Tags

variable {c : Config} {f : Frame} {o : Output}

theorem grid_servesId (hgrid : f.tag = "grid") (hid : f.id ≠ .null)
    (h : Output.ofFrame c f = .ok o) : ServesId o f.id.text := by
  obtain ⟨⟨ml, hm⟩, sl, hs⟩ := Output.ofFrame_parts h
  simp only [Output.markupOf, hgrid, Except.ok.injEq, Prod.mk.injEq] at hm
  simp only [Output.scriptOf, hgrid, Except.ok.injEq, Prod.mk.injEq] at hs
  have hmarkup := Html.opens_of_root (GridView.render_root (GridView.ofFrame f))
  have hscript := Script.gridScript_lookup f.id (Output.attrOr f "name" (.str ""))
    (Output.attr f "onLoad") (Output.attr f "onEdit") (Output.attr f "onSort")
    (Output.attr f "onChange")
  rw [hm.1] at hmarkup
  rw [hs.1] at hscript
  exact servesId_of hid (by decide) hmarkup hscript

theorem update_servesId (hupdate : f.tag = "gridupdate") (h : Output.ofFrame c f = .ok o) :
    ServesId o (FormView.formId f).text := by
  obtain ⟨⟨ml, hm⟩, sl, hs⟩ := Output.ofFrame_parts h
  simp only [Output.markupOf, hupdate, Except.ok.injEq, Prod.mk.injEq] at hm
  simp only [Output.scriptOf, hupdate, Except.ok.injEq, Prod.mk.injEq] at hs
  have hmarkup := FormView.render_opens (FormView.ofFrame c f)
  have hscript := Script.updateScript_lookup (Output.attr f "grid") (FormView.formId f)
    c.gridUpdateEndpoint (Output.updateTarget f) (Output.attr f "onSuccess")
    (Output.attr f "onError")
  rw [hm.1] at hmarkup
  rw [hs.1] at hscript
  exact servesId_of (FormView.formId_ne_null f) (by decide) hmarkup hscript

theorem layout_servesId (hlayout : f.tag = "layout") (hid : f.id ≠ .null)
    (h : Output.ofFrame c f = .ok o) (hscript : o.script ≠ "") : ServesId o f.id.text := by
  obtain ⟨⟨ml, hm⟩, sl, hs⟩ := Output.ofFrame_parts h
  simp only [Output.markupOf, hlayout, Except.ok.injEq, Prod.mk.injEq] at hm
  simp only [Output.scriptOf, hlayout, Except.ok.injEq] at hs
  have hmarkup := Html.opens_of_root (LayoutView.render_root (LayoutView.ofFrame f))
  rw [hm.1] at hmarkup
  -- a layout that is not wired gives no script
  split at hs
  · have hlookup := Script.layoutScript_lookup f.id (Output.attr f "type")
    rw [(Prod.mk.inj hs).1] at hlookup
    exact servesId_of hid (by decide) hmarkup hlookup
  · exact absurd (Prod.mk.inj hs).1.symm hscript

theorem pod_servesId (hpod : f.tag = "pod") (hid : f.id ≠ .null)
    (h : Output.ofFrame c f = .ok o) (hscript : o.script ≠ "") : ServesId o f.id.text := by
  obtain ⟨⟨ml, hm⟩, sl, hs⟩ := Output.ofFrame_parts h
  simp only [Output.markupOf, hpod, Except.ok.injEq, Prod.mk.injEq] at hm
  simp only [Output.scriptOf, hpod, Except.ok.injEq] at hs
  have hmarkup := Html.opens_of_root (PodView.render_root (PodView.ofFrame f))
  rw [hm.1] at hmarkup
  -- a pod without a source gives no script
  split at hs
  · have hlookup := Script.podScript_lookup f.id (Output.attr f "onBindError")
    rw [(Prod.mk.inj hs).1] at hlookup
    exact servesId_of hid (by decide) hmarkup hlookup
  · exact absurd (Prod.mk.inj hs).1.symm hscript

theorem div_servesId (hdiv : f.tag = "div") (hid : f.id ≠ .null)
    (hname : ((f.get? "tagName").getD (.str "div")).text ∈ TagDef.divTagNames)
    (h : Output.ofFrame c f = .ok o) (hscript : o.script ≠ "") : ServesId o f.id.text := by
  obtain ⟨⟨ml, hm⟩, sl, hs⟩ := Output.ofFrame_parts h
  simp only [Output.markupOf, hdiv, Except.ok.injEq, Prod.mk.injEq] at hm
  simp only [Output.scriptOf, hdiv] at hs
  obtain ⟨htag, hescape⟩ := divTagNames_read _ hname
  have hroot := DivView.render_root (DivView.ofFrame f)
  rw [show Html.text (DivView.ofFrame f).tagName = ((f.get? "tagName").getD (.str "div")).text
    from hescape] at hroot
  have hmarkup := Html.opens_of_root hroot
  rw [hm.1] at hmarkup
  -- a div without a bind expression gives no script
  split at hs
  · have hlookup := Script.divScript_lookup f.id (Bind.parse (Output.attr f "bind").text)
      (Output.attr f "bind") (Output.attrOr f "bindOnLoad" (.bool true)) c.remoteEndpoint
      (Output.attr f "onBindError")
    rw [(Prod.mk.inj (Except.ok.inj hs)).1] at hlookup
    exact servesId_of hid htag hmarkup hlookup
  · exact absurd (Prod.mk.inj (Except.ok.inj hs)).1.symm hscript

end Tags

/-! ## Markup and script ids -/

/-- **Markup and script name the same element exactly when its id has no carriage return.**
For a closed grid, grid update, layout, pod or div that gives a script, whose id is not null (as
every frame a session opens has, by `Document.frame_id_ne_null`), and, for a div, whose element
name is one a div may take: a start tag read at the start of its markup has `id` first, with the
element id as the input stream gives it, and its script passes `document.getElementById` a
literal that reads as the id's code units with null characters replaced. The two readings agree
exactly when the id has no carriage return, which the input stream turns into a line feed in
markup while a script literal writes it as `\r`. -/
theorem element_ids_agree {c : Config} {f : Frame} {o : Output} (h : Output.ofFrame c f = .ok o)
    (htag : f.tag ∈ ["grid", "gridupdate", "layout", "pod", "div"]) (hscript : o.script ≠ "")
    (hid : f.id ≠ .null)
    (hdiv : f.tag = "div" → ((f.get? "tagName").getD (.str "div")).text ∈ TagDef.divTagNames) :
    ServesId o (elementId f).text ∧
      (Script.codeUnits (Html.streamText (elementId f).text).toList =
          Script.codeUnits (Script.nulReplaced (elementId f).text.toList) ↔
        '\r' ∉ (elementId f).text.toList) := by
  refine ⟨?_, by simpa [Html.streamText] using Script.codeUnits_normalize_eq_iff _⟩
  simp only [List.mem_cons, List.not_mem_nil, or_false] at htag
  rcases htag with htag | htag | htag | htag | htag
  · rw [elementId_of_ne (by rw [htag]; decide)]
    exact grid_servesId htag hid h
  · rw [elementId, if_pos htag]
    exact update_servesId htag h
  · rw [elementId_of_ne (by rw [htag]; decide)]
    exact layout_servesId htag hid h hscript
  · rw [elementId_of_ne (by rw [htag]; decide)]
    exact pod_servesId htag hid h hscript
  · rw [elementId_of_ne (by rw [htag]; decide)]
    exact div_servesId htag hid (hdiv htag) h hscript

/-- A grid with the id `grid_1` gives its output with a script, and its markup and script name
the same element. -/
theorem plain_grid_ids_agree :
    let f : Frame := { tag := "grid", kind := .grid, id := .str "grid_1", attrs := [] }
    ∃ o, Output.ofFrame {} f = .ok o ∧ o.script ≠ "" ∧
      (ServesId o (elementId f).text ∧
        (Script.codeUnits (Html.streamText (elementId f).text).toList =
            Script.codeUnits (Script.nulReplaced (elementId f).text.toList) ↔
          '\r' ∉ (elementId f).text.toList)) := by
  intro f
  obtain ⟨o, ho⟩ : ∃ o, Output.ofFrame {} f = .ok o := ⟨_, rfl⟩
  have hscript : o.script ≠ "" := by
    obtain ⟨-, sl, hs⟩ := Output.ofFrame_parts ho
    simp only [Output.scriptOf, f, Except.ok.injEq, Prod.mk.injEq] at hs
    rw [← hs.1]
    exact Script.block_ne_empty _ _
  exact ⟨o, ho, hscript,
    element_ids_agree ho (by decide) hscript (by simp [f]) (by decide)⟩

/-- A bound div with the id `a\rb`: a parser reads its root element's id as `a\nb`, while its
script looks up the code units of `a\rb`. -/
theorem carriage_return_id_differs :
    let f : Frame :=
      { tag := "div", kind := .plain, id := .str "a\rb", attrs := [("bind", .str "x")] }
    ∃ o, Output.ofFrame {} f = .ok o ∧ ServesId o "a\rb" ∧ Html.streamText "a\rb" = "a\nb" ∧
      Script.codeUnits (Script.nulReplaced "a\rb".toList) = [0x61, 0x0D, 0x62] ∧
      Script.codeUnits "a\nb".toList = [0x61, 0x0A, 0x62] := by
  intro f
  obtain ⟨o, ho⟩ : ∃ o, Output.ofFrame {} f = .ok o := ⟨_, rfl⟩
  have hscript : o.script ≠ "" := by
    obtain ⟨-, sl, hs⟩ := Output.ofFrame_parts ho
    simp only [Output.scriptOf, f] at hs
    rw [← (Prod.mk.inj (Except.ok.inj hs)).1]
    exact Script.block_ne_empty _ _
  refine ⟨o, ho, div_servesId rfl (by simp [f]) (by decide) ho hscript, ?_, ?_, ?_⟩ <;> decide

end UiTags
