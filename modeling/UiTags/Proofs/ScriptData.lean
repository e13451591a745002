import UiTags.Output
import UiTags.Proofs.ScriptLiterals
import UiTags.Proofs.Params

/-!
# Script text under the HTML tokenizer

A page's parser reads the text of a `<script>` element in the script data states of the HTML
standard (§13.2.5.4 to §13.2.5.26). The text ends at the first `</script` followed by a blank,
`/` or `>`, with one exception: after `<!--`, a `<script` start enters the double-escaped
states, where such an end tag only leads back to the escaped ones. `ScriptState.step` reads one
character in each state, and `ScriptState.run` a text.

Script text that takes the tokenizer from the script data state back to it, never ending the
element on the way, can stand anywhere in a script's body (`Keeps`). Text without `<` does; so
do the escaper's string literals, which hold no `<`, and names that pass the name check. A
comment written into a script holds no line terminator and no `</`, so it stays on its line and
starts no end tag; its line keeps the state when the comment holds no `<!--` either.

Main results:

- `Html.ScriptState.run_append`: reading two texts is reading one, then the other.
- `Html.keeps_of_lt_not_mem`: text without `<` keeps the script data state.
- `Script.keeps_quoted`, `Script.keeps_invoke`: literals, and callbacks with checked names.
- `Script.comment_stays_in_line`: a comment holds no line terminator and no `</`.
- `Script.keeps_commentLine`: a comment's line keeps the state when it opens no `<!--`.
-/

namespace UiTags
namespace Html

/-- Where an HTML tokenizer stands while it reads the text of a script element: the script data
states of the HTML standard. The end tag states hold the tag name read so far, lower-cased. -/
inductive ScriptState where
  /-- Script data. -/
  | data
  /-- Script data less-than sign: after `<`. -/
  | lt
  /-- Script data end tag open: after `</`. -/
  | endOpen
  /-- Script data end tag name. -/
  | endName (name : List Char)
  /-- Script data escape start: after `<!`. -/
  | escapeStart
  /-- Script data escape start dash: after `<!-`. -/
  | escapeStartDash
  /-- Script data escaped: after `<!--`. -/
  | escaped
  /-- Script data escaped dash. -/
  | escapedDash
  /-- Script data escaped dash dash. -/
  | escapedDashDash
  /-- Script data escaped less-than sign. -/
  | escapedLt
  /-- Script data escaped end tag open. -/
  | escapedEndOpen
  /-- Script data escaped end tag name. -/
  | escapedEndName (name : List Char)
  /-- Script data double escape start: a tag name after `<` in escaped text. -/
  | doubleEscapeStart (name : List Char)
  /-- Script data double escaped: after `<script` in escaped text. -/
  | doubleEscaped
  /-- Script data double escaped dash. -/
  | doubleEscapedDash
  /-- Script data double escaped dash dash. -/
  | doubleEscapedDashDash
  /-- Script data double escaped less-than sign. -/
  | doubleEscapedLt
  /-- Script data double escape end: a tag name after `</` in double escaped text. -/
  | doubleEscapeEnd (name : List Char)
  deriving DecidableEq, Repr

/-- The characters that end a tag name: tab, line feed, form feed, space, `/` and `>`, and a
carriage return, which the input stream turns into a line feed. -/
def endsTagName (c : Char) : Bool :=
  c == '\t' || c == '\n' || c == '\x0C' || c == ' ' || c == '\r' || c == '/' || c == '>'

/-- The name of the element whose text is read, which its end tag must give. -/
def scriptName : List Char := ['s', 'c', 'r', 'i', 'p', 't']

namespace ScriptState

/-- The state after a character read in script data. -/
def afterData (c : Char) : ScriptState := if c = '<' then .lt else .data

/-- The state after a character read in escaped script data. -/
def afterEscaped (c : Char) : ScriptState :=
  if c = '-' then .escapedDash else if c = '<' then .escapedLt else .escaped

/-- The state after a character read in double escaped script data. -/
def afterDoubleEscaped (c : Char) : ScriptState :=
  if c = '-' then .doubleEscapedDash else if c = '<' then .doubleEscapedLt else .doubleEscaped

/-- One character read in a state: the next state, or nothing when the character completes the
element's end tag. A character a state does not expect is read again in the state it falls back
to. -/
def step : ScriptState → Char → Option ScriptState
  | .data, c => some (afterData c)
  | .lt, c => some (if c = '/' then .endOpen else if c = '!' then .escapeStart else afterData c)
  | .endOpen, c => some (if c.isAlpha then .endName [c.toLower] else afterData c)
  | .endName n, c =>
    if endsTagName c && n == scriptName then none
    else some (if c.isAlpha then .endName (n ++ [c.toLower]) else afterData c)
  | .escapeStart, c => some (if c = '-' then .escapeStartDash else afterData c)
  | .escapeStartDash, c => some (if c = '-' then .escapedDashDash else afterData c)
  | .escaped, c => some (afterEscaped c)
  | .escapedDash, c =>
    some (if c = '-' then .escapedDashDash else if c = '<' then .escapedLt else .escaped)
  | .escapedDashDash, c =>
    some (if c = '-' then .escapedDashDash else if c = '<' then .escapedLt
      else if c = '>' then .data else .escaped)
  | .escapedLt, c =>
    some (if c = '/' then .escapedEndOpen else if c.isAlpha then .doubleEscapeStart [c.toLower]
      else afterEscaped c)
  | .escapedEndOpen, c => some (if c.isAlpha then .escapedEndName [c.toLower] else afterEscaped c)
  | .escapedEndName n, c =>
    if endsTagName c && n == scriptName then none
    else some (if c.isAlpha then .escapedEndName (n ++ [c.toLower]) else afterEscaped c)
  | .doubleEscapeStart n, c =>
    some (if endsTagName c then (if n == scriptName then .doubleEscaped else .escaped)
      else if c.isAlpha then .doubleEscapeStart (n ++ [c.toLower]) else afterEscaped c)
  | .doubleEscaped, c => some (afterDoubleEscaped c)
  | .doubleEscapedDash, c =>
    some (if c = '-' then .doubleEscapedDashDash else if c = '<' then .doubleEscapedLt
      else .doubleEscaped)
  | .doubleEscapedDashDash, c =>
    some (if c = '-' then .doubleEscapedDashDash else if c = '<' then .doubleEscapedLt
      else if c = '>' then .data else .doubleEscaped)
  | .doubleEscapedLt, c => some (if c = '/' then .doubleEscapeEnd [] else afterDoubleEscaped c)
  | .doubleEscapeEnd n, c =>
    some (if endsTagName c then (if n == scriptName then .escaped else .doubleEscaped)
      else if c.isAlpha then .doubleEscapeEnd (n ++ [c.toLower]) else afterDoubleEscaped c)

/-- The state after a text, or nothing when the element ends inside it. -/
def run : ScriptState → List Char → Option ScriptState
  | q, [] => some q
  | q, c :: cs =>
    match step q c with
    | some q' => run q' cs
    | none => none

/-- Reading two texts is reading the first, then the second from where it left off. -/
theorem run_append (q : ScriptState) (l s : List Char) :
    run q (l ++ s) = (run q l).bind fun q' => run q' s := by
  induction l generalizing q with
  | nil => rfl
  | cons c l ih =>
    simp only [List.cons_append, run]
    cases step q c <;> simp [ih]

/-- In script data only `<` changes the state. -/
theorem run_data_of_lt_not_mem : ∀ {t : List Char}, '<' ∉ t → run .data t = some .data
  | [], _ => rfl
  | c :: t, h => by
    rw [List.mem_cons, not_or] at h
    have hstep : step .data c = some .data := by simp [step, afterData, Ne.symm h.1]
    rw [run, hstep]
    exact run_data_of_lt_not_mem h.2

/-! ### Text with neither `</` nor `<!--` -/

/-- The states the tokenizer passes through in text that holds neither `</` nor `<!--`, each
with the text it has just read there. -/
def lightPending : ScriptState → Option (List Char)
  | .data => some []
  | .lt => some ['<']
  | .escapeStart => some ['<', '!']
  | .escapeStartDash => some ['<', '!', '-']
  | _ => none

theorem lightPending_cases {q : ScriptState} {p : List Char} (h : lightPending q = some p) :
    (q = .data ∧ p = []) ∨ (q = .lt ∧ p = ['<']) ∨ (q = .escapeStart ∧ p = ['<', '!']) ∨
      (q = .escapeStartDash ∧ p = ['<', '!', '-']) := by
  cases q <;> simp_all [lightPending]

/-- A step from a light state stays light, unless the text read completes `</` or `<!--`; what
the new state has just read ends the text the old one had read and the character. -/
theorem light_step {q : ScriptState} {p : List Char} (hq : lightPending q = some p) (c : Char)
    (t : List Char) (hclose : ¬ ['<', '/'] <:+: p ++ c :: t)
    (hopen : ¬ ['<', '!', '-', '-'] <:+: p ++ c :: t) :
    ∃ q' p', step q c = some q' ∧ lightPending q' = some p' ∧ p' ++ t <:+ p ++ c :: t := by
  -- a `<` read anywhere starts over, and other characters go back to script data
  have hback : ∀ s : List Char, ∃ p', lightPending (afterData c) = some p' ∧ p' ++ t <:+ s ++ c :: t := by
    intro s
    by_cases hc : c = '<'
    · subst hc
      exact ⟨['<'], by simp [afterData, lightPending], by simp⟩
    · exact ⟨[], by simp [afterData, lightPending, hc],
        by simpa using (List.suffix_cons c t).trans (List.suffix_append s _)⟩
  rcases lightPending_cases hq with ⟨rfl, rfl⟩ | ⟨rfl, rfl⟩ | ⟨rfl, rfl⟩ | ⟨rfl, rfl⟩
  · obtain ⟨p', hp', hs⟩ := hback []
    exact ⟨_, p', rfl, hp', hs⟩
  · by_cases hslash : c = '/'
    · subst hslash
      exact absurd (List.prefix_append ['<', '/'] t).isInfix hclose
    by_cases hbang : c = '!'
    · subst hbang
      exact ⟨.escapeStart, ['<', '!'], by simp [step], rfl, by simp⟩
    · obtain ⟨p', hp', hs⟩ := hback ['<']
      exact ⟨_, p', by simp [step, hslash, hbang], hp', hs⟩
  · by_cases hdash : c = '-'
    · subst hdash
      exact ⟨.escapeStartDash, ['<', '!', '-'], by simp [step], rfl, by simp⟩
    · obtain ⟨p', hp', hs⟩ := hback ['<', '!']
      exact ⟨_, p', by simp [step, hdash], hp', hs⟩
  · by_cases hdash : c = '-'
    · subst hdash
      exact absurd (List.prefix_append ['<', '!', '-', '-'] t).isInfix hopen
    · obtain ⟨p', hp', hs⟩ := hback ['<', '!', '-']
      exact ⟨_, p', by simp [step, hdash], hp', hs⟩

/-- Text with neither `</` nor `<!--`, read from a light state and followed by a line feed, ends
in script data: the line feed ends any `<`, `<!` or `<!-` left open. -/
theorem run_light_line : ∀ (t : List Char) {q : ScriptState} {p : List Char},
    lightPending q = some p → ¬ ['<', '/'] <:+: p ++ t → ¬ ['<', '!', '-', '-'] <:+: p ++ t →
    run q (t ++ ['\n']) = some .data
  | [], q, p, hq, _, _ => by
    rcases lightPending_cases hq with ⟨rfl, -⟩ | ⟨rfl, -⟩ | ⟨rfl, -⟩ | ⟨rfl, -⟩ <;> rfl
  | c :: t, q, p, hq, hclose, hopen => by
    obtain ⟨q', p', hstep, hq', hs⟩ := light_step hq c t hclose hopen
    rw [List.cons_append, run, hstep]
    exact run_light_line t hq' (fun h => hclose (h.trans hs.isInfix))
      (fun h => hopen (h.trans hs.isInfix))

end ScriptState

/-- Script text that the tokenizer reads from the script data state back to it, never ending
the element on the way. -/
def Keeps (s : String) : Prop := ScriptState.run .data s.toList = some .data

instance : DecidablePred Keeps := fun s =>
  inferInstanceAs (Decidable (ScriptState.run .data s.toList = some .data))

theorem Keeps.append {a b : String} (ha : Keeps a) (hb : Keeps b) : Keeps (a ++ b) := by
  unfold Keeps at *
  rw [String.toList_append, ScriptState.run_append, ha]
  exact hb

/-- Text without `<` keeps the script data state. -/
theorem keeps_of_lt_not_mem {s : String} (h : '<' ∉ s.toList) : Keeps s :=
  ScriptState.run_data_of_lt_not_mem h

theorem keeps_join : ∀ {xs : List String}, (∀ x ∈ xs, Keeps x) → Keeps (String.join xs)
  | [], _ => rfl
  | x :: xs, h => by
    rw [String.join_cons]
    exact (h x List.mem_cons_self).append (keeps_join fun y hy => h y (List.mem_cons_of_mem x hy))

theorem keeps_ite {c : Prop} [Decidable c] {a b : String} (ha : Keeps a) (hb : Keeps b) :
    Keeps (if c then a else b) := by
  split
  · exact ha
  · exact hb

/-- Text given by its characters. Stated on `String.ofList`, so that a literal is matched with
the list of its characters and checked as that list, never decoded. -/
theorem keeps_ofList {l : List Char} (h : ScriptState.run .data l = some .data) :
    Keeps (String.ofList l) := by
  unfold Keeps
  rw [String.toList_ofList]
  exact h

end Html

namespace Script

open Html

theorem keeps_lines_nil : Keeps (lines []) := rfl

theorem keeps_lines_cons {x : String} {xs : List String} (hx : Keeps x) (hxs : Keeps (lines xs)) :
    Keeps (lines (x :: xs)) := by
  unfold lines at *
  rw [List.map_cons, String.join_cons]
  exact (hx.append (keeps_ofList rfl)).append hxs

theorem keeps_join_map {α : Type} {xs : List α} {g : α → String} (h : ∀ a, Keeps (g a)) :
    Keeps (String.join (xs.map g)) :=
  keeps_join fun _ hx => by
    obtain ⟨a, -, rfl⟩ := List.mem_map.1 hx
    exact h a

/-! ## Literals and names -/

/-- The escaper writes no `<`. -/
theorem lt_not_mem_escape (s : String) : '<' ∉ (escape s).toList := by
  rw [escape, String.toList_ofList, List.mem_flatMap]
  rintro ⟨c, -, hc⟩
  exact escapeChar_no_breaker c '<' hc (by simp [literalBreakers])

theorem keeps_quotedText (s : String) : Keeps (quotedText s) := by
  apply keeps_of_lt_not_mem
  simp only [quotedText, String.toList_append, List.mem_append, not_or]
  exact ⟨⟨by decide, lt_not_mem_escape s⟩, by decide⟩

theorem keeps_quoted (v : Value) : Keeps (quoted v) := by
  cases v with
  | null => decide
  | _ => exact keeps_quotedText _

theorem keeps_boolLiteral (v : Value) : Keeps (boolLiteral v) := by
  unfold boolLiteral
  exact keeps_ite (by decide) (by decide)

/-- A value written unquoted as a name passes the name check, or is not written at all. -/
def NameChecked (v : Value) : Prop := v.truthy = true → isIdentifier v.text = true

theorem lt_not_mem_of_isNameChars : ∀ {cs : List Char}, isNameChars cs = true → '<' ∉ cs
  | [], h, _ => by simp [isNameChars] at h
  | c :: rest, h, hlt => by
    simp only [isNameChars, Bool.and_eq_true, List.all_eq_true] at h
    rcases List.mem_cons.1 hlt with rfl | hrest
    · exact absurd h.1 (by decide)
    · exact absurd (h.2 '<' hrest) (by decide +kernel)

/-- A name that passes the check holds no `<`: its characters are name characters, and a line
feed at the end. -/
theorem lt_not_mem_of_isIdentifier {s : String} (h : isIdentifier s = true) : '<' ∉ s.toList := by
  simp only [isIdentifier, Bool.or_eq_true, Bool.and_eq_true, beq_iff_eq] at h
  rcases h with hchars | ⟨hlast, hchars⟩
  · exact lt_not_mem_of_isNameChars hchars
  · obtain ⟨ys, hys⟩ := List.getLast?_eq_some_iff.1 hlast
    rw [hys, List.dropLast_concat] at hchars
    rw [hys, List.mem_append, not_or]
    exact ⟨lt_not_mem_of_isNameChars hchars, by simp⟩

theorem keeps_name {v : Value} (hn : NameChecked v) (ht : v.truthy = true) : Keeps v.text :=
  keeps_of_lt_not_mem (lt_not_mem_of_isIdentifier (hn ht))

/-- A callback call keeps the script data state when its name passes the check. -/
theorem keeps_invoke {name : Value} (hn : NameChecked name) {args : String} (ha : Keeps args) :
    Keeps (invoke name args) := by
  unfold invoke
  split
  · rename_i ht
    have hname := keeps_name hn ht
    refine ((((((?_ : Keeps _).append hname).append ?_).append hname).append ?_).append ha).append ?_
    -- the fixed pieces between the name and the arguments
    all_goals decide
  · decide

/-! ## Comments -/

/-- Text that stays inside a one-line comment of a script: no line terminator ends the line
early, and no `</` starts an end tag. -/
def StaysInComment (s : String) : Prop :=
  (∀ c ∈ s.toList, isLineTerminator c = false) ∧ ¬ ['<', '/'] <:+: s.toList

theorem mem_intercalate_of_mem {α : Type} {sep l : List α} {c : α} :
    ∀ {ls : List (List α)}, l ∈ ls → c ∈ l → c ∈ sep.intercalate ls
  | [], h, _ => absurd h List.not_mem_nil
  | [x], h, hc => by
    rw [List.intercalate_singleton]
    rwa [List.mem_singleton.1 h] at hc
  | x :: y :: ls, h, hc => by
    rw [List.intercalate_cons_cons, List.mem_append, List.mem_append]
    rcases List.mem_cons.1 h with rfl | h
    · exact .inl (.inl hc)
    · exact .inr (mem_intercalate_of_mem h hc)

theorem mem_intercalate {α : Type} {sep : List α} {c : α} :
    ∀ {ls : List (List α)}, c ∈ sep.intercalate ls → c ∈ sep ∨ ∃ l ∈ ls, c ∈ l
  | [], h => absurd h List.not_mem_nil
  | [x], h => by
    rw [List.intercalate_singleton] at h
    exact .inr ⟨x, List.mem_singleton_self x, h⟩
  | x :: y :: ls, h => by
    rw [List.intercalate_cons_cons, List.mem_append, List.mem_append] at h
    rcases h with (h | h) | h
    · exact .inr ⟨x, List.mem_cons_self, h⟩
    · exact .inl h
    · rcases mem_intercalate h with h | ⟨l, hl, hc⟩
      · exact .inl h
      · exact .inr ⟨l, List.mem_cons_of_mem x hl, hc⟩

/-- A word holds no blank character. -/
theorem not_isBlank_of_mem_words {s w : String} (hw : w ∈ Text.words s) {c : Char}
    (hc : c ∈ w.toList) : Text.isBlank c = false := by
  simp only [Text.words, List.mem_map, List.mem_filter] at hw
  obtain ⟨l, ⟨hl, -⟩, rfl⟩ := hw
  rw [String.toList_ofList] at hc
  -- the pieces of the split hold no space, and every other character is one of the text's own
  have hpieces := hl
  rw [List.splitOn_eq_splitOnP] at hpieces
  have hspace := not_cut_of_mem_splitOnP hpieces c hc
  have hmem : c ∈ [' '].intercalate _ := mem_intercalate_of_mem hl hc
  rw [List.intercalate_splitOn, List.mem_map] at hmem
  obtain ⟨d, -, hd⟩ := hmem
  by_cases hb : Text.isBlank d = true
  · rw [if_pos hb] at hd
    subst hd
    simp at hspace
  · rw [if_neg hb] at hd
    subst hd
    simpa using hb

/-- The line terminators of scripts are blank. -/
theorem isBlank_of_isLineTerminator {c : Char} (h : isLineTerminator c = true) :
    Text.isBlank c = true := by
  simp only [isLineTerminator, Bool.or_eq_true, beq_iff_eq] at h
  rcases h with ((rfl | rfl) | h) | h
  · decide
  · decide
  · rw [show c = Char.ofNat 0x2028 from Char.toNat_inj.1 (by simpa using h)]
    decide
  · rw [show c = Char.ofNat 0x2029 from Char.toNat_inj.1 (by simpa using h)]
    decide

end Script

namespace Text

/-- Replacing a pattern by text that starts as the pattern does keeps the first character. -/
theorem replaceAll_go_head {rep : List Char} {p : Char} (ps : List Char)
    (hrep : rep.head? = some p) (cs : List Char) :
    (replaceAll.go rep p ps cs).head? = cs.head? := by
  induction cs using replaceAll.go.induct p ps with
  | case1 => rw [replaceAll.go]
  | case2 c rest hmatch _ =>
    rw [replaceAll.go, if_pos hmatch, List.head?_append, hrep]
    simp only [Bool.and_eq_true, beq_iff_eq] at hmatch
    rw [hmatch.1]
    rfl
  | case3 c rest hnot _ =>
    rw [replaceAll.go, if_neg hnot]
    rfl

/-- Every character of a replacement's result is one of the text's or one of the replacement's. -/
theorem mem_replaceAll_go {rep : List Char} {p : Char} {ps : List Char} {d : Char}
    (cs : List Char) (h : d ∈ replaceAll.go rep p ps cs) : d ∈ cs ∨ d ∈ rep := by
  induction cs using replaceAll.go.induct p ps with
  | case1 => rw [replaceAll.go] at h; exact absurd h List.not_mem_nil
  | case2 c rest hmatch ih =>
    rw [replaceAll.go, if_pos hmatch, List.mem_append] at h
    rcases h with h | h
    · exact .inr h
    · rcases ih h with h | h
      · exact .inl (List.mem_cons_of_mem c (List.mem_of_mem_drop h))
      · exact .inr h
  | case3 c rest hnot ih =>
    rw [replaceAll.go, if_neg hnot, List.mem_cons] at h
    rcases h with rfl | h
    · exact .inl List.mem_cons_self
    · rcases ih h with h | h
      · exact .inl (List.mem_cons_of_mem c h)
      · exact .inr h

/-- Writing every `</` as `<\/` leaves no `</`: the replacement ends in `/`, and a `<` kept is
not followed by `/`, or the scan would have replaced it. -/
theorem closer_not_infix_replace (cs : List Char) :
    ¬ ['<', '/'] <:+: replaceAll.go ['<', '\\', '/'] '<' ['/'] cs := by
  induction cs using replaceAll.go.induct '<' ['/'] with
  | case1 =>
    rw [replaceAll.go]
    exact fun h => absurd h.length_le (by simp)
  | case2 c rest hmatch ih =>
    rw [replaceAll.go, if_pos hmatch]
    simpa [List.infix_cons_iff, List.cons_prefix_cons] using ih
  | case3 c rest hnot ih =>
    rw [replaceAll.go, if_neg hnot, List.infix_cons_iff, not_or]
    refine ⟨fun hpre => ?_, ih⟩
    obtain ⟨rfl, t, ht⟩ := List.cons_prefix_cons.1 hpre
    have hhead : (replaceAll.go ['<', '\\', '/'] '<' ['/'] rest).head? = rest.head? :=
      replaceAll_go_head ['/'] rfl rest
    rw [← ht] at hhead
    obtain ⟨r, rfl⟩ : ∃ r, rest = '/' :: r := by
      cases rest with
      | nil => simp at hhead
      | cons d r => simp at hhead; exact ⟨r, by rw [hhead]⟩
    exact hnot (by simp)

end Text

namespace Script

open Html

/-- **A comment stays on its line.** The text written into a script's one-line comment holds no
line terminator, since it is words of the value joined by spaces, and no `</`, since every one
is written `<\/`. -/
theorem comment_stays_in_line (v : Value) : StaysInComment (comment v) := by
  have hpat : "</".toList = ['<', '/'] := rfl
  have hrep : "<\\/".toList = ['<', '\\', '/'] := rfl
  simp only [StaysInComment, comment, Text.replaceText, Text.replaceAll, String.toList_ofList,
    hpat, hrep]
  refine ⟨fun c hc => ?_, Text.closer_not_infix_replace _⟩
  rcases Text.mem_replaceAll_go _ hc with hc | hc
  · rw [String.toList_intercalate] at hc
    rcases mem_intercalate hc with hc | ⟨l, hl, hcl⟩
    · rw [List.mem_singleton.1 hc]
      rfl
    · obtain ⟨w, hw, rfl⟩ := List.mem_map.1 hl
      have hblank := not_isBlank_of_mem_words hw hcl
      cases hterm : isLineTerminator c
      · rfl
      · rw [isBlank_of_isLineTerminator hterm] at hblank
        exact absurd hblank (by decide)
  · simp only [List.mem_cons, List.not_mem_nil, or_false] at hc
    rcases hc with rfl | rfl | rfl <;> rfl

/-- The line of a comment keeps the script data state when the comment opens no `<!--`. -/
theorem keeps_commentLine {v : Value} (hopen : ¬ ['<', '!', '-', '-'] <:+: (comment v).toList) :
    Keeps (comment v ++ "\n") := by
  unfold Keeps
  rw [String.toList_append]
  exact ScriptState.run_light_line _ rfl (comment_stays_in_line v).2 hopen

/-- A comment's line after the code that opens the comment. -/
theorem keeps_commentLine_after {a : String} {v : Value} (ha : Keeps a)
    (hopen : ¬ ['<', '!', '-', '-'] <:+: (comment v).toList) : Keeps (a ++ comment v ++ "\n") := by
  rw [String.append_assoc]
  exact ha.append (keeps_commentLine hopen)

end Script
end UiTags
