import UiTags.Proofs.ScriptElements

/-!
# Markup as a page's tokenizer reads it

A page's parser reads an input stream in which every line break is a line feed, and tokenizes it
in the states of the HTML standard (§13.2.5). `Html.Mode.step` reads one character in each state
that markup reaches here: text and the character references the escaper writes, start and end
tags, comments, and the text of a script element in the script data states. Where a state is
not modelled the reading stops: any other character reference, a markup declaration other than
a comment, an end tag that opens no name, the end of the input inside a tag or comment, and the
start tag of an element whose text the tokenizer reads in a state of its own (`style`,
`textarea`, `title` and the like) or of a foreign element (`svg`, `math`). A name or value is
read as `Html.step` reads it, so an attribute value decodes only the five references the escaper
writes.

The comment states that follow a `<` inside a comment only report nested comments; they append
what they read and end the comment where the plain comment states would, so `<` and `!` are read
there as any other character.

`Html.Reads s toks` says that markup `s` is read from the data state back to it, giving `toks`.
Such markup can stand before any other: readings join (`Html.Reads.append`).

Main results:

- `Html.Mode.run_append`: reading two texts is reading one, then the other.
- `Html.Mode.run_escaped`: escaped text reads as its characters.
- `Html.run_openTag`: a start tag written with plain, distinct names reads as its name and
  attributes, each value decoded.
- `Html.run_endTag`, `Html.Mode.run_comment`, `Html.run_scriptElement`: end tags, comments,
  and script elements whose text keeps the script data state.
-/

namespace UiTags
namespace Html

/-! ## The input stream -/

/-- The input stream: a carriage return, with the line feed after it if there is one, becomes
one line feed. -/
def lineBreaks : List Char → List Char
  | [] => []
  | '\r' :: '\n' :: cs => '\n' :: lineBreaks cs
  | '\r' :: cs => '\n' :: lineBreaks cs
  | c :: cs => c :: lineBreaks cs

theorem lineBreaks_cons {c : Char} (h : c ≠ '\r') (cs : List Char) :
    lineBreaks (c :: cs) = c :: lineBreaks cs :=
  lineBreaks.eq_4 c cs (fun _ h' => absurd h' h) h

theorem lineBreaks_cr {cs : List Char} (h : cs.head? ≠ some '\n') :
    lineBreaks ('\r' :: cs) = '\n' :: lineBreaks cs :=
  lineBreaks.eq_3 cs fun cs' hcs => h (by simp [hcs])

/-- Making line breaks keeps the first character, or makes a carriage return a line feed. -/
theorem lineBreaks_cons_eq (c : Char) (cs : List Char) :
    ∃ d u, lineBreaks (c :: cs) = d :: u ∧ (d = c ∨ d = '\n') := by
  by_cases hc : c = '\r'
  · subst hc
    by_cases hlf : cs.head? = some '\n'
    · obtain ⟨t, rfl⟩ : ∃ t, cs = '\n' :: t := by
        cases cs with
        | nil => simp at hlf
        | cons d t => exact ⟨t, by simpa using hlf⟩
      exact ⟨_, _, lineBreaks.eq_2 t, Or.inr rfl⟩
    · exact ⟨_, _, lineBreaks_cr hlf, Or.inr rfl⟩
  · exact ⟨_, _, lineBreaks_cons hc cs, Or.inl rfl⟩

theorem getLast?_ne_of_cons {x c : Char} {l : List Char} (h : (x :: l).getLast? ≠ some c) :
    l.getLast? ≠ some c := by
  cases l with
  | nil => simp
  | cons y l => rwa [List.getLast?_cons_cons] at h

/-- Line breaks are made one text at a time, unless a carriage return ends the first text and a
line feed starts the second. -/
theorem lineBreaks_append (a b : List Char) (h : a.getLast? ≠ some '\r' ∨ b.head? ≠ some '\n') :
    lineBreaks (a ++ b) = lineBreaks a ++ lineBreaks b := by
  induction a using lineBreaks.induct with
  | case1 => rfl
  | case2 cs ih =>
    rw [List.cons_append, List.cons_append, lineBreaks.eq_2, lineBreaks.eq_2,
      ih (h.imp_left fun h' => getLast?_ne_of_cons (getLast?_ne_of_cons h')), List.cons_append]
  | case3 cs hcs ih =>
    rcases cs with _ | ⟨d, cs⟩
    · have hb : b.head? ≠ some '\n' := by simpa using h
      rw [List.cons_append, List.nil_append, lineBreaks_cr hb, lineBreaks_cr (by simp)]
      rfl
    · have hd : d ≠ '\n' := fun hd => hcs cs (by rw [hd])
      rw [List.cons_append, lineBreaks_cr (by simpa using hd), lineBreaks_cr (by simpa using hd),
        ih (h.imp_left getLast?_ne_of_cons), List.cons_append]
  | case4 c cs _ hc ih =>
    rw [List.cons_append, lineBreaks_cons hc, lineBreaks_cons hc]
    rcases cs with _ | ⟨d, cs⟩
    · rfl
    · rw [ih (h.imp_left getLast?_ne_of_cons), List.cons_append]

theorem lineBreaks_of_cr_not_mem : ∀ {a : List Char}, '\r' ∉ a → lineBreaks a = a
  | [], _ => rfl
  | c :: a, h => by
    rw [List.mem_cons, not_or] at h
    rw [lineBreaks_cons (Ne.symm h.1), lineBreaks_of_cr_not_mem h.2]

/-- Text without carriage returns stands as it is before any other. -/
theorem lineBreaks_append_of_cr_not_mem {a : List Char} (h : '\r' ∉ a) (b : List Char) :
    lineBreaks (a ++ b) = a ++ lineBreaks b := by
  rw [lineBreaks_append _ _ (Or.inl fun hl => h (List.mem_of_getLast? hl)),
    lineBreaks_of_cr_not_mem h]

/-- A character that is no line break ends what stands before it. -/
theorem lineBreaks_append_cons {c : Char} (h₁ : c ≠ '\n') (h₂ : c ≠ '\r') (a rest : List Char) :
    lineBreaks (a ++ c :: rest) = lineBreaks a ++ c :: lineBreaks rest := by
  rw [lineBreaks_append _ _ (Or.inr (by simpa using h₁)), lineBreaks_cons h₂]

theorem cr_not_mem_lineBreaks (a : List Char) : '\r' ∉ lineBreaks a := by
  induction a using lineBreaks.induct with
  | case1 => exact List.not_mem_nil
  | case2 cs ih =>
    rw [lineBreaks.eq_2, List.mem_cons, not_or]
    exact ⟨by decide, ih⟩
  | case3 cs hcs ih =>
    rw [lineBreaks.eq_3 cs hcs, List.mem_cons, not_or]
    exact ⟨by decide, ih⟩
  | case4 c cs _ hc ih =>
    rw [lineBreaks_cons hc, List.mem_cons, not_or]
    exact ⟨Ne.symm hc, ih⟩

/-- The escape of a character holds a carriage return only when it is one. -/
theorem cr_not_mem_escapeChar {c : Char} (h : c ≠ '\r') : '\r' ∉ escapeChar c := by
  unfold escapeChar
  split_ifs <;> simp [Ne.symm h]

/-- Escaping and making line breaks can be done in either order: the escaper keeps carriage
returns and line feeds, and writes neither for any other character. -/
theorem lineBreaks_escape (s : List Char) :
    lineBreaks (s.flatMap escapeChar) = (lineBreaks s).flatMap escapeChar := by
  induction s using lineBreaks.induct with
  | case1 => rfl
  | case2 cs ih =>
    rw [lineBreaks.eq_2, List.flatMap_cons, List.flatMap_cons, List.flatMap_cons,
      show escapeChar '\r' = ['\r'] from rfl, show escapeChar '\n' = ['\n'] from rfl,
      List.singleton_append, List.singleton_append, lineBreaks.eq_2, ih]
    rfl
  | case3 cs hcs ih =>
    rw [List.flatMap_cons, show escapeChar '\r' = ['\r'] from rfl, List.singleton_append,
      lineBreaks.eq_3 cs hcs, List.flatMap_cons, ← ih]
    rcases cs with _ | ⟨d, cs⟩
    · rfl
    · have hd : d ≠ '\n' := fun hd => hcs cs (by rw [hd])
      rw [lineBreaks_cr (head_escape_ne (by decide) hd cs)]
      rfl
  | case4 c cs _ hc ih =>
    have hnot := cr_not_mem_escapeChar hc
    rw [List.flatMap_cons, lineBreaks_append _ _ (Or.inl fun h => hnot (List.mem_of_getLast? h)),
      lineBreaks_of_cr_not_mem hnot, ih, lineBreaks_cons hc, List.flatMap_cons]

/-- Normalising a value after its line breaks are made normalises it. -/
theorem normalize_lineBreaks (s : List Char) : normalize (lineBreaks s) = normalize s := by
  induction s using lineBreaks.induct with
  | case1 => rfl
  | case2 cs ih =>
    rw [lineBreaks.eq_2, normalize_cons (by decide) (by decide), ih, normalize.eq_2]
  | case3 cs hcs ih =>
    rw [lineBreaks.eq_3 cs hcs, normalize_cons (by decide) (by decide), ih, normalize.eq_3 cs hcs]
  | case4 c cs _ hc ih =>
    rw [lineBreaks_cons hc]
    by_cases hnul : c = '\x00'
    · subst hnul
      rw [normalize.eq_4, normalize.eq_4, ih]
    · rw [normalize_cons hc hnul, normalize_cons hc hnul, ih]

theorem streamText_lineBreaks (s : String) :
    streamText (String.ofList (lineBreaks s.toList)) = streamText s := by
  simp [streamText, normalize_lineBreaks]

/-! ## Script data over the input stream -/

namespace ScriptState

/-- A carriage return is read as the line feed the input stream makes of it. -/
theorem step_cr (q : ScriptState) : step q '\r' = step q '\n' := by
  cases q <;> simp [step, endsTagName, afterData, afterEscaped, afterDoubleEscaped]

/-- After a line feed, another changes nothing: a line feed leads to script data, escaped or
double escaped text, each of which it keeps. -/
theorem step_lf_lf {q q' : ScriptState} (h : step q '\n' = some q') : step q' '\n' = some q' := by
  have hq' : q' = .data ∨ q' = .escaped ∨ q' = .doubleEscaped := by
    cases q <;> simp [step, endsTagName, afterData, afterEscaped, afterDoubleEscaped] at h <;> grind
  rcases hq' with rfl | rfl | rfl <;> rfl

/-- Script text reads the same before and after its line breaks are made. -/
theorem run_lineBreaks (cs : List Char) : ∀ q : ScriptState, run q (lineBreaks cs) = run q cs := by
  induction cs using lineBreaks.induct with
  | case1 => exact fun _ => rfl
  | case2 cs ih =>
    intro q
    rw [lineBreaks.eq_2]
    simp only [run, step_cr]
    cases h : step q '\n' with
    | none => rfl
    | some q' => simp only [step_lf_lf h, ih q']
  | case3 cs hcs ih =>
    intro q
    rw [lineBreaks.eq_3 cs hcs]
    simp only [run, step_cr]
    cases step q '\n' with
    | none => rfl
    | some q' => exact ih q'
  | case4 c cs _ hc ih =>
    intro q
    rw [lineBreaks_cons hc]
    simp only [run]
    cases step q c with
    | none => rfl
    | some q' => exact ih q'

end ScriptState

theorem keeps_lineBreaks {s : String} (h : Keeps s) :
    ScriptState.run .data (lineBreaks s.toList) = some .data := by
  rw [ScriptState.run_lineBreaks]
  exact h

/-! ## Tokens and the tokenizer's states -/

/-- What the tokenizer gives: a character of text, a start or end tag, a comment, or the text of
a script element. -/
inductive Token where
  | char (c : Char)
  | start (t : StartTag)
  | close (name : String)
  | comment (data : List Char)
  | scriptText (text : List Char)
  deriving DecidableEq, Repr

/-- Where the tokenizer stands inside a comment: after its `<!--`, after a `-` there, in its
text, after one or two `-` in its text, and after `--!`. -/
inductive CommentMode where
  | start
  | startDash
  | body
  | endDash
  | close
  | closeBang
  deriving DecidableEq, Repr

/-- Where the tokenizer stands. -/
inductive Mode where
  /-- Text. -/
  | data
  /-- After `&`, with the characters of a reference read so far. -/
  | ref (read : List Char)
  /-- After `<`. -/
  | tagOpen
  /-- Inside a start tag. -/
  | tag (m : TagMode) (r : TagReading)
  /-- After `</`. -/
  | endOpen
  /-- Inside an end tag, whose attributes are dropped. -/
  | endTag (m : TagMode) (r : TagReading)
  /-- After `<!`. -/
  | declOpen
  /-- After `<!-`. -/
  | declDash
  /-- Inside a comment, with its text so far. -/
  | comment (m : CommentMode) (data : List Char)
  /-- Inside a script element's text, with the text so far. -/
  | script (q : ScriptState) (text : List Char)
  deriving DecidableEq, Repr

/-- The character a reference stands for, given what follows its `&`: the references the
escaper writes. -/
def referenceChar? : List Char → Option Char
  | ['a', 'm', 'p', ';'] => some '&'
  | ['l', 't', ';'] => some '<'
  | ['g', 't', ';'] => some '>'
  | ['#', '3', '4', ';'] => some '"'
  | ['#', '3', '9', ';'] => some '\''
  | _ => none

/-- Whether what follows an `&` can still grow into a reference the escaper writes. -/
def referencePrefix (read : List Char) : Bool :=
  [['a', 'm', 'p', ';'], ['l', 't', ';'], ['g', 't', ';'], ['#', '3', '4', ';'],
    ['#', '3', '9', ';']].any (read <+: ·)

/-- The elements whose text the tokenizer reads in a state other than data or script data, and
the foreign elements. -/
def otherTextElements : List String :=
  ["style", "xmp", "iframe", "noembed", "noframes", "noscript", "title", "textarea",
    "plaintext", "svg", "math"]

/-- A null character, which comments and script text read as the replacement character. -/
def nulFree (c : Char) : Char := if c = '\x00' then '�' else c

namespace Mode

/-- Where reading goes on after a start tag: the script data states after a script's, text after
the others'; nothing for an element whose text is not modelled. -/
def afterStart (t : StartTag) : Option Mode :=
  if t.name = "script" then some (.script .data [])
  else if otherTextElements.contains t.name then none
  else some .data

/-- A character in text: `<` opens a tag, `&` a reference, any other is a character of text. -/
def dataStep (c : Char) : Mode × List Token :=
  if c = '<' then (.tagOpen, []) else if c = '&' then (.ref [], []) else (.data, [.char c])

/-- A character after `&`: one that can open no reference leaves the `&` as text and is read as
text; the rest must spell a reference the escaper writes. -/
def refStep (read : List Char) (c : Char) : Option (Mode × List Token) :=
  if read = [] ∧ !(c.isAlphanum || c == '#') then
    some ((dataStep c).1, .char '&' :: (dataStep c).2)
  else
    match referenceChar? (read ++ [c]) with
    | some d => some (.data, [.char d])
    | none => if referencePrefix (read ++ [c]) then some (.ref (read ++ [c]), []) else none

/-- A character of a comment's text. -/
def commentChar (data : List Char) (c : Char) : Mode :=
  if c = '-' then .comment .endDash data else .comment .body (data ++ [nulFree c])

/-- A character inside a comment. -/
def commentStep : CommentMode → List Char → Char → Mode × List Token
  | .start, d, c =>
    if c = '-' then (.comment .startDash d, []) else if c = '>' then (.data, [.comment d])
    else (commentChar d c, [])
  | .startDash, d, c =>
    if c = '-' then (.comment .close d, []) else if c = '>' then (.data, [.comment d])
    else (commentChar (d ++ ['-']) c, [])
  | .body, d, c => (commentChar d c, [])
  | .endDash, d, c =>
    if c = '-' then (.comment .close d, []) else (commentChar (d ++ ['-']) c, [])
  | .close, d, c =>
    if c = '>' then (.data, [.comment d]) else if c = '!' then (.comment .closeBang d, [])
    else if c = '-' then (.comment .close (d ++ ['-']), [])
    else (commentChar (d ++ ['-', '-']) c, [])
  | .closeBang, d, c =>
    if c = '-' then (.comment .endDash (d ++ ['-', '-', '!']), [])
    else if c = '>' then (.data, [.comment d])
    else (commentChar (d ++ ['-', '-', '!']) c, [])

/-- A character inside a script element's text: the element ends when the script data states
complete its end tag, whose name is then read as an end tag's. -/
def scriptStep (q : ScriptState) (text : List Char) (c : Char) : Mode × List Token :=
  match ScriptState.step q c with
  | some q' => (.script q' (text ++ [c]), [])
  | none =>
    -- what was read before the end tag's `</script`
    let body := Token.scriptText ((text.take (text.length - 8)).map nulFree)
    match Html.step .tagName { tag := scriptName } c with
    | .next m' r' => (.endTag m' r', [body])
    | .done t => (.data, [body, .close t.name])

/-- One character read: the next state and the tokens given, or nothing where the reading stops. -/
def step : Mode → Char → Option (Mode × List Token)
  | .data, c => some (dataStep c)
  | .ref read, c => refStep read c
  | .tagOpen, c =>
    if c.isAlpha then some (.tag .tagName { tag := [nameChar c] }, [])
    else if c = '/' then some (.endOpen, [])
    else if c = '!' then some (.declOpen, [])
    else if c = '?' then none
    else some ((dataStep c).1, .char '<' :: (dataStep c).2)
  | .tag m r, c =>
    match Html.step m r c with
    | .next m' r' => some (.tag m' r', [])
    | .done t => (afterStart t).map fun m' => (m', [.start t])
  | .endOpen, c => if c.isAlpha then some (.endTag .tagName { tag := [nameChar c] }, []) else none
  | .endTag m r, c =>
    match Html.step m r c with
    | .next m' r' => some (.endTag m' r', [])
    | .done t => some (.data, [.close t.name])
  | .declOpen, c => if c = '-' then some (.declDash, []) else none
  | .declDash, c => if c = '-' then some (.comment .start [], []) else none
  | .comment m d, c => some (commentStep m d c)
  | .script q text, c => some (scriptStep q text c)

/-- Read a text: the state after it and the tokens given, or nothing where the reading stops. -/
def run : Mode → List Char → Option (Mode × List Token)
  | m, [] => some (m, [])
  | m, c :: cs =>
    match m.step c with
    | some (m', t) => (run m' cs).map fun p => (p.1, t ++ p.2)
    | none => none

/-- The tokens the end of the input gives in a state: none in text, the `&` or `<` read last, and
nothing where the reading stops. -/
def finish : Mode → Option (List Token)
  | .data => some []
  | .ref [] => some [.char '&']
  | .tagOpen => some [.char '<']
  | _ => none

theorem run_cons_of_step {m m' : Mode} {c : Char} {t : List Token} (h : m.step c = some (m', t))
    (cs : List Char) : run m (c :: cs) = (run m' cs).map fun p => (p.1, t ++ p.2) := by
  rw [run, h]

/-- Reading two texts is reading the first, then the second from where it left off. -/
theorem run_append (m : Mode) (a b : List Char) :
    run m (a ++ b) = (run m a).bind fun p => (run p.1 b).map fun q => (q.1, p.2 ++ q.2) := by
  induction a generalizing m with
  | nil => simp [run]
  | cons c a ih =>
    rw [List.cons_append, run, run]
    cases m.step c with
    | none => rfl
    | some p =>
      simp only [ih]
      cases run p.1 a <;> simp [Function.comp_def]

theorem run_append_of {m m' m'' : Mode} {a b : List Char} {t t' : List Token}
    (ha : run m a = some (m', t)) (hb : run m' b = some (m'', t')) :
    run m (a ++ b) = some (m'', t ++ t') := by
  rw [run_append, ha]
  simp [hb]

end Mode

/-! ## Text -/

namespace Mode

/-- Text without `<` and `&` reads as its characters. -/
theorem run_plain : ∀ {cs : List Char}, '<' ∉ cs → '&' ∉ cs → run .data cs = some (.data, cs.map .char)
  | [], _, _ => rfl
  | c :: cs, h₁, h₂ => by
    rw [List.mem_cons, not_or] at h₁ h₂
    have hstep : step .data c = some (.data, [.char c]) := by
      simp [step, dataStep, Ne.symm h₁.1, Ne.symm h₂.1]
    rw [run_cons_of_step hstep, run_plain h₁.2 h₂.2]
    rfl

/-- The escape of a character reads as the character: a kept character as itself, the others
as the reference written for them. -/
theorem run_escapeChar (c : Char) : run .data (escapeChar c) = some (.data, [.char c]) := by
  unfold escapeChar
  split_ifs with h₁ h₂ h₃ h₄ h₅
  · rw [eq_of_beq h₁]; rfl
  · rw [eq_of_beq h₂]; rfl
  · rw [eq_of_beq h₃]; rfl
  · rw [eq_of_beq h₄]; rfl
  · rw [eq_of_beq h₅]; rfl
  · have hlt : c ≠ '<' := fun h => h₂ (by simp [h])
    have hamp : c ≠ '&' := fun h => h₁ (by simp [h])
    exact run_plain (by simp [Ne.symm hlt]) (by simp [Ne.symm hamp])

/-- Escaped text reads as its characters. -/
theorem run_escaped : ∀ cs : List Char, run .data (cs.flatMap escapeChar) = some (.data, cs.map .char)
  | [] => rfl
  | c :: cs => by
    rw [List.flatMap_cons, run_append_of (run_escapeChar c) (run_escaped cs)]
    rfl

end Mode

/-! ## Attributes -/

/-- An attribute as written: ` name="value"`, or ` name` alone when it has no value, both parts
escaped. -/
def attrItem (a : String × Option String) : String :=
  match a.2 with
  | some v => " " ++ escape a.1 ++ "=\"" ++ escape v ++ "\""
  | none => " " ++ escape a.1

/-- Attributes written one after another. -/
def attrItems (as : List (String × Option String)) : String := String.join (as.map attrItem)

/-- An attribute as a page reads it: its name and its value decoded, empty when it has none. -/
def readItem (a : String × Option String) : String × String := (a.1, streamText (a.2.getD ""))

/-- Where an attribute may end: `>` ends the tag, and a blank followed by a plain character
starts the next attribute. -/
def Separates (m : TagMode) : Prop :=
  ∀ r, step m r '>' = .done (r.finish false) ∧
    ∀ c, plainChar c = true → ∃ m', step m r ' ' = .next m' r ∧ step m' r c = .next .name (r.begin [c])

/-- After a tag name or a quoted value, a blank leads to the next name. -/
theorem separates_of_blank {m : TagMode}
    (hm : ∀ r, step m r ' ' = .next .beforeName r ∧ step m r '>' = .done (r.finish false)) :
    Separates m := fun r =>
  ⟨(hm r).2, fun c hc => ⟨.beforeName, (hm r).1, by
    simp [step, plainChar_space hc, plainChar_ne_slash hc, plainChar_ne_gt hc, nameChar_plain hc]⟩⟩

theorem tagName_separates : Separates .tagName :=
  separates_of_blank fun _ => by simp [step, isTagSpace]

theorem afterValue_separates : Separates .afterValue :=
  separates_of_blank fun _ => by simp [step, isTagSpace]

/-- After a name with no value, a blank leads past it to the next name. -/
theorem name_separates : Separates .name := fun r =>
  ⟨by simp [step, isTagSpace], fun c hc => ⟨.afterName, by simp [step, isTagSpace], by
    simp [step, plainChar_space hc, plainChar_ne_slash hc, plainChar_ne_gt hc, plainChar_ne_eq hc,
      nameChar_plain hc]⟩⟩

/-- Where the reading stands after an attribute: after its value, or still in its name when it
has none. -/
def itemMode (a : String × Option String) : TagMode := if a.2.isSome then .afterValue else .name

/-- The value of an attribute as written, read so far. -/
def itemRaw (a : String × Option String) : List Char := (a.2.map fun v => (escape v).toList).getD []

theorem itemMode_separates (a : String × Option String) : Separates (itemMode a) := by
  unfold itemMode
  split
  · exact afterValue_separates
  · exact name_separates

/-- One written attribute, after a place where an attribute may end. -/
theorem read_item {m : TagMode} (hm : Separates m) (r : TagReading) {a : String × Option String}
    (hn : PlainName a.1) (cs : List Char) :
    read m r ((attrItem a).toList ++ cs) =
      read (itemMode a) { r.commit with current := some (a.1.toList, itemRaw a) } cs := by
  obtain ⟨hne, hplain⟩ := hn
  obtain ⟨c, n', hcn⟩ := List.exists_cons_of_ne_nil hne
  have hc : plainChar c = true := hplain c (by simp [hcn])
  have hn' : ∀ d ∈ n', plainChar d = true := fun d hd => hplain d (by simp [hcn, hd])
  obtain ⟨m', hblank, hfirst⟩ := (hm r).2 c hc
  obtain ⟨name, value⟩ := a
  simp only at hcn hn'
  cases value with
  | some v =>
    have htext : (attrItem (name, some v)).toList ++ cs =
        ' ' :: c :: (n' ++ '=' :: '"' :: ((escape v).toList ++ '"' :: cs)) := by
      simp [attrItem, escape_plain hplain, hcn]
    rw [htext, read_next hblank, read_next hfirst, TagReading.begin, read_name _ _ _ _ hn',
      read_next (step_name_eq _), read_next (step_beforeValue_quote _),
      read_doubleQuoted _ _ _ _ (quote_not_mem_escape v)]
    simp [itemMode, itemRaw, hcn]
  | none =>
    have htext : (attrItem (name, none)).toList ++ cs = ' ' :: c :: (n' ++ cs) := by
      simp [attrItem, escape_plain hplain, hcn]
    rw [htext, read_next hblank, read_next hfirst, TagReading.begin, read_name _ _ _ _ hn']
    simp [itemMode, itemRaw, hcn]

/-- Written attributes read back: each value decoded, and an attribute kept only when its name
is new. -/
theorem read_attrItems (as : List (String × Option String)) (hp : ∀ a ∈ as, PlainName a.1) :
    ∀ {m : TagMode}, Separates m → ∀ (r : TagReading) (cs : List Char),
      read m r ((attrItems as).toList ++ '>' :: cs) =
        some (⟨String.ofList r.tag, addAll r.commit.attrs (as.map readItem), false⟩, cs) := by
  induction as with
  | nil =>
    intro m hm r cs
    simp [attrItems, addAll, read_done ((hm r).1), TagReading.finish]
  | cons a as ih =>
    intro m hm r cs
    have hattrs : ({ r.commit with current := some (a.1.toList, itemRaw a) } :
        TagReading).commit.attrs = addAttr r.commit.attrs (readItem a) := by
      rw [commit_attrs]
      cases ha : a.2 <;> simp [itemRaw, readItem, ha, escape, decodeValue_escape, streamText,
        decodeValue, normalize]
    rw [attrItems, List.map_cons, String.join_cons, String.toList_append, List.append_assoc,
      ← attrItems, read_item hm r (hp a List.mem_cons_self),
      ih (fun b hb => hp b (List.mem_cons_of_mem _ hb)) (itemMode_separates a), hattrs]
    simp [addAll]

/-! ## Start and end tags -/

/-- A start tag as written: `<`, its name, its attributes and `>`. -/
def openTagText (name : String) (as : List (String × Option String)) : String :=
  "<" ++ name ++ attrItems as ++ ">"

/-- A written start tag with a plain name and plain, distinct attribute names reads as its name
and attributes, each value decoded. -/
theorem readStartTag_openTag {name : String} (hname : TagName name)
    {as : List (String × Option String)} (hp : ∀ a ∈ as, PlainName a.1)
    (hd : (as.map (·.1)).Nodup) (rest : List Char) :
    readStartTag ((openTagText name as).toList ++ rest) =
      some (⟨name, as.map readItem, false⟩, rest) := by
  obtain ⟨⟨hne, hplain⟩, hsmall⟩ := hname
  obtain ⟨c, n, hcn⟩ := List.exists_cons_of_ne_nil hne
  have hc : plainChar c = true := hplain c (by simp [hcn])
  have hn : ∀ d ∈ n, plainChar d = true := fun d hd => hplain d (by simp [hcn, hd])
  have hletter : 'a' ≤ c ∧ c ≤ 'z' := by simpa [hcn] using hsmall
  have hfresh : ∀ p ∈ as.map readItem, ∀ q ∈ ([] : List (String × String)), p.1 ≠ q.1 := by simp
  have htext : (openTagText name as).toList ++ rest =
      '<' :: c :: (n ++ ((attrItems as).toList ++ '>' :: rest)) := by
    simp [openTagText, hcn]
  rw [htext, readStartTag, if_pos (Or.inl hletter), nameChar_plain hc, read_tagName _ _ hn,
    read_attrItems as hp tagName_separates]
  simp only [TagReading.commit, List.singleton_append, ← hcn, String.ofList_toList]
  rw [addAll_fresh _ _ (by simpa [readItem, Function.comp_def] using hd) hfresh, List.nil_append]

namespace Mode

theorem step_tag_next {m m' : TagMode} {r r' : TagReading} {c : Char}
    (hs : Html.step m r c = .next m' r') : step (.tag m r) c = some (.tag m' r', []) := by
  simp [step, hs]

theorem step_tag_done {m : TagMode} {r : TagReading} {c : Char} {t : StartTag}
    (hs : Html.step m r c = .done t) :
    step (.tag m r) c = (afterStart t).map fun m' => (m', [.start t]) := by
  simp [step, hs]

theorem step_endTag_next {m m' : TagMode} {r r' : TagReading} {c : Char}
    (hs : Html.step m r c = .next m' r') : step (.endTag m r) c = some (.endTag m' r', []) := by
  simp [step, hs]

theorem step_endTag_done {m : TagMode} {r : TagReading} {c : Char} {t : StartTag}
    (hs : Html.step m r c = .done t) : step (.endTag m r) c = some (.data, [.close t.name]) := by
  simp [step, hs]

/-- A start tag that `read` reads is read so by the tokenizer, which goes on in the place the tag
leads to. -/
theorem run_tag_of_read {m : TagMode} {r : TagReading} {cs rest : List Char} {t : StartTag}
    (h : read m r cs = some (t, rest)) :
    run (.tag m r) cs = (afterStart t).bind fun m' => (run m' rest).map fun p => (p.1, .start t :: p.2) := by
  induction cs generalizing m r with
  | nil => simp [read] at h
  | cons c cs ih =>
    cases hs : Html.step m r c with
    | next m' r' =>
      rw [read_next hs] at h
      rw [run_cons_of_step (step_tag_next hs), ih h]
      cases afterStart t <;> simp [Function.comp_def]
    | done t' =>
      rw [read_done hs] at h
      obtain ⟨rfl, rfl⟩ := Prod.mk.inj (Option.some.inj h)
      rw [run, step_tag_done hs]
      cases afterStart t' <;> simp

/-- An end tag that `read` reads is read so by the tokenizer, which goes on in text. -/
theorem run_endTag_of_read {m : TagMode} {r : TagReading} {cs rest : List Char} {t : StartTag}
    (h : read m r cs = some (t, rest)) :
    run (.endTag m r) cs = (run .data rest).map fun p => (p.1, .close t.name :: p.2) := by
  induction cs generalizing m r with
  | nil => simp [read] at h
  | cons c cs ih =>
    cases hs : Html.step m r c with
    | next m' r' =>
      rw [read_next hs] at h
      rw [run_cons_of_step (step_endTag_next hs), ih h]
      simp [Function.comp_def]
    | done t' =>
      rw [read_done hs] at h
      obtain ⟨rfl, rfl⟩ := Prod.mk.inj (Option.some.inj h)
      rw [run_cons_of_step (step_endTag_done hs)]
      rfl

theorem isAlpha_of_letter {c : Char} (h : ('a' ≤ c ∧ c ≤ 'z') ∨ ('A' ≤ c ∧ c ≤ 'Z')) :
    c.isAlpha = true := by
  -- the letter classes compare code points with the bounds of each range
  show (decide (c.val ≥ 'A'.val ∧ c.val ≤ 'Z'.val) ||
    (decide (c.val ≥ 'a'.val) && decide (c.val ≤ 'z'.val))) = true
  simp only [Bool.or_eq_true, Bool.and_eq_true, decide_eq_true_eq]
  rcases h with h | h
  · exact Or.inr ⟨h.1, h.2⟩
  · exact Or.inl ⟨h.1, h.2⟩

/-- A start tag that `readStartTag` reads is read so from text. -/
theorem run_of_readStartTag {c : Char} {cs : List Char} {t : StartTag}
    (h : readStartTag ('<' :: c :: cs) = some (t, [])) :
    run .data ('<' :: c :: cs) = (afterStart t).map fun m' => (m', [.start t]) := by
  rw [readStartTag] at h
  split_ifs at h with hletter
  have hopen : step .tagOpen c = some (.tag .tagName { tag := [nameChar c] }, []) := by
    simp [step, isAlpha_of_letter hletter]
  rw [run_cons_of_step (by simp [step, dataStep] : step .data '<' = some (.tagOpen, [])),
    run_cons_of_step hopen, run_tag_of_read h]
  cases afterStart t <;> simp [run]

end Mode

/-- A start tag written with a plain name and plain, distinct attribute names is read as its name
and attributes, each value decoded, and the tokenizer goes on where the tag leads. -/
theorem run_openTag {name : String} (hname : TagName name) {as : List (String × Option String)}
    (hp : ∀ a ∈ as, PlainName a.1) (hd : (as.map (·.1)).Nodup) {m : Mode}
    (hafter : Mode.afterStart ⟨name, as.map readItem, false⟩ = some m) :
    Mode.run .data (openTagText name as).toList = some (m, [.start ⟨name, as.map readItem, false⟩]) := by
  have h := readStartTag_openTag hname hp hd []
  rw [List.append_nil] at h
  obtain ⟨c, n, hcn⟩ := List.exists_cons_of_ne_nil hname.1.1
  have htext : (openTagText name as).toList = '<' :: c :: (n ++ ((attrItems as).toList ++ ['>'])) := by
    simp [openTagText, hcn]
  rw [htext] at h ⊢
  rw [Mode.run_of_readStartTag h, hafter]
  rfl

/-- An end tag as written. -/
def closeTagText (name : String) : String := "</" ++ name ++ ">"

/-- A written end tag with a plain name is read as that end tag. -/
theorem run_endTag {name : String} (hname : TagName name) :
    Mode.run .data (closeTagText name).toList = some (.data, [.close name]) := by
  obtain ⟨⟨hne, hplain⟩, hsmall⟩ := hname
  obtain ⟨c, n, hcn⟩ := List.exists_cons_of_ne_nil hne
  have hc : plainChar c = true := hplain c (by simp [hcn])
  have hn : ∀ d ∈ n, plainChar d = true := fun d hd => hplain d (by simp [hcn, hd])
  have hletter : 'a' ≤ c ∧ c ≤ 'z' := by simpa [hcn] using hsmall
  have hread : read .tagName { tag := [c] } (n ++ ['>']) = some (⟨name, [], false⟩, []) := by
    rw [read_tagName _ _ hn, read_done ((tagName_separates _).1)]
    simp [TagReading.finish, TagReading.commit, ← hcn]
  have htext : (closeTagText name).toList = '<' :: '/' :: c :: (n ++ ['>']) := by
    simp [closeTagText, hcn]
  have hopen : Mode.step .endOpen c = some (.endTag .tagName { tag := [c] }, []) := by
    simp [Mode.step, Mode.isAlpha_of_letter (Or.inl hletter), nameChar_plain hc]
  rw [htext, Mode.run_cons_of_step (by simp [Mode.step, Mode.dataStep] :
      Mode.step .data '<' = some (.tagOpen, [])),
    Mode.run_cons_of_step (by simp [Mode.step] : Mode.step .tagOpen '/' = some (.endOpen, [])),
    Mode.run_cons_of_step hopen, Mode.run_endTag_of_read hread]
  rfl

/-! ## Comments -/

namespace Mode

/-- The dashes and `!` a comment state has read and not yet placed in the comment's text. -/
def pending : CommentMode → List Char
  | .endDash => ['-']
  | .close => ['-', '-']
  | .closeBang => ['-', '-', '!']
  | _ => []

/-- Inside a comment's text, after `d`: the comment holds `acc` and what `d` holds up to the
dashes and `!` still pending. -/
def InComment (acc d : List Char) (m : Mode) : Prop :=
  ∃ cm done, m = .comment cm (acc ++ done.map nulFree) ∧ d = done ++ pending cm ∧
    cm ∈ [CommentMode.body, .endDash, .close, .closeBang]

/-- A character other than `>` keeps a comment open: a dash is held back until what follows
shows whether it ends the comment. -/
theorem inComment_step {acc d : List Char} {m : Mode} (h : InComment acc d m) {c : Char}
    (hc : c ≠ '>') : ∃ m', step m c = some (m', []) ∧ InComment acc (d ++ [c]) m' := by
  obtain ⟨cm, done, rfl, rfl, hcm⟩ := h
  simp only [List.mem_cons, List.not_mem_nil, or_false] at hcm
  -- a plain character goes into the text after what was pending
  have hplain : ∀ (cm : CommentMode), c ≠ '-' →
      step (.comment cm (acc ++ done.map nulFree)) c =
        some (.comment .body (acc ++ (done ++ pending cm ++ [c]).map nulFree), []) →
      ∃ m', step (.comment cm (acc ++ done.map nulFree)) c = some (m', []) ∧
        InComment acc (done ++ pending cm ++ [c]) m' := fun cm _ hs =>
    ⟨_, hs, .body, done ++ pending cm ++ [c], rfl, by simp [pending], by simp⟩
  rcases hcm with rfl | rfl | rfl | rfl
  · by_cases hd : c = '-'
    · subst hd
      exact ⟨_, rfl, .endDash, done, rfl, by simp [pending], by simp⟩
    · exact hplain .body hd (by simp [step, commentStep, commentChar, hd, pending])
  · by_cases hd : c = '-'
    · subst hd
      exact ⟨_, rfl, .close, done, rfl, by simp [pending], by simp⟩
    · exact hplain .endDash hd (by simp [step, commentStep, commentChar, hd, pending, nulFree])
  · by_cases hd : c = '-'
    · subst hd
      exact ⟨_, rfl, .close, done ++ ['-'], by simp [nulFree], by simp [pending], by simp⟩
    by_cases hb : c = '!'
    · subst hb
      exact ⟨_, rfl, .closeBang, done, rfl, by simp [pending], by simp⟩
    · exact hplain .close hd (by simp [step, commentStep, commentChar, hd, hb, hc, pending, nulFree])
  · by_cases hd : c = '-'
    · subst hd
      exact ⟨_, rfl, .endDash, done ++ ['-', '-', '!'], by simp [nulFree], by simp [pending],
        by simp⟩
    · exact hplain .closeBang hd (by simp [step, commentStep, commentChar, hd, hc, pending, nulFree])

/-- Text without `>` keeps a comment open. -/
theorem inComment_run {acc : List Char} :
    ∀ {d e : List Char} {m : Mode}, InComment acc d m → '>' ∉ e →
      ∃ m', run m e = some (m', []) ∧ InComment acc (d ++ e) m'
  | d, [], m, h, _ => ⟨m, rfl, by simpa using h⟩
  | d, c :: e, m, h, he => by
    rw [List.mem_cons, not_or] at he
    obtain ⟨m₁, hstep, h₁⟩ := inComment_step h (Ne.symm he.1)
    obtain ⟨m₂, hrun, h₂⟩ := inComment_run h₁ he.2
    refine ⟨m₂, ?_, by simpa using h₂⟩
    rw [run_cons_of_step hstep, hrun]
    rfl

/-- `-->` ends an open comment, its text all it has read. -/
theorem inComment_close {acc d : List Char} {m : Mode} (h : InComment acc d m) :
    run m ['-', '-', '>'] = some (.data, [.comment (acc ++ d.map nulFree)]) := by
  obtain ⟨cm, done, rfl, rfl, hcm⟩ := h
  simp only [List.mem_cons, List.not_mem_nil, or_false] at hcm
  rcases hcm with rfl | rfl | rfl | rfl <;>
    simp [run, step, commentStep, commentChar, pending, nulFree]

/-- A comment whose text holds no `>` and does not start with `-` reads as one comment, its null
characters replaced. -/
theorem run_comment {d : List Char} (hgt : '>' ∉ d) (hdash : d.head? ≠ some '-') :
    run .data (['<', '!', '-', '-'] ++ d ++ ['-', '-', '>']) =
      some (.data, [.comment (d.map nulFree)]) := by
  have hopen : run .data ['<', '!', '-', '-'] = some (.comment .start [], []) := rfl
  rcases d with _ | ⟨c, d⟩
  · rfl
  · rw [List.mem_cons, not_or] at hgt
    have hc : c ≠ '-' := by simpa using hdash
    have hfirst : step (.comment .start []) c = some (.comment .body [nulFree c], []) := by
      simp [step, commentStep, commentChar, hc, Ne.symm hgt.1]
    have h₁ : InComment [] [c] (.comment .body [nulFree c]) :=
      ⟨.body, [c], by simp, by simp [pending], by simp⟩
    obtain ⟨m, hrun, h₂⟩ := inComment_run h₁ hgt.2
    have htext : run (.comment .start []) (c :: d) = some (m, []) := by
      rw [run_cons_of_step hfirst, hrun]
      rfl
    rw [List.append_assoc, run_append_of hopen (run_append_of htext (inComment_close h₂))]
    simp

end Mode

/-! ## Script elements -/

namespace Mode

/-- Script text that the script data states read through is held as the element's text. -/
theorem run_scriptText {q q' : ScriptState} {cs : List Char} (h : ScriptState.run q cs = some q')
    (text : List Char) : run (.script q text) cs = some (.script q' (text ++ cs), []) := by
  induction cs generalizing q text with
  | nil =>
    cases h
    simp [run]
  | cons c cs ih =>
    simp only [ScriptState.run] at h
    cases hq : ScriptState.step q c with
    | none => rw [hq] at h; cases h
    | some q'' =>
      rw [hq] at h
      have hstep : step (.script q text) c = some (.script q'' (text ++ [c]), []) := by
        simp [step, scriptStep, hq]
      rw [run_cons_of_step hstep, ih h]
      simp

/-- `</script>` ends a script element whose text is in script data. -/
theorem run_scriptClose (text : List Char) :
    run (.script .data text) ['<', '/', 's', 'c', 'r', 'i', 'p', 't', '>'] =
      some (.data, [.scriptText (text.map nulFree), .close "script"]) := by
  simp [run, step, scriptStep, ScriptState.step, ScriptState.afterData, endsTagName, scriptName,
    Html.step, isTagSpace, TagReading.finish, TagReading.commit]

end Mode

/-- A script element written with plain, distinct attribute names, whose text the script data
states read through, reads as its start tag, its text with null characters replaced, and its end
tag. -/
theorem run_scriptElement {as : List (String × Option String)} (hp : ∀ a ∈ as, PlainName a.1)
    (hd : (as.map (·.1)).Nodup) {body : List Char} (hb : ScriptState.run .data body = some .data) :
    Mode.run .data ((openTagText "script" as).toList ++ body ++
        ['<', '/', 's', 'c', 'r', 'i', 'p', 't', '>']) =
      some (.data, [.start ⟨"script", as.map readItem, false⟩, .scriptText (body.map nulFree),
        .close "script"]) := by
  have hafter : Mode.afterStart ⟨"script", as.map readItem, false⟩ = some (.script .data []) := by
    simp [Mode.afterStart]
  have hopen := run_openTag (by decide) hp hd hafter
  have htext := Mode.run_scriptText hb []
  rw [List.nil_append] at htext
  rw [Mode.run_append_of (Mode.run_append_of hopen htext) (Mode.run_scriptClose body)]
  rfl

/-- The tokens of a page's markup, or nothing where the reading stops. -/
def tokens (s : String) : Option (List Token) :=
  match Mode.run .data (lineBreaks s.toList) with
  | some (m, t) => (Mode.finish m).map (t ++ ·)
  | none => none

/-- Markup that the tokenizer reads from the data state back to it, giving these tokens. -/
def Reads (s : String) (toks : List Token) : Prop :=
  Mode.run .data (lineBreaks s.toList) = some (.data, toks)

theorem tokens_of_reads {s : String} {toks : List Token} (h : Reads s toks) :
    tokens s = some toks := by
  unfold Reads at h
  simp [tokens, h, Mode.finish]

/-- Readings join, unless a carriage return ends the first text and a line feed starts the
second. -/
theorem Reads.append {a b : String} {ta tb : List Token} (ha : Reads a ta) (hb : Reads b tb)
    (hab : a.toList.getLast? ≠ some '\r' ∨ b.toList.head? ≠ some '\n') :
    Reads (a ++ b) (ta ++ tb) := by
  unfold Reads at *
  rw [String.toList_append, lineBreaks_append _ _ hab]
  exact Mode.run_append_of ha hb

end Html
end UiTags
