import UiTags.Markup.Grid
import UiTags.Markup.Layout
import UiTags.Markup.Pod
import UiTags.Proofs.Validation

/-!
# Start tags as an HTML parser reads them

An HTML parser reads a start tag character by character: the tag name, then attributes, each a
name, an optional `=` and a value that is double-quoted, single-quoted or bare. Blanks, `/` and
`>` end a name; `=` opens a value; a name already on the tag drops the later attribute. Names
are lowered (ASCII letters only) and values decoded: the character references the markup
escaper writes stand for their characters, and line breaks and null characters are normalised
as the input stream normalises them.

Written by `Html.attrPairs`, a list of pairs reads back as the same list when every name is
plain: not empty, without blanks, `/`, `>`, `=`, quotes, `<`, `&`, null or ASCII capitals. The
root element of a grid, layout, pod or div is written so, with its id, classes, style and data
pairs, the caller's `data-*` attributes last. Those are the names the caller chooses: a name
with a blank in it reads as two attributes, and two names that differ only in case read as one.

Main results:

- `Html.decodeValue_escape`: escaped text decodes back to the text, normalised.
- `Html.read_attrPairs`: written pairs read back, each kept when its name is new.
- `Html.read_startTag`: with plain, distinct names, a start tag reads back as written.
- `Html.withPassthrough_names`: a view's data pairs, its own and then the caller's, have
  distinct, plain `data-` names when the caller's `data-` names are distinct and plain once
  lowered.
- `blank_data_name_splits`: a pod given the data name `data-a b` reads with two attributes.
-/

namespace UiTags
namespace Html

/-! ## Reading a start tag -/

/-- The blanks between the parts of a tag; a carriage return is read as a line feed. -/
def isTagSpace (c : Char) : Bool :=
  c == '\t' || c == '\n' || c == '\x0C' || c == ' ' || c == '\r'

/-- A character of a tag or attribute name as read: ASCII capitals lowered, null replaced. -/
def nameChar (c : Char) : Char :=
  if 'A' ≤ c ∧ c ≤ 'Z' then Char.ofNat (c.toNat + 32)
  else if c == '\x00' then '�' else c

/-- A text as the input stream gives it to the parser: a carriage return, with a line feed after
it or alone, becomes a line feed, and a null character the replacement character. -/
def normalize : List Char → List Char
  | [] => []
  | '\r' :: '\n' :: cs => '\n' :: normalize cs
  | '\r' :: cs => '\n' :: normalize cs
  | '\x00' :: cs => '�' :: normalize cs
  | c :: cs => c :: normalize cs

/-- The characters of an attribute value as read: the character references the escaper writes
stand for their characters, and the rest is normalised as the input stream normalises it. -/
def decodeValue : List Char → List Char
  | [] => []
  | '&' :: 'a' :: 'm' :: 'p' :: ';' :: cs => '&' :: decodeValue cs
  | '&' :: 'l' :: 't' :: ';' :: cs => '<' :: decodeValue cs
  | '&' :: 'g' :: 't' :: ';' :: cs => '>' :: decodeValue cs
  | '&' :: '#' :: '3' :: '4' :: ';' :: cs => '"' :: decodeValue cs
  | '&' :: '#' :: '3' :: '9' :: ';' :: cs => '\'' :: decodeValue cs
  | '\r' :: '\n' :: cs => '\n' :: decodeValue cs
  | '\r' :: cs => '\n' :: decodeValue cs
  | '\x00' :: cs => '�' :: decodeValue cs
  | c :: cs => c :: decodeValue cs

/-- A text as it reads back from an attribute value. -/
def streamText (s : String) : String :=
  String.ofList (normalize s.toList)

/-- Where a parser is inside a start tag. -/
inductive TagMode where
  | tagName
  | beforeName
  | name
  | afterName
  | beforeValue
  | doubleQuoted
  | singleQuoted
  | unquoted
  | afterValue
  | selfClosing
  deriving DecidableEq, Repr

/-- What a parser has read of a start tag: the tag name, the attributes kept, and the attribute
being read, its name and its value as written. -/
structure TagReading where
  tag : List Char := []
  attrs : List (String × String) := []
  current : Option (List Char × List Char) := none
  deriving DecidableEq, Repr

/-- A start tag read: its name, attributes and whether it closed itself. -/
structure StartTag where
  name : String
  attrs : List (String × String)
  selfClosing : Bool
  deriving DecidableEq, Repr

namespace TagReading

/-- Finish the attribute being read: kept unless the tag already has one of its name. -/
def commit (r : TagReading) : TagReading :=
  match r.current with
  | none => r
  | some (n, v) =>
    let name := String.ofList n
    { r with
      attrs := if r.attrs.any (·.1 == name) then r.attrs
        else r.attrs ++ [(name, String.ofList (decodeValue v))],
      current := none }

/-- Start a new attribute whose name begins with the given characters. -/
def begin (r : TagReading) (n : List Char) : TagReading :=
  { r.commit with current := some (n, []) }

/-- Add a character to the name of the attribute being read. -/
def pushName (r : TagReading) (c : Char) : TagReading :=
  { r with current := r.current.map fun p => (p.1 ++ [c], p.2) }

/-- Add a character to the value of the attribute being read. -/
def pushValue (r : TagReading) (c : Char) : TagReading :=
  { r with current := r.current.map fun p => (p.1, p.2 ++ [c]) }

/-- The tag once its `>` is read. -/
def finish (r : TagReading) (selfClosing : Bool) : StartTag :=
  ⟨String.ofList r.tag, r.commit.attrs, selfClosing⟩

end TagReading

/-- What one character does: the next place and what is read, or the end of the tag. -/
inductive TagStep where
  | next (m : TagMode) (r : TagReading)
  | done (t : StartTag)

/-- One character of a start tag. A character that the standard reconsumes in another place is
taken here as that place takes it. -/
def step : TagMode → TagReading → Char → TagStep
  | .tagName, r, c =>
    if isTagSpace c then .next .beforeName r
    else if c == '/' then .next .selfClosing r
    else if c == '>' then .done (r.finish false)
    else .next .tagName { r with tag := r.tag ++ [nameChar c] }
  | .beforeName, r, c =>
    if isTagSpace c then .next .beforeName r
    else if c == '/' then .next .selfClosing r
    else if c == '>' then .done (r.finish false)
    else .next .name (r.begin [nameChar c])
  | .name, r, c =>
    if isTagSpace c then .next .afterName r
    else if c == '/' then .next .selfClosing r
    else if c == '>' then .done (r.finish false)
    else if c == '=' then .next .beforeValue r
    else .next .name (r.pushName (nameChar c))
  | .afterName, r, c =>
    if isTagSpace c then .next .afterName r
    else if c == '/' then .next .selfClosing r
    else if c == '=' then .next .beforeValue r
    else if c == '>' then .done (r.finish false)
    else .next .name (r.begin [nameChar c])
  | .beforeValue, r, c =>
    if isTagSpace c then .next .beforeValue r
    else if c == '"' then .next .doubleQuoted r
    else if c == '\'' then .next .singleQuoted r
    else if c == '>' then .done (r.finish false)
    else .next .unquoted (r.pushValue c)
  | .doubleQuoted, r, c =>
    if c == '"' then .next .afterValue r else .next .doubleQuoted (r.pushValue c)
  | .singleQuoted, r, c =>
    if c == '\'' then .next .afterValue r else .next .singleQuoted (r.pushValue c)
  | .unquoted, r, c =>
    if isTagSpace c then .next .beforeName r
    else if c == '>' then .done (r.finish false)
    else .next .unquoted (r.pushValue c)
  | .afterValue, r, c =>
    if isTagSpace c then .next .beforeName r
    else if c == '/' then .next .selfClosing r
    else if c == '>' then .done (r.finish false)
    else .next .name (r.begin [nameChar c])
  | .selfClosing, r, c =>
    if c == '>' then .done (r.finish true)
    else if isTagSpace c then .next .beforeName r
    else if c == '/' then .next .selfClosing r
    else .next .name (r.begin [nameChar c])

/-- Read the rest of a start tag: the tag and the text after it, or nothing when the text ends
inside the tag. -/
def read : TagMode → TagReading → List Char → Option (StartTag × List Char)
  | _, _, [] => none
  | m, r, c :: cs =>
    match step m r c with
    | .next m' r' => read m' r' cs
    | .done t => some (t, cs)

/-- Read a start tag at the beginning of a text. -/
def readStartTag : List Char → Option (StartTag × List Char)
  | '<' :: c :: cs =>
    if ('a' ≤ c ∧ c ≤ 'z') ∨ ('A' ≤ c ∧ c ≤ 'Z') then read .tagName { tag := [nameChar c] } cs
    else none
  | _ => none

theorem read_cons (m : TagMode) (r : TagReading) (c : Char) (cs : List Char) :
    read m r (c :: cs) =
      match step m r c with
      | .next m' r' => read m' r' cs
      | .done t => some (t, cs) := rfl

theorem read_next {m m' : TagMode} {r r' : TagReading} {c : Char} (h : step m r c = .next m' r')
    (cs : List Char) : read m r (c :: cs) = read m' r' cs := by
  rw [read_cons, h]

theorem read_done {m : TagMode} {r : TagReading} {c : Char} {t : StartTag}
    (h : step m r c = .done t) (cs : List Char) : read m r (c :: cs) = some (t, cs) := by
  rw [read_cons, h]

/-! ## Attribute values read back -/

/-- Add an attribute unless the tag already has one of its name. -/
def addAttr (attrs : List (String × String)) (p : String × String) : List (String × String) :=
  if attrs.any (·.1 == p.1) then attrs else attrs ++ [p]

theorem commit_attrs (r : TagReading) (n v : List Char) :
    ({ r with current := some (n, v) } : TagReading).commit.attrs =
      addAttr r.attrs (String.ofList n, String.ofList (decodeValue v)) := rfl

@[simp] theorem commit_tag (r : TagReading) : r.commit.tag = r.tag := by
  unfold TagReading.commit
  split <;> rfl

theorem decodeValue_cons {c : Char} (h₁ : c ≠ '&') (h₂ : c ≠ '\r') (h₃ : c ≠ '\x00')
    (cs : List Char) : decodeValue (c :: cs) = c :: decodeValue cs :=
  decodeValue.eq_10 c cs (fun _ h => absurd h h₁) (fun _ h => absurd h h₁) (fun _ h => absurd h h₁)
    (fun _ h => absurd h h₁) (fun _ h => absurd h h₁) (fun _ h => absurd h h₂) h₂ h₃

theorem decodeValue_cr {cs : List Char} (h : cs.head? ≠ some '\n') :
    decodeValue ('\r' :: cs) = '\n' :: decodeValue cs :=
  decodeValue.eq_8 cs fun cs' hcs => h (by simp [hcs])

theorem normalize_cons {c : Char} (h₂ : c ≠ '\r') (h₃ : c ≠ '\x00') (cs : List Char) :
    normalize (c :: cs) = c :: normalize cs :=
  normalize.eq_5 c cs (fun _ h => absurd h h₂) h₂ h₃

theorem normalize_cr {cs : List Char} (h : cs.head? ≠ some '\n') :
    normalize ('\r' :: cs) = '\n' :: normalize cs :=
  normalize.eq_3 cs fun cs' hcs => h (by simp [hcs])

/-- A character the escaper replaces is written as a character reference, which starts with
`&`. -/
theorem escapeChar_amp {c : Char} (h : escapeChar c ≠ [c]) : ∃ t, escapeChar c = '&' :: t := by
  unfold escapeChar at h ⊢
  split_ifs at h ⊢
  · exact ⟨_, rfl⟩
  · exact ⟨_, rfl⟩
  · exact ⟨_, rfl⟩
  · exact ⟨_, rfl⟩
  · exact ⟨_, rfl⟩
  · exact absurd rfl h

/-- Escaped text starts with its first character or with the `&` of a reference, so with no
other character. -/
theorem head_escape_ne {d x : Char} (hx : x ≠ '&') (hd : d ≠ x) (s : List Char) :
    ((d :: s).flatMap escapeChar).head? ≠ some x := by
  rw [List.flatMap_cons]
  by_cases hkeep : escapeChar d = [d]
  · simp [hkeep, hd]
  · obtain ⟨t, ht⟩ := escapeChar_amp hkeep
    simp [ht, Ne.symm hx]

/-- The character reference the escaper writes for a character reads back as that character. -/
theorem decodeValue_escapeChar {c : Char} (h : escapeChar c ≠ [c]) (rest : List Char) :
    decodeValue (escapeChar c ++ rest) = c :: decodeValue rest := by
  unfold escapeChar at h ⊢
  split_ifs at h ⊢ with h₁ h₂ h₃ h₄ h₅
  · rw [eq_of_beq h₁]; exact decodeValue.eq_2 rest
  · rw [eq_of_beq h₂]; exact decodeValue.eq_3 rest
  · rw [eq_of_beq h₃]; exact decodeValue.eq_4 rest
  · rw [eq_of_beq h₄]; exact decodeValue.eq_5 rest
  · rw [eq_of_beq h₅]; exact decodeValue.eq_6 rest
  · exact absurd rfl h

/-- A character the escaper keeps is not `&`, and a carriage return or null character is kept. -/
theorem escapeChar_kept {c : Char} (h : escapeChar c = [c]) : c ≠ '&' := by
  rintro rfl
  exact absurd h (by decide)

/-- Escaped text reads back as the text normalised: each character reference the escaper writes
stands for the character it replaced. -/
theorem decodeValue_escape : ∀ s : List Char, decodeValue (s.flatMap escapeChar) = normalize s
  | [] => rfl
  | c :: s => by
    have ih := decodeValue_escape s
    rw [List.flatMap_cons]
    by_cases hkeep : escapeChar c = [c]
    · rw [hkeep, List.singleton_append]
      by_cases h₆ : c = '\r'
      · -- a carriage return reads as one line feed, with the line feed after it if there is one
        subst h₆
        cases s with
        | nil => rfl
        | cons d s =>
          by_cases hd : d = '\n'
          · subst hd
            rw [List.flatMap_cons, show escapeChar '\n' = ['\n'] from rfl, List.singleton_append,
              decodeValue.eq_7, normalize.eq_2, decodeValue_escape s]
          · rw [decodeValue_cr (head_escape_ne (by decide) hd s), normalize_cr (by simpa using hd), ih]
      by_cases h₇ : c = '\x00'
      · subst h₇
        rw [decodeValue.eq_9, normalize.eq_4, ih]
      rw [decodeValue_cons (escapeChar_kept hkeep) h₆ h₇, normalize_cons h₆ h₇, ih]
    · have h₆ : c ≠ '\r' := by rintro rfl; exact hkeep rfl
      have h₇ : c ≠ '\x00' := by rintro rfl; exact hkeep rfl
      rw [decodeValue_escapeChar hkeep, normalize_cons h₆ h₇, ih]

/-! ## Plain names -/

/-- A character that reads as itself in an attribute name and that the escaper keeps: no blank,
`/`, `>`, `=`, quote, `<`, `&`, null character or ASCII capital. -/
def plainChar (c : Char) : Bool :=
  !isTagSpace c && c != '/' && c != '>' && c != '=' && c != '"' && c != '\'' && c != '<' &&
    c != '&' && c != '\x00' && !(decide ('A' ≤ c ∧ c ≤ 'Z'))

/-- An attribute name that reads back as written: not empty, and of plain characters. -/
def PlainName (n : String) : Prop := n.toList ≠ [] ∧ ∀ c ∈ n.toList, plainChar c = true

instance (n : String) : Decidable (PlainName n) :=
  decidable_of_iff ((!n.toList.isEmpty && n.toList.all plainChar) = true)
    (by simp [PlainName])

section Plain

variable {c : Char} (h : plainChar c = true)
include h

theorem plainChar_space : isTagSpace c = false := by
  simp_all [plainChar]

theorem plainChar_ne_slash : c ≠ '/' := by
  simp_all [plainChar]

theorem plainChar_ne_gt : c ≠ '>' := by
  simp_all [plainChar]

theorem plainChar_ne_eq : c ≠ '=' := by
  simp_all [plainChar]

theorem nameChar_plain : nameChar c = c := by
  simp only [plainChar, Bool.and_eq_true, bne_iff_ne, Bool.not_eq_true', decide_eq_false_iff_not]
    at h
  simp [nameChar, h.2, h.1.2]

theorem escapeChar_plain : escapeChar c = [c] := by
  simp only [plainChar, Bool.and_eq_true, bne_iff_ne, ne_eq] at h
  simp [escapeChar, h]

end Plain

theorem escape_plain {n : String} (h : ∀ c ∈ n.toList, plainChar c = true) : escape n = n := by
  have hmap : n.toList.flatMap escapeChar = n.toList := by
    rw [List.flatMap_congr (fun c hc => escapeChar_plain (h c hc)), List.flatMap_singleton']
  simp [escape, hmap]

/-! ## Reading names and values -/

/-- Plain characters lengthen the name being read. -/
theorem read_name (r : TagReading) (v : List Char) :
    ∀ (nm n : List Char), (∀ c ∈ n, plainChar c = true) → ∀ cs,
      read .name { r with current := some (nm, v) } (n ++ cs) =
        read .name { r with current := some (nm ++ n, v) } cs
  | nm, [], _, cs => by simp
  | nm, c :: n, hn, cs => by
    have hc := hn c List.mem_cons_self
    have hstep : step .name { r with current := some (nm, v) } c =
        .next .name { r with current := some (nm ++ [c], v) } := by
      simp [step, plainChar_space hc, plainChar_ne_slash hc, plainChar_ne_gt hc,
        plainChar_ne_eq hc, nameChar_plain hc, TagReading.pushName]
    rw [List.cons_append, read_next hstep, read_name r v (nm ++ [c]) n
      (fun d hd => hn d (List.mem_cons_of_mem _ hd)), List.append_assoc, List.singleton_append]

/-- A double-quoted value is read up to the next double quote. -/
theorem read_doubleQuoted (r : TagReading) (nm : List Char) :
    ∀ (v raw : List Char), '"' ∉ raw → ∀ cs,
      read .doubleQuoted { r with current := some (nm, v) } (raw ++ '"' :: cs) =
        read .afterValue { r with current := some (nm, v ++ raw) } cs
  | v, [], _, cs => by simp [read_cons, step]
  | v, c :: raw, hraw, cs => by
    have hc : c ≠ '"' := fun h => hraw (h ▸ List.mem_cons_self)
    have hstep : step .doubleQuoted { r with current := some (nm, v) } c =
        .next .doubleQuoted { r with current := some (nm, v ++ [c]) } := by
      simp [step, hc, TagReading.pushValue]
    rw [List.cons_append, read_next hstep, read_doubleQuoted r nm (v ++ [c]) raw
      (fun h => hraw (List.mem_cons_of_mem _ h)), List.append_assoc, List.singleton_append]

/-- Escaped text holds no double quote. -/
theorem quote_not_mem_escapeChar (c : Char) : '"' ∉ escapeChar c := by
  unfold escapeChar
  split_ifs with h₁ h₂ h₃ h₄
  iterate 5 decide
  rw [List.mem_singleton]
  exact fun h => h₄ (beq_iff_eq.2 h.symm)

theorem quote_not_mem_escape (s : String) : '"' ∉ (escape s).toList := by
  simp only [escape, String.toList_ofList, List.mem_flatMap, not_exists, not_and]
  exact fun c _ => quote_not_mem_escapeChar c

/-- The blanks before an attribute: the tag name and an attribute value both end at one. -/
def EndsAtBlank (m : TagMode) : Prop :=
  ∀ r, step m r ' ' = .next .beforeName r ∧ step m r '>' = .done (r.finish false)

theorem tagName_endsAtBlank : EndsAtBlank .tagName := fun _ => by simp [step, isTagSpace]

theorem afterValue_endsAtBlank : EndsAtBlank .afterValue := fun _ => by simp [step, isTagSpace]

theorem step_name_eq (r : TagReading) : step .name r '=' = .next .beforeValue r := by
  simp [step, isTagSpace]

theorem step_beforeValue_quote (r : TagReading) :
    step .beforeValue r '"' = .next .doubleQuoted r := by
  simp [step, isTagSpace]

/-- One written attribute ` n="v"` read after a tag name or a value. -/
theorem read_pair {m : TagMode} (hm : EndsAtBlank m) (r : TagReading) {n : String}
    (hn : PlainName n) (v : String) (cs : List Char) :
    read m r ((" " ++ escape n ++ "=\"" ++ escape v ++ "\"").toList ++ cs) =
      read .afterValue { r.commit with current := some (n.toList, (escape v).toList) } cs := by
  obtain ⟨hne, hplain⟩ := hn
  obtain ⟨c, n', hcn⟩ := List.exists_cons_of_ne_nil hne
  have hc : plainChar c = true := hplain c (by simp [hcn])
  have hn' : ∀ d ∈ n', plainChar d = true := fun d hd => hplain d (by simp [hcn, hd])
  have hfirst : step .beforeName r c = .next .name { r.commit with current := some ([c], []) } := by
    simp [step, plainChar_space hc, plainChar_ne_slash hc, plainChar_ne_gt hc,
      nameChar_plain hc, TagReading.begin]
  rw [escape_plain hplain]
  simp only [String.toList_append, hcn, List.append_assoc, List.cons_append]
  rw [show (" ".toList ++ c :: (n' ++ ("=\"".toList ++ ((escape v).toList ++ ("\"".toList ++ cs))))) =
      ' ' :: c :: (n' ++ '=' :: '"' :: ((escape v).toList ++ '"' :: cs)) from rfl,
    read_next (hm r).1, read_next hfirst, read_name _ _ _ _ hn', read_next (step_name_eq _),
    read_next (step_beforeValue_quote _), read_doubleQuoted _ _ _ _ (quote_not_mem_escape v)]
  simp

/-- Adding attributes one after another, each unless its name is already there. -/
def addAll (attrs : List (String × String)) (pairs : List (String × String)) :
    List (String × String) :=
  pairs.foldl addAttr attrs

/-- Written attributes read back: each value decoded to its text normalised, and an attribute
kept only when its name is new. -/
theorem read_attrPairs (pairs : List (String × String)) (hp : ∀ p ∈ pairs, PlainName p.1) :
    ∀ {m : TagMode}, EndsAtBlank m → ∀ (r : TagReading) (cs : List Char),
      read m r ((attrPairs pairs).toList ++ '>' :: cs) =
        some (⟨String.ofList r.tag,
          addAll r.commit.attrs (pairs.map fun p => (p.1, streamText p.2)), false⟩, cs) := by
  induction pairs with
  | nil =>
    intro m hm r cs
    simp [attrPairs, addAll, read_done (hm r).2, TagReading.finish]
  | cons p ps ih =>
    intro m hm r cs
    have hp₁ : PlainName p.1 := hp p List.mem_cons_self
    have hps : ∀ q ∈ ps, PlainName q.1 := fun q hq => hp q (List.mem_cons_of_mem _ hq)
    have hattrs : ({ r.commit with current := some (p.1.toList, (escape p.2).toList) } :
        TagReading).commit.attrs = addAttr r.commit.attrs (p.1, streamText p.2) := by
      rw [commit_attrs]
      simp [escape, decodeValue_escape, streamText]
    have hsplit : attrPairs (p :: ps) =
        " " ++ escape p.1 ++ "=\"" ++ escape p.2 ++ "\"" ++ attrPairs ps := by
      simp [attrPairs]
    rw [hsplit, String.toList_append, List.append_assoc, read_pair hm r hp₁,
      ih hps afterValue_endsAtBlank, hattrs]
    simp [addAll]

/-- Attributes whose names are new and distinct are all kept, in order. -/
theorem addAll_fresh : ∀ (attrs pairs : List (String × String)),
    (pairs.map (·.1)).Nodup → (∀ p ∈ pairs, ∀ q ∈ attrs, p.1 ≠ q.1) →
      addAll attrs pairs = attrs ++ pairs
  | attrs, [], _, _ => by simp [addAll]
  | attrs, p :: ps, hd, hfresh => by
    rw [List.map_cons, List.nodup_cons] at hd
    have hnew : attrs.any (·.1 == p.1) = false := by
      simp only [List.any_eq_false, beq_iff_eq]
      exact fun q hq h => hfresh p List.mem_cons_self q hq h.symm
    have hrest : ∀ p' ∈ ps, ∀ q ∈ attrs ++ [p], p'.1 ≠ q.1 := by
      intro p' hp' q hq
      rcases List.mem_append.1 hq with hq | hq
      · exact hfresh p' (List.mem_cons_of_mem _ hp') q hq
      · rw [List.mem_singleton.1 hq]
        exact fun h => hd.1 (h ▸ List.mem_map_of_mem hp')
    have hstep : addAttr attrs p = attrs ++ [p] := by simp [addAttr, hnew]
    rw [addAll, List.foldl_cons, hstep, ← addAll, addAll_fresh _ ps hd.2 hrest]
    simp

/-- Plain characters lengthen the tag name being read. -/
theorem read_tagName (r : TagReading) :
    ∀ (n : List Char), (∀ c ∈ n, plainChar c = true) → ∀ cs,
      read .tagName r (n ++ cs) = read .tagName { r with tag := r.tag ++ n } cs
  | [], _, cs => by simp
  | c :: n, hn, cs => by
    have hc := hn c List.mem_cons_self
    have hstep : step .tagName r c = .next .tagName { r with tag := r.tag ++ [c] } := by
      simp [step, plainChar_space hc, plainChar_ne_slash hc, plainChar_ne_gt hc, nameChar_plain hc]
    rw [List.cons_append, read_next hstep, read_tagName _ n
      (fun d hd => hn d (List.mem_cons_of_mem _ hd))]
    simp

/-- A tag name a parser reads back as written: plain, starting with a small ASCII letter. -/
def TagName (n : String) : Prop :=
  PlainName n ∧ (n.toList.head?.any fun c => 'a' ≤ c && c ≤ 'z') = true

instance (n : String) : Decidable (TagName n) :=
  inferInstanceAs (Decidable (PlainName n ∧ _))

/-- **A written start tag reads back.** With a plain tag name and plain, distinct attribute
names, a parser reads the tag name and every attribute in order, each value as its text with
line breaks and null characters normalised, and stops right after the `>`. -/
theorem read_startTag {name : String} (hname : TagName name) {pairs : List (String × String)}
    (hp : ∀ p ∈ pairs, PlainName p.1) (hd : (pairs.map (·.1)).Nodup) (rest : List Char) :
    readStartTag ((startTag name pairs).toList ++ rest) =
      some (⟨name, pairs.map fun p => (p.1, streamText p.2), false⟩, rest) := by
  obtain ⟨⟨hne, hplain⟩, hsmall⟩ := hname
  obtain ⟨c, n, hcn⟩ := List.exists_cons_of_ne_nil hne
  have hc : plainChar c = true := hplain c (by simp [hcn])
  have hn : ∀ d ∈ n, plainChar d = true := fun d hd => hplain d (by simp [hcn, hd])
  have hletter : 'a' ≤ c ∧ c ≤ 'z' := by simpa [hcn] using hsmall
  have hfresh : ∀ p ∈ pairs.map (fun p => (p.1, streamText p.2)), ∀ q ∈ ([] : List (String × String)),
      p.1 ≠ q.1 := by simp
  have htext : (startTag name pairs).toList ++ rest =
      '<' :: c :: (n ++ ((attrPairs pairs).toList ++ '>' :: rest)) := by
    simp [startTag, openTag, hcn]
  rw [htext, readStartTag, if_pos (Or.inl hletter), nameChar_plain hc, read_tagName _ _ hn,
    read_attrPairs pairs hp tagName_endsAtBlank]
  simp only [TagReading.commit, List.singleton_append, ← hcn, String.ofList_toList]
  rw [addAll_fresh _ _ (by simpa [Function.comp_def] using hd) hfresh, List.nil_append]

/-! ## Root elements -/

/-- The `style` pair of a root element, written only for a non-empty style. -/
def stylePair (style : String) : List (String × String) :=
  if style.isEmpty then [] else [("style", style)]

/-- The attributes of a root element as its view intends them: id, classes, the style when there
is one, then the data pairs. -/
def rootPairs (id : Value) (classes style : String) (data : List (String × String)) :
    List (String × String) :=
  [("id", id.text), ("class", classes)] ++ stylePair style ++ data

/-- How the views write a root element's start tag is `startTag` of its pairs. -/
theorem startTag_root (tag : String) (id : Value) (classes style : String)
    (data : List (String × String)) :
    (startTag tag (rootPairs id classes style data)).toList =
      ("<" ++ tag ++ " id=\"" ++ text id ++ "\" class=\"" ++ escape classes ++ "\"" ++
        (if style.isEmpty then "" else " style=\"" ++ escape style ++ "\"") ++ attrPairs data ++
        ">").toList := by
  have hid : escape "id" = "id" := by decide
  have hclass : escape "class" = "class" := by decide
  have hstyle : escape "style" = "style" := by decide
  unfold startTag openTag rootPairs stylePair
  split <;> simp [attrPairs, text, hid, hclass, hstyle, String.toList_append]

/-- The caller's `data-*` names, lowered, are plain. -/
def DataNamesPlain (attrs : Attrs) : Prop :=
  ∀ p ∈ attrs, (Text.lower p.1).startsWith "data-" = true → PlainName (Text.lower p.1)

instance (attrs : Attrs) : Decidable (DataNamesPlain attrs) :=
  inferInstanceAs (Decidable (∀ p ∈ attrs, _))

/-- The caller's `data-` names are distinct once lowered. -/
def DataDistinct (attrs : Attrs) : Prop :=
  (((attrs.map Prod.fst).filter fun n => (Text.lower n).startsWith "data-").map Text.lower).Nodup

/-- Names a view writes as its own data pairs: distinct, plain, and each a `data-` name. -/
def DataNames (names : List String) : Prop :=
  names.Nodup ∧ ∀ n ∈ names, PlainName n ∧ n.startsWith "data-" = true

instance (names : List String) : Decidable (DataNames names) :=
  inferInstanceAs (Decidable (_ ∧ _))

/-- Whether the caller's attribute passes through: a lowered `data-` name, not null, and not
one of the names taken. -/
def passesThrough (taken : List String) (p : String × Value) : Bool :=
  (Text.lower p.1).startsWith "data-" && p.2 != .null && !taken.contains (Text.lower p.1)

/-- The caller's attributes that pass through, lowered and with their texts. -/
theorem passthrough_eq (attrs : Attrs) (taken : List String) :
    passthrough attrs taken =
      (attrs.filter (passesThrough taken)).map fun p => (Text.lower p.1, p.2.text) := by
  induction attrs with
  | nil => rfl
  | cons p ps ih =>
    rw [List.filter_cons]
    by_cases hp : passesThrough taken p = true
    · rw [if_pos hp, List.map_cons, ← ih]
      simp only [passesThrough] at hp
      simp only [passthrough, List.filterMap_cons, hp, if_true]
    · rw [if_neg hp, ← ih]
      simp only [passesThrough] at hp
      simp only [passthrough, List.filterMap_cons, hp, Bool.false_eq_true, if_false]

theorem passthrough_names (attrs : Attrs) (taken : List String) :
    (passthrough attrs taken).map (·.1) = (attrs.filter (passesThrough taken)).map (Text.lower ·.1) := by
  simp [passthrough_eq, Function.comp_def]

theorem mem_passthrough_names {attrs : Attrs} {taken : List String} {n : String}
    (h : n ∈ (passthrough attrs taken).map (·.1)) :
    ∃ p ∈ attrs, n = Text.lower p.1 ∧ (Text.lower p.1).startsWith "data-" = true ∧ n ∉ taken := by
  rw [passthrough_names, List.mem_map] at h
  obtain ⟨p, hp, rfl⟩ := h
  rw [List.mem_filter] at hp
  simp only [passesThrough, Bool.and_eq_true, Bool.not_eq_true', List.contains_eq_mem,
    decide_eq_false_iff_not] at hp
  exact ⟨p, hp.1, rfl, hp.2.1.1, hp.2.2⟩

theorem passthrough_nodup {attrs : Attrs} (hd : DataDistinct attrs) (taken : List String) :
    ((passthrough attrs taken).map (·.1)).Nodup := by
  rw [passthrough_names]
  refine hd.sublist ?_
  rw [List.filter_map, List.map_map]
  -- every pair that passes through has a `data-` name
  refine (List.monotone_filter_right attrs fun p hp => ?_).map _
  simp only [passesThrough, Bool.and_eq_true] at hp
  exact hp.1.1

/-- The data pairs of a view, its own then the caller's, have distinct, plain `data-` names. -/
theorem withPassthrough_names {attrs : Attrs} (hd : DataDistinct attrs)
    (hplain : DataNamesPlain attrs) {own : List (String × String)} {names : List String}
    (hnames : DataNames names) (hown : (own.map (·.1)).Sublist names) :
    DataNames ((withPassthrough attrs own).map (·.1)) := by
  obtain ⟨hnodup, hgood⟩ := hnames
  refine ⟨?_, ?_⟩
  · rw [withPassthrough, List.map_append, List.nodup_append]
    refine ⟨hnodup.sublist hown, passthrough_nodup hd _, ?_⟩
    intro a ha b hb hab
    obtain ⟨-, -, -, -, hnot⟩ := mem_passthrough_names hb
    exact hnot (hab ▸ ha)
  · intro n hn
    rw [withPassthrough, List.map_append, List.mem_append] at hn
    rcases hn with hn | hn
    · exact hgood n (hown.subset hn)
    · obtain ⟨p, hp, rfl, hdata, -⟩ := mem_passthrough_names hn
      exact ⟨hplain p hp hdata, hdata⟩

/-- Root pairs over data pairs with distinct, plain `data-` names have distinct, plain names. -/
theorem rootPairs_names (id : Value) (classes style : String) {data : List (String × String)}
    (hdata : DataNames (data.map (·.1))) :
    ((rootPairs id classes style data).map (·.1)).Nodup ∧
      ∀ p ∈ rootPairs id classes style data, PlainName p.1 := by
  obtain ⟨hnodup, hgood⟩ := hdata
  have hfixed : ∀ n ∈ ["id", "class", "style"], PlainName n ∧ n.startsWith "data-" = false := by
    decide +kernel
  have hsub : ["id", "class"] ++ (stylePair style).map (·.1) ⊆ ["id", "class", "style"] := by
    unfold stylePair
    split <;> simp [List.subset_def]
  have hhead : ∀ n ∈ ["id", "class"] ++ (stylePair style).map (·.1),
      PlainName n ∧ n.startsWith "data-" = false :=
    fun n hn => hfixed n (hsub hn)
  have hheadNodup : (["id", "class"] ++ (stylePair style).map (·.1)).Nodup := by
    unfold stylePair
    split <;> simp
  refine ⟨?_, ?_⟩
  · simp only [rootPairs, List.map_append]
    rw [List.nodup_append]
    refine ⟨hheadNodup, hnodup, ?_⟩
    intro a ha b hb hab
    have h₁ := (hhead a ha).2
    have h₂ := (hgood b hb).2
    rw [hab] at h₁
    simp_all
  · intro p hp
    rw [rootPairs, List.mem_append] at hp
    rcases hp with hp | hp
    · exact (hhead p.1 (by simpa using List.mem_map_of_mem (f := (·.1)) hp)).1
    · exact (hgood p.1 (List.mem_map_of_mem hp)).1

end Html

/-! ## The views' root elements -/

section Views

open Html

variable {f : Frame}

/-- The names a grid writes as its own data pairs. -/
def GridView.dataNames : List String :=
  ["data-name", "data-sortable", "data-editable", "data-select-mode", "data-page-size",
    "data-page", "data-total-pages", "data-total-rows", "data-source"]

/-- The names a layout writes as its own data pairs. -/
def LayoutView.dataNames : List String := ["data-layout-type", "data-name"]

/-- The names a pod writes as its own data pairs. -/
def PodView.dataNames : List String := ["data-name", "data-source"]

/-- The names a div writes as its own data pairs. -/
def DivView.dataNames : List String := ["data-bind", "data-bind-on-load"]

/-- An optional pair of a fixed name contributes at most that name. -/
theorem optionPair_names {α : Type} (o : Option α) (name : String) (g : α → String) :
    ((o.map fun a => (name, g a)).toList.map (·.1)).Sublist [name] := by
  cases o <;> simp

theorem GridView.data_ofFrame (f : Frame) :
    ∃ own, (GridView.ofFrame f).data = withPassthrough f.attrs own ∧
      (own.map (·.1)).Sublist GridView.dataNames := by
  refine ⟨_, rfl, ?_⟩
  simp only [List.map_append]
  show List.Sublist _ (["data-name", "data-sortable", "data-editable", "data-select-mode"] ++
    ["data-page-size"] ++ ["data-page", "data-total-pages", "data-total-rows"] ++ ["data-source"])
  refine (((List.Sublist.refl _).append (optionPair_names _ _ _)).append ?_).append
    (optionPair_names _ _ _)
  split <;> simp

theorem LayoutView.data_ofFrame (f : Frame) :
    ∃ own, (LayoutView.ofFrame f).data = withPassthrough f.attrs own ∧
      (own.map (·.1)).Sublist LayoutView.dataNames :=
  ⟨_, rfl, (List.Sublist.refl ["data-layout-type"]).append (optionPair_names _ _ _)⟩

theorem PodView.data_ofFrame (f : Frame) :
    ∃ own, (PodView.ofFrame f).data = withPassthrough f.attrs own ∧
      (own.map (·.1)).Sublist PodView.dataNames := by
  refine ⟨_, rfl, ?_⟩
  simp only [List.map_append]
  show List.Sublist _ (["data-name"] ++ ["data-source"])
  refine List.Sublist.append ?_ ?_ <;> split <;> simp

theorem DivView.data_ofFrame (f : Frame) :
    ∃ own, (DivView.ofFrame f).data = withPassthrough f.attrs own ∧
      (own.map (·.1)).Sublist DivView.dataNames := by
  refine ⟨_, rfl, ?_⟩
  split <;> simp [DivView.dataNames]

theorem GridView.render_root (g : GridView) :
    ∃ rest, g.render.toList = (startTag "div" (rootPairs g.id g.classes g.style g.data)).toList ++ rest := by
  rw [startTag_root]
  unfold GridView.render GridView.styleAttr
  simp only [String.toList_append, List.append_assoc]
  exact ⟨_, rfl⟩

theorem LayoutView.render_root (l : LayoutView) :
    ∃ rest, l.render.toList = (startTag "div" (rootPairs l.id l.classes l.style l.data)).toList ++ rest := by
  rw [startTag_root]
  unfold LayoutView.render
  simp only [String.toList_append, List.append_assoc]
  exact ⟨_, rfl⟩

theorem PodView.render_root (p : PodView) :
    ∃ rest, p.render.toList = (startTag "div" (rootPairs p.id p.classes p.style p.data)).toList ++ rest := by
  rw [startTag_root]
  unfold PodView.render
  simp only [String.toList_append, List.append_assoc]
  exact ⟨_, rfl⟩

theorem DivView.render_root (d : DivView) :
    ∃ rest, d.render.toList =
      (startTag (text d.tagName) (rootPairs d.id d.classes d.style d.data)).toList ++ rest := by
  rw [startTag_root]
  unfold DivView.render
  simp only [String.toList_append, List.append_assoc]
  exact ⟨_, rfl⟩

/-- Every element name a div may take reads back as written. -/
theorem divTagNames_read : ∀ t ∈ TagDef.divTagNames, TagName t ∧ escape t = t := by
  decide +kernel

/-- A pod given the data name `data-a b`, which is not plain: its view intends one attribute of
that name, and a parser reads two, `data-a` with an empty value and `b`. -/
theorem blank_data_name_splits :
    let f : Frame :=
      { tag := "pod", kind := .plain, id := .str "pod_1", attrs := [("data-a b", .str "1")] }
    ¬DataNamesPlain f.attrs ∧
      rootPairs (PodView.ofFrame f).id (PodView.ofFrame f).classes (PodView.ofFrame f).style
          (PodView.ofFrame f).data = [("id", "pod_1"), ("class", "bx-pod"), ("data-a b", "1")] ∧
      (readStartTag (PodView.ofFrame f).render.toList).map (·.1.attrs) =
        some [("id", "pod_1"), ("class", "bx-pod"), ("data-a", ""), ("b", "1")] := by
  decide +kernel

end Views

end UiTags
