import UiTags.Proofs.MarkupTokens

/-!
# Markup written in parts

A template writes its markup as a run of parts: fixed text, values placed as escaped text, start
tags with their attributes, end tags, comments, script elements, and captured markup placed as
it is. Each part is meant to read as certain tokens (`Html.Part.reading`): fixed and escaped text
as its characters, a start tag as its name and its attributes with their values decoded, an end
tag as itself, a comment as its text, a script element as its start tag, text and end tag, and
captured markup as the tokens the tokenizer gives for it.

A part reads as meant when it is sound (`Html.Part.Sound`): fixed text holds no `<`, `&` or
carriage return; a start tag has a plain name and plain, distinct attribute names, and is no
script or element whose text is read in a state of its own; a comment does not start with `-`;
a script element's text keeps the script data state; captured markup is read from the data state
back to it and does not end in a carriage return. Escaped text is always sound, but it may end
in a carriage return, so what follows it must not start with a line feed (`Html.Part.Joins`).

Main results:

- `Html.Part.reads_write`: a sound part reads as meant.
- `Html.Part.reads_writeAll`: so do sound parts written one after another, when each joins the
  next.
- `Html.Part.Clean.closed`: clean parts, which more parts may follow, are written as closed
  markup; runs of clean parts join into clean runs (`Html.Part.Clean.append`).
-/

namespace UiTags
namespace Html

/-- Captured markup that is read from the data state back to it and does not end in a carriage
return. -/
def Closed (s : String) : Prop :=
  (∃ toks, Reads s toks) ∧ s.toList.getLast? ≠ some '\r'

/-- The tokens of captured markup, as the tokenizer gives them. -/
def markupTokens (s : String) : List Token :=
  ((Mode.run .data (lineBreaks s.toList)).map Prod.snd).getD []

theorem reads_markupTokens {s : String} (h : Closed s) : Reads s (markupTokens s) := by
  obtain ⟨⟨toks, hr⟩, -⟩ := h
  unfold Reads at hr ⊢
  simp [markupTokens, hr]

/-- Names that are plain and distinct. -/
def PlainNames (ns : List String) : Prop := (∀ n ∈ ns, PlainName n) ∧ ns.Nodup

instance (ns : List String) : Decidable (PlainNames ns) :=
  inferInstanceAs (Decidable (_ ∧ _))

/-- A start tag's attribute names are plain and distinct. -/
def NamesPlain (as : List (String × Option String)) : Prop := PlainNames (as.map (·.1))

theorem NamesPlain.plain {as : List (String × Option String)} (h : NamesPlain as) :
    ∀ a ∈ as, PlainName a.1 :=
  fun a ha => h.1 a.1 (List.mem_map_of_mem ha)

/-- An element whose text is read as text: a plain tag name, no script, and none of the elements
whose text is read in a state of its own. -/
def DataElement (n : String) : Prop := TagName n ∧ n ≠ "script" ∧ n ∉ otherTextElements

instance (n : String) : Decidable (DataElement n) :=
  inferInstanceAs (Decidable (_ ∧ _))

theorem DataElement.afterStart {n : String} (h : DataElement n) (r : List (String × String)) :
    Mode.afterStart ⟨n, r, false⟩ = some .data := by
  simp [Mode.afterStart, h.2.1, h.2.2]

/-- A part of written markup. -/
inductive Part where
  /-- Fixed text of a template, written as it is. -/
  | lit (s : String)
  /-- A value placed as text, escaped. -/
  | text (s : String)
  /-- A start tag with its attributes, each with a value or none. -/
  | start (name : String) (attrs : List (String × Option String))
  /-- An end tag. -/
  | close (name : String)
  /-- A comment holding a value, escaped. -/
  | comment (s : String)
  /-- A script element with its attributes and its text. -/
  | script (attrs : List (String × Option String)) (body : String)
  /-- Captured markup, written as it is. -/
  | content (s : String)

namespace Part

/-- How a part is written. -/
def write : Part → String
  | lit s => s
  | text s => escape s
  | start n as => openTagText n as
  | close n => closeTagText n
  | comment s => "<!--" ++ escape s ++ "-->"
  | script as b => openTagText "script" as ++ b ++ "</script>"
  | content s => s

/-- Parts written one after another. -/
def writeAll (ps : List Part) : String := String.join (ps.map write)

/-- The tokens a part is meant to read as. -/
def reading : Part → List Token
  | lit s => s.toList.map .char
  | text s => (lineBreaks s.toList).map .char
  | start n as => [.start ⟨n, as.map readItem, false⟩]
  | close n => [.close n]
  | comment s => [.comment ((lineBreaks (escape s).toList).map nulFree)]
  | script as b =>
    [.start ⟨"script", as.map readItem, false⟩, .scriptText ((lineBreaks b.toList).map nulFree),
      .close "script"]
  | content s => markupTokens s

/-- When a part reads as meant. -/
def Sound : Part → Prop
  | lit s => '<' ∉ s.toList ∧ '&' ∉ s.toList ∧ '\r' ∉ s.toList
  | text _ => True
  | start n as => DataElement n ∧ NamesPlain as
  | close n => TagName n
  | comment s => s.toList.head? ≠ some '-'
  | script as b => NamesPlain as ∧ Keeps b
  | content s => Closed s

/-- Whether a part may end in a carriage return: only escaped text may. -/
def endsCR : Part → Bool
  | text _ => true
  | _ => false

/-- Whether a part may start with a line feed: text and captured markup may. -/
def startsLF : Part → Bool
  | lit _ | text _ | content _ => true
  | _ => false

/-- Whether a part may stand before another: no carriage return ending the first meets a line
feed starting the second. -/
def Joins (p q : Part) : Bool := !(p.endsCR && q.startsLF)

/-! ## Line breaks in written parts -/

/-- An attribute with its value's line breaks made. -/
def breakItem (a : String × Option String) : String × Option String :=
  (a.1, a.2.map fun v => String.ofList (lineBreaks v.toList))

theorem readItem_breakItem (a : String × Option String) : readItem (breakItem a) = readItem a := by
  obtain ⟨n, _ | v⟩ := a
  · rfl
  · simp [readItem, breakItem, streamText_lineBreaks]

theorem plainName_cr_not_mem {n : String} (h : PlainName n) : '\r' ∉ n.toList := fun hc => by
  have := plainChar_space (h.2 _ hc)
  simp [isTagSpace] at this

theorem escape_toList (s : String) : (escape s).toList = s.toList.flatMap escapeChar := by
  simp [escape]

theorem lineBreaks_escape_toList (s : String) :
    lineBreaks (escape s).toList = (escape (String.ofList (lineBreaks s.toList))).toList := by
  simp [escape_toList, lineBreaks_escape]

/-- An attribute's line breaks are made in its value. -/
theorem lineBreaks_attrItem {a : String × Option String} (ha : PlainName a.1) (rest : List Char) :
    lineBreaks ((attrItem a).toList ++ rest) = (attrItem (breakItem a)).toList ++ lineBreaks rest := by
  have hname : '\r' ∉ ' ' :: a.1.toList := by simpa using plainName_cr_not_mem ha
  obtain ⟨n, _ | v⟩ := a
  · have htext : (attrItem (n, none)).toList = ' ' :: n.toList := by
      simp [attrItem, escape_plain ha.2]
    rw [htext, show breakItem (n, none) = (n, none) from rfl, htext, List.cons_append,
      ← List.cons_append, lineBreaks_append_of_cr_not_mem hname]
  · have hopen : '\r' ∉ ' ' :: n.toList ++ ['=', '"'] := by simpa using hname
    have htext : ∀ w : String, (attrItem (n, some w)).toList =
        (' ' :: n.toList ++ ['=', '"']) ++ ((escape w).toList ++ ['"']) := fun w => by
      simp [attrItem, escape_plain ha.2]
    rw [htext, show breakItem (n, some v) = (n, some (String.ofList (lineBreaks v.toList))) from rfl,
      htext, List.append_assoc (' ' :: n.toList ++ ['=', '"']),
      lineBreaks_append_of_cr_not_mem hopen, List.append_assoc (escape v).toList, List.singleton_append,
      lineBreaks_append_cons (by decide) (by decide), lineBreaks_escape_toList]
    simp

theorem lineBreaks_attrItems {as : List (String × Option String)} (ha : ∀ a ∈ as, PlainName a.1)
    (rest : List Char) :
    lineBreaks ((attrItems as).toList ++ rest) =
      (attrItems (as.map breakItem)).toList ++ lineBreaks rest := by
  induction as with
  | nil => rfl
  | cons a as ih =>
    simp only [attrItems, List.map_cons, String.join_cons, String.toList_append,
      List.append_assoc] at ih ⊢
    rw [lineBreaks_attrItem (ha a List.mem_cons_self),
      ih fun b hb => ha b (List.mem_cons_of_mem _ hb)]

theorem lineBreaks_openTagText {n : String} (hn : PlainName n) {as : List (String × Option String)}
    (ha : ∀ a ∈ as, PlainName a.1) (rest : List Char) :
    lineBreaks ((openTagText n as).toList ++ rest) =
      (openTagText n (as.map breakItem)).toList ++ lineBreaks rest := by
  have hname : '\r' ∉ '<' :: n.toList := by simpa using plainName_cr_not_mem hn
  have htext : ∀ bs : List (String × Option String),
      (openTagText n bs).toList = ('<' :: n.toList) ++ ((attrItems bs).toList ++ ['>']) := fun bs => by
    simp [openTagText]
  rw [htext, htext, List.append_assoc, lineBreaks_append_of_cr_not_mem hname, List.append_assoc,
    lineBreaks_attrItems ha, lineBreaks_append_of_cr_not_mem (by decide)]
  simp

theorem namesPlain_breakItem {as : List (String × Option String)} (h : NamesPlain as) :
    NamesPlain (as.map breakItem) := by
  have hnames : (as.map breakItem).map (·.1) = as.map (·.1) := by
    simp [breakItem, Function.comp_def]
  unfold NamesPlain
  rwa [hnames]

theorem map_readItem_breakItem (as : List (String × Option String)) :
    (as.map breakItem).map readItem = as.map readItem := by
  simp [Function.comp_def, readItem_breakItem]

/-! ## Each part reads as meant -/

theorem reads_lit {s : String} (h : Sound (lit s)) : Reads (write (lit s)) (reading (lit s)) := by
  obtain ⟨hlt, hamp, hcr⟩ := h
  unfold Reads
  rw [write, lineBreaks_of_cr_not_mem hcr]
  exact Mode.run_plain hlt hamp

theorem reads_text (s : String) : Reads (write (text s)) (reading (text s)) := by
  unfold Reads
  rw [write, escape_toList, lineBreaks_escape]
  exact Mode.run_escaped _

theorem reads_start {n : String} {as : List (String × Option String)} (h : Sound (start n as)) :
    Reads (write (start n as)) (reading (start n as)) := by
  obtain ⟨hn, hnames⟩ := h
  have hbroken := namesPlain_breakItem hnames
  unfold Reads
  have hl := lineBreaks_openTagText hn.1.1 hnames.plain []
  simp only [List.append_nil, lineBreaks] at hl
  rw [write, hl, run_openTag hn.1 hbroken.plain hbroken.2 (hn.afterStart _),
    map_readItem_breakItem]
  rfl

theorem reads_close {n : String} (h : Sound (close n)) : Reads (write (close n)) (reading (close n)) := by
  have hcr : '\r' ∉ (closeTagText n).toList := by
    simp only [closeTagText, String.toList_append, List.mem_append, not_or]
    exact ⟨⟨by decide, plainName_cr_not_mem h.1⟩, by decide⟩
  unfold Reads
  rw [write, lineBreaks_of_cr_not_mem hcr]
  exact run_endTag h

theorem reads_comment {s : String} (h : Sound (comment s)) :
    Reads (write (comment s)) (reading (comment s)) := by
  have hgt : '>' ∉ lineBreaks (escape s).toList := by
    rw [escape_toList, lineBreaks_escape, List.mem_flatMap]
    rintro ⟨c, -, hc⟩
    unfold escapeChar at hc
    split_ifs at hc with h₁ h₂ h₃
    iterate 5 simp at hc
    rw [List.mem_singleton] at hc
    exact h₃ (by rw [← hc]; decide)
  have hdash : (lineBreaks (escape s).toList).head? ≠ some '-' := by
    rw [escape_toList, lineBreaks_escape]
    rcases hl : s.toList with _ | ⟨c, t⟩
    · simp [lineBreaks]
    · have hc : c ≠ '-' := by simpa [Sound, hl] using h
      obtain ⟨d, u, hdu, hd⟩ := lineBreaks_cons_eq c t
      have hd' : d ≠ '-' := by
        rcases hd with rfl | rfl
        · exact hc
        · decide
      rw [hdu]
      exact head_escape_ne (by decide) hd' u
  unfold Reads
  have hsplit : ("<!--" ++ escape s ++ "-->").toList =
      ['<', '!', '-', '-'] ++ ((escape s).toList ++ '-' :: ['-', '>']) := by simp
  rw [write, hsplit, lineBreaks_append_of_cr_not_mem (by decide),
    lineBreaks_append_cons (by decide) (by decide),
    lineBreaks_of_cr_not_mem (by decide : '\r' ∉ ['-', '>']), ← List.append_assoc]
  exact Mode.run_comment hgt hdash

theorem reads_script {as : List (String × Option String)} {b : String} (h : Sound (script as b)) :
    Reads (write (script as b)) (reading (script as b)) := by
  obtain ⟨hnames, hkeeps⟩ := h
  have hbroken := namesPlain_breakItem hnames
  unfold Reads
  have hsplit : (openTagText "script" as ++ b ++ "</script>").toList =
      (openTagText "script" as).toList ++
        (b.toList ++ '<' :: ['/', 's', 'c', 'r', 'i', 'p', 't', '>']) := by
    simp
  rw [write, hsplit, lineBreaks_openTagText (by decide) hnames.plain,
    lineBreaks_append_cons (by decide) (by decide),
    lineBreaks_of_cr_not_mem (by decide : '\r' ∉ ['/', 's', 'c', 'r', 'i', 'p', 't', '>']),
    ← List.append_assoc, run_scriptElement hbroken.plain hbroken.2 (keeps_lineBreaks hkeeps),
    map_readItem_breakItem]
  rfl

theorem reads_content {s : String} (h : Sound (content s)) :
    Reads (write (content s)) (reading (content s)) :=
  reads_markupTokens h

/-- **A sound part reads as meant.** -/
theorem reads_write {p : Part} (h : p.Sound) : Reads p.write p.reading := by
  cases p with
  | lit s => exact reads_lit h
  | text s => exact reads_text s
  | start n as => exact reads_start h
  | close n => exact reads_close h
  | comment s => exact reads_comment h
  | script as b => exact reads_script h
  | content s => exact reads_content h

/-! ## Parts one after another -/

/-- A part that cannot end in a carriage return does not. -/
theorem getLast_write {p : Part} (h : p.Sound) (hp : p.endsCR = false) :
    p.write.toList.getLast? ≠ some '\r' := by
  cases p with
  | lit s => exact fun hl => h.2.2 (List.mem_of_getLast? hl)
  | text s => simp [endsCR] at hp
  | start n as => rw [write, openTagText, String.toList_append, List.getLast?_append]; simp
  | close n => rw [write, closeTagText, String.toList_append, List.getLast?_append]; simp
  | comment s => rw [write, String.toList_append, List.getLast?_append]; simp
  | script as b => rw [write, String.toList_append, List.getLast?_append]; simp
  | content s => exact h.2

/-- A part that cannot start with a line feed starts with `<`. -/
theorem head_write {p : Part} (hp : p.startsLF = false) : p.write.toList.head? = some '<' := by
  cases p with
  | lit s | text s | content s => simp [startsLF] at hp
  | start n as => simp [write, openTagText]
  | close n => simp [write, closeTagText]
  | comment s => simp [write]
  | script as b => simp [write, openTagText]

/-- Whether each part may stand before the next. -/
def JoinsAll : List Part → Bool
  | p :: q :: ps => Joins p q && JoinsAll (q :: ps)
  | _ => true

/-- Parts that are each sound and each join the next. -/
def SoundAll (ps : List Part) : Prop :=
  (∀ p ∈ ps, p.Sound) ∧ JoinsAll ps = true

theorem writeAll_cons (p : Part) (ps : List Part) : writeAll (p :: ps) = p.write ++ writeAll ps := by
  simp [writeAll]

/-- **Sound parts read as meant**, one after another. -/
theorem reads_writeAll : ∀ {ps : List Part}, SoundAll ps → Reads (writeAll ps) (ps.flatMap reading)
  | [], _ => rfl
  | p :: ps, ⟨hsound, hchain⟩ => by
    have hp := reads_write (hsound p List.mem_cons_self)
    have hrest : SoundAll ps := by
      refine ⟨fun q hq => hsound q (List.mem_cons_of_mem _ hq), ?_⟩
      rcases ps with _ | ⟨q, ps⟩
      · rfl
      · simp only [JoinsAll, Bool.and_eq_true] at hchain
        exact hchain.2
    rw [writeAll_cons, List.flatMap_cons]
    refine hp.append (reads_writeAll hrest) ?_
    cases hcr : p.endsCR
    · exact Or.inl (getLast_write (hsound p List.mem_cons_self) hcr)
    · rcases ps with _ | ⟨q, ps⟩
      · right
        simp [writeAll]
      · have hq : q.startsLF = false := by
          simp only [JoinsAll, Joins, hcr, Bool.and_eq_true, Bool.true_and, Bool.not_eq_true'] at hchain
          exact hchain.1
        right
        rw [writeAll_cons, String.toList_append, List.head?_append, head_write hq]
        simp

/-! ## Runs of parts that more parts may follow -/

theorem joinsAll_append : ∀ {xs ys : List Part}, JoinsAll xs = true → JoinsAll ys = true →
    (∀ p ∈ xs.getLast?, p.endsCR = false) → JoinsAll (xs ++ ys) = true
  | [], _, _, hy, _ => hy
  | [_], [], _, _, _ => rfl
  | [p], q :: ys, _, hy, hlast => by
    have hp : p.endsCR = false := hlast p rfl
    simp only [List.singleton_append, JoinsAll, Joins, hp, Bool.false_and, Bool.not_false, hy,
      Bool.and_self]
  | p :: q :: xs, ys, hx, hy, hlast => by
    simp only [JoinsAll, Bool.and_eq_true] at hx
    have hrest := joinsAll_append hx.2 hy (by rwa [List.getLast?_cons_cons] at hlast)
    simp only [List.cons_append, JoinsAll, hx.1, Bool.true_and]
    exact hrest

/-- Parts that read one after another as meant and that more parts may follow: each is sound,
each joins the next, and the last is no escaped text. -/
structure Clean (ps : List Part) : Prop where
  sound : ∀ p ∈ ps, p.Sound
  joins : JoinsAll ps = true
  last : ∀ p ∈ ps.getLast?, p.endsCR = false

theorem Clean.nil : Clean [] := ⟨by simp, rfl, by simp⟩

theorem Clean.append {xs ys : List Part} (hx : Clean xs) (hy : Clean ys) : Clean (xs ++ ys) where
  sound p hp := (List.mem_append.1 hp).elim (hx.sound p) (hy.sound p)
  joins := joinsAll_append hx.joins hy.joins hx.last
  last p hp := by
    rw [List.getLast?_append] at hp
    cases hys : ys.getLast? with
    | none =>
      rw [hys, Option.none_or] at hp
      exact hx.last p hp
    | some q =>
      rw [hys, Option.some_or] at hp
      exact hy.last p (hys ▸ hp)

theorem Clean.flatMap {α : Type} {l : List α} {f : α → List Part} (h : ∀ a ∈ l, Clean (f a)) :
    Clean (l.flatMap f) := by
  induction l with
  | nil => exact Clean.nil
  | cons a l ih =>
    rw [List.flatMap_cons]
    exact (h a List.mem_cons_self).append (ih fun b hb => h b (List.mem_cons_of_mem _ hb))

theorem Clean.tail {p : Part} {ps : List Part} (h : Clean (p :: ps)) : Clean ps := by
  rcases ps with _ | ⟨q, ps⟩
  · exact Clean.nil
  · refine ⟨fun r hr => h.sound r (List.mem_cons_of_mem _ hr), ?_, ?_⟩
    · have hj := h.joins
      simp only [JoinsAll, Bool.and_eq_true] at hj
      exact hj.2
    · have hl := h.last
      rwa [List.getLast?_cons_cons] at hl

/-- **Clean parts read as meant.** -/
theorem Clean.reads {ps : List Part} (h : Clean ps) : Reads (writeAll ps) (ps.flatMap reading) :=
  reads_writeAll ⟨h.sound, h.joins⟩

/-- Clean parts written do not end in a carriage return: a part that may is followed by one that
starts with `<`. -/
theorem getLast_writeAll : ∀ {ps : List Part}, Clean ps → (writeAll ps).toList.getLast? ≠ some '\r'
  | [], _ => by simp [writeAll]
  | [p], h => by
    simpa [writeAll] using getLast_write (h.sound p List.mem_cons_self) (h.last p rfl)
  | p :: q :: ps, h => by
    have hrest := getLast_writeAll h.tail
    rw [writeAll_cons, String.toList_append, List.getLast?_append]
    cases hlast : (writeAll (q :: ps)).toList.getLast? with
    | some c =>
      rw [hlast] at hrest
      simpa using hrest
    | none =>
      -- the rest is written empty, so it does not start with `<`, and the part may not end in one
      have hq : q.startsLF = true := by
        cases hs : q.startsLF
        · have hhead := head_write hs
          rw [List.getLast?_eq_none_iff, writeAll_cons, String.toList_append,
            List.append_eq_nil_iff] at hlast
          rw [hlast.1] at hhead
          simp at hhead
        · rfl
      have hp : p.endsCR = false := by
        have hj := h.joins
        simp only [JoinsAll, Joins, hq, Bool.and_true, Bool.and_eq_true, Bool.not_eq_true'] at hj
        exact hj.1
      simpa using getLast_write (h.sound p List.mem_cons_self) hp

/-- Clean parts written are closed markup. -/
theorem Clean.closed {ps : List Part} (h : Clean ps) : Closed (writeAll ps) :=
  ⟨⟨_, h.reads⟩, getLast_writeAll h⟩

@[simp] theorem writeAll_nil : writeAll [] = "" := rfl

@[simp] theorem writeAll_append (xs ys : List Part) :
    writeAll (xs ++ ys) = writeAll xs ++ writeAll ys := by
  simp [writeAll]

theorem writeAll_flatMap {α : Type} (l : List α) (f : α → List Part) :
    writeAll (l.flatMap f) = String.join (l.map fun a => writeAll (f a)) := by
  induction l with
  | nil => rfl
  | cons a l ih => rw [List.flatMap_cons, writeAll_append, ih, List.map_cons, String.join_cons]

end Part

end Html
end UiTags
