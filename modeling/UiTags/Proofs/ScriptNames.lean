import UiTags.Script.Link

/-!
# Script names

The names written unquoted into scripts (callbacks, the function called on load, the class of a
proxy) are checked by their shape: an ASCII letter, `_` or `$`, then word characters or `$`, one
line feed let through at the very end. A trimmed text passes the check exactly when it has that
shape, since no character a name may hold is blank; a name of ASCII characters is then an
identifier name of scripts. The check looks at the characters only: a keyword such as `if` has
the shape and is accepted, though a script reads it as the keyword, not as a name.

Main results:

- `Script.not_isBlank_of_isNamePart`: no character of a name is blank.
- `Script.stripped_identifier_iff`: a trimmed text passes the check exactly when it is a name.
- `Script.stripped_names_shaped`: that, and an ASCII name is an identifier name of scripts.
- `Script.keyword_accepted`: `if` passes, and the script called on load writes it unquoted.
-/

namespace UiTags
namespace Script

/-- A text of name shape: a character that may start a name, then characters that may continue
one. -/
def NameShape (s : String) : Prop :=
  ∃ c cs, s.toList = c :: cs ∧ isNameStart c = true ∧ ∀ d ∈ cs, isNamePart d = true

/-- Among ASCII characters, those an identifier name of scripts may start with: the letters
(`ID_Start`), `$` and `_`. -/
def asciiIdStart (c : Char) : Bool := c.isAlpha || c == '$' || c == '_'

/-- Among ASCII characters, those an identifier name of scripts may continue with: letters and
digits (`ID_Continue`), `$` and `_`. -/
def asciiIdPart (c : Char) : Bool := c.isAlphanum || c == '$' || c == '_'

/-- An identifier name of scripts written in ASCII characters. -/
def AsciiIdentifierName (s : String) : Prop :=
  ∃ c cs, s.toList = c :: cs ∧ asciiIdStart c = true ∧ ∀ d ∈ cs, asciiIdPart d = true

/-- The reserved words of scripts, which no identifier may be. -/
def reservedWords : List String :=
  ["await", "break", "case", "catch", "class", "const", "continue", "debugger", "default",
   "delete", "do", "else", "enum", "export", "extends", "false", "finally", "for", "function",
   "if", "import", "in", "instanceof", "new", "null", "return", "super", "switch", "this",
   "throw", "true", "try", "typeof", "var", "void", "while", "with", "yield"]

/-! ## Characters of names -/

/-- The word ranges and the blank ranges share no code point. -/
theorem wordRanges_apart_blankRanges :
    (Text.wordRanges.all fun w => Text.blankRanges.all fun b => w.2 < b.1 || b.2 < w.1) = true := by
  decide +kernel

/-- No character of a name is blank. -/
theorem not_isBlank_of_isNamePart {c : Char} (h : isNamePart c = true) :
    Text.isBlank c = false := by
  rcases Bool.or_eq_true_iff.1 h with hw | hd
  · rw [Bool.eq_false_iff]
    intro hb
    obtain ⟨w, hw, hin⟩ := List.any_eq_true.1 hw
    obtain ⟨b, hb, hinb⟩ := List.any_eq_true.1 hb
    have hapart := List.all_eq_true.1 (List.all_eq_true.1 wordRanges_apart_blankRanges w hw) b hb
    simp only [Bool.and_eq_true, decide_eq_true_eq, Bool.or_eq_true] at hin hinb hapart
    omega
  · rw [beq_iff_eq] at hd
    subst hd
    decide

/-- A character that may start a name is ASCII. -/
theorem toNat_lt_of_isNameStart {c : Char} (h : isNameStart c = true) : c.toNat < 128 := by
  simp only [isNameStart, Bool.or_eq_true, Bool.and_eq_true, decide_eq_true_eq, beq_iff_eq,
    Char.le_def, UInt32.le_iff_toNat_le] at h
  rcases h with ((⟨-, h⟩ | ⟨-, h⟩) | rfl) | rfl
  · exact Nat.lt_of_le_of_lt h (by decide)
  · exact Nat.lt_of_le_of_lt h (by decide)
  · decide
  · decide

/-- A fact checked on every ASCII character holds of each one. -/
theorem ascii_forall {P : Char → Prop} (hall : ∀ n < 128, P (Char.ofNat n)) {c : Char}
    (hc : c.toNat < 128) : P c := by
  rw [← Char.ofNat_toNat c]
  exact hall _ hc

/-- A character that may start a name may continue one, and may start an identifier name. -/
theorem isNameStart_ascii {c : Char} (h : isNameStart c = true) :
    isNamePart c = true ∧ asciiIdStart c = true := by
  have hall : ∀ n < 128, isNameStart (Char.ofNat n) = true →
      isNamePart (Char.ofNat n) = true ∧ asciiIdStart (Char.ofNat n) = true := by
    decide +kernel
  exact ascii_forall (P := fun d => isNameStart d = true →
    isNamePart d = true ∧ asciiIdStart d = true) hall (toNat_lt_of_isNameStart h) h

/-- An ASCII character that may continue a name may continue an identifier name. -/
theorem isNamePart_ascii {c : Char} (h : isNamePart c = true) (hc : c.toNat < 128) :
    asciiIdPart c = true := by
  have hall : ∀ n < 128, isNamePart (Char.ofNat n) = true → asciiIdPart (Char.ofNat n) = true := by
    decide +kernel
  exact ascii_forall (P := fun d => isNamePart d = true → asciiIdPart d = true) hall hc h

/-! ## Trimmed names -/

/-- Dropping blanks leaves a list whose first character is not blank alone. -/
theorem dropWhile_blank_self {cs : List Char} (h : ∀ c ∈ cs.head?, Text.isBlank c = false) :
    cs.dropWhile Text.isBlank = cs := by
  cases cs with
  | nil => rfl
  | cons c cs => simp [h c rfl]

/-- A text whose characters are none of them blank is its own trimmed form. -/
theorem strip_of_not_blank {s : String} (h : ∀ c ∈ s.toList, Text.isBlank c = false) :
    Text.strip s = s := by
  have hhead : ∀ c ∈ s.toList.head?, Text.isBlank c = false := fun c hc =>
    h c (List.mem_of_mem_head? hc)
  have hlast : ∀ c ∈ s.toList.reverse.head?, Text.isBlank c = false := fun c hc =>
    h c (List.mem_reverse.1 (List.mem_of_mem_head? hc))
  simp only [Text.strip, Text.trimBy, dropWhile_blank_self hhead, dropWhile_blank_self hlast,
    List.reverse_reverse, String.ofList_toList]

/-- A trimmed text does not end in a blank. -/
theorem strip_last_not_blank {s : String} {c : Char} (h : (Text.strip s).toList.getLast? = some c) :
    Text.isBlank c = false := by
  have hnot := List.head?_dropWhile_not Text.isBlank (s.toList.dropWhile Text.isBlank).reverse
  simp only [Text.strip, Text.trimBy, String.toList_ofList, List.getLast?_reverse] at h
  rw [h] at hnot
  exact hnot

theorem isNameChars_iff {cs : List Char} :
    isNameChars cs = true ↔
      ∃ c rest, cs = c :: rest ∧ isNameStart c = true ∧ ∀ d ∈ rest, isNamePart d = true := by
  cases cs with
  | nil => simp [isNameChars]
  | cons c rest =>
    simp only [isNameChars, Bool.and_eq_true, List.all_eq_true, List.cons.injEq]
    constructor
    · rintro ⟨hc, hrest⟩
      exact ⟨c, rest, ⟨rfl, rfl⟩, hc, hrest⟩
    · rintro ⟨c, rest, ⟨rfl, rfl⟩, hc, hrest⟩
      exact ⟨hc, hrest⟩

/-- A trimmed text passes the name check exactly when it has the shape of a name: the line feed
the check lets through at the end is trimmed away, and a name has no blank to trim. -/
theorem stripped_identifier_iff (s : String) :
    Text.strip s = s ∧ isIdentifier s = true ↔ NameShape s := by
  constructor
  · rintro ⟨hstrip, hid⟩
    rcases Bool.or_eq_true_iff.1 hid with hchars | hfeed
    · obtain ⟨c, cs, hs, hc, hcs⟩ := isNameChars_iff.1 hchars
      exact ⟨c, cs, hs, hc, hcs⟩
    · -- a text ending in a line feed is not trimmed
      have hlast : s.toList.getLast? = some '\n' := by
        simpa using (Bool.and_eq_true_iff.1 hfeed).1
      rw [← hstrip] at hlast
      exact absurd (strip_last_not_blank hlast) (by decide)
  · rintro ⟨c, cs, hs, hc, hcs⟩
    have hpart : ∀ d ∈ s.toList, isNamePart d = true := by
      rw [hs]
      intro d hd
      rcases List.mem_cons.1 hd with rfl | hd
      · exact (isNameStart_ascii hc).1
      · exact hcs d hd
    refine ⟨strip_of_not_blank fun d hd => not_isBlank_of_isNamePart (hpart d hd), ?_⟩
    simp only [isIdentifier, Bool.or_eq_true]
    exact .inl (isNameChars_iff.2 ⟨c, cs, hs, hc, hcs⟩)

/-- **Names written unquoted into scripts.** A trimmed text passes the name check exactly when it
is an ASCII letter, `_` or `$` followed by word characters or `$`; such a name written in ASCII
characters is an identifier name of scripts. -/
theorem stripped_names_shaped (s : String) :
    (Text.strip s = s ∧ isIdentifier s = true ↔ NameShape s) ∧
    (NameShape s → (∀ c ∈ s.toList, c.toNat < 128) → AsciiIdentifierName s) := by
  refine ⟨stripped_identifier_iff s, ?_⟩
  rintro ⟨c, cs, hs, hc, hcs⟩ hascii
  refine ⟨c, cs, hs, (isNameStart_ascii hc).2, fun d hd => isNamePart_ascii (hcs d hd) ?_⟩
  exact hascii d (hs ▸ List.mem_cons_of_mem c hd)

/-- A grid callback written `$_gridLoaded2` passes trimmed and is an identifier name. -/
theorem callback_name_shaped :
    Text.strip "$_gridLoaded2" = "$_gridLoaded2" ∧ isIdentifier "$_gridLoaded2" = true ∧
      AsciiIdentifierName "$_gridLoaded2" := by
  have hshape : NameShape "$_gridLoaded2" :=
    (stripped_names_shaped "$_gridLoaded2").1.1 ⟨by decide, by decide⟩
  -- checked as a Boolean, so that no decision procedure ranges over all characters
  have hascii : ("$_gridLoaded2".toList.all fun c => decide (c.toNat < 128)) = true := by decide
  exact ⟨by decide, by decide, (stripped_names_shaped "$_gridLoaded2").2 hshape
    fun c hc => of_decide_eq_true (List.all_eq_true.1 hascii c hc)⟩

/-- The keyword `if` passes the name check, and the script called on load writes it unquoted
where a function name is read. -/
theorem keyword_accepted :
    Text.strip "if" = "if" ∧ isIdentifier "if" = true ∧ "if" ∈ reservedWords ∧
      onLoad (.str "if") = .ok (onLoadScript "if") :=
  ⟨by decide, by decide, by decide, rfl⟩

end Script
end UiTags
