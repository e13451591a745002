import UiTags.Script.Literal
import UiTags.Script.StringValue

/-!
# Script string literals read back

The escaper of script strings writes each character of a text as itself or as one of eleven
escape sequences, each starting with a backslash. What it writes:

* holds no double quote, `<`, `>`, `&`, line feed, carriage return, line or paragraph separator,
  and holds a single quote only as the second character of the escape `\'`;
* splits in exactly one way into characters other than the backslash and the eleven escape
  sequences, and that split is the escapes of the text's characters, in order;
* between single quotes, is one string literal, which a script reads up to its closing quote
  as the code units of the text;
* determines the text, and escapes a concatenation piece by piece.

Main results:

- `Script.advance_escapeChar`: the escape of a character reads as the character's code units.
- `Script.escapeChar_injective`: distinct characters have distinct escapes.
- `Script.pieces_unique`: a text splits into pieces in at most one way.
- `Script.escape_literal_exact`: the properties above, for every text.
- `Script.escape_keeps_quote`: the escape of a single quote holds a single quote.
-/

namespace UiTags
namespace Script

/-! ## Code units -/

/-- Distinct code points have distinct UTF-16 code units. -/
theorem utf16_injective : Function.Injective utf16 := by
  intro m n h
  unfold utf16 at h
  split at h <;> split at h <;> simp at h <;> omega

/-- Distinct characters stand for distinct code points: a character kept for a lone surrogate
stands for a surrogate, which no other character is. -/
theorem codePoint_injective : Function.Injective Text.codePoint := by
  intro c d h
  have hc : c.toNat < 0xD800 ∨ (0xDFFF < c.toNat ∧ c.toNat < 0x110000) := c.valid
  have hd : d.toNat < 0xD800 ∨ (0xDFFF < d.toNat ∧ d.toNat < 0x110000) := d.valid
  apply Char.toNat_inj.1
  unfold Text.codePoint Text.isLone Text.loneBase at h
  split at h <;> split at h <;> simp at * <;> omega

/-! ## The characters the escaper replaces -/

/-- The characters the escaper writes as escape sequences. -/
def escapedChars : List Char :=
  ['\\', '\'', '"', '\n', '\r', '\t', '<', '>', '&', '\u2028', '\u2029']

/-- The escape sequences the escaper writes. -/
def escapeSequences : List (List Char) :=
  ["\\\\", "\\'", "\\x22", "\\n", "\\r", "\\t", "\\x3C", "\\x3E", "\\x26", "\\u2028",
    "\\u2029"].map String.toList

/-- Characters an escaped text never holds: the double quote, `<`, `>`, `&` and the line
terminators of scripts. -/
def literalBreakers : List Char := ['"', '<', '>', '&', '\n', '\r', '\u2028', '\u2029']

/-- Every breaker is a replaced character. -/
theorem breaker_escaped {d : Char} (hd : d ∈ literalBreakers) : d ∈ escapedChars :=
  List.contains_iff_mem.1 (List.all_eq_true.1
    (by decide : literalBreakers.all escapedChars.contains = true) d hd)

/-- A character outside `escapedChars` is written as itself. -/
theorem escapeChar_of_not_mem {c : Char} (hc : c ∉ escapedChars) : escapeChar c = [c] := by
  simp only [escapedChars, List.mem_cons, List.not_mem_nil, or_false, not_or] at hc
  obtain ⟨h₁, h₂, h₃, h₄, h₅, h₆, h₇, h₈, h₉, h₁₀, h₁₁⟩ := hc
  -- the separators are compared by code point
  have h₁₀' : c.toNat ≠ 0x2028 := fun h => h₁₀ (Char.toNat_inj.1 h)
  have h₁₁' : c.toNat ≠ 0x2029 := fun h => h₁₁ (Char.toNat_inj.1 h)
  simp [escapeChar, h₁, h₂, h₃, h₄, h₅, h₆, h₇, h₈, h₉, h₁₀', h₁₁']

/-- Each replaced character is written as an escape sequence that a literal reads as the
character's code units, holds no breaker, and holds a single quote only as `\'`. -/
theorem escapedChars_table :
    escapedChars.all (fun c =>
      advance .chars (escapeChar c) == some (.chars, utf16 (Text.codePoint c)) &&
      escapeSequences.contains (escapeChar c) &&
      (escapeChar c).all (fun d => !literalBreakers.contains d) &&
      (!(escapeChar c).contains '\'' || escapeChar c == ['\\', '\''])) = true := by
  decide

theorem escapedChars_table_mem {c : Char} (hc : c ∈ escapedChars) :
    advance .chars (escapeChar c) = some (.chars, utf16 (Text.codePoint c)) ∧
      escapeChar c ∈ escapeSequences ∧ (∀ d ∈ escapeChar c, d ∉ literalBreakers) ∧
      ('\'' ∈ escapeChar c → escapeChar c = ['\\', '\'']) := by
  have h := List.all_eq_true.1 escapedChars_table c hc
  simp only [Bool.and_eq_true, beq_iff_eq, List.contains_iff_mem, List.all_eq_true,
    Bool.not_eq_true', Bool.or_eq_true] at h
  obtain ⟨⟨⟨hread, hseq⟩, hsafe⟩, hquote⟩ := h
  refine ⟨hread, hseq, fun d hd hb => ?_, fun hq => ?_⟩
  · have hd' := hsafe d hd
    rw [List.contains_iff_mem.2 hb] at hd'
    cases hd'
  · rcases hquote with hno | hyes
    · rw [List.contains_iff_mem.2 hq] at hno
      cases hno
    · exact hyes

/-- No escape holds a breaker: a kept character is none, and a replaced one is written without
one. -/
theorem escapeChar_no_breaker (c : Char) : ∀ d ∈ escapeChar c, d ∉ literalBreakers := by
  by_cases hc : c ∈ escapedChars
  · exact (escapedChars_table_mem hc).2.2.1
  · rw [escapeChar_of_not_mem hc]
    intro d hd hb
    rw [List.mem_singleton] at hd
    subst hd
    exact hc (breaker_escaped hb)

/-! ## Reading escaped characters -/

/-- The escape of a character reads, between characters of a literal, as the character's code
units, and leaves the reader between characters again. -/
theorem advance_escapeChar (c : Char) :
    advance .chars (escapeChar c) = some (.chars, utf16 (Text.codePoint c)) := by
  by_cases hc : c ∈ escapedChars
  · exact (escapedChars_table_mem hc).1
  · -- a kept character is no quote, backslash or line break, so it stands for itself
    have hne : c ≠ '\'' ∧ c ≠ '\\' ∧ c ≠ '\n' ∧ c ≠ '\r' := by
      refine ⟨?_, ?_, ?_, ?_⟩ <;> rintro rfl <;> exact hc (by decide)
    rw [escapeChar_of_not_mem hc]
    simp [advance, literalStep, charStep, hne]

/-- Escaped characters followed by a single quote read, between characters of a literal, as the
characters' code units, and the literal ends at that quote. -/
theorem readFrom_escaped (rest : List Char) : ∀ cs : List Char,
    readFrom .chars (cs.flatMap escapeChar ++ '\'' :: rest) = some (codeUnits cs, rest)
  | [] => rfl
  | c :: cs => by
    rw [List.flatMap_cons, List.append_assoc, readFrom_append (advance_escapeChar c),
      readFrom_escaped rest cs]
    rfl

/-- Distinct characters have distinct escapes, since an escape reads back as the character's
code units. -/
theorem escapeChar_injective : Function.Injective escapeChar := by
  intro c d h
  have hread := advance_escapeChar c
  rw [h, advance_escapeChar d, Option.some.injEq, Prod.mk.injEq] at hread
  exact codePoint_injective (utf16_injective hread.2.symm)

/-! ## The pieces of an escaped text -/

/-- A piece of an escaped text: a character other than the backslash, or an escape sequence. -/
def EscapePiece (p : List Char) : Prop :=
  (∃ c, c ≠ '\\' ∧ p = [c]) ∨ p ∈ escapeSequences

/-- Every escape sequence starts with a backslash, and none is the start of another. -/
theorem escapeSequences_prefix_free :
    escapeSequences.all (fun p => p.head? == some '\\' &&
      escapeSequences.all fun q => !p.isPrefixOf q || p == q) = true := by
  decide

theorem escapeSequence_cons {p : List Char} (hp : p ∈ escapeSequences) :
    ∃ t, p = '\\' :: t := by
  have h := (List.all_eq_true.1 escapeSequences_prefix_free p hp)
  simp only [Bool.and_eq_true, beq_iff_eq, List.head?_eq_some_iff] at h
  exact h.1

theorem escapeSequence_prefix_eq {p q : List Char} (hp : p ∈ escapeSequences)
    (hq : q ∈ escapeSequences) (h : p <+: q) : p = q := by
  have h' := List.all_eq_true.1
    (Bool.and_eq_true _ _ ▸ List.all_eq_true.1 escapeSequences_prefix_free p hp).2 q hq
  rw [List.isPrefixOf_iff_prefix.2 h] at h'
  simpa using h'

theorem EscapePiece.ne_nil {p : List Char} (hp : EscapePiece p) : p ≠ [] := by
  rcases hp with ⟨c, -, rfl⟩ | hp
  · exact List.cons_ne_nil c []
  · obtain ⟨t, rfl⟩ := escapeSequence_cons hp
    exact List.cons_ne_nil _ _

/-- The escape of a character is a piece. -/
theorem escapeChar_piece (c : Char) : EscapePiece (escapeChar c) := by
  by_cases hc : c ∈ escapedChars
  · exact .inr (escapedChars_table_mem hc).2.1
  · refine .inl ⟨c, ?_, escapeChar_of_not_mem hc⟩
    rintro rfl
    exact hc (by decide)

/-- Two pieces that start a text alike are the same piece: a character other than the backslash
is no escape sequence, and no escape sequence starts another. -/
theorem piece_eq_of_append_eq {p q x y : List Char} (hp : EscapePiece p) (hq : EscapePiece q)
    (h : p ++ x = q ++ y) : p = q := by
  rcases hp with ⟨c, hc, rfl⟩ | hp <;> rcases hq with ⟨d, hd, rfl⟩ | hq
  · simp only [List.singleton_append, List.cons.injEq] at h
    rw [h.1]
  · obtain ⟨t, rfl⟩ := escapeSequence_cons hq
    simp only [List.cons_append, List.cons.injEq] at h
    exact absurd h.1 hc
  · obtain ⟨t, rfl⟩ := escapeSequence_cons hp
    simp only [List.cons_append, List.cons.injEq] at h
    exact absurd h.1.symm hd
  · rcases List.append_eq_append_iff.1 h with ⟨a, rfl, -⟩ | ⟨b, rfl, -⟩
    · exact escapeSequence_prefix_eq hp hq (List.prefix_append p a)
    · exact (escapeSequence_prefix_eq hq hp (List.prefix_append q b)).symm

/-- A text splits into pieces in at most one way. -/
theorem pieces_unique : ∀ {ps qs : List (List Char)}, (∀ p ∈ ps, EscapePiece p) →
    (∀ q ∈ qs, EscapePiece q) → ps.flatten = qs.flatten → ps = qs
  | [], [], _, _, _ => rfl
  | [], q :: _, _, hq, h => by
    have hne := (hq q List.mem_cons_self).ne_nil
    simp only [List.flatten_nil, List.flatten_cons] at h
    exact absurd (List.append_eq_nil_iff.1 h.symm).1 hne
  | p :: _, [], hp, _, h => by
    have hne := (hp p List.mem_cons_self).ne_nil
    simp only [List.flatten_nil, List.flatten_cons] at h
    exact absurd (List.append_eq_nil_iff.1 h).1 hne
  | p :: ps, q :: qs, hp, hq, h => by
    rw [List.flatten_cons, List.flatten_cons] at h
    obtain rfl := piece_eq_of_append_eq (hp p List.mem_cons_self) (hq q List.mem_cons_self) h
    rw [pieces_unique (fun r hr => hp r (List.mem_cons_of_mem _ hr))
      (fun r hr => hq r (List.mem_cons_of_mem _ hr)) (List.append_cancel_left h)]

/-- The one split of an escaped text: the escapes of its characters. -/
theorem split_escape_iff (s : String) (ps : List (List Char)) :
    ((∀ p ∈ ps, EscapePiece p) ∧ ps.flatten = (escape s).toList) ↔
      ps = s.toList.map escapeChar := by
  have hpieces : ∀ p ∈ s.toList.map escapeChar, EscapePiece p := by
    intro p hp
    obtain ⟨c, -, rfl⟩ := List.mem_map.1 hp
    exact escapeChar_piece c
  have hflat : (s.toList.map escapeChar).flatten = (escape s).toList := by
    rw [escape, String.toList_ofList, List.flatMap_def]
  constructor
  · rintro ⟨hps, h⟩
    exact pieces_unique hps hpieces (h.trans hflat.symm)
  · rintro rfl
    exact ⟨hpieces, hflat⟩

/-- Escaping is injective: the one split of an escaped text gives back the escapes of the
characters, and distinct characters have distinct escapes. -/
theorem escape_injective : Function.Injective escape := by
  intro a b h
  have hsplit : a.toList.map escapeChar = b.toList.map escapeChar :=
    (split_escape_iff b _).1 (h ▸ (split_escape_iff a _).2 rfl)
  exact String.toList_inj.1 ((List.map_inj_right fun _ _ => (escapeChar_injective ·)).1 hsplit)

/-! ## Escaped texts as literals -/

/-- A text escaped between single quotes reads back, whatever follows it, as the text's code
units, up to its closing quote. -/
theorem readLiteral_quotedText (s : String) (rest : List Char) :
    readLiteral ((quotedText s).toList ++ rest) = some (codeUnits s.toList, rest) := by
  simp only [quotedText, escape, String.toList_append, String.toList_ofList, List.append_assoc]
  exact readFrom_escaped rest s.toList

/-- **Escaped texts are exact literals.** For every text, its escape holds no double quote,
`<`, `>`, `&` or line terminator, and a single quote only as the escape `\'`; it splits in
exactly one way into characters other than the backslash and escape sequences, the escapes of
the text's characters; between single quotes it is one string literal, which a script reads up
to its closing quote as the text's code units; and escaping is injective and escapes a
concatenation piece by piece. -/
theorem escape_literal_exact :
    (∀ s : String, ∀ c ∈ (escape s).toList, c ∉ literalBreakers) ∧
    (∀ s : String, ∀ p ∈ s.toList.map escapeChar, '\'' ∈ p → p = ['\\', '\'']) ∧
    (∀ (s : String) (ps : List (List Char)),
      ((∀ p ∈ ps, EscapePiece p) ∧ ps.flatten = (escape s).toList) ↔
        ps = s.toList.map escapeChar) ∧
    (∀ (s : String) (rest : List Char),
      readLiteral ((quotedText s).toList ++ rest) = some (codeUnits s.toList, rest)) ∧
    Function.Injective escape ∧
    ∀ a b : String, escape (a ++ b) = escape a ++ escape b := by
  refine ⟨?_, ?_, split_escape_iff, ?_, escape_injective, escape_append⟩
  · intro s d hd
    rw [escape, String.toList_ofList, List.mem_flatMap] at hd
    obtain ⟨c, -, hdc⟩ := hd
    exact escapeChar_no_breaker c d hdc
  · intro s p hp hq
    obtain ⟨c, -, rfl⟩ := List.mem_map.1 hp
    by_cases hc : c ∈ escapedChars
    · exact (escapedChars_table_mem hc).2.2.2 hq
    · rw [escapeChar_of_not_mem hc, List.mem_singleton] at hq
      subst hq
      exact absurd (by decide) hc
  · exact readLiteral_quotedText

/-- The escape of a single quote holds a single quote, written after a backslash. -/
theorem escape_keeps_quote : escape "'" = "\\'" ∧ '\'' ∈ (escape "'").toList := by
  decide

end Script
end UiTags
