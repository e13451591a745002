import UiTags.Bind
import Mathlib.Data.List.TakeWhile
import Mathlib.Data.List.Forall2

/-!
# The grammar of bind expressions

`Bind.parse` reads a component call with a scanner: it skips blanks, takes the longest run of
path characters, skips blanks, and reads the argument list up to the first closing parenthesis.
This module states which texts it reads as a call declaratively, as a grammar over the trimmed
expression, and proves the scanner reads exactly those:

* `cfc:` in any letter case, blanks, a target, blanks, `(`, an argument text, `)`, blanks, where
  the target is a nonempty path of word characters, `$` and `.`, a dot, and a nonempty method of
  word characters and `$`;
* the argument text is blank, or script names with blanks around them separated by commas.

Every other expression is generic when it starts with `cfc:`, a URL when it starts with `url:`,
holds a `/` or starts with `http` (each prefix in any letter case), and generic otherwise.

Main results:

- `Bind.params?_eq_some_iff`: the argument reader accepts exactly the argument grammar.
- `Bind.call?_eq_some_iff`: the call reader accepts exactly the call grammar.
- `Text.lowerFrom_prefix_variant`: a lowered text begins with a plain lower-case word exactly
  when the text begins with that word in some letter case.
- `Bind.parse_exact`: what every expression parses as.
-/

namespace UiTags

/-! ## Blanks, word characters and script names -/

namespace Text

/-- The blank code points are no word characters' code points. -/
theorem blankRanges_not_word :
    (blankRanges.all fun r => (List.range' r.1 (r.2 + 1 - r.1)).all fun n =>
      !wordRanges.any fun w => w.1 ≤ n && n ≤ w.2) = true := by
  decide +kernel

/-- No blank character is a word character. -/
theorem isWordChar_eq_false_of_isBlank {c : Char} (h : isBlank c = true) :
    isWordChar c = false := by
  obtain ⟨r, hr, hin⟩ := List.any_eq_true.1 h
  have hn : c.toNat ∈ List.range' r.1 (r.2 + 1 - r.1) := by
    simp only [Bool.and_eq_true, decide_eq_true_eq] at hin
    rw [List.mem_range'_1]
    omega
  have := List.all_eq_true.1 (List.all_eq_true.1 blankRanges_not_word r hr) _ hn
  simpa [isWordChar] using this

end Text

namespace Script

/-- Every character that may start a name may continue one. -/
theorem isNamePart_of_isNameStart {c : Char} (h : isNameStart c = true) :
    isNamePart c = true := by
  have hword : ∀ r ∈ [((0x41 : Nat), (0x5A : Nat)), (0x5F, 0x5F), (0x61, 0x7A)],
      r ∈ Text.wordRanges := by decide
  simp only [isNameStart, Bool.or_eq_true, Bool.and_eq_true, decide_eq_true_eq, beq_iff_eq,
    Char.le_def, UInt32.le_iff_toNat_le] at h
  simp only [isNamePart, Text.isWordChar, Bool.or_eq_true, List.any_eq_true, Bool.and_eq_true,
    decide_eq_true_eq, beq_iff_eq]
  have hc : c.val.toNat = c.toNat := rfl
  rcases h with ((⟨h₁, h₂⟩ | ⟨h₁, h₂⟩) | rfl) | rfl
  · have hA : ('A' : Char).val.toNat = 0x41 := rfl
    have hZ : ('Z' : Char).val.toNat = 0x5A := rfl
    exact .inl ⟨(0x41, 0x5A), hword _ (by simp), by omega⟩
  · have ha : ('a' : Char).val.toNat = 0x61 := rfl
    have hz : ('z' : Char).val.toNat = 0x7A := rfl
    exact .inl ⟨(0x61, 0x7A), hword _ (by simp), by omega⟩
  · exact .inl ⟨(0x5F, 0x5F), hword _ (by simp), by decide⟩
  · exact .inr rfl

/-- A character that may continue a name is no blank. -/
theorem isBlank_eq_false_of_isNamePart {c : Char} (h : isNamePart c = true) :
    Text.isBlank c = false := by
  simp only [isNamePart, Bool.or_eq_true, beq_iff_eq] at h
  rcases h with h | rfl
  · cases hb : Text.isBlank c
    · rfl
    · rw [Text.isWordChar_eq_false_of_isBlank hb] at h
      cases h
  · decide

/-- The separators of a call are no name characters. -/
theorem isNamePart_separators :
    isNamePart ',' = false ∧ isNamePart '(' = false ∧ isNamePart ')' = false ∧
      isNamePart '.' = false := by
  decide +kernel

/-- The characters of a name: it is nonempty and each may continue a name. -/
theorem isNameChars_spec {cs : List Char} (h : isNameChars cs = true) :
    cs ≠ [] ∧ ∀ c ∈ cs, isNamePart c = true := by
  cases cs with
  | nil => cases h
  | cons c rest =>
    simp only [isNameChars, Bool.and_eq_true, List.all_eq_true] at h
    refine ⟨List.cons_ne_nil _ _, fun d hd => ?_⟩
    rcases List.mem_cons.1 hd with rfl | hd
    · exact isNamePart_of_isNameStart h.1
    · exact h.2 d hd

end Script

/-! ## Trimming -/

namespace Text

variable {p : Char → Bool}

/-- Dropping from the front stops at a character it keeps. -/
theorem dropWhile_append_cons {a b : List Char} {c : Char} (hc : p c = false) :
    (a ++ c :: b).dropWhile p = a.dropWhile p ++ c :: b := by
  induction a with
  | nil => simp [hc]
  | cons x a ih =>
    by_cases hx : p x = true
    · simp [hx, ih]
    · simp [hx]

theorem trimEndBy_append_cons {a b : List Char} {c : Char} (hc : p c = false) :
    trimEndBy p (a ++ c :: b) = a ++ c :: trimEndBy p b := by
  unfold trimEndBy
  rw [List.reverse_append, List.reverse_cons, List.append_assoc, List.singleton_append,
    dropWhile_append_cons hc]
  simp

/-- Trimming both ends is trimming the end of what is left after the front. -/
theorem trimBy_eq (cs : List Char) : trimBy p cs = trimEndBy p (cs.dropWhile p) := rfl

/-- A list of kept characters is its own front and end. -/
theorem dropWhile_of_none {x : List Char} (hx : ∀ c ∈ x, p c = false) : x.dropWhile p = x := by
  cases x with
  | nil => rfl
  | cons c x => exact List.dropWhile_cons_of_neg (by simp [hx c List.mem_cons_self])

theorem trimEndBy_of_none {x : List Char} (hx : ∀ c ∈ x, p c = false) : trimEndBy p x = x := by
  unfold trimEndBy
  rw [dropWhile_of_none (by simpa using hx), List.reverse_reverse]

theorem trimEndBy_append_of_all {x r : List Char} (hr : r.all p = true) :
    trimEndBy p (x ++ r) = trimEndBy p x := by
  unfold trimEndBy
  rw [List.reverse_append, List.dropWhile_append_of_pos (by simpa using hr)]

/-- Kept characters with dropped ones around them trim to themselves. -/
theorem trimBy_of_padded {l x r : List Char} (hl : l.all p = true) (hr : r.all p = true)
    (hx : ∀ c ∈ x, p c = false) : trimBy p (l ++ x ++ r) = x := by
  rw [trimBy_eq, List.append_assoc, List.dropWhile_append_of_pos (by simpa using hl)]
  cases x with
  | nil =>
    rw [List.nil_append, List.dropWhile_eq_nil_iff.2 (by simpa using hr)]
    rfl
  | cons c x =>
    rw [List.cons_append, List.dropWhile_cons_of_neg (by simp [hx c List.mem_cons_self]),
      ← List.cons_append, trimEndBy_append_of_all hr, trimEndBy_of_none hx]

/-- A list that starts and ends with kept characters is its own trimmed form. -/
theorem trimBy_of_ends {c d : Char} {x : List Char} (hc : p c = false) (hd : p d = false) :
    trimBy p (c :: (x ++ [d])) = c :: (x ++ [d]) := by
  rw [trimBy_eq, List.dropWhile_cons_of_neg (by simp [hc]), ← List.cons_append,
    trimEndBy_append_cons hd]
  rfl

theorem trimBy_eq_nil_iff {cs : List Char} : trimBy p cs = [] ↔ cs.all p = true := by
  -- what is left after the front starts with a kept character
  have hfront : (∀ x ∈ cs.dropWhile p, p x = true) ↔ cs.dropWhile p = [] := by
    constructor
    · intro h
      cases hd : cs.dropWhile p with
      | nil => rfl
      | cons c rest =>
        have hc := List.head?_dropWhile_not p cs
        rw [hd] at hc h
        have := h c List.mem_cons_self
        simp_all
    · intro h x hx
      rw [h] at hx
      cases hx
  rw [trimBy, List.reverse_eq_nil_iff, List.dropWhile_eq_nil_iff]
  simp only [List.mem_reverse]
  rw [hfront, List.dropWhile_eq_nil_iff, List.all_eq_true]

/-- Every list is its dropped front, its trimmed middle and its dropped end. -/
theorem exists_trimBy_split (cs : List Char) :
    ∃ l r, cs = l ++ trimBy p cs ++ r ∧ l.all p = true ∧ r.all p = true := by
  have hfront := List.takeWhile_append_dropWhile (p := p) (l := cs)
  have hend := List.takeWhile_append_dropWhile (p := p) (l := (cs.dropWhile p).reverse)
  refine ⟨cs.takeWhile p, ((cs.dropWhile p).reverse.takeWhile p).reverse, ?_,
    List.all_takeWhile, by simp⟩
  have hrest : cs.dropWhile p =
      trimBy p cs ++ ((cs.dropWhile p).reverse.takeWhile p).reverse := by
    rw [trimBy, ← List.reverse_append, hend, List.reverse_reverse]
  rw [List.append_assoc, ← hrest, hfront]

/-- The last character of a trimmed list is kept. -/
theorem getLast?_trimBy {cs : List Char} {c : Char} (h : (trimBy p cs).getLast? = some c) :
    p c = false := by
  rw [trimBy, List.getLast?_reverse] at h
  have := List.head?_dropWhile_not p ((cs.dropWhile p).reverse)
  rw [h] at this
  exact this

end Text

/-! ## Letter case

The prefixes `cfc:`, `url:` and `http` are matched on the lowered text. Lowering is not
injective and may lengthen a text, but only the capitals `A` to `Z` lower into the small ASCII
letters but `i` and `k`, and nothing else lowers to a colon: so a lowered text begins with such
a word exactly when the text begins with the word in some letter case. -/

namespace Text

/-- The characters a plain lower-case word is made of: the small ASCII letters but `i` and `k`,
which other characters than their capitals lower to, and the colon. -/
def isPlain (d : Char) : Bool := (d.isLower && d != 'i' && d != 'k') || d == ':'

/-- A text is a letter-case variant of a word when each character is the word's character or its
capital. -/
def CaseVariant (cs word : List Char) : Prop :=
  List.Forall₂ (fun c d => c = d ∨ c = d.toUpper) cs word

instance (cs word : List Char) : Decidable (CaseVariant cs word) :=
  inferInstanceAs (Decidable (List.Forall₂ _ cs word))

/-- The run of the capitals `A` to `Z`, the first of the lower-case runs. -/
def capitalsRun : CaseRun := ⟨0x41, 0x5A, 1, 32⟩

theorem lowerRuns_eq : lowerRuns = capitalsRun :: lowerRuns.tail := rfl

/-- Every run after the capitals lies past ASCII, and moves its code points past ASCII but for
the Kelvin sign, which lowers to `k`. -/
theorem lowerRuns_tail_past_ascii :
    lowerRuns.tail.all (fun r => decide (128 ≤ r.lo) &&
      (decide (128 ≤ (r.lo : Int) + r.shift) || (r.lo == 0x212A && r.hi == 0x212A && r.shift == -8383))) = true := by
  decide +kernel

/-- The plain characters are ASCII and not the null character. -/
theorem isPlain_toNat {d : Char} (h : isPlain d = true) : 0 < d.toNat ∧ d.toNat < 128 := by
  simp only [isPlain, Bool.or_eq_true, Bool.and_eq_true, bne_iff_ne, ne_eq, beq_iff_eq] at h
  rcases h with ⟨⟨hlow, -⟩, -⟩ | rfl
  · -- a small letter, by the bounds `isLower` compares with
    change (d.val ≥ 'a'.val && d.val ≤ 'z'.val) = true at hlow
    simp only [Bool.and_eq_true, decide_eq_true_eq, ge_iff_le] at hlow
    obtain ⟨h₁, h₂⟩ := hlow
    rw [UInt32.le_iff_toNat_le] at h₁ h₂
    simp only [Char.toNat_val] at h₁ h₂
    have ha : ('a' : Char).toNat = 97 := rfl
    have hz : ('z' : Char).toNat = 122 := rfl
    omega
  · decide

/-- The code of a character made from a number is the number, or zero where the number is no
character's code. -/
theorem toNat_ofNat_cases (n : Nat) : (Char.ofNat n).toNat = n ∨ (Char.ofNat n).toNat = 0 := by
  by_cases h : n.isValidChar
  · left
    rw [Char.ofNat, dif_pos h]
    rfl
  · right
    rw [Char.ofNat, dif_neg h]
    rfl

/-- The small letters are the capitals moved by the capitals' run. -/
theorem toUpper_small_letters :
    (List.range' 0x41 26).all (fun n => (Char.ofNat (n + 32)).toUpper == Char.ofNat n) = true := by
  decide +kernel

/-- A character that lowers to a plain character alone is that character or its capital. -/
theorem eq_or_toUpper_of_lowerChar {c d : Char} (hd : isPlain d = true) (h : lowerChar c = [d]) :
    c = d ∨ c = d.toUpper := by
  obtain ⟨hd₀, hd₁⟩ := isPlain_toNat hd
  unfold lowerChar at h
  split at h
  · simp at h
  split at h
  · rename_i r hr
    have hm : Char.ofNat (c.toNat + r.shift).toNat = d := by simpa using h
    rw [lowerRun?, lowerRuns_eq, List.find?_cons] at hr
    split at hr
    · -- the capitals: `c` is the capital of `d`
      rename_i hcap
      cases hr
      have hn : 0x41 ≤ c.toNat ∧ c.toNat ≤ 0x5A := by
        simp only [capitalsRun, Bool.and_eq_true] at hcap
        exact ⟨of_decide_eq_true hcap.1.1, of_decide_eq_true hcap.1.2⟩
      have hshift : ((c.toNat : Int) + capitalsRun.shift).toNat = c.toNat + 32 := by
        simp only [capitalsRun]
        omega
      have hup := List.all_eq_true.1 toUpper_small_letters c.toNat
        (by rw [List.mem_range'_1]; omega)
      right
      rw [← hm, hshift, eq_of_beq hup, Char.ofNat_toNat]
    · -- any later run moves `c` past ASCII, or the Kelvin sign to `k`
      have hmem := List.mem_of_find?_eq_some hr
      have hp := List.find?_some hr
      have hrun := List.all_eq_true.1 lowerRuns_tail_past_ascii r hmem
      simp only [Bool.and_eq_true, decide_eq_true_eq, Bool.or_eq_true, beq_iff_eq] at hp hrun
      obtain ⟨⟨hlo, hhi⟩, -⟩ := hp
      exfalso
      obtain ⟨-, hpast | ⟨⟨hk₁, hk₂⟩, hk₃⟩⟩ := hrun
      · rcases toNat_ofNat_cases ((c.toNat : Int) + r.shift).toNat with h' | h' <;>
          rw [hm] at h' <;> omega
      · have hk : ((c.toNat : Int) + r.shift).toNat = 107 := by omega
        rw [hk] at hm
        subst hm
        exact absurd hd (by decide)
  · left
    simpa using h


/-- A plain character and its capital both lower to it. -/
theorem lowerChar_plain :
    (List.range 128).all (fun n => !isPlain (Char.ofNat n) ||
      (lowerChar (Char.ofNat n) == [Char.ofNat n] &&
        lowerChar (Char.ofNat n).toUpper == [Char.ofNat n] &&
        (Char.ofNat n).toUpper.toNat != 0x3A3 && (Char.ofNat n).toNat != 0x3A3)) = true := by
  decide +kernel

/-- A plain character or its capital is no capital sigma, and lowers to the character alone. -/
theorem lowerChar_of_variant {c d : Char} (hd : isPlain d = true) (hc : c = d ∨ c = d.toUpper) :
    c.toNat ≠ 0x3A3 ∧ lowerChar c = [d] := by
  have hplain := List.all_eq_true.1 lowerChar_plain d.toNat (List.mem_range.2 (isPlain_toNat hd).2)
  simp only [Char.ofNat_toNat, hd, Bool.not_true, Bool.false_or, Bool.and_eq_true, beq_iff_eq,
    bne_iff_ne, ne_eq] at hplain
  obtain ⟨⟨⟨hlow, hup⟩, hsup⟩, hs⟩ := hplain
  rcases hc with rfl | rfl
  · exact ⟨hs, hlow⟩
  · exact ⟨hsup, hup⟩

/-- Every character but the capital I with dot above lowers to one character. -/
theorem lowerChar_single {c : Char} (hc : c.toNat ≠ 0x130) : ∃ x, lowerChar c = [x] := by
  unfold lowerChar
  rw [if_neg (by simpa using hc)]
  split
  · exact ⟨_, rfl⟩
  · exact ⟨c, rfl⟩

/-- A text that begins with a letter-case variant of a plain word lowers to the word and the
lowered rest: no capital sigma stands in the variant, so the lowering of the rest is the only
one that looks at its neighbours. -/
theorem lowerFrom_variant_append {a w : List Char} (hw : w.all isPlain = true)
    (h : CaseVariant a w) (before b : List Char) :
    lowerFrom before (a ++ b) = w ++ lowerFrom (a.reverse ++ before) b := by
  induction h generalizing before with
  | nil => rfl
  | cons hcd _ ih =>
    simp only [List.all_cons, Bool.and_eq_true] at hw
    obtain ⟨hsig, hlow⟩ := lowerChar_of_variant hw.1 hcd
    simp [lowerFrom, hsig, hlow, ih hw.2]

/-- When the lower-case form of a text begins with a plain word, the text begins with the word
in some letter case. -/
theorem variant_of_prefix_lowerFrom {w : List Char} (hw : w.all isPlain = true) :
    ∀ {before cs : List Char}, w <+: lowerFrom before cs → CaseVariant (cs.take w.length) w := by
  induction w with
  | nil => exact fun _ => List.Forall₂.nil
  | cons d w ih =>
    intro before cs h
    simp only [List.all_cons, Bool.and_eq_true] at hw
    cases cs with
    | nil => simp [lowerFrom] at h
    | cons c cs =>
      rw [lowerFrom, ← List.singleton_append] at h
      split at h
      · -- a capital sigma lowers to a small Greek sigma, which is no plain character
        rw [List.singleton_append, List.singleton_append, List.cons_prefix_cons] at h
        obtain ⟨rfl, -⟩ := h
        split at hw <;> exact absurd hw.1 (by decide)
      · by_cases hi : c.toNat = 0x130
        · -- the capital I with dot above lowers to an `i` first, which is not plain
          rw [lowerChar, if_pos (by simpa using hi)] at h
          simp only [List.cons_append, List.cons_prefix_cons] at h
          obtain ⟨rfl, -⟩ := h
          exact absurd hw.1 (by decide)
        · obtain ⟨x, hx⟩ := lowerChar_single hi
          rw [hx, List.singleton_append, List.singleton_append, List.cons_prefix_cons] at h
          obtain ⟨rfl, hrest⟩ := h
          exact List.Forall₂.cons (eq_or_toUpper_of_lowerChar hw.1 hx) (ih hw.2 hrest)

/-- A text starts with a word in some letter case. -/
def StartsWithAnyCase (cs : List Char) (word : String) : Prop :=
  CaseVariant (cs.take word.length) word.toList

instance (cs : List Char) (word : String) : Decidable (StartsWithAnyCase cs word) :=
  inferInstanceAs (Decidable (CaseVariant _ _))

/-- A lowered text begins with a plain word exactly when the text begins with the word in some
letter case. -/
theorem lowerFrom_prefix_variant {cs : List Char} {word : String}
    (hw : word.toList.all isPlain = true) :
    word.toList <+: lowerFrom [] cs ↔ StartsWithAnyCase cs word := by
  unfold StartsWithAnyCase
  rw [← String.length_toList]
  constructor
  · exact variant_of_prefix_lowerFrom hw
  · intro h
    rw [← List.take_append_drop word.toList.length cs, lowerFrom_variant_append hw h]
    exact List.prefix_append _ _

/-- The lowered text starts with a plain word exactly when the text starts with it in some
letter case. -/
theorem lower_startsWith_iff {cs : List Char} {word : String}
    (hw : word.toList.all isPlain = true) :
    (lower (String.ofList cs)).startsWith word = true ↔ StartsWithAnyCase cs word := by
  rw [String.startsWith_string_iff, lower, String.toList_ofList, String.toList_ofList]
  exact lowerFrom_prefix_variant hw

/-- The first four characters of a text lower to a plain word of four characters exactly when
the text starts with the word in some letter case. -/
theorem lower_take_four_iff {cs : List Char} {word : String}
    (hw : word.toList.all isPlain = true) (hlen : word.length = 4) :
    lower (String.ofList (cs.take 4)) = word ↔ StartsWithAnyCase cs word := by
  unfold lower StartsWithAnyCase
  rw [String.toList_ofList, hlen]
  constructor
  · intro h
    have heq : lowerFrom [] (cs.take 4) = word.toList := by
      rw [← h, String.toList_ofList]
    have hpre : word.toList <+: lowerFrom [] (cs.take 4) := ⟨[], by rw [List.append_nil, heq]⟩
    have hvar := variant_of_prefix_lowerFrom hw hpre
    rwa [String.length_toList, hlen, List.take_take, Nat.min_self] at hvar
  · intro h
    have hlow := lowerFrom_variant_append hw h [] []
    simp only [List.append_nil, lowerFrom] at hlow
    rw [hlow, String.ofList_toList]

end Text

/-! ## Argument lists -/

namespace Bind

/-- One argument as written: a script name with blanks around it. -/
def PaddedName (piece : List Char) (name : String) : Prop :=
  ∃ l r, piece = l ++ name.toList ++ r ∧ l.all Text.isBlank = true ∧
    r.all Text.isBlank = true ∧ Script.isNameChars name.toList = true

/-- Argument names as written: one name with blanks around it, or such a name, a comma and
more names. -/
inductive NamesText : List Char → List String → Prop
  | one {piece : List Char} {name : String} : PaddedName piece name → NamesText piece [name]
  | cons {piece rest : List Char} {name : String} {names : List String} :
      PaddedName piece name → NamesText rest names →
      NamesText (piece ++ ',' :: rest) (name :: names)

/-- An argument text and the names it gives: a blank text and none, or names separated by
commas. -/
def ArgsText (args : List Char) (params : List String) : Prop :=
  (args.all Text.isBlank = true ∧ params = []) ∨ NamesText args params

/-- The name one argument stands for, when its trimmed text is a script name. -/
def argName? (piece : List Char) : Option String :=
  let name := String.ofList (Text.trimBy Text.isBlank piece)
  if Script.isIdentifier name then some name else none

/-- The argument reader trims the list and reads each comma-separated piece. -/
theorem params?_eq (args : List Char) :
    params? args =
      if (Text.trimBy Text.isBlank args).isEmpty then some []
      else ((Text.trimBy Text.isBlank args).splitOn ',').mapM argName? := rfl

namespace PaddedName

variable {piece : List Char} {name : String}

/-- Each character of an argument is a blank or a name character. -/
theorem chars (h : PaddedName piece name) :
    ∀ c ∈ piece, Text.isBlank c = true ∨ Script.isNamePart c = true := by
  obtain ⟨l, r, rfl, hl, hr, hn⟩ := h
  intro c hc
  simp only [List.mem_append] at hc
  rcases hc with (hc | hc) | hc
  · exact .inl (List.all_eq_true.1 hl c hc)
  · exact .inr ((Script.isNameChars_spec hn).2 c hc)
  · exact .inl (List.all_eq_true.1 hr c hc)

/-- An argument holds no comma and no parenthesis. -/
theorem not_special (h : PaddedName piece name) :
    ∀ c ∈ piece, c ≠ ',' ∧ c ≠ '(' ∧ c ≠ ')' := by
  intro c hc
  rcases h.chars c hc with hb | hn
  · refine ⟨?_, ?_, ?_⟩ <;> rintro rfl <;> cases hb
  · obtain ⟨hcomma, hopen, hclose, -⟩ := Script.isNamePart_separators
    refine ⟨?_, ?_, ?_⟩ <;> rintro rfl <;> simp_all

theorem trim (h : PaddedName piece name) : Text.trimBy Text.isBlank piece = name.toList := by
  obtain ⟨l, r, rfl, hl, hr, hn⟩ := h
  exact Text.trimBy_of_padded hl hr fun c hc =>
    Script.isBlank_eq_false_of_isNamePart ((Script.isNameChars_spec hn).2 c hc)

theorem pad (h : PaddedName piece name) {l r : List Char} (hl : l.all Text.isBlank = true)
    (hr : r.all Text.isBlank = true) : PaddedName (l ++ piece ++ r) name := by
  obtain ⟨l', r', rfl, hl', hr', hn⟩ := h
  refine ⟨l ++ l', r' ++ r, by simp, by simp_all, by simp_all, hn⟩

theorem dropWhile (h : PaddedName piece name) :
    PaddedName (piece.dropWhile Text.isBlank) name := by
  obtain ⟨l, r, rfl, hl, hr, hn⟩ := h
  obtain ⟨c, cs, hcs⟩ := List.exists_cons_of_ne_nil (Script.isNameChars_spec hn).1
  have hc : Text.isBlank c = false :=
    Script.isBlank_eq_false_of_isNamePart ((Script.isNameChars_spec hn).2 c (by simp [hcs]))
  refine ⟨[], r, ?_, rfl, hr, hn⟩
  rw [List.append_assoc, List.dropWhile_append_of_pos (by simpa using hl), hcs,
    List.cons_append, List.dropWhile_cons_of_neg (by simp [hc])]
  rfl

theorem trimEnd (h : PaddedName piece name) :
    PaddedName (Text.trimEndBy Text.isBlank piece) name := by
  obtain ⟨l, r, rfl, hl, hr, hn⟩ := h
  have hnone : ∀ c ∈ name.toList, Text.isBlank c = false := fun c hc =>
    Script.isBlank_eq_false_of_isNamePart ((Script.isNameChars_spec hn).2 c hc)
  obtain ⟨c, cs, hcs⟩ := List.exists_cons_of_ne_nil (Script.isNameChars_spec hn).1
  refine ⟨l, [], ?_, hl, rfl, hn⟩
  rw [Text.trimEndBy_append_of_all hr, hcs, Text.trimEndBy_append_cons (hnone c (by simp [hcs])),
    Text.trimEndBy_of_none fun d hd => hnone d (by simp [hcs, hd])]
  simp

end PaddedName

/-- The name an argument stands for is the script name it holds. -/
theorem argName?_eq_some_iff {piece : List Char} {name : String} :
    argName? piece = some name ↔ PaddedName piece name := by
  constructor
  · intro h
    unfold argName? at h
    dsimp only at h
    split at h
    · rename_i hid
      cases h
      -- the trimmed text ends in no blank, so no line feed follows the name
      have hchars : Script.isNameChars (Text.trimBy Text.isBlank piece) = true := by
        unfold Script.isIdentifier at hid
        simp only [String.toList_ofList, Bool.or_eq_true, Bool.and_eq_true, beq_iff_eq] at hid
        rcases hid with hid | ⟨hl, -⟩
        · exact hid
        · exact absurd (Text.getLast?_trimBy hl) (by decide)
      obtain ⟨l, r, hsplit, hl, hr⟩ := Text.exists_trimBy_split (p := Text.isBlank) piece
      exact ⟨l, r, by simpa using hsplit, hl, hr, by simpa using hchars⟩
    · cases h
  · intro h
    have htrim := h.trim
    obtain ⟨-, -, -, -, -, hn⟩ := h
    unfold argName?
    simp only [htrim, String.ofList_toList]
    rw [if_pos]
    simp [Script.isIdentifier, hn]

/-- The first occurrence of a character splits a list around it. -/
theorem exists_first_split {c : Char} :
    ∀ {cs : List Char}, c ∈ cs → ∃ a b, cs = a ++ c :: b ∧ c ∉ a
  | d :: cs, h => by
    by_cases hd : d = c
    · exact ⟨[], cs, by rw [hd]; rfl, by simp⟩
    · have hmem : c ∈ cs := by
        rcases List.mem_cons.1 h with h | h
        · exact absurd h.symm hd
        · exact h
      obtain ⟨a, b, rfl, ha⟩ := exists_first_split hmem
      exact ⟨d :: a, b, rfl, by simp [Ne.symm hd, ha]⟩

namespace NamesText

variable {cs : List Char} {names : List String}

theorem pad_left (h : NamesText cs names) {l : List Char} (hl : l.all Text.isBlank = true) :
    NamesText (l ++ cs) names := by
  cases h with
  | one hp => exact .one (by simpa using hp.pad hl (r := []) rfl)
  | cons hp hrest =>
    rw [← List.append_assoc]
    exact .cons (by simpa using hp.pad hl (r := []) rfl) hrest

theorem pad_right (h : NamesText cs names) {r : List Char} (hr : r.all Text.isBlank = true) :
    NamesText (cs ++ r) names := by
  induction h with
  | one hp => exact .one (by simpa using hp.pad (l := []) rfl hr)
  | cons hp _ ih =>
    rw [List.append_assoc, List.cons_append]
    exact .cons hp ih

theorem dropWhile (h : NamesText cs names) : NamesText (cs.dropWhile Text.isBlank) names := by
  cases h with
  | one hp => exact .one hp.dropWhile
  | cons hp hrest =>
    rw [Text.dropWhile_append_cons (by decide)]
    exact .cons hp.dropWhile hrest

theorem trimEnd (h : NamesText cs names) :
    NamesText (Text.trimEndBy Text.isBlank cs) names := by
  induction h with
  | one hp => exact .one hp.trimEnd
  | cons hp _ ih =>
    rw [Text.trimEndBy_append_cons (by decide)]
    exact .cons hp ih

/-- Trimming the blanks around names leaves names. -/
theorem trim (h : NamesText cs names) : NamesText (Text.trimBy Text.isBlank cs) names :=
  h.dropWhile.trimEnd

theorem ne_nil (h : NamesText cs names) : cs ≠ [] := by
  cases h with
  | one hp =>
    obtain ⟨l, r, rfl, -, -, hn⟩ := hp
    simp [(Script.isNameChars_spec hn).1]
  | cons => simp

/-- Names hold no parenthesis. -/
theorem not_paren (h : NamesText cs names) : ∀ c ∈ cs, c ≠ '(' ∧ c ≠ ')' := by
  induction h with
  | one hp => exact fun c hc => (hp.not_special c hc).2
  | cons hp _ ih =>
    intro c hc
    simp only [List.mem_append, List.mem_cons] at hc
    rcases hc with hc | rfl | hc
    · exact (hp.not_special c hc).2
    · decide
    · exact ih c hc

/-- The pieces between the commas of names read as those names. -/
theorem mapM_argName (h : NamesText cs names) :
    (cs.splitOn ',').mapM argName? = some names := by
  induction h with
  | one hp =>
    rw [List.splitOn_eq_singleton fun hc => (hp.not_special _ hc).1 rfl]
    simp [argName?_eq_some_iff.2 hp]
  | cons hp _ ih =>
    rw [List.splitOn_append_cons_self_of_not_mem fun hc => (hp.not_special _ hc).1 rfl]
    simp [argName?_eq_some_iff.2 hp, ih]

end NamesText

/-- Pieces between commas that each read as a name are names separated by commas. -/
theorem namesText_of_mapM :
    ∀ {names : List String} {cs : List Char},
      (cs.splitOn ',').mapM argName? = some names → NamesText cs names
  | [], cs, h => by
    -- a split has a first piece, so what it reads is not empty
    obtain ⟨piece, pieces, hs⟩ := List.exists_cons_of_ne_nil (List.splitOn_ne_nil ',' cs)
    rw [hs] at h
    simp only [List.mapM_cons] at h
    obtain ⟨_, -, h⟩ := Option.bind_eq_some_iff.1 h
    obtain ⟨_, -, h⟩ := Option.bind_eq_some_iff.1 h
    cases h
  | name :: names, cs, h => by
    by_cases hc : ',' ∈ cs
    · -- the first piece is the first name, and the rest after its comma are the others
      obtain ⟨a, b, rfl, ha⟩ := exists_first_split hc
      rw [List.splitOn_append_cons_self_of_not_mem ha] at h
      simp only [List.mapM_cons] at h
      obtain ⟨x, hx, h⟩ := Option.bind_eq_some_iff.1 h
      obtain ⟨xs, hxs, h⟩ := Option.bind_eq_some_iff.1 h
      simp only [pure] at h
      obtain ⟨rfl, rfl⟩ := h
      exact .cons (argName?_eq_some_iff.1 hx) (namesText_of_mapM hxs)
    · rw [List.splitOn_eq_singleton hc] at h
      simp only [List.mapM_cons, List.mapM_nil] at h
      obtain ⟨x, hx, h⟩ := Option.bind_eq_some_iff.1 h
      simp only [pure] at h
      obtain ⟨rfl, rfl⟩ := h
      exact .one (argName?_eq_some_iff.1 hx)

/-- The argument reader accepts exactly a blank text, giving no names, and names with blanks
around them separated by commas, giving those names. -/
theorem params?_eq_some_iff {args : List Char} {params : List String} :
    params? args = some params ↔ ArgsText args params := by
  rw [params?_eq]
  by_cases hb : (Text.trimBy Text.isBlank args).isEmpty = true
  · have hblank : args.all Text.isBlank = true :=
      Text.trimBy_eq_nil_iff.1 (List.isEmpty_iff.1 hb)
    rw [if_pos hb]
    constructor
    · rintro ⟨⟩
      exact .inl ⟨hblank, rfl⟩
    · rintro (⟨-, rfl⟩ | hn)
      · rfl
      · exact absurd (List.isEmpty_iff.1 hb) hn.trim.ne_nil
  · rw [if_neg hb]
    constructor
    · -- the names of the trimmed text, with the trimmed blanks put back around them
      intro h
      obtain ⟨l, r, hsplit, hl, hr⟩ := Text.exists_trimBy_split (p := Text.isBlank) args
      right
      rw [hsplit]
      exact ((namesText_of_mapM h).pad_left hl).pad_right hr
    · rintro (⟨hblank, -⟩ | hn)
      · exact absurd (List.isEmpty_iff.2 (Text.trimBy_eq_nil_iff.2 hblank)) hb
      · exact hn.trim.mapM_argName

/-! ## Targets -/

theorem splitFirst_eq_some_iff {sep : Char} :
    ∀ {cs a b : List Char}, Text.splitFirst sep cs = some (a, b) ↔ cs = a ++ sep :: b ∧ sep ∉ a
  | [], a, b => by simp [Text.splitFirst]
  | c :: rest, a, b => by
    by_cases hc : c = sep
    · subst hc
      cases a with
      | nil => simp [Text.splitFirst]
      | cons d a =>
        simp only [Text.splitFirst, beq_self_eq_true, if_true, Option.some.injEq, Prod.mk.injEq,
          List.cons_append, List.cons.injEq, List.mem_cons, not_or]
        constructor
        · rintro ⟨⟨⟩, -⟩
        · rintro ⟨⟨hd, -⟩, hne, -⟩
          exact absurd hd hne
    · cases a with
      | nil => simp [Text.splitFirst, hc]
      | cons d a =>
        have ih := @splitFirst_eq_some_iff sep rest a b
        simp [Text.splitFirst, hc, ih]
        constructor
        · rintro ⟨⟨hr, hs⟩, rfl⟩
          exact ⟨⟨rfl, hr⟩, fun h => hc h.symm, hs⟩
        · rintro ⟨⟨rfl, hr⟩, -, hs⟩
          exact ⟨⟨hr, hs⟩, rfl⟩

/-- The last occurrence of a character splits a list around it. -/
theorem splitLast_eq_some_iff {sep : Char} {cs a b : List Char} :
    Text.splitLast sep cs = some (a, b) ↔ cs = a ++ sep :: b ∧ sep ∉ b := by
  unfold Text.splitLast
  rw [Option.map_eq_some_iff]
  constructor
  · rintro ⟨⟨b', a'⟩, h, hab⟩
    simp only [Prod.mk.injEq] at hab
    obtain ⟨rfl, rfl⟩ := hab
    obtain ⟨hcs, hsep⟩ := splitFirst_eq_some_iff.1 h
    refine ⟨?_, by simpa using hsep⟩
    rw [← List.reverse_reverse cs, hcs]
    simp
  · rintro ⟨rfl, hsep⟩
    refine ⟨(b.reverse, a.reverse), splitFirst_eq_some_iff.2 ⟨by simp, by simpa using hsep⟩, ?_⟩
    simp

/-- A target split at its last dot: a nonempty path of path characters before it and a nonempty
method of word characters and `$` after it. -/
def Target (target : List Char) (path method : String) : Prop :=
  target = path.toList ++ '.' :: method.toList ∧ path.toList ≠ [] ∧ method.toList ≠ [] ∧
    path.toList.all isPathChar = true ∧ method.toList.all Script.isNamePart = true


/-- The opening parenthesis is no path character. -/
theorem isPathChar_paren : isPathChar '(' = false := by
  decide +kernel

/-- A blank is no path character. -/
theorem isPathChar_eq_false_of_isBlank {c : Char} (h : Text.isBlank c = true) :
    isPathChar c = false := by
  have hw := Text.isWordChar_eq_false_of_isBlank h
  have hd : c ≠ '$' := by
    rintro rfl
    cases h
  have hdot : c ≠ '.' := by
    rintro rfl
    cases h
  simp [isPathChar, hw, hd, hdot]

/-- A path character other than the dot may continue a name. -/
theorem isNamePart_of_isPathChar {c : Char} (h : isPathChar c = true) (hc : c ≠ '.') :
    Script.isNamePart c = true := by
  simp only [isPathChar, Bool.or_eq_true, beq_iff_eq] at h
  simp only [Script.isNamePart, Bool.or_eq_true, beq_iff_eq]
  rcases h with (h | h) | h
  · exact .inl h
  · exact .inr h
  · exact absurd h hc

theorem isPathChar_of_isNamePart {c : Char} (h : Script.isNamePart c = true) :
    isPathChar c = true := by
  simp only [Script.isNamePart, Bool.or_eq_true, beq_iff_eq] at h
  simp only [isPathChar, Bool.or_eq_true, beq_iff_eq]
  rcases h with h | h
  · exact .inl (.inl h)
  · exact .inl (.inr h)

namespace Target

variable {target : List Char} {path method : String}

theorem ne_nil (h : Target target path method) : target ≠ [] := by
  rw [h.1]
  simp

theorem all_isPathChar (h : Target target path method) : target.all isPathChar = true := by
  obtain ⟨heq, -, -, hp, hm⟩ := h
  have hdot : isPathChar '.' = true := by simp [isPathChar]
  rw [heq]
  simp only [List.all_append, List.all_cons, hp, hdot, Bool.true_and, List.all_eq_true]
  intro c hc
  exact isPathChar_of_isNamePart (List.all_eq_true.1 hm c hc)

/-- A target is read back at its last dot, which is the dot before the method. -/
theorem splitLast (h : Target target path method) :
    Text.splitLast '.' target = some (path.toList, method.toList) := by
  refine splitLast_eq_some_iff.2 ⟨h.1, fun hd => ?_⟩
  have := List.all_eq_true.1 h.2.2.2.2 '.' hd
  rw [Script.isNamePart_separators.2.2.2] at this
  cases this

end Target

/-- A run of path characters with a last dot that has characters on both sides is a target. -/
theorem target_of_splitLast {target path method : List Char}
    (hall : target.all isPathChar = true)
    (hs : Text.splitLast '.' target = some (path, method)) (hp : path ≠ []) (hm : method ≠ []) :
    Target target (String.ofList path) (String.ofList method) := by
  obtain ⟨rfl, hdot⟩ := splitLast_eq_some_iff.1 hs
  simp only [List.all_append, List.all_cons, Bool.and_eq_true] at hall
  refine ⟨by simp, by simpa using hp, by simpa using hm, by simpa using hall.1, ?_⟩
  rw [String.toList_ofList, List.all_eq_true]
  intro c hc
  exact isNamePart_of_isPathChar (List.all_eq_true.1 hall.2.2 c hc) fun h => hdot (h ▸ hc)

/-! ## Calls -/

/-- What the longest run leaves is what dropping its length leaves. -/
theorem drop_length_takeWhile (p : Char → Bool) (l : List Char) :
    l.drop (l.takeWhile p).length = l.dropWhile p := by
  rw [List.takeWhile_eq_take_findIdx_not, List.dropWhile_eq_drop_findIdx_not, List.length_take,
    Nat.min_eq_left (List.findIdx_le_length)]

/-- What follows `cfc:` in a call: blanks, the target, blanks, the argument text in parentheses,
blanks. -/
def CallRest (cs : List Char) (path method : String) (params : List String) : Prop :=
  ∃ ws₁ target ws₂ args ws₃, cs = ws₁ ++ target ++ ws₂ ++ '(' :: args ++ ')' :: ws₃ ∧
    ws₁.all Text.isBlank = true ∧ Target target path method ∧ ws₂.all Text.isBlank = true ∧
    ArgsText args params ∧ ws₃.all Text.isBlank = true

/-- The call reader gives only calls, and only of texts of the call grammar. -/
theorem call?_cases {cs : List Char} {b : Bind} (h : call? cs = some b) :
    ∃ path method params, b = .call path method params ∧ CallRest cs path method params := by
  unfold call? at h
  simp only [drop_length_takeWhile] at h
  split at h
  · rename_i inner hr
    split at h
    · rename_i tail hi
      split at h
      · rename_i hcond
        split at h
        · rename_i path method hsl
          split at h
          · cases h
          · rename_i hne
            obtain ⟨params, hps, rfl⟩ := Option.map_eq_some_iff.1 h
            simp only [Bool.or_eq_true, List.isEmpty_iff, not_or] at hne
            simp only [Bool.and_eq_true] at hcond
            -- the scanner's runs, put back together, are the text
            have h1 := List.takeWhile_append_dropWhile (p := Text.isBlank) (l := cs)
            have h2 := List.takeWhile_append_dropWhile (p := isPathChar)
              (l := cs.dropWhile Text.isBlank)
            have h3 := List.takeWhile_append_dropWhile (p := Text.isBlank)
              (l := (cs.dropWhile Text.isBlank).dropWhile isPathChar)
            have h4 := List.takeWhile_append_dropWhile (p := fun c => c != '(' && c != ')')
              (l := inner)
            rw [hr] at h3
            rw [hi] at h4
            refine ⟨_, _, params, rfl, cs.takeWhile Text.isBlank,
              (cs.dropWhile Text.isBlank).takeWhile isPathChar,
              ((cs.dropWhile Text.isBlank).dropWhile isPathChar).takeWhile Text.isBlank,
              inner.takeWhile fun c => c != '(' && c != ')', tail, ?_, List.all_takeWhile,
              target_of_splitLast List.all_takeWhile hsl hne.1 hne.2, List.all_takeWhile,
              params?_eq_some_iff.1 hps, hcond.2⟩
            simp only [List.append_assoc, List.cons_append]
            rw [h4, h3, h2, h1]
        · cases h
      · cases h
    · cases h
  · cases h

/-- An argument text holds no parenthesis. -/
theorem ArgsText.not_paren {args : List Char} {params : List String} (h : ArgsText args params) :
    ∀ c ∈ args, (c != '(' && c != ')') = true := by
  intro c hc
  have hne : c ≠ '(' ∧ c ≠ ')' := by
    rcases h with ⟨hblank, -⟩ | hn
    · have hb := List.all_eq_true.1 hblank c hc
      constructor <;> rintro rfl <;> cases hb
    · exact hn.not_paren c hc
  simpa using hne

/-- The call reader reads every text of the call grammar as its call. -/
theorem call?_of_rest {cs : List Char} {path method : String} {params : List String}
    (h : CallRest cs path method params) : call? cs = some (.call path method params) := by
  obtain ⟨ws₁, target, ws₂, args, ws₃, rfl, h₁, ht, h₂, hargs, h₃⟩ := h
  obtain ⟨t, rest, htr⟩ := List.exists_cons_of_ne_nil ht.ne_nil
  have htb : Text.isBlank t = false := by
    have htp : isPathChar t = true := List.all_eq_true.1 ht.all_isPathChar t (by simp [htr])
    cases hb : Text.isBlank t
    · rfl
    · rw [isPathChar_eq_false_of_isBlank hb] at htp
      cases htp
  -- the blanks after the target, then the opening parenthesis, start no path
  have hgap : ∀ c ∈ (ws₂ ++ '(' :: (args ++ ')' :: ws₃)).head?, isPathChar c = false := by
    intro c hc
    cases ws₂ with
    | nil =>
      cases hc
      exact isPathChar_paren
    | cons w ws =>
      cases hc
      exact isPathChar_eq_false_of_isBlank (List.all_eq_true.1 h₂ _ List.mem_cons_self)
  have hfront : (ws₁ ++ target ++ ws₂ ++ '(' :: args ++ ')' :: ws₃).dropWhile Text.isBlank =
      target ++ (ws₂ ++ '(' :: (args ++ ')' :: ws₃)) := by
    simp only [List.append_assoc, List.cons_append]
    rw [List.dropWhile_append_of_pos (by simpa using h₁), htr, List.cons_append,
      List.dropWhile_cons_of_neg (by simp [htb])]
  have htarget : (target ++ (ws₂ ++ '(' :: (args ++ ')' :: ws₃))).takeWhile isPathChar =
      target := by
    rw [List.takeWhile_append_of_pos (by simpa using ht.all_isPathChar)]
    cases ws₂ with
    | nil => simp [isPathChar_paren]
    | cons w ws =>
      rw [List.cons_append, List.takeWhile_cons_of_neg (by simp [hgap w rfl]), List.append_nil]
  have hafter : (ws₂ ++ '(' :: (args ++ ')' :: ws₃)).dropWhile Text.isBlank =
      '(' :: (args ++ ')' :: ws₃) := by
    rw [List.dropWhile_append_of_pos (by simpa using h₂)]
    exact List.dropWhile_cons_of_neg (by decide)
  have hargs' : (args ++ ')' :: ws₃).takeWhile (fun c => c != '(' && c != ')') = args := by
    rw [List.takeWhile_append_of_pos hargs.not_paren, List.takeWhile_cons_of_neg (by decide),
      List.append_nil]
  unfold call?
  simp only [hfront, htarget, List.drop_left, hafter, hargs', ht.splitLast]
  -- the target is nonempty, split at its last dot, and the arguments read as the names
  obtain ⟨-, hp, hm, -, -⟩ := ht
  simp [htr, h₃, hp, hm, params?_eq_some_iff.2 hargs]

/-- The call reader accepts exactly the call grammar. -/
theorem call?_eq_some_iff {cs : List Char} {path method : String} {params : List String} :
    call? cs = some (.call path method params) ↔ CallRest cs path method params := by
  constructor
  · intro h
    obtain ⟨p, m, ps, hb, hrest⟩ := call?_cases h
    simp only [call.injEq] at hb
    obtain ⟨rfl, rfl, rfl⟩ := hb
    exact hrest
  · exact call?_of_rest

/-! ## What an expression parses as -/

/-- The trimmed text of an expression, which `parse` reads. -/
def trimmed (e : String) : List Char := Text.trimBy Text.isBlank e.toList

/-- A call as written: `cfc:` in any letter case, then the call grammar. -/
def CallText (t : List Char) (path method : String) (params : List String) : Prop :=
  Text.StartsWithAnyCase t "cfc:" ∧ CallRest (t.drop 4) path method params

theorem hasPrefix_iff {cs : List Char} {pre : String} (hw : pre.toList.all Text.isPlain = true)
    (hlen : pre.length = 4) : hasPrefix cs pre = true ↔ Text.StartsWithAnyCase cs pre := by
  rw [hasPrefix, beq_iff_eq, Text.lower_take_four_iff hw hlen]

theorem cfc_plain : "cfc:".toList.all Text.isPlain = true := by decide
theorem url_plain : "url:".toList.all Text.isPlain = true := by decide
theorem http_plain : "http".toList.all Text.isPlain = true := by decide


section Parse

variable {e : String}

/-- A `cfc:` text is read for a call, and is kept as given where the call reader refuses it. -/
theorem parse_of_cfc (h : Text.StartsWithAnyCase (trimmed e) "cfc:") :
    parse e = (call? ((trimmed e).drop 4)).getD (generic e) := by
  rw [trimmed, ← hasPrefix_iff cfc_plain rfl] at h
  simp only [parse, h, if_true]
  rfl

/-- No text starts with both `url:` and `cfc:`. -/
theorem not_cfc_of_url {t : List Char} (h : Text.StartsWithAnyCase t "url:") :
    ¬ Text.StartsWithAnyCase t "cfc:" := by
  rw [← hasPrefix_iff url_plain rfl, hasPrefix, beq_iff_eq] at h
  rw [← hasPrefix_iff cfc_plain rfl, hasPrefix, beq_iff_eq, h]
  decide

theorem parse_of_url (h : Text.StartsWithAnyCase (trimmed e) "url:") :
    parse e = .url (String.ofList (Text.trimBy Text.isBlank ((trimmed e).drop 4))) := by
  have hc := not_cfc_of_url h
  rw [trimmed, ← hasPrefix_iff url_plain rfl] at h
  rw [trimmed, ← hasPrefix_iff cfc_plain rfl, Bool.not_eq_true] at hc
  simp only [parse, h, hc]
  rfl

/-- A text of neither prefix is a URL when it holds a slash or starts with `http`, and generic
otherwise. -/
theorem parse_of_plain (hc : ¬ Text.StartsWithAnyCase (trimmed e) "cfc:")
    (hu : ¬ Text.StartsWithAnyCase (trimmed e) "url:") :
    parse e = if '/' ∈ trimmed e ∨ Text.StartsWithAnyCase (trimmed e) "http" then
      .url (String.ofList (trimmed e)) else .generic e := by
  rw [trimmed, ← hasPrefix_iff cfc_plain rfl, Bool.not_eq_true] at hc
  rw [trimmed, ← hasPrefix_iff url_plain rfl, Bool.not_eq_true] at hu
  simp only [← Text.lower_startsWith_iff http_plain, trimmed]
  simp [parse, hc, hu]

/-- An expression is read as a call exactly when its trimmed text is of the call grammar. -/
theorem parse_eq_call_iff {path method : String} {params : List String} :
    parse e = .call path method params ↔ CallText (trimmed e) path method params := by
  by_cases hc : Text.StartsWithAnyCase (trimmed e) "cfc:"
  · rw [parse_of_cfc hc, CallText, ← call?_eq_some_iff]
    constructor
    · intro h
      refine ⟨hc, ?_⟩
      cases hcall : call? ((trimmed e).drop 4) with
      | none => simp [hcall] at h
      | some b => simpa [hcall] using h
    · rintro ⟨-, h⟩
      simp [h]
  · -- a text without the `cfc:` prefix is a URL or generic
    have hno : ¬ CallText (trimmed e) path method params := fun h => hc h.1
    by_cases hu : Text.StartsWithAnyCase (trimmed e) "url:"
    · simp [parse_of_url hu, hno]
    · rw [parse_of_plain hc hu]
      split <;> simp [hno]

/-- A `cfc:` text of no call is generic, kept as given. -/
theorem parse_of_cfc_not_call (hno : ∀ path method params, ¬ CallText (trimmed e) path method params)
    (hc : Text.StartsWithAnyCase (trimmed e) "cfc:") : parse e = .generic e := by
  rw [parse_of_cfc hc]
  cases hcall : call? ((trimmed e).drop 4) with
  | none => rfl
  | some b =>
    obtain ⟨path, method, params, rfl, hrest⟩ := call?_cases hcall
    exact absurd ⟨hc, hrest⟩ (hno path method params)

/-- Script names joined by a comma and a space are an argument text of those names. -/
theorem namesText_intercalate :
    ∀ {x : String} {xs : List String}, (∀ y ∈ x :: xs, Script.isNameChars y.toList = true) →
      NamesText (", ".intercalate (x :: xs)).toList (x :: xs)
  | x, [], h => by
    simpa using NamesText.one ⟨[], [], by simp, rfl, rfl, h x List.mem_cons_self⟩
  | x, y :: ys, h => by
    have hrest : NamesText (", ".intercalate (y :: ys)).toList (y :: ys) :=
      namesText_intercalate fun z hz => h z (List.mem_cons_of_mem x hz)
    have hx : PaddedName x.toList x := ⟨[], [], by simp, rfl, rfl, h x List.mem_cons_self⟩
    have hjoin : (", ".intercalate (x :: y :: ys)).toList =
        x.toList ++ ',' :: ([' '] ++ (", ".intercalate (y :: ys)).toList) := by
      simp [String.intercalate_cons_cons]
    rw [hjoin]
    exact .cons hx (hrest.pad_left (by decide))

/-- A path, a dot, a method and script names joined by commas and spaces in parentheses, after
`cfc:`, are read as that call. -/
theorem parse_written_call {P M : List Char} {X : List String} (hP : P ≠ [])
    (hPc : P.all isPathChar = true) (hM : M ≠ []) (hMc : M.all Script.isNamePart = true)
    (hX : ∀ x ∈ X, Script.isNameChars x.toList = true) :
    parse ("cfc:" ++ String.ofList P ++ "." ++ String.ofList M ++ "(" ++ ", ".intercalate X ++ ")") =
      .call (String.ofList P) (String.ofList M) X := by
  let args := (", ".intercalate X).toList
  have hchars : ("cfc:" ++ String.ofList P ++ "." ++ String.ofList M ++ "(" ++
      ", ".intercalate X ++ ")").toList =
      'c' :: (('f' :: 'c' :: ':' :: (P ++ '.' :: (M ++ '(' :: args))) ++ [')']) := by
    simp [args, String.toList_append]
  -- the text starts with `c` and ends with `)`, so trimming keeps all of it
  have htrim : trimmed ("cfc:" ++ String.ofList P ++ "." ++ String.ofList M ++ "(" ++
      ", ".intercalate X ++ ")") = 'c' :: (('f' :: 'c' :: ':' :: (P ++ '.' :: (M ++ '(' :: args))) ++ [')']) := by
    rw [trimmed, hchars, Text.trimBy_of_ends (by decide) (by decide)]
  have htarget : Target (P ++ '.' :: M) (String.ofList P) (String.ofList M) := by
    unfold Target
    rw [String.toList_ofList, String.toList_ofList]
    exact ⟨rfl, hP, hM, hPc, hMc⟩
  have hargs : ArgsText args X := by
    cases X with
    | nil => exact Or.inl ⟨by simp [args], rfl⟩
    | cons x xs => exact Or.inr (namesText_intercalate hX)
  rw [parse_eq_call_iff, htrim]
  refine ⟨List.forall₂_same.2 fun _ _ => Or.inl rfl, [], P ++ '.' :: M, [], args, [], ?_, rfl,
    htarget, rfl, hargs, rfl⟩
  simp

end Parse

/-! ## The grammar of bind expressions -/

/-- What every expression parses as, by its trimmed text `t`. It is a call exactly when `t` is
of the call grammar, with the path, method and names the grammar gives. Otherwise it is generic,
kept as given, when `t` starts with `cfc:`; a URL of the trimmed rest when `t` starts with
`url:`; a URL of `t` when `t` holds a slash or starts with `http`; and generic otherwise, each
prefix in any letter case. In particular a nonempty path, a dot, a nonempty method and script
names joined by commas and spaces in parentheses, after `cfc:`, are read as that call. -/
theorem parse_exact :
    (∀ e : String,
      (∀ path method params,
        parse e = .call path method params ↔ CallText (trimmed e) path method params) ∧
      ((∀ path method params, ¬ CallText (trimmed e) path method params) →
        Text.StartsWithAnyCase (trimmed e) "cfc:" → parse e = .generic e) ∧
      (Text.StartsWithAnyCase (trimmed e) "url:" →
        parse e = .url (String.ofList (Text.trimBy Text.isBlank ((trimmed e).drop 4)))) ∧
      (¬ Text.StartsWithAnyCase (trimmed e) "cfc:" → ¬ Text.StartsWithAnyCase (trimmed e) "url:" →
        ('/' ∈ trimmed e ∨ Text.StartsWithAnyCase (trimmed e) "http") →
        parse e = .url (String.ofList (trimmed e))) ∧
      (¬ Text.StartsWithAnyCase (trimmed e) "cfc:" → ¬ Text.StartsWithAnyCase (trimmed e) "url:" →
        '/' ∉ trimmed e → ¬ Text.StartsWithAnyCase (trimmed e) "http" → parse e = .generic e)) ∧
    ∀ (P M : List Char) (X : List String), P ≠ [] → P.all isPathChar = true → M ≠ [] →
      M.all Script.isNamePart = true → (∀ x ∈ X, Script.isNameChars x.toList = true) →
      parse ("cfc:" ++ String.ofList P ++ "." ++ String.ofList M ++ "(" ++ ", ".intercalate X ++
        ")") = .call (String.ofList P) (String.ofList M) X := by
  refine ⟨fun e => ⟨fun _ _ _ => parse_eq_call_iff, parse_of_cfc_not_call, parse_of_url, ?_, ?_⟩,
    fun _ _ _ => parse_written_call⟩
  · intro hc hu h
    rw [parse_of_plain hc hu, if_pos h]
  · intro hc hu hs hh
    rw [parse_of_plain hc hu, if_neg (not_or.2 ⟨hs, hh⟩)]

/-- A dotted component path is split at its last dot. -/
theorem dotted_service_call :
    parse ("cfc:" ++ "app.svc" ++ "." ++ "get" ++ "(" ++ ", ".intercalate ["a", "b"] ++ ")") =
      .call "app.svc" "get" ["a", "b"] := by
  have h := parse_exact.2 "app.svc".toList "get".toList ["a", "b"] (by simp) (by decide +kernel)
    (by simp) (by decide +kernel) (by decide)
  simpa only [String.ofList_toList] using h

/-- An empty method is no call: the written form with a path and no method is generic. -/
theorem empty_method_generic :
    parse ("cfc:" ++ "p" ++ "." ++ "" ++ "(" ++ ", ".intercalate ["a"] ++ ")") =
      .generic "cfc:p.(a)" ∧
    parse ("cfc:" ++ "p" ++ "." ++ "" ++ "(" ++ ", ".intercalate ["a"] ++ ")") ≠
      .call "p" "" ["a"] := by
  decide +kernel

end Bind
end UiTags
