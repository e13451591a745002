import UiTags.Proofs.Validation

/-!
# Integer attributes

An integer declaration takes an integer that is not a truth value, or a text. The text is first
trimmed and tested as a text of digits: any leading minus signs, then at least one character
that is a digit in the wide sense (numeric type Decimal or Digit, so superscripts and circled
numbers count). A text that fails the test is refused as no integer; one that passes is converted
to an integer, and the conversion takes only an optional single minus followed by decimal digits,
at most `Text.digitLimit` of them. A text that passes the test but not the conversion is
*unreadable*: the check stops with the conversion's failure rather than a refusal.

Main results:

- `Numeral.ofChars_value_iff`: a trimmed text is read as the number `n` exactly when it is an
  optional minus and decimal digits within the limit, spelling `n`.
- `Numeral.ofChars_notNumeral_iff`: it is refused as no integer exactly when it fails the test.
- `AttrSpec.integer_check_iff`: the verdicts of an integer declaration on a supplied value.
-/

namespace UiTags

/-! ## Digits and decimal digits -/

namespace Text

/-- Every run of ten decimal digits lies inside one range of digits. -/
theorem decimalRuns_in_digitRanges :
    decimalZeros.all (fun z => digitRanges.any fun r => r.1 ≤ z && z + 9 ≤ r.2) = true := by
  decide

/-- A decimal digit is a digit. -/
theorem isDigitChar_of_decimal {c : Char} (h : (decimalValue? c).isSome) : isDigitChar c = true := by
  obtain ⟨z, hz⟩ : ∃ z, decimalZeros.find? (fun z => z ≤ c.toNat && c.toNat < z + 10) = some z := by
    unfold decimalValue? at h
    cases hf : decimalZeros.find? (fun z => z ≤ c.toNat && c.toNat < z + 10) with
    | none => simp [hf] at h
    | some z => exact ⟨z, rfl⟩
  have hrun := List.find?_some hz
  have hmem := List.mem_of_find?_eq_some hz
  obtain ⟨r, hr, hin⟩ := List.any_eq_true.1 (List.all_eq_true.1 decimalRuns_in_digitRanges z hmem)
  simp only [Bool.and_eq_true, decide_eq_true_eq] at hrun hin
  exact List.any_eq_true.2 ⟨r, hr, by simp only [Bool.and_eq_true, decide_eq_true_eq]; omega⟩

theorem decimalValue_minus : decimalValue? '-' = none := by decide

end Text

/-! ## Reading digits -/

/-- Digits read to a value only when every one of them is a decimal digit. -/
theorem decimal_of_decimalDigits {cs : List Char} {acc m : Nat}
    (h : cs.foldlM (fun n c => (Text.decimalValue? c).map fun d => n * 10 + d) acc = some m) :
    ∀ c ∈ cs, (Text.decimalValue? c).isSome := by
  induction cs generalizing acc with
  | nil => simp
  | cons c cs ih =>
    rw [List.foldlM_cons] at h
    cases hc : Text.decimalValue? c with
    | none => simp [hc] at h
    | some d =>
      simp only [hc, Option.map_some, Option.bind_eq_bind, Option.bind_some] at h
      intro x hx
      rcases List.mem_cons.1 hx with rfl | hx
      · simp [hc]
      · exact ih h x hx

/-! ## Leading minus signs -/

/-- A list whose every element passes is its own longest passing prefix. -/
theorem takeWhile_of_all {α : Type} {p : α → Bool} :
    ∀ {l : List α}, (∀ a ∈ l, p a = true) → l.takeWhile p = l
  | [], _ => rfl
  | a :: l, h => by
    rw [List.takeWhile_cons_of_pos (h a List.mem_cons_self),
      takeWhile_of_all fun b hb => h b (List.mem_cons_of_mem _ hb)]

/-- A text is its leading minus signs followed by the rest. -/
theorem minus_split (cs : List Char) :
    cs = List.replicate (cs.length - (cs.dropWhile (· == '-')).length) '-' ++
      cs.dropWhile (· == '-') := by
  have hsplit : cs.takeWhile (· == '-') ++ cs.dropWhile (· == '-') = cs :=
    List.takeWhile_append_dropWhile
  have hlen := congrArg List.length hsplit
  rw [List.length_append] at hlen
  have hminus : cs.takeWhile (· == '-') = List.replicate (cs.takeWhile (· == '-')).length '-' :=
    List.eq_replicate_iff.2 ⟨rfl, fun b hb => by
      simpa using List.all_eq_true.1 List.all_takeWhile b hb⟩
  rw [show cs.length - (cs.dropWhile (· == '-')).length = (cs.takeWhile (· == '-')).length by
    omega, ← hminus, hsplit]

/-- Before a text that does not start with a minus, an optional minus is all that is dropped. -/
theorem dropWhile_sign (neg : Bool) {ds : List Char} (hds : ds.head? ≠ some '-') :
    ((if neg then ['-'] else []) ++ ds).dropWhile (· == '-') = ds := by
  have hrest : ds.dropWhile (· == '-') = ds := by
    cases ds with
    | nil => rfl
    | cons d ds =>
      have hd : d ≠ '-' := fun h => hds (by simp [h])
      exact List.dropWhile_cons_of_neg (by simpa using hd)
  cases neg
  · exact hrest
  · simpa using hrest

/-! ## What a trimmed integer text reads as -/

/-- The test a trimmed text must pass to be converted: after its leading minus signs, at least
one character, each a digit. -/
def PassesDigitTest (cs : List Char) : Prop :=
  cs.dropWhile (· == '-') ≠ [] ∧ ∀ c ∈ cs.dropWhile (· == '-'), Text.isDigitChar c = true

/-- A text spelling the integer `n`: an optional minus, then decimal digits, at least one and
at most `Text.digitLimit`. -/
def IntegerText (cs : List Char) (n : Int) : Prop :=
  ∃ (neg : Bool) (ds : List Char) (m : Nat), cs = (if neg then ['-'] else []) ++ ds ∧ ds ≠ [] ∧
    decimalDigits? ds = some m ∧ ds.length ≤ Text.digitLimit ∧ n = if neg then -(m : Int) else m

namespace Numeral

theorem passesDigitTest_iff (cs : List Char) :
    PassesDigitTest cs ↔
      (!(cs.dropWhile (· == '-')).isEmpty && (cs.dropWhile (· == '-')).all Text.isDigitChar) =
        true := by
  simp [PassesDigitTest]

/-- **Refused texts.** A trimmed text is no integer exactly when it fails the digit test. -/
theorem ofChars_notNumeral_iff (cs : List Char) :
    ofChars cs = .notNumeral ↔ ¬PassesDigitTest cs := by
  rw [passesDigitTest_iff]
  unfold ofChars
  dsimp only
  split
  · rename_i htest
    refine ⟨fun h => ?_, fun h => absurd htest h⟩
    -- a text that passes is unreadable, too long, or a value
    split at h
    · cases h
    · split at h
      · cases h
      · split at h
        · split at h <;> cases h
        · cases h
  · exact ⟨fun _ => ‹_›, fun _ => rfl⟩

/-- **Numbers.** A trimmed text reads as the number `n` exactly when it is an optional minus and
decimal digits within the limit that spell `n`. -/
theorem ofChars_value_iff (cs : List Char) (n : Int) : ofChars cs = .value n ↔ IntegerText cs n := by
  constructor
  · intro h
    unfold ofChars at h
    dsimp only at h
    split at h
    · rename_i htest
      have hne := ((passesDigitTest_iff cs).2 htest).1
      split at h
      · cases h
      · rename_i hsigns
        split at h
        · cases h
        · rename_i hcount
          split at h
          · rename_i m hm
            have hdec := decimal_of_decimalDigits hm
            have hlen : (cs.dropWhile (· == '-')).length ≤ Text.digitLimit := by
              rw [takeWhile_of_all hdec] at hcount
              omega
            have hcs := minus_split cs
            -- no minus or one: the text is the sign and the digits
            by_cases hzero : cs.length - (cs.dropWhile (· == '-')).length = 0
            · rw [if_pos (by simpa using hzero)] at h
              cases h
              refine ⟨false, _, m, ?_, hne, hm, hlen, rfl⟩
              rw [hzero] at hcs
              simpa using hcs
            · rw [if_neg (by simpa using hzero)] at h
              cases h
              have hone : cs.length - (cs.dropWhile (· == '-')).length = 1 := by omega
              refine ⟨true, _, m, ?_, hne, hm, hlen, rfl⟩
              rw [hone] at hcs
              simpa using hcs
          · cases h
    · cases h
  · rintro ⟨neg, ds, m, rfl, hne, hm, hlen, rfl⟩
    have hdec := decimal_of_decimalDigits hm
    -- the digits do not start with a minus, which is no decimal digit
    have hhead : ds.head? ≠ some '-' := by
      intro hh
      obtain ⟨t, rfl⟩ : ∃ t, ds = '-' :: t := by
        cases ds with
        | nil => cases hh
        | cons d t => simp only [List.head?_cons, Option.some.injEq] at hh; exact ⟨t, by rw [hh]⟩
      simpa [Text.decimalValue_minus] using hdec '-' List.mem_cons_self
    have htest : (!ds.isEmpty && ds.all Text.isDigitChar) = true := by
      simp only [Bool.and_eq_true, Bool.not_eq_true', List.isEmpty_eq_false_iff, List.all_eq_true]
      exact ⟨hne, fun c hc => Text.isDigitChar_of_decimal (hdec c hc)⟩
    have hsigns : ((if neg then ['-'] else []) ++ ds).length - ds.length = if neg then 1 else 0 := by
      cases neg <;> simp
    unfold ofChars
    simp only [dropWhile_sign neg hhead, htest, hsigns, takeWhile_of_all hdec, hm]
    rw [if_pos trivial, if_neg (by cases neg <;> decide), if_neg (by omega)]
    cases neg <;> rfl

theorem passesDigitTest_iff_ne (cs : List Char) : PassesDigitTest cs ↔ ofChars cs ≠ .notNumeral := by
  rw [Ne, ofChars_notNumeral_iff, not_not]

/-- A trimmed text that passes the digit test and spells no number is unreadable or too long. -/
theorem ofChars_unconvertible_iff (cs : List Char) :
    (ofChars cs = .unreadable ∨ ∃ k, ofChars cs = .tooLong k) ↔
      PassesDigitTest cs ∧ ∀ n, ¬IntegerText cs n := by
  simp only [passesDigitTest_iff_ne, ← ofChars_value_iff]
  cases ofChars cs <;> simp

end Numeral

/-! ## The verdicts of an integer declaration -/

/-- A value an integer declaration reads through its text: neither a truth value nor an
integer. -/
def ReadAsText (v : Value) : Prop := (∀ b, v ≠ .bool b) ∧ ∀ n, v ≠ .int n

namespace AttrSpec

variable {spec : AttrSpec} {v : Value} {display : String}

theorem check_integer_bool (hk : spec.kind = .integer) (b : Bool) :
    spec.check (some (.bool b)) display = .reject .notInteger := by
  simp [check, isEmptyValue, hk]

theorem check_integer_int (hk : spec.kind = .integer) (n : Int) :
    spec.check (some (.int n)) display = .accept (.int n) := by
  simp [check, isEmptyValue, hk]

/-- Any other supplied value is read from its trimmed text. -/
theorem check_integer_text (hk : spec.kind = .integer) (hne : isEmptyValue (some v) = false)
    (hv : ReadAsText v) :
    spec.check (some v) display =
      match Numeral.ofChars (Text.strip v.text).toList with
      | .value n => .accept (.int n)
      | .unreadable => .unreadable (.literal (Text.strip v.text))
      | .tooLong count => .unreadable (.tooManyDigits count)
      | .notNumeral => .reject .notInteger := by
  unfold check
  rw [if_neg (by simp [hne])]
  simp only [hk, Option.getD_some]
  split
  · exact absurd rfl (hv.1 _)
  · exact absurd rfl (hv.2 _)
  · -- the two matches agree numeral by numeral; comparing them whole would evaluate the numeral
    generalize Numeral.ofChars (Text.strip v.text).toList = r
    cases r <;> rfl

/-- Only an integer declaration finds a value unreadable, and only a text of digits that it
cannot convert. -/
theorem check_unreadable {raw : Option Value} {why : Unconvertible}
    (h : spec.check raw display = .unreadable why) :
    spec.kind = .integer ∧ ∃ v, raw = some v ∧ ReadAsText v ∧
      PassesDigitTest (Text.strip v.text).toList ∧ ∀ n, ¬IntegerText (Text.strip v.text).toList n := by
  -- an absent or blank value takes the default or is refused
  obtain ⟨v, rfl, hne⟩ : ∃ v, raw = some v ∧ isEmptyValue (some v) = false := by
    unfold check at h
    split at h
    · split at h <;> cases h
    · cases raw with
      | none => simp [isEmptyValue] at *
      | some v => exact ⟨v, rfl, by simpa using ‹¬isEmptyValue (some v) = true›⟩
  -- the other kinds accept or refuse
  have hk : spec.kind = .integer := by
    unfold check at h
    rw [if_neg (by simp [hne])] at h
    simp only [Option.getD_some] at h
    split at h
    · cases h
    · split at h
      · cases h
      · split at h
        · cases h
        · split at h <;> cases h
    · assumption
    · split at h
      · cases h
      · split at h
        · split at h <;> cases h
        · cases h
  have hv : ReadAsText v := by
    refine ⟨fun b hb => ?_, fun n hn => ?_⟩
    · rw [hb, check_integer_bool hk] at h
      cases h
    · rw [hn, check_integer_int hk] at h
      cases h
  rw [check_integer_text hk hne hv] at h
  refine ⟨hk, v, rfl, hv, (Numeral.ofChars_unconvertible_iff _).1 ?_⟩
  cases hn : Numeral.ofChars (Text.strip v.text).toList <;> rw [hn] at h <;> simp at h ⊢

/-- An integer declaration on a supplied value that is not empty: integers and texts spelling
a number are accepted as that number, texts that pass the digit test but spell none are
unreadable, and the rest is refused as no integer. -/
theorem integer_check_iff (hk : spec.kind = .integer) (hne : isEmptyValue (some v) = false) :
    (∀ n, spec.check (some v) display = .accept (.int n) ↔
        v = .int n ∨ (ReadAsText v ∧ IntegerText (Text.strip v.text).toList n)) ∧
    ((∃ why, spec.check (some v) display = .unreadable why) ↔
        ReadAsText v ∧ PassesDigitTest (Text.strip v.text).toList ∧
          ∀ n, ¬IntegerText (Text.strip v.text).toList n) ∧
    (spec.check (some v) display = .reject .notInteger ↔
        (∃ b, v = .bool b) ∨ (ReadAsText v ∧ ¬PassesDigitTest (Text.strip v.text).toList)) := by
  by_cases hb : ∃ b, v = .bool b
  · obtain ⟨b, rfl⟩ := hb
    simp [check_integer_bool hk, ReadAsText]
  by_cases hi : ∃ m, v = .int m
  · obtain ⟨m, rfl⟩ := hi
    simp [check_integer_int hk, ReadAsText]
  have hv : ReadAsText v := ⟨fun b h => hb ⟨b, h⟩, fun m h => hi ⟨m, h⟩⟩
  -- a text's verdict follows what its characters read as
  simp only [check_integer_text hk hne hv, ← Numeral.ofChars_value_iff,
    Numeral.passesDigitTest_iff_ne]
  cases Numeral.ofChars (Text.strip v.text).toList <;> simp_all

end AttrSpec

/-- **The verdicts of integer declarations.** Only an integer declaration stops a check as
unreadable, on a supplied value read through its text that passes the digit test but spells no
number. On a supplied value that is not empty, an integer declaration accepts exactly the
integers, and the texts that once trimmed are an optional minus and at most `Text.digitLimit`
decimal digits of any script, as the number they spell; it stops as unreadable exactly on the
other texts that pass the digit test (leading minus signs, then digits in the wide sense); and
it refuses as no integer exactly the truth values and the texts that fail the test. -/
theorem integer_verdicts (spec : AttrSpec) (display : String) :
    (∀ (raw : Option Value) (why : Unconvertible),
      spec.check raw display = .unreadable why →
        spec.kind = .integer ∧ ∃ v, raw = some v ∧ ReadAsText v ∧
          PassesDigitTest (Text.strip v.text).toList ∧
            ∀ n, ¬IntegerText (Text.strip v.text).toList n) ∧
    ∀ v : Value, spec.kind = .integer →
      isEmptyValue (some v) = false →
      (∀ n, spec.check (some v) display = .accept (.int n) ↔
          v = .int n ∨ (ReadAsText v ∧ IntegerText (Text.strip v.text).toList n)) ∧
      ((∃ why, spec.check (some v) display = .unreadable why) ↔
          ReadAsText v ∧ PassesDigitTest (Text.strip v.text).toList ∧
            ∀ n, ¬IntegerText (Text.strip v.text).toList n) ∧
      (spec.check (some v) display = .reject .notInteger ↔
          (∃ b, v = .bool b) ∨ (ReadAsText v ∧ ¬PassesDigitTest (Text.strip v.text).toList)) :=
  ⟨fun _ _ h => AttrSpec.check_unreadable h, fun _ hk hne => AttrSpec.integer_check_iff hk hne⟩

/-- An integer declaration reads ` ١٢ `, two Arabic-Indic digits between blanks, as twelve. -/
theorem arabic_digits_read :
    AttrSpec.check { name := "size", kind := .integer } (some (.str " ١٢ ")) "tag" =
      .accept (.int 12) := by
  have hv : ReadAsText (.str " ١٢ ") := ⟨fun _ h => (nomatch h), fun _ h => (nomatch h)⟩
  have htext : IntegerText (Text.strip " ١٢ ").toList 12 :=
    ⟨false, "١٢".toList, 12, by decide, by decide, by decide, by decide, rfl⟩
  exact (((integer_verdicts { name := "size", kind := .integer } "tag").2 (.str " ١٢ ") rfl
    (by decide)).1 12).2 (.inr ⟨hv, htext⟩)

/-- `--5` passes the digit test but spells no number: an integer declaration stops on it as
unreadable, with the conversion's message, where a refusal was meant. -/
theorem two_minus_signs_unreadable :
    AttrSpec.check { name := "size", kind := .integer } (some (.str "--5")) "tag" =
      .unreadable (.literal "--5") ∧
    (Unconvertible.literal "--5").message = "invalid literal for int() with base 10: '--5'" :=
  ⟨rfl, by decide⟩

end UiTags
