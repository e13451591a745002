import UiTags.Script.Params

/-!
# Reading import parameters back

A parameter text is its comma-separated entries; an entry that holds `=` is cut at its first
`=`, both sides are trimmed, and a pair whose key is blank is dropped. `entryPair` says this
for one entry with `takeWhile` and `dropWhile`, apart from the reader's own cut.

The main statement has three parts:

* pairs written plainly as `key=value` entries joined by commas read back as the same pairs;
  a pair is plain (`PlainParam`) when neither side holds a comma, the key holds no `=` and is
  not blank, and neither side has blanks at its ends;
* a text made of comma-free entries reads as the pairs of those entries, in order;
* every text is made of comma-free entries, so the second part covers every text.
-/

namespace UiTags
namespace Script

/-- The parameter text of pairs: each written `key=value`, joined by commas. -/
def joinParams (ps : List (String × String)) : String :=
  ",".intercalate (ps.map fun p => p.1 ++ "=" ++ p.2)

/-- A pair that the parameter text writes plainly: neither side holds a comma, the key holds no
`=` and is not blank, and neither side has blanks at its ends. -/
def PlainParam (p : String × String) : Prop :=
  ',' ∉ p.1.toList ∧ ',' ∉ p.2.toList ∧ '=' ∉ p.1.toList ∧ Text.isBlankText p.1 = false ∧
    Text.strip p.1 = p.1 ∧ Text.strip p.2 = p.2

/-- The pair an entry stands for: the trimmed text before its first `=` and the trimmed text
after it, when the entry holds `=` and the key is not blank. -/
def entryPair (e : List Char) : Option (String × String) :=
  if '=' ∈ e then
    let key := Text.trimBy Text.isBlank (e.takeWhile (· != '='))
    if key = [] then none
    else some (String.ofList key,
      String.ofList (Text.trimBy Text.isBlank ((e.dropWhile (· != '=')).drop 1)))
  else none

/-- The reader's cut at the first `=` is the text before it and the text after it. -/
theorem splitFirst_eq (e : List Char) :
    Text.splitFirst '=' e =
      if '=' ∈ e then some (e.takeWhile (· != '='), (e.dropWhile (· != '=')).drop 1)
      else none := by
  induction e with
  | nil => simp [Text.splitFirst]
  | cons c r ih =>
    by_cases h : c = '='
    · subst h
      simp [Text.splitFirst]
    · have hne : (c != '=') = true := by simpa using h
      have hmem : ('=' ∈ c :: r) ↔ '=' ∈ r := by
        simp only [List.mem_cons]
        constructor
        · rintro (h' | h')
          · exact absurd h'.symm h
          · exact h'
        · exact Or.inr
      rw [Text.splitFirst, if_neg (by simpa using h), ih]
      by_cases hr : '=' ∈ r
      · simp [hr, hne]
      · simp [hr, hmem]

/-- The reader's pair of an entry is the entry's pair. -/
theorem paramEntry?_eq (e : List Char) : paramEntry? e = entryPair e := by
  unfold paramEntry? entryPair
  rw [splitFirst_eq]
  by_cases h : '=' ∈ e
  · simp only [h, if_true]
    by_cases hk : Text.trimBy Text.isBlank (e.takeWhile (· != '=')) = []
    · simp [hk]
    · simp [hk]
  · simp [h]

/-- Two partial maps that agree on a list's members keep the same values of it. -/
theorem filterMap_congr_mem {α β : Type} {f g : α → Option β} :
    ∀ {l : List α}, (∀ x ∈ l, f x = g x) → l.filterMap f = l.filterMap g
  | [], _ => rfl
  | x :: xs, h => by
    rw [List.filterMap_cons, List.filterMap_cons, h x List.mem_cons_self,
      filterMap_congr_mem fun y hy => h y (List.mem_cons_of_mem x hy)]

/-- A text of comma-free entries reads as the pairs of those entries, in order. -/
theorem parseParams_intercalate (entries : List (List Char)) (h : ∀ e ∈ entries, ',' ∉ e) :
    parseParams (String.ofList ([','].intercalate entries)) = entries.filterMap entryPair := by
  by_cases hraw : [','].intercalate entries = []
  · -- an empty text: no entries, or one empty entry
    have hcases : entries = [] ∨ entries = [[]] := by
      by_cases hne : entries = []
      · exact Or.inl hne
      · right
        have := List.splitOn_intercalate ',' h hne
        rw [hraw] at this
        simpa [List.splitOn_nil] using this.symm
    rcases hcases with rfl | rfl
    · simp [parseParams, paramEntries]
    · simp [parseParams, paramEntries, entryPair]
  · have hne : entries ≠ [] := by
      rintro rfl
      exact hraw rfl
    have hempty : (String.ofList ([','].intercalate entries)).isEmpty = false := by
      simpa [String.isEmpty_iff] using hraw
    unfold parseParams paramEntries
    rw [hempty, if_neg (by simp), String.toList_ofList, Text.splitChars,
      List.splitOn_intercalate ',' h hne]
    exact filterMap_congr_mem fun e _ => paramEntry?_eq e

/-- The characters of a joined text: the pieces' characters joined by the separator's. -/
theorem toList_intercalate_comma (xs : List String) :
    (",".intercalate xs).toList = [','].intercalate (xs.map String.toList) := by
  induction xs with
  | nil => simp
  | cons x rest ih =>
    cases rest with
    | nil => simp
    | cons y ys =>
      rw [String.intercalate_cons_cons, String.toList_append, String.toList_append, ih]
      simp [List.intercalate_cons_cons]

/-- The entry written for a plain pair reads as that pair. -/
theorem entryPair_plain (p : String × String) (h : PlainParam p) :
    entryPair (p.1.toList ++ '=' :: p.2.toList) = some p := by
  obtain ⟨_, _, heq, hblank, hk, hv⟩ := h
  have hkey : Text.trimBy Text.isBlank p.1.toList = p.1.toList := by
    have := congrArg String.toList hk
    simpa [Text.strip] using this
  have hval : Text.trimBy Text.isBlank p.2.toList = p.2.toList := by
    have := congrArg String.toList hv
    simpa [Text.strip] using this
  have hkne : p.1.toList ≠ [] := by
    intro hnil
    simp [Text.isBlankText, hnil] at hblank
  have hall : ∀ c ∈ p.1.toList, (c != '=') = true := by
    intro c hc
    have : c ≠ '=' := fun hce => heq (hce ▸ hc)
    simpa using this
  have htake : (p.1.toList ++ '=' :: p.2.toList).takeWhile (· != '=') = p.1.toList := by
    rw [List.takeWhile_append_of_pos hall]
    simp
  have hdrop : (p.1.toList ++ '=' :: p.2.toList).dropWhile (· != '=') = '=' :: p.2.toList := by
    rw [List.dropWhile_append_of_pos hall]
    simp
  unfold entryPair
  simp only [List.mem_append, List.mem_cons, true_or, or_true, if_true, htake, hdrop, hkey,
    hkne, if_false, List.drop_succ_cons, List.drop_zero, hval, String.ofList_toList]

/-- Plain pairs written and read give the same pairs. -/
theorem parseParams_joinParams (ps : List (String × String)) (h : ∀ p ∈ ps, PlainParam p) :
    parseParams (joinParams ps) = ps := by
  have hchars : (joinParams ps).toList =
      [','].intercalate (ps.map fun p => p.1.toList ++ '=' :: p.2.toList) := by
    rw [joinParams, toList_intercalate_comma]
    simp [List.map_map, Function.comp_def]
  have hfree : ∀ e ∈ ps.map (fun p => p.1.toList ++ '=' :: p.2.toList), ',' ∉ e := by
    intro e he
    obtain ⟨p, hp, rfl⟩ := List.mem_map.1 he
    obtain ⟨h1, h2, _⟩ := h p hp
    simp [h1, h2]
  have hread := parseParams_intercalate _ hfree
  rw [← hchars, String.ofList_toList] at hread
  rw [hread, List.filterMap_map]
  have hpairs : ∀ p ∈ ps, (entryPair ∘ fun p => p.1.toList ++ '=' :: p.2.toList) p = some p :=
    fun p hp => entryPair_plain p (h p hp)
  rw [filterMap_congr_mem hpairs]
  simp

/-- No piece of a split holds an element that the split cuts at. -/
theorem not_cut_of_mem_splitOnP {α : Type} {p : α → Bool} :
    ∀ {xs w : List α}, w ∈ xs.splitOnP p → ∀ c ∈ w, p c = false
  | [], w, hw => by
    simp only [List.splitOnP_nil, List.mem_singleton] at hw
    subst hw
    simp
  | x :: xs, w, hw => by
    rw [List.splitOnP_cons_eq_if_modifyHead] at hw
    by_cases hx : p x = true
    · rw [if_pos hx] at hw
      rcases List.mem_cons.1 hw with rfl | hw
      · simp
      · exact not_cut_of_mem_splitOnP hw
    · rw [if_neg hx] at hw
      obtain ⟨r, rs, hr⟩ := List.exists_cons_of_ne_nil (List.splitOnP_ne_nil p xs)
      rw [hr, List.modifyHead_cons] at hw
      rcases List.mem_cons.1 hw with rfl | hw
      · intro c hc
        rcases List.mem_cons.1 hc with rfl | hc
        · simpa using hx
        · exact not_cut_of_mem_splitOnP (hr ▸ List.mem_cons_self ..) c hc
      · exact not_cut_of_mem_splitOnP (hr ▸ List.mem_cons_of_mem _ hw)

/-- Every text is its comma-separated entries joined by commas. -/
theorem exists_entries (raw : String) :
    ∃ entries : List (List Char), (∀ e ∈ entries, ',' ∉ e) ∧
      String.ofList ([','].intercalate entries) = raw := by
  refine ⟨raw.toList.splitOn ',', fun e he hc => ?_, ?_⟩
  · rw [List.splitOn_eq_splitOnP] at he
    have := not_cut_of_mem_splitOnP he ',' hc
    simp at this
  · rw [List.intercalate_splitOn, String.ofList_toList]

/-- Plain pairs read back from their text; a text of comma-free entries reads as the pairs of its
entries; and every text is such a text. -/
theorem parseParams_joined :
    (∀ ps : List (String × String), (∀ p ∈ ps, PlainParam p) → parseParams (joinParams ps) = ps) ∧
    (∀ entries : List (List Char), (∀ e ∈ entries, ',' ∉ e) →
      parseParams (String.ofList ([','].intercalate entries)) = entries.filterMap entryPair) ∧
    (∀ raw : String, ∃ entries : List (List Char), (∀ e ∈ entries, ',' ∉ e) ∧
      String.ofList ([','].intercalate entries) = raw) :=
  ⟨parseParams_joinParams, parseParams_intercalate, exists_entries⟩

/-- Two plain pairs, written and read back. -/
theorem parseParams_two_pairs :
    (∀ p ∈ [("a", "1"), ("b", "2")], PlainParam p) ∧
      parseParams (joinParams [("a", "1"), ("b", "2")]) = [("a", "1"), ("b", "2")] :=
  have h : ∀ p ∈ [("a", "1"), ("b", "2")], PlainParam p := by
    intro p hp
    simp only [List.mem_cons, List.not_mem_nil, or_false] at hp
    rcases hp with rfl | rfl <;> (unfold PlainParam; decide +kernel)
  ⟨h, parseParams_joined.1 _ h⟩

end Script
end UiTags
