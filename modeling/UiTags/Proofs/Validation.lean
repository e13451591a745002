import UiTags.Attribute.Set
import Mathlib.Data.List.Nodup

/-!
# Validated attribute sets

Setting a name in an attribute set changes what that name finds and nothing else. Validation
sets every declared name to the value its declaration accepted, then carries every supplied name
it did not match; when no two supplied names are equal once lowered, each supplied name equal to
a declared one is the one matched, so nothing carried over a declared name replaces the value its
declaration accepted.

Main results:

- `Attrs.find?_put`: what a name finds after a name is set.
- `Attrs.validate_error`: validation fails only by refusing a declared attribute or an integer
  text it cannot read.
- `Attrs.validate_declared`: with supplied names distinct up to case, every declared name finds
  a value that a declaration of that name accepted.
- `AttrSpec.check_integer`: an integer declaration accepts integers and its default only.
-/

namespace UiTags

/-! ## Attribute sets after setting one name -/

namespace Attrs

/-- Looking a name up past a pair with another name. -/
theorem lookup_cons_ne {n a : String} (b : Value) (ps : Attrs) (hn : n ≠ a) :
    ((a, b) :: ps).lookup n = ps.lookup n := by
  have hb : (n == a) = false := by simpa using hn
  rw [List.lookup_cons, hb]

/-- Looking a name up after the pairs named `k` took the value `v`. -/
theorem lookup_replace (l : Attrs) (k n : String) (v : Value) :
    (l.map fun p => if p.1 == k then (k, v) else p).lookup n =
      if n = k ∧ l.any (·.1 == k) = true then some v else l.lookup n := by
  induction l with
  | nil => simp
  | cons p ps ih =>
    obtain ⟨a, b⟩ := p
    by_cases ha : a = k
    · subst ha
      by_cases hn : n = a
      · simp [hn]
      · simp only [List.map_cons, beq_self_eq_true, if_true]
        rw [lookup_cons_ne v _ hn, ih, lookup_cons_ne b _ hn]
        simp [hn]
    · have hak : (a == k) = false := by simpa using ha
      simp only [List.map_cons, hak, Bool.false_eq_true, if_false, List.any_cons, Bool.false_or]
      by_cases hn : n = a
      · subst hn
        simp [ha]
      · rw [lookup_cons_ne b _ hn, ih, lookup_cons_ne b _ hn]

/-- Setting a name changes what that name finds and nothing else. -/
theorem find?_put (attrs : Attrs) (k n : String) (v : Value) :
    (attrs.put k v).find? n = if n = k then some v else attrs.find? n := by
  unfold put find?
  split
  · rename_i hk
    rw [lookup_replace]
    by_cases hn : n = k <;> simp [hn, hk]
  · -- a new name goes last, where no earlier pair can hide it
    rename_i hk
    rw [List.lookup_append]
    by_cases hn : n = k
    · subst hn
      have hnone : attrs.lookup n = none := by
        rw [List.lookup_eq_none_iff]
        intro p hp
        have : ¬ (p.1 == n) = true := List.any_eq_false.1 (Bool.eq_false_iff.2 hk) p hp
        rw [bne_iff_ne]
        intro h
        exact this (by simp [h])
      simp [hnone]
    · cases h : attrs.lookup n
      · simp [lookup_cons_ne v [] hn, hn]
      · simp [hn]

theorem find?_put_ne (attrs : Attrs) {k n : String} (v : Value) (h : n ≠ k) :
    (attrs.put k v).find? n = attrs.find? n := by
  rw [find?_put, if_neg h]

theorem get?_put (attrs : Attrs) (k n : String) (v : Value) :
    (attrs.put k v).get? n = if n = k then Value.present (some v) else attrs.get? n := by
  unfold get?
  rw [find?_put]
  split <;> rfl

theorem holds_put_ne (attrs : Attrs) {k n : String} (v : Value) (h : n ≠ k) :
    (attrs.put k v).holds n = attrs.holds n := by
  simp [holds, get?_put, h]

/-! ## Supplied names distinct up to case -/

/-- No two supplied names are equal once lowered, as in a mapping whose keys are matched without
regard to case. -/
def CaseDistinct (raw : Attrs) : Prop := (raw.map fun p => Text.lower p.1).Nodup

instance (raw : Attrs) : Decidable raw.CaseDistinct :=
  List.nodupDecidable _

/-- With supplied names distinct up to case, a declared name matches the one supplied name equal
to it once lowered. -/
theorem matchName_eq {raw : Attrs} (hd : raw.CaseDistinct) {p : String × Value} (hp : p ∈ raw)
    {n : String} (hn : Text.lower p.1 = Text.lower n) : matchName raw n = some p.1 := by
  -- every supplied name the filter keeps lowers as `p`'s does, so it is `p`
  have honly : ∀ q ∈ raw.filter (fun q => Text.lower q.1 == Text.lower n), q = p := by
    intro q hq
    obtain ⟨hq, hlow⟩ := List.mem_filter.1 hq
    exact List.inj_on_of_nodup_map hd hq hp (by simpa [hn] using hlow)
  have hne : raw.filter (fun q => Text.lower q.1 == Text.lower n) ≠ [] :=
    List.ne_nil_of_mem (List.mem_filter.2 ⟨hp, by simp [hn]⟩)
  unfold matchName
  dsimp only
  rw [List.getLast?_eq_some_getLast hne, honly _ (List.getLast_mem hne)]
  rfl

/-! ## Validation -/

variable {tag display : String} {raw : Attrs}

/-- The declarations are checked in order; a refusal stops the check. -/
theorem checkAll_error {specs : List AttrSpec} {done : Attrs} {used : List String} {e : Failure}
    (h : checkAll tag display raw specs done used = .error e) :
    (∃ name fault, e = .badAttribute tag name fault) ∨ ∃ text, e = .unreadableNumber text := by
  induction specs generalizing done used with
  | nil => cases h
  | cons spec rest ih =>
    simp only [checkAll] at h
    split at h
    · exact ih h
    · cases h
      exact .inl ⟨_, _, rfl⟩
    · cases h
      exact .inr ⟨_, rfl⟩

/-- The names matched while checking include those matched before and the one each declaration
matched. -/
theorem checkAll_used {specs : List AttrSpec} {done done' : Attrs} {used used' : List String}
    (h : checkAll tag display raw specs done used = .ok (done', used')) :
    (∀ k ∈ used, k ∈ used') ∧
      ∀ spec ∈ specs, ∀ k, matchName raw spec.name = some k → k ∈ used' := by
  induction specs generalizing done used with
  | nil =>
    cases h
    exact ⟨fun k hk => hk, by simp⟩
  | cons spec rest ih =>
    simp only [checkAll] at h
    split at h
    · obtain ⟨hkeep, hrest⟩ := ih h
      -- the names matched so far, with this declaration's, are kept to the end
      have hthis : ∀ k, matchName raw spec.name = some k → k ∈ used' := by
        intro k hk
        apply hkeep
        simp [hk]
      refine ⟨fun k hk => hkeep k ?_, ?_⟩
      · cases matchName raw spec.name <;> simp [hk]
      · intro s hs
        rcases List.mem_cons.1 hs with rfl | hs
        · exact hthis
        · exact hrest s hs
    · cases h
    · cases h

/-- A name no declaration has finds what it found before the check. -/
theorem checkAll_find_other {specs : List AttrSpec} {done done' : Attrs}
    {used used' : List String} (h : checkAll tag display raw specs done used = .ok (done', used'))
    {n : String} (hn : ∀ spec ∈ specs, spec.name ≠ n) : done'.find? n = done.find? n := by
  induction specs generalizing done used with
  | nil => cases h; rfl
  | cons spec rest ih =>
    simp only [checkAll] at h
    split at h
    · rw [ih h (fun s hs => hn s (List.mem_cons_of_mem _ hs)),
        find?_put_ne _ _ (Ne.symm (hn spec List.mem_cons_self))]
    · cases h
    · cases h

/-- Every declared name finds a value that a declaration of that name accepted, given the value
its supplied name holds. -/
theorem checkAll_find_declared {specs : List AttrSpec} {done done' : Attrs}
    {used used' : List String} (h : checkAll tag display raw specs done used = .ok (done', used')) :
    ∀ spec ∈ specs, ∃ spec' ∈ specs, spec'.name = spec.name ∧ ∃ v,
      done'.find? spec.name = some v ∧
      spec'.check ((matchName raw spec.name).bind raw.find?) display = .accept v := by
  induction specs generalizing done used with
  | nil => simp
  | cons s rest ih =>
    simp only [checkAll] at h
    split at h
    · rename_i v hv
      have hrest := ih h
      intro spec hspec
      -- a later declaration of the same name decides; otherwise this one does
      by_cases hlater : ∃ r ∈ rest, r.name = spec.name
      · obtain ⟨r, hr, hrn⟩ := hlater
        obtain ⟨spec', hs', hn', hv'⟩ := hrest r hr
        rw [hrn] at hn' hv'
        exact ⟨spec', List.mem_cons_of_mem _ hs', hn', hv'⟩
      · rcases List.mem_cons.1 hspec with rfl | hspec
        · have hother : ∀ r ∈ rest, r.name ≠ spec.name := fun r hr hrn => hlater ⟨r, hr, hrn⟩
          refine ⟨spec, List.mem_cons_self, rfl, v, ?_, hv⟩
          rw [checkAll_find_other h hother, find?_put, if_pos rfl]
        · exact absurd ⟨spec, hspec, rfl⟩ hlater
    · cases h
    · cases h

/-- Carrying the supplied names not matched leaves a name alone when every supplied pair of that
name was matched. -/
theorem find?_carry {used : List String} {n : String} :
    ∀ (raw : Attrs) (done : Attrs), (∀ p ∈ raw, p.1 = n → used.contains p.1 = true) →
      (raw.foldl (fun acc p => if used.contains p.1 then acc else acc.put p.1 p.2) done).find? n =
        done.find? n
  | [], _, _ => rfl
  | p :: ps, done, h => by
    rw [List.foldl_cons, find?_carry ps _ (fun q hq => h q (List.mem_cons_of_mem _ hq))]
    by_cases hu : used.contains p.1 = true
    · rw [if_pos hu]
    · have hpn : n ≠ p.1 := fun hn => hu (h p List.mem_cons_self hn.symm)
      rw [if_neg hu, find?_put_ne _ _ hpn]

/-- Validation fails only by refusing a declared attribute or an integer text it cannot read. -/
theorem validate_error {specs : List AttrSpec} {e : Failure}
    (h : validate tag display specs raw = .error e) :
    (∃ name fault, e = .badAttribute tag name fault) ∨ ∃ text, e = .unreadableNumber text := by
  unfold validate at h
  split at h
  · cases h
    exact checkAll_error ‹_›
  · cases h

/-- With supplied names distinct up to case, every declared name of a validated set finds a value
that a declaration of that name accepted: a supplied name equal to a declared one was matched,
so it is not carried over the accepted value. -/
theorem validate_declared (hd : raw.CaseDistinct) {specs : List AttrSpec} {attrs : Attrs}
    (h : validate tag display specs raw = .ok attrs) {spec : AttrSpec} (hspec : spec ∈ specs) :
    ∃ spec' ∈ specs, spec'.name = spec.name ∧ ∃ v, attrs.find? spec.name = some v ∧
      spec'.check ((matchName raw spec.name).bind raw.find?) display = .accept v := by
  unfold validate at h
  split at h
  · cases h
  · rename_i done used hcheck
    cases h
    have hmatched : ∀ p ∈ raw, p.1 = spec.name → used.contains p.1 = true := by
      intro p hp hpn
      have hk := matchName_eq hd hp (congrArg Text.lower hpn)
      simpa using (checkAll_used hcheck).2 spec hspec p.1 hk
    rw [find?_carry raw done hmatched]
    exact checkAll_find_declared hcheck spec hspec

end Attrs

namespace AttrSpec

/-- An integer declaration accepts integers and its default only. -/
theorem check_integer {spec : AttrSpec} (hk : spec.kind = .integer) {raw : Option Value}
    {display : String} {v : Value} (h : spec.check raw display = .accept v) :
    v = spec.default ∨ ∃ n, v = .int n := by
  unfold check at h
  split at h
  · split at h
    · cases h
    · cases h
      exact .inl rfl
  · rw [hk] at h
    simp only at h
    split at h
    · cases h
    · cases h
      exact .inr ⟨_, rfl⟩
    · split at h
      · cases h
        exact .inr ⟨_, rfl⟩
      · cases h
      · cases h
      · cases h

end AttrSpec
end UiTags
