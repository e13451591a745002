import UiTags.Proofs.Validation
import UiTags.Tag.Table

/-!
# The whole of a validated attribute set

`Attrs.validate` checks the declarations in order, then carries the supplied names it did not
match. When no two supplied names are equal once lowered and no two declarations share a name,
the validated set is exactly what the declarations promise: the declared names in declaration
order, each with the value its declaration accepted from the supplied name equal to it up to case
(or from no value at all), then the supplied names that match no declaration, in the order given
and with the values given. An accepted value is the declaration's default or a value of the
declared kind: a truth value, an integer, a text among the allowed ones, a script name among the
allowed ones. Allowed texts restrict text and script-name declarations only.

Two supplied names equal once lowered break this: only the last is matched and checked, and the
other is carried as supplied, over the checked value when it is written exactly as declared.

Main results:

- `AttrSpec.check_accept`: an accepted value is the default or of the declared kind.
- `Attrs.names_carry`, `Attrs.find?_carry_of_unused`: what carrying the unmatched names adds.
- `Attrs.validate_exact`: the validated set, name by name and in order.
- `Attrs.colliding_callback_unchecked`: a callback written twice in different case keeps a text
  that is no script name.
-/

namespace UiTags

/-! ## What a declaration accepts -/

namespace AttrSpec

/-- What a declaration admits besides its default: a value of its kind and, for a text or a
script name, one of the allowed texts where the declaration lists them. -/
def Admits (spec : AttrSpec) (v : Value) : Prop :=
  match spec.kind with
  | .any => True
  | .boolean => ∃ b, v = .bool b
  | .integer => ∃ n, v = .int n
  | .text => ∃ t, v = .str t ∧ ∀ allowed, spec.allowed = some allowed → t ∈ allowed
  | .identifier => ∃ t, v = .str t ∧ Script.isIdentifier t = true ∧
      ∀ allowed, spec.allowed = some allowed → t ∈ allowed

variable {spec : AttrSpec} {raw : Option Value} {display : String} {v : Value}

/-- A truth-value declaration accepts truth values and its default only. -/
theorem check_boolean (hk : spec.kind = .boolean) (h : spec.check raw display = .accept v) :
    v = spec.default ∨ ∃ b, v = .bool b := by
  unfold check at h
  split at h
  · split at h <;> cases h
    exact .inl rfl
  · rw [hk] at h
    dsimp only at h
    split at h
    · cases h
      exact .inr ⟨_, rfl⟩
    · split at h
      · cases h
        exact .inr ⟨true, rfl⟩
      · split at h
        · cases h
          exact .inr ⟨false, rfl⟩
        · cases h

/-- A text or script-name declaration accepts its default or a text, which for a script name
is one, and which is among the allowed texts where the declaration lists them. -/
theorem check_words (hk : spec.kind = .text ∨ spec.kind = .identifier)
    (h : spec.check raw display = .accept v) :
    v = spec.default ∨ ∃ t, v = .str t ∧
      (spec.kind = .identifier → Script.isIdentifier t = true) ∧
      ∀ allowed, spec.allowed = some allowed → t ∈ allowed := by
  have hk' : spec.kind ≠ .any ∧ spec.kind ≠ .boolean ∧ spec.kind ≠ .integer := by
    rcases hk with hk | hk <;> simp [hk]
  unfold check at h
  split at h
  · split at h <;> cases h
    exact .inl rfl
  · right
    dsimp only at h
    split at h
    · exact absurd ‹spec.kind = .any› hk'.1
    · exact absurd ‹spec.kind = .boolean› hk'.2.1
    · exact absurd ‹spec.kind = .integer› hk'.2.2
    · -- texts and script names take the last branch of the check
      split at h
      · cases h
      · rename_i hid
        have hname : spec.kind = .identifier →
            Script.isIdentifier (Text.strip (raw.getD .null).text) = true := by
          intro hki
          simpa [hki] using hid
        split at h
        · rename_i allowed hal
          split at h
          · rename_i hc
            cases h
            refine ⟨_, rfl, hname, fun a ha => ?_⟩
            rw [hal] at ha
            cases ha
            simpa using hc
          · cases h
        · rename_i hal
          cases h
          refine ⟨_, rfl, hname, fun a ha => ?_⟩
          rw [hal] at ha
          cases ha

/-- An accepted value is the declaration's default or a value its kind admits. -/
theorem check_accept (h : spec.check raw display = .accept v) :
    v = spec.default ∨ spec.Admits v := by
  cases hk : spec.kind with
  | any =>
    right
    simp only [Admits, hk]
  | boolean =>
    rcases check_boolean hk h with hd | hb
    · exact .inl hd
    · right
      simpa only [Admits, hk] using hb
  | integer =>
    rcases check_integer hk h with hd | hn
    · exact .inl hd
    · right
      simpa only [Admits, hk] using hn
  | text =>
    rcases check_words (.inl hk) h with hd | ⟨t, rfl, -, hal⟩
    · exact .inl hd
    · right
      simp only [Admits, hk]
      exact ⟨t, rfl, hal⟩
  | identifier =>
    rcases check_words (.inr hk) h with hd | ⟨t, rfl, hid, hal⟩
    · exact .inl hd
    · right
      simp only [Admits, hk]
      exact ⟨t, rfl, hid hk, hal⟩

end AttrSpec

namespace Attrs

/-! ## Names after setting one -/

/-- Setting a name keeps the names in place and appends a new one. -/
theorem names_put (attrs : Attrs) (k : String) (v : Value) :
    (attrs.put k v).map Prod.fst =
      if k ∈ attrs.map Prod.fst then attrs.map Prod.fst else attrs.map Prod.fst ++ [k] := by
  unfold put
  by_cases hk : k ∈ attrs.map Prod.fst
  · have hany : attrs.any (·.1 == k) = true := by simpa using hk
    rw [if_pos hany, if_pos hk, List.map_map]
    -- a pair set to the new value keeps its name
    apply List.map_congr_left
    intro p _
    by_cases hp : p.1 = k <;> simp [hp]
  · have hany : attrs.any (·.1 == k) = false := by
      rw [List.any_eq_false]
      intro p hp hpk
      exact hk (List.mem_map.2 ⟨p, hp, by simpa using hpk⟩)
    rw [if_neg (by simp [hany]), if_neg hk, List.map_append]
    rfl

/-- In a set with each name once, a pair's name finds the pair's value. -/
theorem find?_of_mem {attrs : Attrs} (hnd : (attrs.map Prod.fst).Nodup) {p : String × Value}
    (hp : p ∈ attrs) : attrs.find? p.1 = some p.2 := by
  induction attrs with
  | nil => cases hp
  | cons q qs ih =>
    rw [List.map_cons, List.nodup_cons] at hnd
    obtain ⟨a, b⟩ := q
    rcases List.mem_cons.1 hp with rfl | hq
    · simp [find?]
    · have hin : p.1 ∈ qs.map Prod.fst := List.mem_map_of_mem hq
      have hne : p.1 ≠ a := fun he => hnd.1 (he ▸ hin)
      unfold find? at ih ⊢
      rw [lookup_cons_ne b qs hne]
      exact ih hnd.2 hq

/-! ## Checking the declarations -/

variable {tag display : String} {raw : Attrs}

/-- The names matched while checking are those matched before, then the one each declaration
matched, in declaration order. -/
theorem checkAll_used_eq {specs : List AttrSpec} {done done' : Attrs} {used used' : List String}
    (h : checkAll tag display raw specs done used = .ok (done', used')) :
    used' = used ++ specs.filterMap fun s => matchName raw s.name := by
  induction specs generalizing done used with
  | nil =>
    cases h
    simp
  | cons spec rest ih =>
    simp only [checkAll] at h
    split at h
    · rw [ih h]
      rcases hm : matchName raw spec.name with _ | k <;> simp [hm]
    · cases h
    · cases h

/-- Declarations with names new to the set put their names after its own, in order. -/
theorem checkAll_names {specs : List AttrSpec} {done done' : Attrs} {used used' : List String}
    (h : checkAll tag display raw specs done used = .ok (done', used'))
    (hnd : (done.map Prod.fst ++ specs.map AttrSpec.name).Nodup) :
    done'.map Prod.fst = done.map Prod.fst ++ specs.map AttrSpec.name := by
  induction specs generalizing done used with
  | nil =>
    cases h
    simp
  | cons spec rest ih =>
    simp only [checkAll] at h
    split at h
    · rename_i v _
      -- the declared name is new, so setting it appends it
      have hnew : spec.name ∉ done.map Prod.fst := by
        intro hmem
        exact List.disjoint_of_nodup_append hnd hmem List.mem_cons_self
      have hput : (done.put spec.name v).map Prod.fst = done.map Prod.fst ++ [spec.name] := by
        rw [names_put, if_neg hnew]
      rw [ih h (by simpa [hput] using hnd), hput]
      simp
    · cases h
    · cases h

/-! ## Carrying the unmatched names -/

/-- The supplied pairs whose names were not matched, set one after another in the order given. -/
def carry (used : List String) (raw done : Attrs) : Attrs :=
  raw.foldl (fun acc p => if used.contains p.1 then acc else acc.put p.1 p.2) done

@[simp] theorem carry_nil (used : List String) (done : Attrs) : carry used [] done = done := rfl

@[simp] theorem carry_cons (used : List String) (p : String × Value) (ps done : Attrs) :
    carry used (p :: ps) done =
      carry used ps (if used.contains p.1 then done else done.put p.1 p.2) := rfl

/-- A validated set is the checked declarations with the unmatched names carried. -/
theorem validate_ok {specs : List AttrSpec} {attrs : Attrs}
    (h : validate tag display specs raw = .ok attrs) :
    ∃ done used, checkAll tag display raw specs [] [] = .ok (done, used) ∧
      attrs = carry used raw done := by
  unfold validate at h
  split at h
  · cases h
  · rename_i done used hcheck
    cases h
    exact ⟨done, used, hcheck, rfl⟩

/-- Carrying appends the unmatched names in the order given, when they are new and distinct. -/
theorem names_carry (used : List String) :
    ∀ (raw done : Attrs),
      (done.map Prod.fst ++ (raw.filter fun p => !used.contains p.1).map Prod.fst).Nodup →
      (carry used raw done).map Prod.fst =
        done.map Prod.fst ++ (raw.filter fun p => !used.contains p.1).map Prod.fst
  | [], done, _ => by simp
  | p :: ps, done, hnd => by
    by_cases hu : used.contains p.1 = true
    · have hmem : p.1 ∈ used := by simpa using hu
      have hskip : (p :: ps).filter (fun p => !used.contains p.1) =
          ps.filter fun p => !used.contains p.1 := by
        simp [hmem]
      rw [hskip] at hnd ⊢
      rw [carry_cons, if_pos hu, names_carry used ps done hnd]
    · -- an unmatched name is new, so setting it appends it
      have hmem : p.1 ∉ used := by simpa using hu
      have hcons : (p :: ps).filter (fun p => !used.contains p.1) =
          p :: ps.filter fun p => !used.contains p.1 := by
        simp [hmem]
      rw [hcons, List.map_cons] at hnd
      have hnew : p.1 ∉ done.map Prod.fst :=
        fun hin => List.disjoint_of_nodup_append hnd hin List.mem_cons_self
      have hput : (done.put p.1 p.2).map Prod.fst = done.map Prod.fst ++ [p.1] := by
        rw [names_put, if_neg hnew]
      rw [carry_cons, if_neg hu, names_carry used ps _ (by simpa [hput] using hnd), hput, hcons]
      simp

/-- A supplied pair not matched finds its own value after carrying, when names are distinct. -/
theorem find?_carry_of_unused {used : List String} {p : String × Value}
    (hu : used.contains p.1 = false) :
    ∀ (raw done : Attrs), (raw.map Prod.fst).Nodup → p ∈ raw →
      (carry used raw done).find? p.1 = some p.2
  | [], _, _, hp => by cases hp
  | q :: qs, done, hnd, hp => by
    rw [List.map_cons, List.nodup_cons] at hnd
    rcases List.mem_cons.1 hp with rfl | hp
    · -- the pair is set here, and no later pair has its name
      have hlater : ∀ r ∈ qs, r.1 = p.1 → used.contains r.1 = true :=
        fun r hr hrp => absurd (hrp ▸ List.mem_map_of_mem hr) hnd.1
      rw [carry_cons, if_neg (by rw [hu]; simp), carry, find?_carry qs _ hlater, find?_put,
        if_pos rfl]
    · rw [carry_cons]
      exact find?_carry_of_unused hu qs _ hnd.2 hp

/-! ## Supplied names distinct up to case -/

theorem CaseDistinct.nodup (hd : raw.CaseDistinct) : (raw.map Prod.fst).Nodup := by
  apply List.Nodup.of_map Text.lower
  rw [List.map_map]
  exact hd

/-- The name a declared name matches is supplied, and equal to it once lowered. -/
theorem matchName_some {n k : String} (h : matchName raw n = some k) :
    ∃ p ∈ raw, p.1 = k ∧ Text.lower k = Text.lower n := by
  unfold matchName at h
  obtain ⟨p, hp, rfl⟩ := Option.map_eq_some_iff.1 h
  obtain ⟨hmem, hlow⟩ := List.mem_filter.1 (List.mem_of_getLast? hp)
  exact ⟨p, hmem, rfl, by simpa using hlow⟩

/-- A declared name equal to no supplied one once lowered matches nothing. -/
theorem matchName_none {n : String} (h : ∀ p ∈ raw, Text.lower p.1 ≠ Text.lower n) :
    matchName raw n = none := by
  unfold matchName
  dsimp only
  rw [List.filter_eq_nil_iff.2 (by simpa using h)]
  rfl

/-- With supplied names distinct up to case, a supplied name is matched exactly when it equals a
declared name once lowered. -/
theorem mem_matched_iff (hd : raw.CaseDistinct) {specs : List AttrSpec} {p : String × Value}
    (hp : p ∈ raw) :
    p.1 ∈ specs.filterMap (fun s => matchName raw s.name) ↔
      ∃ s ∈ specs, Text.lower s.name = Text.lower p.1 := by
  rw [List.mem_filterMap]
  constructor
  · rintro ⟨s, hs, hm⟩
    obtain ⟨-, -, -, hlow⟩ := matchName_some hm
    exact ⟨s, hs, hlow.symm⟩
  · rintro ⟨s, hs, hlow⟩
    exact ⟨s, hs, matchName_eq hd hp hlow.symm⟩

/-- With supplied names distinct up to case, what a declaration is given is the value of the
supplied name equal to it once lowered, or nothing when there is none. -/
theorem matched_value (hd : raw.CaseDistinct) (n : String) :
    (∃ p ∈ raw, Text.lower p.1 = Text.lower n ∧
        (matchName raw n).bind raw.find? = some p.2) ∨
      ((∀ p ∈ raw, Text.lower p.1 ≠ Text.lower n) ∧
        (matchName raw n).bind raw.find? = none) := by
  by_cases hex : ∃ p ∈ raw, Text.lower p.1 = Text.lower n
  · obtain ⟨p, hp, hlow⟩ := hex
    refine .inl ⟨p, hp, hlow, ?_⟩
    rw [matchName_eq hd hp hlow, Option.bind_some]
    exact find?_of_mem hd.nodup hp
  · simp only [not_exists, not_and] at hex
    exact .inr ⟨hex, by rw [matchName_none hex]; rfl⟩

/-- With supplied names distinct up to case, the names carried are those equal to no declared
name once lowered. -/
theorem unmatched_eq (hd : raw.CaseDistinct) {specs : List AttrSpec} {done : Attrs}
    {used : List String} (h : checkAll tag display raw specs [] [] = .ok (done, used)) :
    ∀ p ∈ raw,
      (!used.contains p.1) = specs.all fun s => Text.lower s.name != Text.lower p.1 := by
  intro p hp
  have hiff : p.1 ∈ specs.filterMap (fun s => matchName raw s.name) ↔
      ∃ s ∈ specs, Text.lower s.name = Text.lower p.1 := mem_matched_iff hd hp
  rw [checkAll_used_eq h, List.nil_append, Bool.eq_iff_iff]
  simp [hiff]

/-! ## The validated set -/

section Validated

variable (hd : raw.CaseDistinct) {specs : List AttrSpec} (hs : (specs.map AttrSpec.name).Nodup)
  {attrs : Attrs} (h : validate tag display specs raw = .ok attrs)
include hd hs h

/-- The names of a validated set: the declared ones in order, then the supplied ones equal to no
declared name once lowered, in the order given. -/
theorem validate_names :
    attrs.map Prod.fst = specs.map AttrSpec.name ++
      (raw.filter fun p => specs.all fun s => Text.lower s.name != Text.lower p.1).map
        Prod.fst := by
  obtain ⟨done, used, hcheck, rfl⟩ := validate_ok h
  have hdone : done.map Prod.fst = specs.map AttrSpec.name := by
    simpa using checkAll_names hcheck (by simpa using hs)
  have hfilter : (raw.filter fun p => !used.contains p.1) =
      raw.filter fun p => specs.all fun s => Text.lower s.name != Text.lower p.1 :=
    List.filter_congr (unmatched_eq hd hcheck)
  -- the carried names are distinct, and none is a declared name
  have hnd : (specs.map AttrSpec.name ++
      (raw.filter fun p => specs.all fun s => Text.lower s.name != Text.lower p.1).map
        Prod.fst).Nodup := by
    refine List.nodup_append.2 ⟨hs, hd.nodup.sublist (List.filter_sublist.map _), ?_⟩
    intro a ha b hb hab
    obtain ⟨s, hs', rfl⟩ := List.mem_map.1 ha
    obtain ⟨p, hp, rfl⟩ := List.mem_map.1 hb
    have hall := (List.mem_filter.1 hp).2
    simp only [List.all_eq_true, bne_iff_ne, ne_eq] at hall
    exact hall s hs' (by rw [hab])
  rw [names_carry used raw done (by rwa [hdone, hfilter]), hdone, hfilter]

/-- Every declared name of a validated set finds the value its declaration accepted from the
supplied name equal to it once lowered, or from no value when there is none. -/
theorem validate_declared_value {spec : AttrSpec} (hspec : spec ∈ specs) :
    ∃ v, attrs.find? spec.name = some v ∧
      ((∃ p ∈ raw, Text.lower p.1 = Text.lower spec.name ∧
          spec.check (some p.2) display = .accept v) ∨
        ((∀ p ∈ raw, Text.lower p.1 ≠ Text.lower spec.name) ∧
          spec.check none display = .accept v)) := by
  obtain ⟨spec', hspec', hname, v, hv, hacc⟩ := validate_declared hd h hspec
  -- no two declarations share a name, so the one that decided is `spec`
  obtain rfl : spec' = spec := List.inj_on_of_nodup_map hs hspec' hspec hname
  refine ⟨v, hv, ?_⟩
  rcases matched_value hd spec'.name with ⟨p, hp, hlow, hval⟩ | ⟨hnone, hval⟩
  · exact .inl ⟨p, hp, hlow, hval ▸ hacc⟩
  · exact .inr ⟨hnone, hval ▸ hacc⟩

omit hs in
/-- Every supplied name equal to no declared name once lowered finds the value supplied. -/
theorem validate_carried {p : String × Value} (hp : p ∈ raw)
    (hno : ∀ s ∈ specs, Text.lower s.name ≠ Text.lower p.1) : attrs.find? p.1 = some p.2 := by
  obtain ⟨done, used, hcheck, rfl⟩ := validate_ok h
  have hu : used.contains p.1 = false := by
    have hall : (specs.all fun s => Text.lower s.name != Text.lower p.1) = true :=
      List.all_eq_true.2 fun s hs => bne_iff_ne.2 (hno s hs)
    have hcarried := unmatched_eq hd hcheck p hp
    rw [hall] at hcarried
    simpa using hcarried
  exact find?_carry_of_unused hu raw done hd.nodup hp

end Validated

/-- A validated set, when no two supplied names are equal once lowered and no two declarations
share a name. Its names are the declared ones in declaration order, then the supplied names equal
to no declared name once lowered, in the order given. Every declared name finds the value its
declaration accepted from the supplied name equal to it once lowered, or from no value when there
is none; that value is the declaration's default or one its kind admits (a truth value, an
integer, a text or script name among the allowed texts). Every other supplied name finds the
value supplied. -/
theorem validate_exact (hd : raw.CaseDistinct) {specs : List AttrSpec}
    (hs : (specs.map AttrSpec.name).Nodup) {attrs : Attrs}
    (h : validate tag display specs raw = .ok attrs) :
    attrs.map Prod.fst = specs.map AttrSpec.name ++
        (raw.filter fun p => specs.all fun s => Text.lower s.name != Text.lower p.1).map
          Prod.fst ∧
      (∀ spec ∈ specs, ∃ v, attrs.find? spec.name = some v ∧
        ((∃ p ∈ raw, Text.lower p.1 = Text.lower spec.name ∧
            spec.check (some p.2) display = .accept v) ∨
          ((∀ p ∈ raw, Text.lower p.1 ≠ Text.lower spec.name) ∧
            spec.check none display = .accept v)) ∧
        (v = spec.default ∨ spec.Admits v)) ∧
      ∀ p ∈ raw, (∀ s ∈ specs, Text.lower s.name ≠ Text.lower p.1) →
        attrs.find? p.1 = some p.2 := by
  refine ⟨validate_names hd hs h, fun spec hspec => ?_,
    fun p hp hno => validate_carried hd h hp hno⟩
  obtain ⟨v, hv, hfrom⟩ := validate_declared_value hd hs h hspec
  refine ⟨v, hv, hfrom, ?_⟩
  rcases hfrom with ⟨_, _, _, hacc⟩ | ⟨_, hacc⟩
  · exact AttrSpec.check_accept hacc
  · exact AttrSpec.check_accept hacc

/-- A callback supplied in capitals and padded, then an undeclared name: the validated set
names the callback, then the other declaration, then the undeclared name. -/
theorem callback_any_case_validated :
    ∃ attrs, Attrs.validate "t" "T" [TagDef.callback "onLoad", TagDef.oneOf "mode" ["a", "b"]]
        [("ONLOAD", .str " f "), ("x", .int 1)] = .ok attrs ∧
      attrs.map Prod.fst = ["onLoad", "mode", "x"] := by
  have h : Attrs.validate "t" "T" [TagDef.callback "onLoad", TagDef.oneOf "mode" ["a", "b"]]
      [("ONLOAD", .str " f "), ("x", .int 1)] =
        .ok [("onLoad", .str "f"), ("mode", .null), ("x", .int 1)] := by rfl
  exact ⟨_, h, (validate_exact (by decide) (by decide) h).1.trans (by decide)⟩

/-- A load callback, declared as the grid declares it, written twice, the second time in
capitals: the capital one is matched and checked, and the other, written as declared, is carried
over the checked value, with a text that is no script name. -/
theorem colliding_callback_unchecked :
    Attrs.validate "grid" "Grid" [TagDef.callback "onLoad"]
        [("onLoad", .str "alert(1)//"), ("ONLOAD", .str "f")] =
      .ok [("onLoad", .str "alert(1)//")] ∧
    Script.isIdentifier "alert(1)//" = false :=
  ⟨by rfl, by decide +kernel⟩

end Attrs
end UiTags
