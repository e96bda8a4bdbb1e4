/-
What is left of areas that were given (`Area.dedup`), told by those given alone: one at each place that one of them
names and that none of them reaches from further above, and a recursive one if one of those given there is
(`Area.Survives`). Nothing else counts, neither the order of the areas nor how their paths are spelled. What is left
covers what was to be covered, and the area that lies closest above a covered path is one that covers it
(`Area.dedup_routes`).
-/
import FileIndex.Proofs.Index.Belonging
import FileIndex.Proofs.Index.Merge
import FileIndex.Proofs.Index.Reach

namespace FileIndex

namespace Area

open Index

variable {a b s t : Area} {areas others known : List Area} {p : Path} {cs top : List Path.Component}

/-! ## One area -/

/-- Where an area lies and whether it is recursive, without the spelling of its path. -/
def meaning (a : Area) : List Path.Component × Bool := (a.path.components, a.recursive)

theorem covers_iff : a.covers p = true ↔
    ∃ rest, p.components = a.path.components ++ rest ∧ (a.recursive = true ∨ rest.length ≤ 1) := by
  rw [covers, Bool.or_eq_true, same_iff]
  constructor
  · rintro (hsame | hbelow)
    · exact ⟨[], by simp [hsame], .inr (by simp)⟩
    · cases hrest : p.below? a.path with
      | none => simp [hrest] at hbelow
      | some rest =>
        rw [hrest, Bool.or_eq_true, beq_iff_eq] at hbelow
        exact ⟨rest, Path.below?_eq_some.1 hrest, hbelow.imp_right Nat.le_of_eq⟩
  · rintro ⟨rest, hrest, hreach⟩
    cases rest with
    | nil => exact .inl (by simpa using hrest)
    | cons c more =>
      rw [Path.below?_eq_some.2 hrest]
      exact .inr (by simpa using hreach)

theorem above_of_covers (h : a.covers p = true) : a.path.components <+: p.components := by
  obtain ⟨rest, hrest, -⟩ := covers_iff.1 h
  exact ⟨rest, hrest.symm⟩

/-- A recursive area covers all that lies below it. -/
theorem covers_of_recursive (hr : a.recursive = true) (h : a.path.components <+: p.components) :
    a.covers p = true := by
  obtain ⟨rest, hrest⟩ := h
  exact covers_iff.2 ⟨rest, hrest.symm, .inl hr⟩

/-- An area covers at least what one at the same place covers that reaches no deeper. -/
theorem covers_of_covers (h : a.covers p = true) (hs : a.path.components = b.path.components)
    (hr : a.recursive = true → b.recursive = true) : b.covers p = true := by
  obtain ⟨rest, hrest, hreach⟩ := covers_iff.1 h
  exact covers_iff.2 ⟨rest, hs ▸ hrest, hreach.imp_left hr⟩

theorem contains_iff : a.contains b = true ↔
    a.path.components = b.path.components ∨ a.recursive = true ∧ a.path.components <+: b.path.components := by
  rw [contains, Bool.or_eq_true, same_iff, Bool.and_eq_true, Path.startsWith, List.isPrefixOf_iff_prefix]

/-! ## What areas say of a place -/

/-- Whether one of some areas lies at a place. -/
def Names (areas : List Area) (cs : List Path.Component) : Prop := ∃ a ∈ areas, a.path.components = cs

/-- Whether one of some areas lies at a place and is recursive. -/
def Recurses (areas : List Area) (cs : List Path.Component) : Prop :=
  ∃ a ∈ areas, a.path.components = cs ∧ a.recursive = true

theorem Names.congr (h : ∀ a, a ∈ areas ↔ a ∈ others) : Names areas cs ↔ Names others cs := by
  simp only [Names, h]

theorem Recurses.congr (h : ∀ a, a ∈ areas ↔ a ∈ others) : Recurses areas cs ↔ Recurses others cs := by
  simp only [Recurses, h]

/-- An area at a known place passes its reach on to the one that is known. -/
theorem exists_mem_insertInto {P : Bool → Prop} (hP : ∀ r₁ r₂, P (r₁ || r₂) ↔ P r₁ ∨ P r₂) :
    (∃ m ∈ insertInto known a, m.path.components = cs ∧ P m.recursive) ↔
      (∃ k ∈ known, k.path.components = cs ∧ P k.recursive) ∨ a.path.components = cs ∧ P a.recursive := by
  induction known with
  | nil => simp [insertInto]
  | cons k rest ih =>
    rw [insertInto, List.exists_mem_cons_iff]
    split
    · rename_i hsame
      rw [List.exists_mem_cons_iff, ← same_iff.1 hsame, hP, or_right_comm, ← and_or_left]
    · rw [List.exists_mem_cons_iff, ih, or_assoc]

theorem merged_concat (areas : List Area) (a : Area) : merged (areas ++ [a]) = insertInto (merged areas) a := by
  simp [merged, List.foldl_append]

theorem exists_mem_merged {P : Bool → Prop} (hP : ∀ r₁ r₂, P (r₁ || r₂) ↔ P r₁ ∨ P r₂) :
    (∃ m ∈ merged areas, m.path.components = cs ∧ P m.recursive) ↔
      ∃ a ∈ areas, a.path.components = cs ∧ P a.recursive := by
  induction areas using List.reverseRecOn with
  | nil => rfl
  | append_singleton areas a ih =>
    rw [merged_concat, exists_mem_insertInto hP, ih]
    simp [or_and_right, exists_or]

/-- Merging areas leaves what they say of a place. -/
theorem names_merged : Names (merged areas) cs ↔ Names areas cs := by
  simpa only [Names, and_true] using exists_mem_merged (P := fun _ => True) (fun _ _ => (or_self _).symm.to_iff)

theorem recurses_merged : Recurses (merged areas) cs ↔ Recurses areas cs :=
  exists_mem_merged (P := (· = true)) fun _ _ => Bool.or_eq_true_iff

theorem apart_merged (areas : List Area) : Apart (merged areas) := by
  induction areas using List.reverseRecOn with
  | nil => exact List.nodup_nil
  | append_singleton areas a ih => exact merged_concat areas a ▸ apart_insertInto ih a

/-- Of merged areas the one at a place says all about it. -/
theorem recursive_iff_of_mem_merged (h : a ∈ merged areas) :
    a.recursive = true ↔ Recurses areas a.path.components := by
  rw [← recurses_merged]
  constructor
  · exact fun hr => ⟨a, h, rfl, hr⟩
  · rintro ⟨b, hb, hs, hr⟩
    rwa [(apart_merged areas).eq_of_same h hb hs.symm]

/-! ## What is left -/

/-- Whether some areas leave this one: it lies at the place of one of them, is recursive if one at that place is, and
no recursive one lies further above. -/
structure Survives (areas : List Area) (s : Area) : Prop where
  named : Names areas s.path.components
  reach : s.recursive = true ↔ Recurses areas s.path.components
  outermost : ∀ top, Recurses areas top → top <+: s.path.components → top = s.path.components

theorem Survives.congr (hn : ∀ cs, Names areas cs ↔ Names others cs)
    (hr : ∀ cs, Recurses areas cs ↔ Recurses others cs) (h : Survives areas s) : Survives others s where
  named := (hn _).1 h.named
  reach := h.reach.trans (hr _)
  outermost top ht := h.outermost top ((hr top).2 ht)

theorem mem_dedup_iff : s ∈ dedup areas ↔ s ∈ merged areas ∧
    ∀ top, Recurses areas top → top <+: s.path.components → top = s.path.components := by
  constructor
  · intro h
    refine ⟨(mem_dedup h).1, fun top ht hp => ?_⟩
    obtain ⟨b, hb, rfl, hr⟩ := recurses_merged.2 ht
    by_contra hne
    have := (mem_dedup h).2 b hb (by simpa [same_iff, ← Bool.not_eq_true] using hne)
    simp [contains_iff.2 (.inr ⟨hr, hp⟩)] at this
  · rintro ⟨h, hout⟩
    refine List.mem_filter.2 ⟨h, ?_⟩
    rw [Bool.not_eq_true', List.any_eq_false]
    intro b hb hcut
    rw [Bool.and_eq_true, Bool.not_eq_true', ← Bool.not_eq_true, same_iff, contains_iff] at hcut
    obtain ⟨hne, hs | ⟨hr, hp⟩⟩ := hcut
    · exact hne hs
    · exact hne (hout _ (recurses_merged.1 ⟨b, hb, rfl, hr⟩) hp)

theorem survives_of_mem_dedup (h : s ∈ dedup areas) : Survives areas s where
  named := names_merged.1 ⟨s, (mem_dedup h).1, rfl⟩
  reach := recursive_iff_of_mem_merged (mem_dedup h).1
  outermost := (mem_dedup_iff.1 h).2

/-- What survives is left, in the spelling in which its path came first. -/
theorem Survives.exists_mem_dedup (h : Survives areas s) : ∃ m ∈ dedup areas, m.meaning = s.meaning := by
  obtain ⟨m, hm, hs⟩ := names_merged.2 h.named
  refine ⟨m, mem_dedup_iff.2 ⟨hm, hs.symm ▸ h.outermost⟩, Prod.ext hs ?_⟩
  rw [Bool.eq_iff_iff]
  exact (recursive_iff_of_mem_merged hm).trans (hs ▸ h.reach.symm)

theorem mem_meanings_iff {m : List Path.Component × Bool} :
    m ∈ (dedup areas).map meaning ↔ ∃ s, Survives areas s ∧ s.meaning = m := by
  rw [List.mem_map]
  constructor
  · rintro ⟨s, hs, rfl⟩
    exact ⟨s, survives_of_mem_dedup hs, rfl⟩
  · rintro ⟨s, hs, rfl⟩
    exact hs.exists_mem_dedup

theorem nodup_meanings (areas : List Area) : ((dedup areas).map meaning).Nodup := by
  refine List.Nodup.of_map Prod.fst ?_
  rw [List.map_map]
  exact apart_dedup areas

/-- Areas that say the same of every place leave the same. -/
theorem perm_meanings (hn : ∀ cs, Names areas cs ↔ Names others cs)
    (hr : ∀ cs, Recurses areas cs ↔ Recurses others cs) :
    ((dedup areas).map meaning).Perm ((dedup others).map meaning) := by
  refine (List.perm_ext_iff_of_nodup (nodup_meanings areas) (nodup_meanings others)).2 fun m => ?_
  rw [mem_meanings_iff, mem_meanings_iff]
  exact exists_congr fun s => and_congr_left' ⟨.congr hn hr, .congr (fun cs => (hn cs).symm) fun cs => (hr cs).symm⟩

/-! ## Leaving out again -/

theorem insertInto_of_new (h : ∀ k ∈ known, k.path.components ≠ a.path.components) :
    insertInto known a = known ++ [a] := by
  induction known with
  | nil => rfl
  | cons k rest ih =>
    rw [insertInto, if_neg (fun hs => h k (by simp) (same_iff.1 hs)), ih fun m hm => h m (by simp [hm])]
    rfl

theorem merged_of_apart (h : Apart areas) : merged areas = areas := by
  induction areas using List.reverseRecOn with
  | nil => rfl
  | append_singleton areas a ih =>
    unfold Apart at h
    rw [List.map_append, List.nodup_append] at h
    rw [merged_concat, ih h.1]
    exact insertInto_of_new fun k hk => h.2.2 _ (List.mem_map_of_mem hk) _ (by simp)

/-- Of what is left all is left. -/
theorem dedup_dedup (areas : List Area) : dedup (dedup areas) = dedup areas := by
  have hcut : ∀ s ∈ dedup areas,
      (!(dedup areas).any fun b => !b.path.same s.path && b.contains s) = true := by
    intro s hs
    rw [Bool.not_eq_true', List.any_eq_false]
    intro b hb
    rw [Bool.not_eq_true, Bool.and_eq_false_imp, Bool.not_eq_true']
    exact (mem_dedup hs).2 b (mem_dedup hb).1
  conv_lhs => rw [dedup, merged_of_apart (apart_dedup areas)]
  exact List.filter_eq_self.2 hcut

theorem not_contains_of_mem_dedup (hs : s ∈ dedup areas) (ht : t ∈ dedup areas)
    (hne : s.path.components ≠ t.path.components) : s.contains t = false := by
  refine (mem_dedup ht).2 s (mem_dedup hs).1 ?_
  rwa [← Bool.not_eq_true, same_iff]

/-- No two areas that are left lie right above one place. -/
theorem countP_isParentOf_le (areas : List Area) (s : Area) : (dedup areas).countP (·.isParentOf s) ≤ 1 := by
  have hnodup : (((dedup areas).filter (·.isParentOf s)).map (·.path.components)).Nodup :=
    (apart_dedup areas).sublist (List.filter_sublist.map _)
  have hone : ((dedup areas).filter (·.isParentOf s)).map (·.path.components) ⊆ [s.path.components.dropLast] := by
    intro cs hcs
    obtain ⟨a, ha, rfl⟩ := List.mem_map.1 hcs
    obtain ⟨c, hc⟩ := components_of_isParentOf (List.mem_filter.1 ha).2
    simp [hc]
  simpa [List.countP_eq_length_filter] using (List.subperm_of_subset hnodup hone).length_le

/-! ## Covered paths -/

/-- Above a recursive area lies a recursive one that has none above it. -/
theorem exists_outermost (h : Recurses areas cs) : ∃ top, Recurses areas top ∧ top <+: cs ∧
    ∀ more, Recurses areas more → more <+: top → more = top := by
  induction hn : cs.length using Nat.strong_induction_on generalizing cs with
  | _ n ih =>
    by_cases habove : ∃ more, Recurses areas more ∧ more <+: cs ∧ more ≠ cs
    · obtain ⟨more, hmore, hp, hne⟩ := habove
      have hlt : more.length < n := hn ▸ hp.length_le.lt_of_ne fun he => hne (hp.eq_of_length he)
      obtain ⟨top, htop, hle, hout⟩ := ih _ hlt hmore rfl
      exact ⟨top, htop, hle.trans hp, hout⟩
    · push Not at habove
      exact ⟨cs, h, List.prefix_rfl, habove⟩

/-- What an area covers stays covered, by what is left at its place or by what is left above it. -/
theorem exists_covers_dedup (ha : a ∈ areas) (h : a.covers p = true) : ∃ s ∈ dedup areas, s.covers p = true := by
  by_cases habove : ∃ top, Recurses areas top ∧ top <+: a.path.components
  · obtain ⟨top, hrec, hp⟩ := habove
    obtain ⟨out, ⟨b, hb, rfl, hr⟩, hle, hout⟩ := exists_outermost hrec
    have hb' : Recurses areas b.path.components := ⟨b, hb, rfl, hr⟩
    have hsurvives : Survives areas b := ⟨⟨b, hb, rfl⟩, iff_of_true hr hb', hout⟩
    obtain ⟨s, hs, hm⟩ := hsurvives.exists_mem_dedup
    rw [meaning, meaning, Prod.mk.injEq] at hm
    refine ⟨s, hs, covers_of_recursive (hm.2.trans hr) ?_⟩
    exact hm.1 ▸ (hle.trans hp).trans (above_of_covers h)
  · have hnone : ∀ top, Recurses areas top → ¬ top <+: a.path.components := fun top hrec hp => habove ⟨top, hrec, hp⟩
    have hshallow : ¬ Recurses areas a.path.components := fun hrec => hnone _ hrec List.prefix_rfl
    have hr : a.recursive = false := by
      rw [← Bool.not_eq_true]
      exact fun hr => hshallow ⟨a, ha, rfl, hr⟩
    have hsurvives : Survives areas a :=
      ⟨⟨a, ha, rfl⟩, iff_of_false (by simp [hr]) hshallow, fun top hrec hp => absurd hp (hnone top hrec)⟩
    obtain ⟨s, hs, hm⟩ := hsurvives.exists_mem_dedup
    rw [meaning, meaning, Prod.mk.injEq] at hm
    exact ⟨s, hs, covers_of_covers h hm.1.symm fun hr' => by simp [hr] at hr'⟩

/-- What is left covers nothing new. -/
theorem exists_covers_of_dedup (hs : s ∈ dedup areas) (h : s.covers p = true) : ∃ a ∈ areas, a.covers p = true := by
  have hsurvives := survives_of_mem_dedup hs
  by_cases hr : s.recursive = true
  · obtain ⟨a, ha, he, har⟩ := hsurvives.reach.1 hr
    exact ⟨a, ha, covers_of_covers h he.symm fun _ => har⟩
  · obtain ⟨a, ha, he⟩ := hsurvives.named
    exact ⟨a, ha, covers_of_covers h he.symm fun hr' => absurd hr' hr⟩

/-- Of areas above a path one has the longest path. -/
theorem exists_closest (hs : s ∈ known) (hp : s.path.components <+: p.components) :
    ∃ t ∈ known, t.path.components <+: p.components ∧
      ∀ u ∈ known, u.path.components <+: p.components → u.path.components.length ≤ t.path.components.length := by
  obtain ⟨t, ht, hmax⟩ := (known.filter fun a => p.startsWith a.path).toFinset.exists_max_image
    (·.path.components.length) ⟨s, by simpa [Path.startsWith] using ⟨hs, hp⟩⟩
  simp only [List.mem_toFinset, List.mem_filter, Path.startsWith, List.isPrefixOf_iff_prefix] at ht hmax
  exact ⟨t, ht.1, ht.2, fun u hu hup => hmax u ⟨hu, hup⟩⟩

/-- The one of the areas left that lies closest above a covered path covers it: one further above that covers it is
not recursive, so that no third place is between it and the path. -/
theorem covers_of_closest (hs : s ∈ dedup areas) (h : s.covers p = true) (ht : t ∈ dedup areas)
    (hp : t.path.components <+: p.components) (hle : s.path.components.length ≤ t.path.components.length) :
    t.covers p = true := by
  have hst : s.path.components <+: t.path.components := List.prefix_of_prefix_length_le (above_of_covers h) hp hle
  by_cases he : s.path.components = t.path.components
  · rwa [← (apart_dedup areas).eq_of_same hs ht he]
  · obtain ⟨rest, hrest, hreach⟩ := covers_iff.1 h
    obtain ⟨between, hbetween⟩ := hst
    obtain ⟨more, hmore⟩ := hp
    have hshort : rest.length ≤ 1 :=
      hreach.resolve_left fun hr => he (components_eq_of_recursive hs ht hr ⟨between, hbetween⟩)
    have hne : between ≠ [] := by
      rintro rfl
      exact he (by simpa using hbetween)
    have hlength := congrArg List.length (hrest.symm.trans (hmore.symm.trans (congrArg (· ++ more) hbetween.symm)))
    simp only [List.length_append] at hlength
    have := List.length_pos_of_ne_nil hne
    exact covers_iff.2 ⟨more, hmore.symm, .inr (by omega)⟩

/-- **What is left of areas.** It covers the paths that were to be covered, no area of it contains another one, and
all of it is left again. Neither the order of the areas nor the spelling of their paths tells what is left. No area has
two of the others right above it, and of those left the one that lies closest above a covered path covers it. -/
theorem dedup_routes (areas : List Area) :
    (∀ p, (∃ a ∈ areas, a.covers p = true) ↔ ∃ s ∈ dedup areas, s.covers p = true) ∧
    ((dedup areas).Pairwise fun s t => s.contains t = false ∧ t.contains s = false) ∧
    dedup (dedup areas) = dedup areas ∧
    (∀ others, areas.Perm others → ((dedup areas).map meaning).Perm ((dedup others).map meaning)) ∧
    (∀ s ∈ dedup areas, (dedup areas).countP (·.isParentOf s) ≤ 1) ∧
    ∀ p, (∃ s ∈ dedup areas, s.covers p = true) →
      ∃ t ∈ dedup areas, t.path.components <+: p.components ∧
        (∀ u ∈ dedup areas, u.path.components <+: p.components →
          u = t ∨ u.path.components.length < t.path.components.length) ∧
        t.covers p = true := by
  refine ⟨fun p => ⟨?_, ?_⟩, ?_, dedup_dedup areas, fun others hperm => ?_, fun s _ => ?_, ?_⟩
  · rintro ⟨a, ha, h⟩
    exact exists_covers_dedup ha h
  · rintro ⟨s, hs, h⟩
    exact exists_covers_of_dedup hs h
  · refine (List.pairwise_map.1 (apart_dedup areas)).imp_of_mem fun hs ht hne => ?_
    exact ⟨not_contains_of_mem_dedup hs ht hne, not_contains_of_mem_dedup ht hs (Ne.symm hne)⟩
  · exact perm_meanings (fun _ => Names.congr fun _ => hperm.mem_iff) fun _ => Recurses.congr fun _ => hperm.mem_iff
  · exact countP_isParentOf_le areas s
  · rintro p ⟨s, hs, h⟩
    obtain ⟨t, ht, hp, hmax⟩ := exists_closest hs (above_of_covers h)
    refine ⟨t, ht, hp, fun u hu hup => ?_, covers_of_closest hs h ht hp (hmax s hs (above_of_covers h))⟩
    rcases (hmax u hu hup).lt_or_eq with hlt | heq
    · exact .inr hlt
    · have he := (List.prefix_of_prefix_length_le hup hp heq.le).eq_of_length heq
      exact .inl ((apart_dedup areas).eq_of_same hu ht he)

/-- A place that is given twice is taken once, with the reach of both; what it reaches is left out. A shallow area
leaves the one below it, and that one covers what lies in it. -/
theorem dedup_routes_nested :
    (dedup [⟨⟨"/a/b/c"⟩, false⟩, ⟨⟨"/a"⟩, false⟩, ⟨⟨"/a/b"⟩, false⟩, ⟨⟨"//a/b/"⟩, true⟩]).map meaning =
      [([.root, .name "a"], false), ([.root, .name "a", .name "b"], true)] ∧
    ((dedup [⟨⟨"//a/b/"⟩, true⟩, ⟨⟨"/a"⟩, false⟩, ⟨⟨"/a/b"⟩, false⟩, ⟨⟨"/a/b/c"⟩, false⟩]).map meaning).Perm
      [([.root, .name "a"], false), ([.root, .name "a", .name "b"], true)] ∧
    ∃ t ∈ dedup [⟨⟨"/a/b/c"⟩, false⟩, ⟨⟨"/a"⟩, false⟩, ⟨⟨"/a/b"⟩, false⟩, ⟨⟨"//a/b/"⟩, true⟩],
      t.path.components <+: (Path.mk "/a/b/c/d").components ∧ t.covers ⟨"/a/b/c/d"⟩ = true := by
  have hleft : (dedup [⟨⟨"/a/b/c"⟩, false⟩, ⟨⟨"/a"⟩, false⟩, ⟨⟨"/a/b"⟩, false⟩, ⟨⟨"//a/b/"⟩, true⟩]).map meaning =
      [([.root, .name "a"], false), ([.root, .name "a", .name "b"], true)] := by decide +kernel
  obtain ⟨hcovers, -, -, hperm, -, hclosest⟩ :=
    dedup_routes [⟨⟨"/a/b/c"⟩, false⟩, ⟨⟨"/a"⟩, false⟩, ⟨⟨"/a/b"⟩, false⟩, ⟨⟨"//a/b/"⟩, true⟩]
  obtain ⟨t, ht, hp, -, hc⟩ := hclosest ⟨"/a/b/c/d"⟩
    ((hcovers _).1 ⟨⟨⟨"//a/b/"⟩, true⟩, by simp, by decide +kernel⟩)
  refine ⟨hleft, ?_, t, ht, hp, hc⟩
  rw [← hleft]
  exact (hperm _ (by decide +kernel)).symm

end Area

namespace Index

variable {x : Index} {areas : List Area} {p : Path}

/-- Where an index has a tree for each area that is left, a path that is to be covered belongs to a tree that covers
it. -/
theorem exists_owner?_covers
    (ha : (x.trees.map (·.area.meaning)).Perm ((Area.dedup areas).map Area.meaning))
    (hp : ∃ a ∈ areas, a.covers p = true) :
    ∃ i t, x.owner? none p = some (i, t) ∧ t.area.covers p = true := by
  have htree : ∀ s ∈ Area.dedup areas, ∃ t ∈ x.trees, t.area.meaning = s.meaning := fun s hs =>
    List.mem_map.1 (ha.mem_iff.2 (List.mem_map_of_mem hs))
  have harea : ∀ t ∈ x.trees, ∃ s ∈ Area.dedup areas, s.meaning = t.area.meaning := fun t ht =>
    List.mem_map.1 (ha.mem_iff.1 (List.mem_map_of_mem (f := (·.area.meaning)) ht))
  obtain ⟨a, hmem, hc⟩ := hp
  obtain ⟨s, hs, hc⟩ := Area.exists_covers_dedup hmem hc
  obtain ⟨u, hu, hus⟩ := htree s hs
  rw [Area.meaning, Area.meaning, Prod.mk.injEq] at hus
  obtain ⟨i, t, ho, hp, hle⟩ := exists_owner? hu (hus.1 ▸ Area.above_of_covers hc)
  obtain ⟨closest, hclosest, hm⟩ := harea t (mem_of_owner? ho)
  rw [Area.meaning, Area.meaning, Prod.mk.injEq] at hm
  have hcovers := Area.covers_of_closest hs hc hclosest (hm.1 ▸ hp) (by rw [hm.1, ← hus.1]; exact hle)
  exact ⟨i, t, ho, Area.covers_of_covers hcovers hm.1 fun hr => hm.2 ▸ hr⟩

end Index

end FileIndex
