/-
Which tree a path belongs to, said without the search for it. No two areas of a sound index have the same components, so
that the tree whose area lies deepest above a path is one (`Sound.owner?_none_iff`), and so is that of a given root
(`Sound.owner?_some_iff`). Both depend on the areas alone (`Sound.owner?_congr`).
-/
import FileIndex.Proofs.Index.Spotting

namespace FileIndex.Index

variable {x y : Index} {t u : Tree} {p q r : Path} {root : Option Path} {i j : Nat}

/-- Whether a tree is the one whose area lies deepest above a path. -/
structure Deepest (x : Index) (p : Path) (i : Nat) (t : Tree) : Prop where
  get : x.trees[i]? = some t
  above : t.area.path.components <+: p.components
  deepest : ∀ u ∈ x.trees, u.area.path.components <+: p.components →
    u.area.path.components.length ≤ t.area.path.components.length

theorem Sound.owner?_none_iff (h : x.Sound) : x.owner? none p = some (i, t) ↔ x.Deepest p i t := by
  constructor
  · intro ho
    have hin := List.mem_filter.1 ((longer_mem _ none ho).resolve_right nofun)
    refine ⟨get_of_owner? ho, List.isPrefixOf_iff_prefix.1 hin.2, fun u hu hp => ?_⟩
    obtain ⟨n, v, hv, -, hle⟩ := exists_owner? hu hp
    cases ho.symm.trans hv
    exact hle
  · intro hd
    obtain ⟨n, u, hu, hp, hle⟩ := exists_owner? (List.mem_of_getElem? hd.get) hd.above
    have hget := get_of_owner? hu
    have he : u.area.path.components = t.area.path.components :=
      ((List.prefix_of_prefix_length_le hd.above hp hle).eq_of_length
        (hle.antisymm (hd.deepest u (mem_of_owner? hu) hp))).symm
    obtain rfl := h.index_eq hget hd.get he
    rw [hu, hget.symm.trans hd.get |> Option.some.inj]

theorem Sound.owner?_some_iff (h : x.Sound) :
    x.owner? (some r) p = some (i, t) ↔ x.trees[i]? = some t ∧ t.area.path.components = r.components := by
  constructor
  · exact fun ho => ⟨get_of_owner? ho, components_of_owner? ho⟩
  · rintro ⟨hget, he⟩
    have hmem : (i, t) ∈ (List.range x.trees.length).zip x.trees := by
      refine List.mem_iff_getElem?.2 ⟨i, ?_⟩
      rw [List.getElem?_zip_eq_some]
      exact ⟨List.getElem?_range (List.getElem?_eq_some_iff.1 hget).1, hget⟩
    obtain ⟨⟨n, u⟩, hu⟩ := Option.isSome_iff_exists.1
      ((List.find?_isSome (p := fun it : Nat × Tree => it.2.area.path.same r)).2 ⟨(i, t), hmem, same_iff.2 he⟩)
    have ho : x.owner? (some r) p = some (n, u) := hu
    have hn := get_of_owner? ho
    obtain rfl := h.index_eq hn hget ((components_of_owner? ho).trans he.symm)
    rw [ho, hn.symm.trans hget |> Option.some.inj]

/-- Where the areas are the same, a path belongs to the tree of the same number. -/
theorem Sound.owner?_congr (hx : x.Sound) (hy : y.Sound) (ha : y.trees.map (·.area) = x.trees.map (·.area))
    (ho : x.owner? root p = some (i, t)) (hu : y.trees[i]? = some u) : y.owner? root p = some (i, u) := by
  have harea : u.area = t.area := by
    have := congrArg (·[i]?) ha
    simpa [hu, get_of_owner? ho] using this
  cases root with
  | some r =>
    rw [hy.owner?_some_iff, harea]
    exact ⟨hu, (hx.owner?_some_iff.1 ho).2⟩
  | none =>
    rw [hx.owner?_none_iff] at ho
    rw [hy.owner?_none_iff]
    refine ⟨hu, harea ▸ ho.above, fun v hv hp => ?_⟩
    obtain ⟨w, hw, hvw⟩ := List.mem_map.1 (ha ▸ List.mem_map_of_mem hv)
    rw [harea, ← hvw]
    exact ho.deepest w hw (hvw ▸ hp)

end FileIndex.Index
