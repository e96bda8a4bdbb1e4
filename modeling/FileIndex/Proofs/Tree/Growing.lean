/-
What an addition makes, on a disk as there can be one. No two entries of a directory come to have the same name, since
a node is made only where none was found and a walk takes every name once (`Arena.Sown`). In an area that is not
recursive nothing is made below the entries of its root. A root that is made is anchored (`Tree.add_distinct`).
-/
import FileIndex.Proofs.Tree.Anchors
import FileIndex.Proofs.Tree.Siblings

namespace FileIndex

open Arena

variable {a b c : Arena} {t t' : Tree} {d : Disk} {p way : Path} {metadata : Metadata} {id j q r top current : NodeId}
  {name : String} {parent made : Option NodeId} {rest : List Path.Component} {e : Entry}

namespace Arena

/-! ## Trees whose names are distinct -/

/-- Growth by a tree in which the entries of every directory have names of their own. -/
structure Sown (a b : Arena) (parent : Option NodeId) (top : NodeId) : Prop extends Grown a b parent top where
  distinct : ∀ q, b.Below top q → ((b.children q).map b.name?).Nodup

theorem Sown.keeps (h : Sown a b parent top) (ha : a.WellFormed) (hd : a.Distinct)
    (hmissing : ∀ q, parent = some q → ∀ c ∈ a.children q, a.name? c ≠ b.name? top) : b.Distinct :=
  h.toGrown.distinct ha hd h.distinct hmissing

/-- A node below which nothing lies. -/
theorem WellFormed.sown_insert (ha : a.WellFormed) (name : String) (metadata : Metadata) :
    ∃ id b, a.insert (Node.ofName name metadata) = (id, b) ∧ Sown a b none id ∧ b.name? id = some name ∧
      ∀ j, b.parent? j ≠ some id := by
  have hg := ha.grown_insert (n := Node.ofName name metadata) rfl rfl
  have hself := (FreeList.get?_insert ha.toFreeList (Node.ofName name metadata) _).trans (if_pos rfl)
  generalize a.insert (Node.ofName name metadata) = made at hg hself
  have hchildren : made.2.children made.1 = [] := children_of_get? hself
  have hnone : ∀ j, made.2.parent? j ≠ some made.1 := fun j hj => by
    have hmem := hg.wellFormed.mem_children.2 hj
    rw [hchildren] at hmem
    cases hmem
  refine ⟨made.1, made.2, rfl, ⟨hg, fun q hq => ?_⟩, name?_of_get? hself, hnone⟩
  rcases hq.cases_head with rfl | ⟨k, hk, -⟩
  · rw [hchildren]
    exact List.nodup_nil
  · exact absurd hk (hnone k)

/-- What a walk finds is taken in under distinct names, in one level if the walk is not recursive. -/
theorem WellFormed.sown_walkEntry (ha : a.WellFormed) (he : e.Proper) (s : WalkScope) (name : String) :
    ∃ id b, a.insertCollected (walkEntry s true name e) = .ok (id, b) ∧ Sown a b none id ∧ b.name? id = some name ∧
      (s.recursive = false → ∀ j, b.parent? j = some id → b.children j = []) := by
  obtain ⟨id, b, hb, ht⟩ := ha.taken (walkEntry s true name e)
  have hshows := ht.shows
  rw [walkEntry_eq] at hshows
  have hm := Mirrors.of_shows ht.wellFormed _ (he.pruned s e true) hshows
  have hname : b.name? id = some name := by rw [name?_of_shows ht.shows, name_walkEntry]
  exact ⟨id, b, hb, ⟨ht.toGrown, hm.distinct⟩, hname, fun hrec _ hj => hm.children_of_shallow ht.wellFormed hrec hj⟩

theorem Sown.attach (h : Sown a b none top) (hq : a.contains q = true) : ∃ c, b.attach q top = .ok c ∧
    Sown a c (some q) top ∧ ∀ j, b.Below top j → SameSight b c j := by
  obtain ⟨c, hc, hg, hbelow, hget⟩ := h.toGrown.attach hq
  have hsight : ∀ j, b.Below top j → SameSight b c j := fun j hj => by
    refine sameSight_of_get? (hget j hj) ?_ ?_ ?_
    all_goals intro n; split <;> rfl
  refine ⟨c, hc, ⟨hg, fun j hj => ?_⟩, hsight⟩
  have hj := (hbelow j).1 hj
  rw [(hsight j hj).children, List.map_congr_left fun i hi =>
    (hsight i (hj.tail (h.wellFormed.mem_children.1 hi))).name]
  exact h.distinct j hj

end Arena

namespace Tree

/-! ## Making nodes -/

/-- How a node that an addition makes for a path stands: in a shallow area only the area's own path has entries below
it, and those have none. -/
structure Made (t : Tree) (a b : Arena) (p : Path) (id : NodeId) : Prop extends Sown a b none id where
  name : b.name? id = some p.entryName
  shallow : t.area.recursive = false → ∀ j, b.parent? j = some id → p.same t.area.path = true ∧ b.children j = []

theorem createNode_made (ha : a.WellFormed) (hd : d.Valid) (t : Tree) (p : Path) (metadata : Metadata) :
    ∃ id b, t.createNode a d p metadata = .ok (id, b) ∧ t.Made a b p id := by
  obtain ⟨one, alone, hinsert, hs, hname, hnone⟩ := ha.sown_insert p.entryName metadata
  have hmade : t.Made a alone p one := ⟨hs, hname, fun _ j hj => absurd hj (hnone j)⟩
  unfold createNode
  split
  · rename_i hcond
    split
    · rename_i found hwalk
      obtain ⟨e, he, rfl⟩ : ∃ e, d.find? false p = some e ∧
          walkEntry (scope t.area t.includeHidden) true p.entryName e = found := by
        rw [FileIndex.walk] at hwalk
        cases he : d.find? false p with
        | none =>
          rw [he] at hwalk
          cases hwalk
        | some e =>
          rw [he] at hwalk
          exact ⟨e, rfl, WalkOutcome.collected.inj hwalk⟩
      obtain ⟨id, b, hb, hs, hn, hlevel⟩ := ha.sown_walkEntry (hd.find? he).1 (scope t.area t.includeHidden) p.entryName
      refine ⟨id, b, hb, hs, hn, fun hrec j hj => ⟨?_, hlevel hrec j hj⟩⟩
      simpa [hrec] using (Bool.and_eq_true_iff.1 hcond).2
    · exact ⟨one, alone, congrArg _ hinsert, hmade⟩
  · exact ⟨one, alone, congrArg _ hinsert, hmade⟩

theorem makeNode_sown (ha : a.WellFormed) (hd : d.Valid) (t : Tree) (p : Path) (metadata : Metadata) (way : Path)
    (rest : List Path.Component) (hname : rest = [] → p.entryName = name) : ∃ id b, t.makeNode a d p metadata name way rest = .ok (id, b) ∧
      Sown a b none id ∧ b.name? id = some name ∧
      (t.area.recursive = false → ∀ j, b.parent? j = some id → p.same t.area.path = true ∧ b.children j = []) := by
  unfold makeNode
  split
  · rename_i hrest
    obtain ⟨id, b, hb, hm⟩ := createNode_made ha hd t p metadata
    exact ⟨id, b, hb, hm.toSown, hname hrest ▸ hm.name, hm.shallow⟩
  · obtain ⟨id, b, hinsert, hs, hn, hnone⟩ := ha.sown_insert name (wayMetadata d way)
    exact ⟨id, b, congrArg _ hinsert, hs, hn, fun _ j hj => absurd hj (hnone j)⟩

/-! ## Adding below a node -/

/-- What is made for a name that was missing joins siblings with other names. -/
theorem attach_distinct (ha : a.WellFormed) (hd : a.Distinct) (hcur : a.contains current = true) (hs : Sown a b none id)
    (hname : b.name? id = some name) (hmissing : a.child? current name = none) :
    ∃ c, b.attach current id = .ok c ∧ Sown a c (some current) id ∧ c.Distinct ∧ c.children id = b.children id := by
  obtain ⟨c, hc, hsc, hsight⟩ := hs.attach hcur
  have htop := hsight id (.refl b id)
  refine ⟨c, hc, hsc, hsc.keeps ha hd fun q hq i hi hn => ?_, htop.children⟩
  obtain rfl := Option.some.inj hq
  rw [htop.name, hname] at hn
  rw [(child?_eq_some (hd _)).2 ⟨hi, hn⟩] at hmissing
  cases hmissing

theorem addBelow_distinct (hv : d.Valid) (ha : a.WellFormed) (hd : a.Distinct) (hcur : a.contains current = true)
    (made : Option NodeId) (t : Tree) (metadata : Metadata) (way : Path) (hp : ∃ base, p.components = base ++ rest) :
    ∃ r, t.addBelow d p metadata a made current way rest = .ok r ∧ r.arena.Distinct ∧
      ∀ j, a.contains j = true → r.arena.anchor? j = a.anchor? j := by
  induction rest generalizing a made current way with
  | nil => exact ⟨_, rfl, hd, fun _ _ => rfl⟩
  | cons k rest ih =>
    obtain ⟨base, hp⟩ := hp
    have hp' : ∃ base, p.components = base ++ rest := ⟨base ++ [k], by simp [hp]⟩
    cases k with
    | name name =>
      cases hc : a.child? current name with
      | some child =>
        rw [addBelow_found ha hcur hc]
        exact ih ha hd (contains_of_child? hc) made _ hp'
      | none =>
        have hname : rest = [] → p.entryName = name := by
          rintro rfl
          exact Path.entryName_of_components hp
        obtain ⟨child, b, hmake, hs, hn, -⟩ := makeNode_sown ha hv t p metadata (way.child name) rest hname
        obtain ⟨c, hattach, hsc, hdc, -⟩ := attach_distinct ha hd hcur hs hn hc
        rw [addBelow_missing ha hcur hc hmake hattach]
        obtain ⟨r, hr, hdr, hanchor⟩ := ih hsc.wellFormed hdc hsc.contains_top _ _ hp'
        exact ⟨r, hr, hdr, fun j hj => (hanchor j (hsc.contains_old hj)).trans (hsc.anchor?_old hj)⟩
    | root | here | up => exact ⟨_, rfl, hd, fun _ _ => rfl⟩

/-- Whether all new nodes are a given one or entries right below it. -/
def Near (a b : Arena) (r : NodeId) : Prop :=
  ∀ k, b.contains k = true → ¬a.contains k = true → k = r ∨ b.parent? k = some r

/-- Below the root of a shallow area one component makes one node at most. -/
theorem addBelow_near {base : Arena} (hv : d.Valid) (ha : a.WellFormed) (hd : a.Distinct)
    (hcur : a.contains current = true) (hn : Near base a current) (hrec : t.area.recursive = false)
    (hp : p.components = t.area.path.components ++ rest) (hlength : rest.length ≤ 1) (made : Option NodeId)
    (metadata : Metadata) (way : Path) : ∃ r, t.addBelow d p metadata a made current way rest = .ok r ∧ Near base r.arena current := by
  match rest with
  | [] => exact ⟨_, rfl, hn⟩
  | k :: _ :: _ => simp at hlength
  | [.root] | [.here] | [.up] => exact ⟨_, rfl, hn⟩
  | [.name name] =>
    cases hc : a.child? current name with
    | some child =>
      rw [addBelow_found ha hcur hc]
      exact ⟨_, rfl, hn⟩
    | none =>
      obtain ⟨child, b, hmake, hs, hname, hshallow⟩ := makeNode_sown ha hv t p metadata (way.child name) []
        fun _ => Path.entryName_of_components hp
      obtain ⟨c, hattach, hsc, -, hchildren⟩ := attach_distinct ha hd hcur hs hname hc
      rw [addBelow_missing ha hcur hc hmake hattach]
      refine ⟨_, rfl, fun k hk hnew => ?_⟩
      rcases (hsc.contains_iff k).1 hk with hold | hb
      · rcases hn k hold hnew with rfl | hpar
        · exact .inl rfl
        · exact .inr ((hsc.parent?_old hold).trans hpar)
      · -- The path is not the area's own, so that nothing lies below the new node.
        rcases hb.cases_head with rfl | ⟨i, hi, -⟩
        · exact .inr hsc.parent?_top
        · have hmem := hsc.wellFormed.mem_children.2 hi
          rw [hchildren] at hmem
          have hsame := (hshallow hrec i (hs.wellFormed.mem_children.1 hmem)).1
          rw [Path.same, beq_iff_eq, hp] at hsame
          simp at hsame

/-! ## Adding to a tree -/

theorem ensureRoot_near (hv : d.Valid) (ha : a.WellFormed) (hd : a.Distinct)
    (hroot : ∀ r, t.root = some r → a.contains r = true) (p : Path) (metadata : Metadata)
    (rest : List Path.Component) : ∃ root made b,
      t.ensureRoot a d p metadata rest = .ok (root, made, b) ∧ b.WellFormed ∧ b.contains root = true ∧ b.Distinct ∧
      (t.area.recursive = false → Near a b root) ∧
      (t.Anchored a → { t with root := some root }.Anchored b) := by
  unfold ensureRoot
  cases hr : t.root with
  | some root =>
    exact ⟨root, none, a, rfl, ha, hroot root hr, hd, fun _ k hk hnew => absurd hk hnew, fun h => h.congr rfl
      fun r hroot hlive => ⟨hr.trans hroot, hlive, rfl⟩⟩
  | none =>
    obtain ⟨root, b, hmake, hs, hshallow⟩ : ∃ root b, (if rest = [] then t.createNode a d p metadata
        else .ok (a.insert (Node.ofName t.area.path.entryName (wayMetadata d t.area.path)))) = .ok (root, b) ∧
        Sown a b none root ∧ (t.area.recursive = false → ∀ j, b.parent? j = some root → b.children j = []) := by
      split
      · obtain ⟨root, b, hb, hm⟩ := createNode_made ha hv t p metadata
        exact ⟨root, b, hb, hm.toSown, fun hrec j hj => (hm.shallow hrec j hj).2⟩
      · obtain ⟨root, b, hinsert, hs, -, hnone⟩ := ha.sown_insert t.area.path.entryName (wayMetadata d t.area.path)
        exact ⟨root, b, congrArg _ hinsert, hs, fun _ j hj => absurd hj (hnone j)⟩
    have hl := sameLinks_setAnchor b root t.area.path.parent?
    have hdb := hs.keeps ha hd nofun
    refine ⟨root, some root, b.modify root (·.setAnchor t.area.path.parent?), ?_, hl.wellFormed hs.wellFormed, ?_,
      hdb.congr hl.children (name?_setAnchor b root _), fun hrec k hk hnew => ?_, ?_⟩
    · split at hmake
      · rename_i hrest
        simp only [hrest, if_true, hmake, ok_bind, pure_eq_ok]
      · rename_i hrest
        rw [Except.ok.injEq] at hmake
        simp only [hrest, if_false, hmake, ok_bind, pure_eq_ok]
    · rw [hl.contains, hs.contains_top]
    · rw [hl.contains] at hk
      rw [hl.parent?]
      rcases (((hs.contains_iff k).1 hk).resolve_left hnew).cases_head with rfl | ⟨j, hj, hb⟩
      · exact .inl rfl
      · rcases hb.cases_head with rfl | ⟨i, hi, -⟩
        · exact .inr hj
        · have hmem := hs.wellFormed.mem_children.2 hi
          rw [hshallow hrec j hj] at hmem
          cases hmem
    · rintro - r hr -
      obtain rfl := Option.some.inj hr
      exact (anchor?_setAnchor hs.contains_top root _).trans (if_pos rfl)

theorem outcome_name? (r : Added) (j : NodeId) : r.outcome.2.name? j = r.arena.name? j := by
  unfold Added.outcome
  split
  · refine (sameSight_modifyAll ?_ ?_ ?_ _ _ j).name <;> exact fun _ => rfl
  · rfl

theorem outcome_anchor? (r : Added) (j : NodeId) : r.outcome.2.anchor? j = r.arena.anchor? j := by
  unfold Added.outcome
  split
  · apply anchor?_modifyAll
    exact fun _ => rfl
  · rfl

theorem outcome_sameLinks (r : Added) : SameLinks r.arena r.outcome.2 := by
  unfold Added.outcome
  split
  · apply sameLinks_modifyAll <;> exact fun _ => rfl
  · exact .refl _

/-- **An addition gives no directory two entries of one name**, in a shallow area it makes the root and its entries only,
and it anchors the root. -/
theorem add_distinct (hv : d.Valid) (ha : a.WellFormed) (hd : a.Distinct)
    (hroot : ∀ r, t.root = some r → a.contains r = true) (hadd : t.add a d p = .ok (made, t', b)) :
    b.Distinct ∧ (t.area.recursive = false → ∀ r, t'.root = some r → Near a b r) ∧ (t.Anchored a → t'.Anchored b) := by
  have hidle : a.Distinct ∧ (t.area.recursive = false → ∀ r, t.root = some r → Near a a r) ∧
      (t.Anchored a → t.Anchored a) := ⟨hd, fun _ _ _ k hk hnew => absurd hk hnew, id⟩
  unfold add at hadd
  split at hadd
  · rename_i rest metadata hrest _
    have hp := Path.below?_eq_some.1 hrest
    split at hadd
    · cases hadd
      exact hidle
    · rename_i hcond
      obtain ⟨root, new, c, hensure, hc, hlive, hdc, hnear, hanchored⟩ := ensureRoot_near hv ha hd hroot p metadata rest
      obtain ⟨r, hbelow, hdr, hanchor⟩ := addBelow_distinct hv hc hdc hlive new { t with root := some root }
        metadata t.area.path ⟨_, hp⟩
      simp only [hensure, ok_bind, hbelow, pure_eq_ok, Except.ok.injEq, Prod.mk.injEq] at hadd
      obtain ⟨-, rfl, rfl⟩ := hadd
      have hl := outcome_sameLinks r
      refine ⟨hdr.congr hl.children (outcome_name? r), fun hrec i hi k hk hnew => ?_, fun h =>
        (hanchored h).congr rfl fun i hi _ => ?_⟩
      · have hlength : rest.length ≤ 1 := by
          simp only [Area.covers, hrest, hrec, Bool.false_or, Bool.or_eq_true, Bool.not_eq_true', not_or,
            Bool.not_eq_false, Path.same, beq_iff_eq] at hcond
          rcases hcond.1 with hsame | hone
          · have hnil : rest = [] := by simpa [hp] using hsame
            simp [hnil]
          · exact hone.le
        obtain ⟨r', hbelow', hn⟩ := addBelow_near (t := { t with root := some root }) hv hc hdc hlive
          (hnear hrec) hrec hp hlength new metadata t.area.path
        obtain rfl : r = r' := Except.ok.inj (hbelow.symm.trans hbelow')
        obtain rfl := Option.some.inj hi
        rw [hl.contains] at hk
        rw [hl.parent?]
        exact hn k hk hnew
      · obtain rfl := Option.some.inj hi
        exact ⟨rfl, hlive, (outcome_anchor? r root).trans (hanchor root hlive)⟩
  · cases hadd
    exact hidle

end Tree

end FileIndex
