/-
Names with a leading dot in a tree that leaves out what is hidden. Neither a walk nor an addition makes a node of such
a name, but for the root of the tree, which has the name of its area (`Tree.undotted_of_add`). A rename does not ask.
-/
import FileIndex.Proofs.Index.Intact
import FileIndex.Proofs.Index.Naming

namespace FileIndex

variable {d : Disk} {t t' : Tree} {p way : Path} {metadata : Metadata} {rest : List Path.Component}
  {made top : Option NodeId} {name : String} {s : WalkScope} {e : Entry}

/-! ## Walks -/

namespace Collected

mutual

/-- Whether nothing that was found below an entry has a name with a leading dot. -/
def Undotted : Collected → Prop
  | .entry _ _ children => AllUndotted children

/-- Whether nothing that was found in a directory, or below it, has a name with a leading dot. -/
def AllUndotted : List Collected → Prop
  | [] => True
  | c :: rest => (isHiddenName c.name = false ∧ c.Undotted) ∧ AllUndotted rest

end

theorem allUndotted_iff {founds : List Collected} :
    AllUndotted founds ↔ ∀ c ∈ founds, isHiddenName c.name = false ∧ c.Undotted := by
  induction founds with
  | nil => simp [AllUndotted]
  | cons c rest ih => simp [AllUndotted, ih]

theorem allUndotted_sorted {founds : List Collected} (h : AllUndotted founds) : AllUndotted (sorted founds) := by
  rw [allUndotted_iff] at h ⊢
  exact fun c hc => h c ((List.mergeSort_perm _ _).mem_iff.1 hc)

end Collected

open Collected (AllUndotted)

mutual

/-- What a walk that leaves out hidden entries finds below its start. -/
theorem undotted_walkEntry (hs : s.includeHidden = false) (isTop : Bool) (name : String) :
    (e : Entry) → (walkEntry s isTop name e).Undotted
  | .directory children => by
    rw [walkEntry, Collected.Undotted]
    split
    · exact Collected.allUndotted_sorted (allUndotted_walkChildren hs children)
    · trivial
  | .file _ _ _ | .symlink _ _ | .pipe _ => by
    rw [walkEntry]
    · trivial
    · exact nofun

theorem allUndotted_walkChildren (hs : s.includeHidden = false) :
    (children : List (String × Entry)) → AllUndotted (walkChildren s children)
  | [] => trivial
  | (name, e) :: rest => by
    rw [walkChildren]
    split
    · exact allUndotted_walkChildren hs rest
    · rename_i hskips
      refine ⟨⟨?_, undotted_walkEntry hs false name e⟩, allUndotted_walkChildren hs rest⟩
      rw [name_walkEntry]
      simpa [WalkScope.skips, hs] using hskips

end

/-! ## Nodes -/

namespace Arena

variable {a b c : Arena} {id j : NodeId} {parent : Option NodeId}

/-- Whether the name of a node, if there is one, has no leading dot. -/
def Undotted (a : Arena) (j : NodeId) : Prop := ∀ name, a.name? j = some name → isHiddenName name = false

theorem Undotted.congr (h : a.Undotted j) (hn : b.name? j = a.name? j) : b.Undotted j := by
  intro name hname
  exact h name (hn ▸ hname)

theorem undotted_of_not_contains (h : ¬a.contains j = true) : a.Undotted j := by
  intro name hname
  obtain ⟨n, hn, -⟩ := Option.map_eq_some_iff.1 hname
  exact absurd (contains_iff.2 ⟨n, hn⟩) h

theorem undotted_of_name? (h : a.name? j = some name) : a.Undotted j ↔ isHiddenName name = false := by
  simp [Undotted, h]

mutual

theorem Shows.undotted (ha : a.WellFormed) : (found : Collected) → ∀ {id}, a.Shows found id → found.Undotted →
    ∀ j, a.Below id j → j ≠ id → a.Undotted j
  | .entry name metadata children, id, h, hf => by
    intro j hb hne
    obtain ⟨n, hn, -, -, hall⟩ := h
    rcases hb.cases_head with rfl | ⟨q, hq, hb⟩
    · exact absurd rfl hne
    · rw [← ha.mem_children, children_of_get? hn] at hq
      exact ShowsAll.undotted ha children hall hf q hq j hb

theorem ShowsAll.undotted (ha : a.WellFormed) : (founds : List Collected) → ∀ {ids}, a.ShowsAll founds ids →
    AllUndotted founds → ∀ i ∈ ids, ∀ j, a.Below i j → a.Undotted j
  | [], _, h, _ => by
    intro i hi
    rw [show _ = [] from h] at hi
    cases hi
  | found :: rest, _, h, hf => by
    obtain ⟨k, more, rfl, hk, hrest⟩ := h
    obtain ⟨⟨hname, hbelow⟩, hf⟩ := hf
    intro i hi j hb
    rcases List.mem_cons.1 hi with rfl | hi
    · by_cases hj : j = i
      · subst hj
        exact (undotted_of_name? (name?_of_shows hk)).2 hname
      · exact Shows.undotted ha found hk hbelow j hb hj
    · exact ShowsAll.undotted ha rest hrest hf i hi j hb

end

/-- What a walk that leaves out hidden entries takes in below its start. -/
theorem WellFormed.undotted_taken (ha : a.WellFormed) (hs : s.includeHidden = false) (name : String) (e : Entry) :
    ∃ id b, a.insertCollected (walkEntry s true name e) = .ok (id, b) ∧ Sprouted a b none id ∧ b.name? id = some name ∧
      ∀ j, b.Below id j → j ≠ id → b.Undotted j := by
  obtain ⟨id, b, hb, ht⟩ := ha.taken (walkEntry s true name e)
  refine ⟨id, b, hb, ht.toSprouted, ?_, Shows.undotted ht.wellFormed _ ht.shows (undotted_walkEntry hs true name e)⟩
  rw [name?_of_shows ht.shows, name_walkEntry]

/-! ## Names of what was made -/

/-- Whether all that was made since, but for one node, has names without a leading dot. -/
def Discreet (a b : Arena) (id : NodeId) : Prop := ∀ j, ¬a.contains j = true → j ≠ id → b.Undotted j

theorem Discreet.refl (a : Arena) (id : NodeId) : Discreet a a id := fun _ hj _ => undotted_of_not_contains hj

theorem Discreet.congr (h : Discreet a b id) (hn : ∀ j, c.name? j = b.name? j) : Discreet a c id :=
  fun j hj hne => (h j hj hne).congr (hn j)

/-- What grows on its own without a leading dot, but for its topmost node. -/
theorem Grown.discreet (h : Grown a b parent id) (hbelow : ∀ j, b.Below id j → j ≠ id → b.Undotted j) :
    Discreet a b id := by
  intro j hj hne
  by_cases hjb : b.contains j = true
  · exact hbelow j (((h.contains_iff j).1 hjb).resolve_left hj) hne
  · exact undotted_of_not_contains hjb

/-- A node that is put in alone. -/
theorem WellFormed.discreet_insert (ha : a.WellFormed) (name : String) (metadata : Metadata) :
    ∃ id b, a.insert (Node.ofName name metadata) = (id, b) ∧ Sprouted a b none id ∧ b.name? id = some name ∧
      Discreet a b id := by
  obtain ⟨id, b, hinsert, hs, hname, hnone⟩ := ha.sown_insert name metadata
  have hsprouted := ha.sprouted_insert (n := Node.ofName name metadata) rfl rfl rfl
  rw [hinsert] at hsprouted
  refine ⟨id, b, hinsert, hsprouted, hname, hs.discreet fun j hb hne => ?_⟩
  rcases hb.cases_head with rfl | ⟨q, hq, -⟩
  · exact absurd rfl hne
  · exact absurd hq (hnone q)

/-! ## Names below the roots -/

section Veils

variable {rs us : List NodeId} {top p : NodeId}

/-- Whether nothing below some nodes has a name with a leading dot, but for these nodes themselves. -/
def Veils (a : Arena) (rs : List NodeId) : Prop := ∀ r ∈ rs, ∀ j, a.Below r j → j ∉ rs → a.Undotted j

namespace Veils

theorem nil (a : Arena) : a.Veils [] := nofun

/-- Where nothing is made, hung up or renamed, and only nodes that are gone leave the list. -/
theorem shrunk (h : a.Veils rs) (hb : ∀ {i j}, b.contains j = true → b.Below i j → a.Below i j)
    (hn : ∀ {j}, b.contains j = true → b.name? j = a.name? j) (hsub : ∀ r ∈ us, r ∈ rs)
    (hgone : ∀ r ∈ rs, b.contains r = true → r ∈ us) : b.Veils us := by
  intro r hr j hbelow hj
  by_cases hlive : b.contains j = true
  · exact (h r (hsub r hr) j (hb hlive hbelow) fun hmem => hj (hgone j hmem hlive)).congr (hn hlive)
  · exact undotted_of_not_contains hlive

theorem congr (h : a.Veils rs) (hl : SameLinks a b) (hn : ∀ j, b.name? j = a.name? j) : b.Veils rs :=
  h.shrunk (fun _ hb => hl.below ▸ hb) (fun {j} _ => hn j) (fun _ hr => hr) fun _ hr _ => hr

theorem alike (h : a.Veils rs) (hal : Alike a b) : b.Veils rs := h.congr hal.sameLinks hal.name?

theorem cut (h : a.Veils rs) (hc : Cut a b id) (hsub : ∀ r ∈ us, r ∈ rs) (hgone : ∀ r ∈ rs, ¬a.Below id r → r ∈ us) :
    b.Veils us :=
  h.shrunk (fun hj hb => (hc.below_rest (hc.not_below hj)).1 hb) (fun hj => hc.name?_rest (hc.not_below hj)) hsub
    fun r hr hlive => hgone r hr (hc.not_below hlive)

theorem detach (h : a.Veils rs) (ha : a.WellFormed) (id : NodeId) : (a.detach id).2.Veils rs :=
  have hd := ha.detached_detach id
  h.shrunk (fun _ hb => (hd.unlinked ha).below_of_below hb) (fun {j} _ => hd.name? j) (fun _ hr => hr) fun _ hr _ => hr

/-- What is made has names without a leading dot, or is a new root. -/
theorem grown (h : a.Veils rs) (ha : a.WellFormed) (hg : Grown a b parent top) (hsub : ∀ r ∈ rs, r ∈ us)
    (hnew : ∀ r ∈ us, a.contains r = true → r ∈ rs) (hfresh : ∀ j, ¬a.contains j = true → j ∉ us → b.Undotted j) :
    b.Veils us := by
  intro r hr j hb hj
  by_cases hold : a.contains j = true
  · rw [hg.below_old ha hold] at hb
    exact (h r (hnew r hr (ha.contains_of_below hb hold)) j hb fun hmem => hj (hsub j hmem)).congr (hg.name?_old hold)
  · exact hfresh j hold hj

/-- Below a node that gets a place in another tree there is nothing that the list does not veil. -/
theorem linked (h : a.Veils rs) (hl : Linked a b p top) (htop : a.parent? top = none) (hmem : top ∈ rs)
    (hn : ∀ j, b.name? j = a.name? j) : b.Veils rs := by
  intro r hr j hb hj
  rcases (hl.below_iff htop).1 hb with hb | ⟨-, hb⟩
  · exact (h r hr j hb hj).congr (hn j)
  · exact (h top hmem j hb hj).congr (hn j)

theorem cleared (h : a.Veils rs) (ha : a.WellFormed) (id : NodeId) (name : String) : (a.cleared id name).Veils rs := by
  unfold Arena.cleared
  split
  · exact h.cut (ha.cut_cutAt _) (fun _ hr => hr) fun _ hr _ => hr
  · exact h

theorem renamed (h : a.Veils rs) (hid : a.contains id = true) (hplain : id ∉ rs → isHiddenName name = false) :
    (a.renamed id name).Veils rs := by
  intro r hr j hb hj
  rw [(sameLinks_renamed a id name).below] at hb
  by_cases hne : j = id
  · subst hne
    exact (undotted_of_name? (name?_renamed hid)).2 (hplain hj)
  · exact (h r hr j hb hj).congr (by rw [Index.name?_renamed_eq a id name hid, if_neg hne])

end Veils

end Veils

end Arena

/-! ## Additions -/

namespace Tree

open Arena

variable {a b c base : Arena} {id j root current : NodeId}

theorem createNode_discreet (ha : a.WellFormed) (ht : t.includeHidden = false) (d : Disk) (p : Path) (metadata : Metadata) :
    ∃ id b, t.createNode a d p metadata = .ok (id, b) ∧ Sprouted a b none id ∧ b.name? id = some p.entryName ∧
      Discreet a b id := by
  obtain ⟨id, b, hinsert, hsprouted, hname, hdiscreet⟩ := ha.discreet_insert p.entryName metadata
  unfold createNode
  split
  · split
    · rename_i found hwalk
      obtain ⟨e, rfl⟩ : ∃ e, walkEntry (scope t.area t.includeHidden) true p.entryName e = found := by
        rw [FileIndex.walk] at hwalk
        cases he : d.find? false p with
        | none =>
          rw [he] at hwalk
          cases hwalk
        | some e =>
          rw [he] at hwalk
          exact ⟨e, WalkOutcome.collected.inj hwalk⟩
      obtain ⟨i, c, hc, hs, hn, hbelow⟩ := ha.undotted_taken (s := scope t.area t.includeHidden) ht p.entryName e
      exact ⟨i, c, hc, hs, hn, hs.discreet hbelow⟩
    · exact ⟨id, b, congrArg _ hinsert, hsprouted, hname, hdiscreet⟩
  · exact ⟨id, b, congrArg _ hinsert, hsprouted, hname, hdiscreet⟩

/-- What is made for a name without a leading dot. -/
theorem makeNode_discreet (ha : a.WellFormed) (ht : t.includeHidden = false) (d : Disk) (p : Path) (metadata : Metadata)
    (way : Path) (hname : isHiddenName name = false) (hlast : rest = [] → p.entryName = name) :
    ∃ id b, t.makeNode a d p metadata name way rest = .ok (id, b) ∧ Sprouted a b none id ∧
      ∀ j, ¬a.contains j = true → b.Undotted j := by
  obtain ⟨id, b, hmake, hs, hn, hd⟩ : ∃ id b, t.makeNode a d p metadata name way rest = .ok (id, b) ∧
      Sprouted a b none id ∧ b.name? id = some name ∧ Discreet a b id := by
    unfold makeNode
    split
    · rename_i hrest
      exact hlast hrest ▸ createNode_discreet ha ht d p metadata
    · obtain ⟨id, b, hinsert, hs, hn, hd⟩ := ha.discreet_insert name (wayMetadata d way)
      exact ⟨id, b, congrArg _ hinsert, hs, hn, hd⟩
  refine ⟨id, b, hmake, hs, fun j hj => ?_⟩
  by_cases hne : j = id
  · subst hne
    exact (undotted_of_name? hn).2 hname
  · exact hd j hj hne

theorem name?_attach (hp : a.contains current = true) (hid : a.contains id = true) (hb : a.attach current id = .ok b)
    (j : NodeId) : b.name? j = a.name? j := by
  rw [attach_eq hp hid, Except.ok.injEq] at hb
  subst hb
  exact Index.name?_attached a current id j

theorem addBelow_discreet (ha : a.WellFormed) (ht : t.includeHidden = false) (hcur : a.contains current = true)
    (hgrows : ∀ j, base.contains j = true → a.contains j = true) (hd : Discreet base a root)
    (hp : ∃ front, p.components = front ++ rest) (hplain : ∀ k ∈ rest, isHiddenName k.text = false)
    (top : Option NodeId) (metadata : Metadata) (way : Path) :
    ∃ r, t.addBelow d p metadata a top current way rest = .ok r ∧ Discreet base r.arena root := by
  induction rest generalizing a top current way with
  | nil => exact ⟨_, rfl, hd⟩
  | cons k rest ih =>
    obtain ⟨front, hfront⟩ := hp
    have hp' : ∃ front, p.components = front ++ rest := ⟨front ++ [k], by simp [hfront]⟩
    have hplain' : ∀ k ∈ rest, isHiddenName k.text = false := fun k hk => hplain k (List.mem_cons_of_mem _ hk)
    cases k with
    | name name =>
      cases hc : a.child? current name with
      | some child =>
        rw [addBelow_found ha hcur hc]
        exact ih ha (contains_of_child? hc) hgrows hd hp' hplain' top _
      | none =>
        have hlast : rest = [] → p.entryName = name := by
          rintro rfl
          exact Path.entryName_of_components hfront
        obtain ⟨child, b, hmake, hs, hnew⟩ := makeNode_discreet ha ht d p metadata (way.child name)
          (hplain _ List.mem_cons_self) hlast
        obtain ⟨c, hattach, hsc⟩ := hs.attach hcur
        rw [addBelow_missing ha hcur hc hmake hattach]
        have hnames := name?_attach (hs.contains_old hcur) hs.contains_top hattach
        refine ih hsc.wellFormed hsc.contains_top (fun j hj => hsc.contains_old (hgrows j hj)) (fun j hj hne => ?_)
          hp' hplain' _ _
        by_cases hja : a.contains j = true
        · exact (hd j hj hne).congr ((hnames j).trans (hs.toGrown.name?_old hja))
        · exact (hnew j hja).congr (hnames j)
    | root | here | up => exact ⟨_, rfl, hd⟩

theorem ensureRoot_discreet (ha : a.WellFormed) (ht : t.includeHidden = false)
    (hroot : ∀ r, t.root = some r → a.contains r = true) (d : Disk) (p : Path) (metadata : Metadata)
    (rest : List Path.Component) : ∃ root new b, t.ensureRoot a d p metadata rest = .ok (root, new, b) ∧
      b.WellFormed ∧ b.contains root = true ∧ (∀ j, a.contains j = true → b.contains j = true) ∧ Discreet a b root := by
  unfold ensureRoot
  cases hr : t.root with
  | some root => exact ⟨root, none, a, rfl, ha, hroot root hr, fun _ => id, .refl a root⟩
  | none =>
    obtain ⟨root, b, hmake, hs, hd⟩ : ∃ root b, (if rest = [] then t.createNode a d p metadata
        else .ok (a.insert (Node.ofName t.area.path.entryName (wayMetadata d t.area.path)))) = .ok (root, b) ∧
        Sprouted a b none root ∧ Discreet a b root := by
      split
      · obtain ⟨root, b, hb, hs, -, hd⟩ := createNode_discreet ha ht d p metadata
        exact ⟨root, b, hb, hs, hd⟩
      · obtain ⟨root, b, hinsert, hs, -, hd⟩ := ha.discreet_insert t.area.path.entryName (wayMetadata d t.area.path)
        exact ⟨root, b, congrArg _ hinsert, hs, hd⟩
    have hl := sameLinks_setAnchor b root t.area.path.parent?
    refine ⟨root, some root, b.modify root (·.setAnchor t.area.path.parent?), ?_, hl.wellFormed hs.wellFormed,
      by rw [hl.contains, hs.contains_top], fun j hj => by rw [hl.contains, hs.contains_old hj],
      hd.congr (name?_setAnchor b root _)⟩
    split at hmake
    · rename_i hrest
      simp only [hrest, if_true, hmake, ok_bind, pure_eq_ok]
    · rename_i hrest
      rw [Except.ok.injEq] at hmake
      simp only [hrest, if_false, hmake, ok_bind, pure_eq_ok]

/-- **An addition to a tree that leaves out what is hidden makes nothing of a name with a leading dot**, but for a root. -/
theorem undotted_of_add (ha : a.WellFormed) (ht : t.includeHidden = false) (hadd : t.add a d p = .ok (made, t', b))
    (hj : ¬a.contains j = true) (hroot : t'.root ≠ some j) : b.Undotted j := by
  by_cases hlive : ∀ r, t.root = some r → a.contains r = true
  · unfold add at hadd
    split at hadd
    · rename_i rest metadata hrest _
      split at hadd
      · cases hadd
        exact undotted_of_not_contains hj
      · rename_i hcond
        have hplain : ∀ k ∈ rest, isHiddenName k.text = false := by
          simp only [hides, ht, Bool.not_false, Bool.true_and, Bool.or_eq_true, not_or, Bool.not_eq_true, List.any_eq_false] at hcond
          exact fun k hk => by simpa using hcond.2 k hk
        obtain ⟨root, new, c, hensure, hc, hrootc, hgrows, hd⟩ := ensureRoot_discreet ha ht hlive d p metadata rest
        obtain ⟨r, hbelow, hdr⟩ := addBelow_discreet (t := { t with root := some root }) (d := d) hc ht hrootc hgrows hd
          ⟨_, Path.below?_eq_some.1 hrest⟩ hplain new metadata t.area.path
        simp only [hensure, ok_bind, hbelow, pure_eq_ok, Except.ok.injEq, Prod.mk.injEq] at hadd
        obtain ⟨-, rfl, rfl⟩ := hadd
        exact (hdr j hj fun he => hroot (congrArg some he.symm)).congr (outcome_name? r j)
    · cases hadd
      exact undotted_of_not_contains hj
  · push Not at hlive
    obtain ⟨r, hr, hstale⟩ := hlive
    obtain ⟨-, -, rfl⟩ := add_of_stale hr hstale hadd
    exact undotted_of_not_contains hj

end Tree

end FileIndex
