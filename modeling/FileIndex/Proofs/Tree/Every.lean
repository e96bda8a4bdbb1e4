/-
What trees keep of the properties of all nodes. Whatever the root of a tree, its operations leave every node with what
lasts. The slots of all that is marked as taken out are emptied before anything else is done, and so nothing in the arena
has the mark, while what was told of nodes on their way out has it (`takeOut_told`).
-/
import FileIndex.Proofs.Arena.Every
import FileIndex.Proofs.Tree.Change

namespace FileIndex.Tree

open Arena

variable {P : Node → Prop} {a b : Arena} {t t' : Tree} {d : Disk} {p old new : Path} {metadata : Metadata}
  {id root : NodeId} {made top : Option NodeId} {current : NodeId} {way : Path} {rest : List Path.Component}
  {directory : Option Path} {added : Added} {area : Area} {includeHidden on : Bool} {found : Option Collected}

/-! ## Adding -/

theorem every_createNode (hP : Node.Lasting P) (h : a.Every P) (hmade : t.createNode a d p metadata = .ok (id, b)) :
    b.Every P := by
  have halone : (a.insert (Node.ofName p.entryName metadata)).2.Every P := h.insert (hP.ofName _ metadata)
  unfold createNode at hmade
  dsimp only at hmade
  split at hmade
  · split at hmade
    · exact h.insertCollected hP hmade
    · rwa [Except.ok.inj hmade] at halone
  · rwa [Except.ok.inj hmade] at halone

theorem every_ensureRoot (hP : Node.Lasting P) (h : a.Every P)
    (hroot : t.ensureRoot a d p metadata rest = .ok (root, made, b)) : b.Every P := by
  unfold ensureRoot at hroot
  split at hroot
  · cases hroot
    exact h
  · have hanchor : ∀ {c : Arena} {id : NodeId} {q : Option Path}, c.Every P → (c.modify id (·.setAnchor q)).Every P :=
      fun {c id q} hc => by
        refine hc.modifyAkin hP ?_ id
        exact fun _ => ⟨rfl, rfl, rfl, rfl⟩
    split at hroot
    · obtain ⟨⟨id, c⟩, hc, hroot⟩ := bind_eq_ok.1 hroot
      obtain ⟨-, -, rfl⟩ : id = root ∧ some id = made ∧ _ = b := by simpa using hroot
      exact hanchor (every_createNode hP h hc)
    · obtain ⟨-, -, rfl⟩ : _ = root ∧ some _ = made ∧ _ = b := by simpa using hroot
      exact hanchor (h.insert (hP.ofName _ _))

theorem every_addBelow (hP : Node.Lasting P) (h : a.Every P)
    (hadd : t.addBelow d p metadata a top current way rest = .ok added) : added.arena.Every P := by
  induction rest generalizing a top current way with
  | nil =>
    cases hadd
    exact h
  | cons c rest ih =>
    cases c with
    | name n =>
      rw [addBelow] at hadd
      obtain ⟨child, -, hadd⟩ := bind_eq_ok.1 hadd
      cases child with
      | some child => exact ih h hadd
      | none =>
        dsimp only at hadd
        split at hadd
        · obtain ⟨⟨child, c⟩, hc, hadd⟩ := bind_eq_ok.1 hadd
          obtain ⟨e, he, hadd⟩ := bind_eq_ok.1 hadd
          exact ih ((every_createNode hP h hc).attach hP he) hadd
        · rw [pure_bind] at hadd
          obtain ⟨e, he, hadd⟩ := bind_eq_ok.1 hadd
          exact ih ((h.insert (hP.ofName _ _)).attach hP he) hadd
    | root | here | up =>
      cases hadd
      exact h

theorem every_outcome (hP : Node.Lasting P) (h : added.arena.Every P) : added.outcome.2.Every P := by
  unfold Added.outcome
  split
  · refine h.modifyAll (fun n hn => hP.akin n _ ?_ hn) _
    exact ⟨rfl, rfl, rfl, rfl⟩
  · exact h

theorem every_add (hP : Node.Lasting P) (h : a.Every P) (hadd : t.add a d p = .ok (made, t', b)) : b.Every P := by
  unfold add at hadd
  split at hadd
  · split at hadd
    · cases hadd
      exact h
    · obtain ⟨⟨root, made, c⟩, hc, hadd⟩ := bind_eq_ok.1 hadd
      obtain ⟨added, ha, hadd⟩ := bind_eq_ok.1 hadd
      cases hadd
      exact every_outcome hP (every_addBelow hP (every_ensureRoot hP h hc) ha)
  · cases hadd
    exact h

/-! ## Changing -/

theorem every_clearName {name : String} (hP : Node.Lasting P) (h : a.Every P) (hclear : clearName a id name = .ok b) :
    b.Every P := by
  unfold clearName at hclear
  obtain ⟨n, -, hclear⟩ := bind_eq_ok.1 hclear
  split at hclear
  · cases hclear
    exact h
  · obtain ⟨sibling, -, hclear⟩ := bind_eq_ok.1 hclear
    split at hclear
    · cases hclear
      split
      · exact h
      · exact (h.detach hP _).release _
    · cases hclear
      exact h

theorem every_rename (hP : Node.Lasting P) (h : a.Every P) (hren : t.rename a old new = .ok (made, b)) : b.Every P := by
  obtain ⟨-, ⟨-, -, rfl⟩ | ⟨-, id, c, -, hc, -, rfl⟩⟩ := rename_cases hren
  · exact h
  · refine Every.alike hP ?_ (alike_forgetPaths _ _)
    exact (every_clearName hP h hc).modify (fun n hn => hP.rename n _ hn) _

theorem every_refresh (hP : Node.Lasting P) (h : a.Every P) (href : t.refresh a d p = .ok (made, b)) : b.Every P := by
  unfold refresh at href
  obtain ⟨o, -, href⟩ := bind_eq_ok.1 href
  split at href
  · obtain ⟨c, hc, href⟩ := bind_eq_ok.1 href
    cases href
    refine h.change (fun n hn => hP.akin n _ ?_ hn) hc
    exact ⟨rfl, rfl, rfl, rfl⟩
  · cases href
    exact h

theorem every_setPinned (hP : Node.Lasting P) (h : a.Every P) (hpin : t.setPinned a p on = .ok (made, b)) :
    b.Every P := by
  unfold setPinned at hpin
  obtain ⟨o, -, hpin⟩ := bind_eq_ok.1 hpin
  split at hpin
  · obtain ⟨c, hc, hpin⟩ := bind_eq_ok.1 hpin
    cases hpin
    refine h.change (fun n hn => hP.akin n _ ?_ hn) hc
    exact ⟨rfl, rfl, rfl, rfl⟩
  · cases hpin
    exact h

/-! ## Building and releasing -/

theorem every_ofCollected (hP : Node.Lasting P) (h : a.Every P)
    (hof : ofCollected area includeHidden found a = .ok (t, b)) : b.Every P := by
  unfold ofCollected at hof
  split at hof
  · cases hof
    exact h
  · obtain ⟨⟨root, c⟩, hc, hof⟩ := map_eq_ok.1 hof
    cases hof
    refine (h.insertCollected hP hc).modifyAkin hP ?_ root
    exact fun _ => ⟨rfl, rfl, rfl, rfl⟩

theorem every_release (hP : Node.Lasting P) (h : a.Every P) (t : Tree) : (t.release a).2.2.Every P := by
  unfold release
  split
  · exact h
  · exact (h.detach hP _).release _

/-! ## Taking out -/

theorem takeOut_eq_ok (htake : takeOut a id directory = .ok b) :
    b = ((a.detach id).2.modify id (·.setAnchor directory)).modifyAll
      (((a.detach id).2.modify id (·.setAnchor directory)).subtree id) Node.taken := by
  unfold takeOut at htake
  split at htake <;> cases htake
  rfl

/-- What is taken out of a tree has its mark where it is told, and the slots of all that has the mark are emptied. -/
theorem takeOut_told (hP : Node.Lasting P) (h : a.Every P) (htake : takeOut a id directory = .ok b) :
    (∀ s ∈ (b.snapshots (b.subtree id)).1, s.Of (Node.Taken P)) ∧
      ((b.snapshots (b.subtree id)).2.release id).2.Every P := by
  have hc : ((a.detach id).2.modify id (·.setAnchor directory)).Every P := by
    refine (h.detach hP id).modifyAkin hP ?_ id
    exact fun _ => ⟨rfl, rfl, rfl, rfl⟩
  obtain rfl := takeOut_eq_ok htake
  generalize (a.detach id).2.modify id (·.setAnchor directory) = c at hc
  have hget : ∀ j, (c.modifyAll (c.subtree id) Node.taken).get? j =
      if j ∈ c.subtree id then (c.get? j).map Node.taken else c.get? j := by
    refine get?_modifyAll ?_ (c.subtree id) c
    exact fun _ => rfl
  have hlinks : SameLinks c (c.modifyAll (c.subtree id) Node.taken) := by
    apply sameLinks_modifyAll <;> exact fun _ => rfl
  rw [hlinks.subtree]
  generalize c.modifyAll (c.subtree id) Node.taken = b at hget hlinks
  have hal := alike_snapshots b (c.subtree id)
  constructor
  · intro s hs
    obtain ⟨j, hj, n, m, p, hm, hakin, rfl⟩ := exists_of_mem_snapshots hs
    rw [hget, if_pos hj] at hm
    obtain ⟨l, hl, rfl⟩ := Option.map_eq_some_iff.1 hm
    obtain ⟨k, hk, rfl⟩ := hakin.exists_taken
    exact ⟨j, k.taken, p, ⟨k, hP.akin l k hk (hc j l hl), rfl⟩, rfl⟩
  · intro j n hn
    -- What is left in its slot is not led to by the children lists, and so it has no mark.
    have hleft : ¬(b.snapshots (c.subtree id)).2.LeadsTo id j := fun hl => by
      rw [Arena.release, get?_releaseAll_of_leadsTo _ [id] List.mem_cons_self hl] at hn
      cases hn
    rw [Arena.release, get?_releaseAll_of_not_leadsTo _ [id] fun s hs => List.mem_singleton.1 hs ▸ hleft] at hn
    obtain ⟨m, hm, hakin⟩ := hal.akin hn
    have hout : j ∉ c.subtree id := fun hj => hleft ?_
    · rw [hget, if_neg hout] at hm
      exact hP.akin m n hakin (hc j m hm)
    · rw [← (hlinks.trans hal.sameLinks).subtree] at hj
      exact leadsTo_of_mem_subtreeTo hj

end FileIndex.Tree
