/-
What is heard of an operation: what one reads of the feed who has subscribed just before it (`Index.heard`). No
operation looks at the feed, so it does the same whoever listens. A collect comes to the same index with any feed
(`Deaf`), and of edits the effect says what is told.
-/
import FileIndex.Proofs.Index.Feed
import FileIndex.Proofs.Index.Nested

namespace FileIndex.Index

open Arena

variable {α β : Type} {x y m : Index} {d : Disk} {o : Operation} {f : Feed} {w : IndexM α} {k : α → IndexM β}
  {g : Gathered} {areas : List Area} {c : Cancellation} {changes : List IndexChange}

/-! ## Listening -/

/-- The same index with another feed. -/
def withFeed (x : Index) (f : Feed) : Index := { x with feed := f }

/-- A feed with one subscriber, who has read everything. -/
def loneFeed : Feed := Feed.subscribe {} |>.2

/-- What is told during an operation, as the only subscriber reads it. -/
def heard (x : Index) (d : Disk) (o : Operation) : List IndexChange :=
  (((x.withFeed loneFeed).after d o).feed.read 0).1.getD []

theorem heard_eq (h : ((x.withFeed loneFeed).after d o).feed = changes.foldl Feed.publish loneFeed) :
    x.heard d o = changes := by
  have hread : (loneFeed.read 0).1 = some [] := rfl
  rw [heard, h, Feed.read_publishAll hread]
  rfl

theorem Sound.withFeed (h : x.Sound) (f : Feed) : (x.withFeed f).Sound := h.congr rfl rfl

theorem effect_withFeed (x : Index) (f : Feed) (d : Disk) (e : Edit) : e.effect (x.withFeed f) d = e.effect x d := by
  cases e <;> rfl

/-! ## Work that does not look at the feed -/

/-- Whether work does the same with any feed, and tells it nothing. -/
def Deaf (w : IndexM α) : Prop :=
  ∀ (x : Index) (f : Feed), (x.withFeed f).perform w = ((x.perform w).1, (x.perform w).2.withFeed f)

theorem Deaf.pure (r : α) : Deaf (pure r : IndexM α) := fun _ _ => rfl

theorem Deaf.bind (hw : Deaf w) (hk : ∀ r, Deaf (k r)) : Deaf (w >>= k) := by
  intro x f
  rw [perform_bind, perform_bind, hw x f]
  generalize x.perform w = r
  obtain ⟨r | r, y⟩ := r
  · rfl
  · exact hk r y f

/-- Work that starts with a look at the index. -/
theorem deaf_get {k : Index → IndexM β}
    (hk : ∀ (x : Index) (f : Feed), (x.withFeed f).perform (k (x.withFeed f)) = ((x.perform (k x)).1, (x.perform (k x)).2.withFeed f)) :
    Deaf (do k (← get)) := fun x f => by
  rw [perform_bind, perform_bind]
  exact hk x f

theorem deaf_modify {g : Index → Index} (hg : ∀ (x : Index) (f : Feed), g (x.withFeed f) = (g x).withFeed f) :
    Deaf (modify g : IndexM Unit) := fun x f => by
  rw [perform_modify, perform_modify, hg]

theorem deaf_watchTree (d : Disk) (t : Tree) : Deaf (watchTree d t) := by
  refine deaf_get fun x f => ?_
  obtain ⟨arena, trees, includeHidden, size, counter, feed, isWatching, started⟩ := x
  cases isWatching with
  | false => rfl
  | true =>
    cases hroot : t.root with
    | none => rfl
    | some root =>
      simp only [withFeed, perform_bind, perform_lift]
      cases arena.get root with
      | error fault => rfl
      | ok n =>
        cases hw : Watcher.start? d t.area n.isDirectory started
        all_goals
          simp only [hw]
          rfl

theorem deaf_build (d : Disk) (found : List (Area × Option Collected)) : Deaf (build d found) := by
  induction found with
  | nil => exact .pure []
  | cons entry found ih =>
    obtain ⟨area, entry⟩ := entry
    refine deaf_get fun x f => ?_
    change (x.withFeed f).perform (liftM (Tree.ofCollected area x.includeHidden entry x.arena) >>= _) = _
    rw [perform_bind, perform_bind, perform_lift, perform_lift]
    cases Tree.ofCollected area x.includeHidden entry x.arena with
    | error fault => rfl
    | ok made =>
      have hrest : Deaf (do return (← watchTree d made.1) :: (← build d found)) :=
        (deaf_watchTree d made.1).bind fun t => ih.bind fun ts => .pure (t :: ts)
      exact hrest (x.withArena made.2) f

/-- What a collect does once the trees that do not stay are released. -/
theorem deaf_gatherRest (d : Disk) (wanted : List Area) (hidden : Bool) (c : Cancellation) (kept disposed : List Tree)
    (missing : List Area) : Deaf (match walkAll d hidden c missing with
      | none => do
        modify (·.withTrees kept)
        return { complete := false, changed := !disposed.isEmpty }
      | some found => do
        let built ← build d found
        modify (·.withTrees (inOrder wanted (kept ++ built)))
        return { complete := true, changed := !disposed.isEmpty || !built.isEmpty } : IndexM Gathered) := by
  cases walkAll d hidden c missing with
  | none => exact (deaf_modify fun _ _ => rfl).bind fun _ => .pure _
  | some found =>
    exact (deaf_build d found).bind fun _ => (deaf_modify fun _ _ => rfl).bind fun _ => .pure _

theorem deaf_gather (d : Disk) (areas : List Area) (c : Cancellation) : Deaf (gather d areas c) := by
  refine (deaf_modify fun _ _ => rfl).bind fun _ => deaf_get fun x f => ?_
  exact deaf_gatherRest d (Area.dedup areas) x.includeHidden c (x.trees.partition (stays (Area.dedup areas))).1
    (x.trees.partition (stays (Area.dedup areas))).2 _
    { x with trees := [], arena := releaseTrees x.arena (x.trees.partition (stays (Area.dedup areas))).2 } f

theorem deaf_adopt (p c : Nat) : Deaf (adopt p c) := by
  refine deaf_get fun x f => ?_
  obtain ⟨arena, trees, includeHidden, size, counter, feed, isWatching, started⟩ := x
  simp only [withFeed]
  split
  · rename_i parent child _ _
    split
    · rfl
    · split
      · rename_i parentRoot childRoot _ _
        simp only [perform_bind, perform_lift]
        cases arena.get childRoot with
        | error fault => rfl
        | ok node =>
          dsimp only
          cases Tree.findChild arena parentRoot node.name with
          | error fault => rfl
          | ok found =>
            cases found with
            | none => rfl
            | some shallow =>
              dsimp only
              split
              · rfl
              · split
                · rfl
                · simp only [perform_bind, perform_set, perform_lift]
                  cases ((arena.detach shallow).2.release shallow).2.attach parentRoot childRoot <;> rfl
      · rfl
  · rfl

/-! ## Collects -/

theorem mergeSpares_withFeed (x : Index) (f : Feed) (rest : List (Nat × Nat)) :
    MergeSpares (x.withFeed f) rest ↔ MergeSpares x rest := by
  induction rest generalizing x with
  | nil => exact .rfl
  | cons pc rest ih =>
    obtain ⟨p, c⟩ := pc
    rw [MergeSpares, MergeSpares, deaf_adopt p c x f, ih]
    exact .rfl

theorem collectSpares_withFeed (x : Index) (f : Feed) :
    CollectSpares (x.withFeed f) d areas c ↔ CollectSpares x d areas c := by
  unfold CollectSpares
  rw [deaf_gather d areas c x f]
  generalize x.perform (gather d areas c) = r
  obtain ⟨fault | g, y⟩ := r
  · exact .rfl
  · exact imp_congr_right fun _ => mergeSpares_withFeed y f _

/-- **What is heard of a collect**: that everything is to be started anew, if any tree was released or built. -/
theorem heard_collect (h : x.Sound) (hs : CollectSpares x d areas c) (hg : Goes d x areas c g y m z) :
    x.heard d (.collect areas c) = if g.changed then [.reset] else [] := by
  obtain ⟨g', y', m', hgoes⟩ := exists_goes (h.withFeed loneFeed) ((collectSpares_withFeed x loneFeed).2 hs)
  have hgather := hgoes.gathered
  rw [deaf_gather d areas c x loneFeed, hg.gathered] at hgather
  obtain rfl : g = g' := by
    have := congrArg Prod.fst hgather
    exact Except.ok.inj this
  refine heard_eq (hgoes.feed.trans ?_)
  split <;> rfl

end FileIndex.Index
