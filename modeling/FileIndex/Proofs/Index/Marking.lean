/-
The mark of what was taken out. No node of an index has it, nothing that is found, and nothing that is told to be there
(`ShowsUnmarked`); what is told to be removed has it (`TellsMarked`), but for what a rename goes over: that is told to be
removed as it was. So what is told of an operation is marked as it has to be exactly if it is no such rename
(`throughout_marks`).
-/
import FileIndex.Proofs.Index.Telling

namespace FileIndex

open Arena

variable {P : Node → Prop} {x : Index} {d : Disk} {s : Snapshot} {root : Option Path} {old new : Path} {o : Operation}

/-- Whether a node is without the mark of what was taken out. -/
def Node.Unmarked (n : Node) : Prop := n.flags.removed = false

theorem Node.lasting_unmarked : Node.Lasting Node.Unmarked :=
  ⟨fun _ _ => rfl, fun _ _ h => h, fun _ _ h hn => h.removed.trans hn⟩

theorem Snapshot.Of.unmarked (h : s.Of Node.Unmarked) : s.flags.removed = false := by
  obtain ⟨id, n, p, hn, rfl⟩ := h
  exact hn

theorem Snapshot.Of.marked (h : s.Of (Node.Taken P)) : s.flags.removed = true := by
  obtain ⟨id, n, p, ⟨m, -, rfl⟩, rfl⟩ := h
  rfl

namespace Index

/-! ## Where the mark is -/

/-- Whether no node and nothing that a search finds has the mark. -/
structure Unmarked (x : Index) : Prop where
  nodes : ∀ id n, x.arena.get? id = some n → n.flags.removed = false
  found : ∀ queries c results, (x.perform (multiSearch queries c)).1 = .ok (some results) →
    ∀ found ∈ results, ∀ s ∈ found, s.flags.removed = false

/-- Whether nothing has the mark before an operation and behind it, and nothing that is told of but removals. -/
structure ShowsUnmarked (x : Index) (d : Disk) (o : Operation) : Prop where
  before : x.Unmarked
  behind : (x.after d o).Unmarked
  told : ∀ change ∈ x.heard d o, (∀ nodes, change ≠ .remove nodes) → ∀ s ∈ change.nodes, s.flags.removed = false

/-- Whether all that an operation tells to be removed has the mark. -/
def TellsMarked (x : Index) (d : Disk) (o : Operation) : Prop :=
  ∀ nodes, .remove nodes ∈ x.heard d o → ∀ s ∈ nodes, s.flags.removed = true

theorem unmarked_of_every (h : x.arena.Every Node.Unmarked) : x.Unmarked :=
  ⟨h, fun _ _ _ hrun _ hfound _ hs => (of_mem_multiSearch Node.lasting_unmarked h hrun hfound hs).unmarked⟩

theorem Holding.showsUnmarked (h : x.Holding Node.Unmarked True) : x.ShowsUnmarked d o where
  before := unmarked_of_every h.nodes
  behind := unmarked_of_every (h.after Node.lasting_unmarked fun _ => trivial).nodes
  told := fun change hc hno s hs => by
    have htold := told_of_mem_heard Node.lasting_unmarked h.nodes hc
    cases change with
    | remove nodes => exact absurd rfl (hno nodes)
    | reset => cases hs
    | add nodes | update nodes | rename nodes old => exact (htold s hs).unmarked

theorem tellsMarked_of_not_goesOver (h : x.arena.Every Node.Unmarked) (hno : ¬x.GoesOver o) : x.TellsMarked d o := by
  intro nodes hc s hs
  rcases told_of_mem_heard Node.lasting_unmarked h hc with htaken | ⟨hover, -⟩
  · exact (htaken s hs).marked
  · exact absurd hover hno

/-! ## Renames over another entry -/

/-- A rename that has something to replace tells first that this is removed. -/
theorem feed_renamePath_replacing {i : Nat} {t : Tree} {id : NodeId} {source target : Option NodeId} {b c : Arena}
    {replaced : List Snapshot} (ho : x.owner? root old = some (i, t)) (hs : t.locate x.arena old = .ok source)
    (he : t.locate x.arena new = .ok target) (hrun : x.perform (replacedBy source target) = (.ok replaced, x.withArena b))
    (hsome : replaced.isEmpty = false) (hren : t.rename b old new = .ok (some id, c)) :
    (x.perform (renamePath d root old new)).2.feed =
      [.remove replaced, .rename (c.snapshots (c.subtree id)).1 old].foldl Feed.publish x.feed := by
  simp only [renamePath, perform_bind, perform_get, ho, perform_lift, hs, he, hrun, withArena, hren, perform_modify, hsome]
  rfl

/-- In an arena in order, a rename over another entry tells that this is removed as it was. -/
theorem feed_renamePath (h : x.arena.WellFormed) (hover : x.Overwrites root old new) : ∃ e nodes,
    (x.arena.snapshots (x.arena.subtree e)).1 ≠ [] ∧ (x.perform (renamePath d root old new)).2.feed =
      [.remove (x.arena.snapshots (x.arena.subtree e)).1, .rename nodes old].foldl Feed.publish x.feed := by
  obtain ⟨i, t, s, e, ho, hs, he, hne, hlive, helive, hmove, harea⟩ := hover
  obtain ⟨snap, hsnap, -⟩ := h.exists_head?_snapshots helive
  have hsome : (x.arena.snapshots (x.arena.subtree e)).1 ≠ [] := fun hnone => by
    rw [hnone] at hsnap
    cases hsnap
  have hal := alike_snapshots x.arena (x.arena.subtree e)
  have hrun : x.perform (replacedBy (some s) (some e)) = (.ok (x.arena.snapshots (x.arena.subtree e)).1,
      x.withArena (x.arena.snapshots (x.arena.subtree e)).2) := by
    rw [replacedBy, if_neg hne]
    rfl
  obtain ⟨c, hren⟩ : ∃ c, t.rename (x.arena.snapshots (x.arena.subtree e)).2 old new = .ok (some s, c) := by
    have hclear : Tree.clearName (x.arena.snapshots (x.arena.subtree e)).2 s new.entryName = .ok _ :=
      Tree.clearName_eq (hal.sameLinks.wellFormed h) (by rw [hal.contains, hlive])
    simp only [Tree.rename, hmove, harea, Tree.locate_alike hal, hs, hclear, ok_bind, Bool.not_true, Bool.false_eq_true,
      if_false]
    exact ⟨_, rfl⟩
  exact ⟨e, _, hsome, feed_renamePath_replacing ho hs he hrun (List.isEmpty_eq_false_iff.2 hsome) hren⟩

/-- The entry that a rename goes over is heard to be removed as it was. -/
theorem heard_of_goesOver (h : x.arena.WellFormed) (hover : x.GoesOver o) : ∃ e nodes old,
    (x.arena.snapshots (x.arena.subtree e)).1 ≠ [] ∧
      x.heard d o = [.remove (x.arena.snapshots (x.arena.subtree e)).1, .rename nodes old] := by
  cases o with
  | edit k =>
    cases k with
    | rename root old new =>
      obtain ⟨e, nodes, hsome, hfeed⟩ := feed_renamePath (x := x.withFeed loneFeed) (d := d) h hover
      refine ⟨e, nodes, old, hsome, heard_eq ?_⟩
      rw [after, Operation.work, Edit.work, perform_discard]
      exact hfeed
    | event r change =>
      cases change with
      | renamed old new =>
        have hnames : (x.withFeed loneFeed).Overwrites (some r) old new := hover
        obtain ⟨e, nodes, hsome, hfeed⟩ := feed_renamePath (x := x.withFeed loneFeed) (d := d) h hnames
        refine ⟨e, nodes, old, hsome, heard_eq ?_⟩
        obtain ⟨i, t, -, -, ho, -⟩ := hnames
        rw [after, Operation.work, perform_event_renamed ho]
        exact hfeed
      | created | deleted | changed => exact absurd hover id
    | add | remove | refresh | pin => exact absurd hover id
  | collect | search | live | watch => exact absurd hover id

theorem not_tellsMarked_of_goesOver (hx : x.arena.WellFormed) (h : x.arena.Every Node.Unmarked) (hover : x.GoesOver o) :
    ¬x.TellsMarked d o := by
  obtain ⟨e, nodes, old, hsome, hheard⟩ := heard_of_goesOver (d := d) hx hover
  obtain ⟨s, hs⟩ := List.exists_mem_of_ne_nil _ hsome
  intro hmarked
  have hmark := hmarked _ (hheard ▸ List.mem_cons_self) s hs
  rw [(h.of_mem_snapshots Node.lasting_unmarked hs).unmarked] at hmark
  cases hmark

/-! ## Runs -/

theorem holding_ofSettings (s : Settings) (P : Node → Prop) (R : Prop) : (ofSettings s).Holding P R where
  nodes := fun _ _ hn => absurd hn (by simp [ofSettings, Arena.get?])
  told := fun _ hu => absurd hu List.not_mem_nil

/-- **In every run the mark is on nothing but what is told to be removed, and on all of that, unless an operation is a
rename over another entry**: then what this replaces is told to be removed without the mark. -/
theorem throughout_marks (s : Settings) (run : List (Disk × Operation)) :
    Throughout (fun x d o => x.ShowsUnmarked d o ∧ (¬x.GoesOver o → x.TellsMarked d o)) (ofSettings s) run ∧
      (Throughout Returns (ofSettings s) run →
        Throughout (fun x d o => x.GoesOver o → ¬x.TellsMarked d o) (ofSettings s) run) := by
  have hstart := holding_ofSettings s Node.Unmarked True
  have hkeep : ∀ (x : Index) (i : Disk × Operation), x.Holding Node.Unmarked True →
      (step x i).Holding Node.Unmarked True := fun x i hx => hx.after Node.lasting_unmarked fun _ => trivial
  constructor
  · exact along_of_invariant hstart (fun x i hx => ⟨hx.showsUnmarked, tellsMarked_of_not_goesOver hx.nodes⟩) hkeep
  · intro hr
    refine Along.of_along (I := fun x => x.arena.WellFormed ∧ x.Holding Node.Unmarked True) hr
      ⟨(sound_ofSettings s).wellFormed, hstart⟩ ?_ ?_
    · exact fun x i hx _ hover => not_tellsMarked_of_goesOver hx.1 hx.2.nodes hover
    · exact fun x i hx hi => ⟨(maintains_after hx.1 hi).wellFormed, hkeep x i hx.2⟩

/-! ## A file that takes the place of another -/

theorem goesOver_filled : filledIndex.GoesOver (.edit (.rename none ⟨"a/x"⟩ ⟨"a/y"⟩)) :=
  ⟨0, { area := ⟨⟨"a"⟩, true⟩, root := some ⟨0⟩, includeHidden := true }, ⟨1⟩, ⟨2⟩, by cbv, by cbv, by cbv, by decide,
    rfl, rfl, by decide +kernel, by decide +kernel⟩

/-- The directory is collected, and one of its files gets the name of the other. -/
def overwritingRun : List (Disk × Operation) :=
  [(rootDisk filled, .collect [⟨⟨"a"⟩, true⟩] {}), (rootDisk filled, .edit (.rename none ⟨"a/x"⟩ ⟨"a/y"⟩))]

theorem throughout_marks_overwriting : Throughout Returns (ofSettings {}) overwritingRun ∧
    filledIndex.ShowsUnmarked (rootDisk filled) (.edit (.rename none ⟨"a/x"⟩ ⟨"a/y"⟩)) ∧
      ¬filledIndex.TellsMarked (rootDisk filled) (.edit (.rename none ⟨"a/x"⟩ ⟨"a/y"⟩)) := by
  have hr : Throughout Returns (ofSettings {}) overwritingRun := ⟨returns_collect_filled.1, trivial, trivial⟩
  obtain ⟨hshows, hover⟩ := throughout_marks {} overwritingRun
  have hover := hover hr
  simp only [overwritingRun, Throughout, Along, step, after_collect_filled] at hshows hover
  exact ⟨hr, hshows.2.1.1, hover.2.1 goesOver_filled⟩

/-- **Not every run tells with the mark what is removed**: a file that another one replaces has none. -/
theorem not_forall_tellsMarked : ¬∀ s run, Throughout TellsMarked (ofSettings s) run := by
  intro h
  have hwf := wellFormed_behind (sound_ofSettings {}).wellFormed returns_collect_filled
  have hmarks := ((holding_ofSettings {} Node.Unmarked True).after Node.lasting_unmarked (d := rootDisk filled)
    (o := .collect [⟨⟨"a"⟩, true⟩] {}) fun _ => trivial).nodes
  have hrun := h {} overwritingRun
  simp only [overwritingRun, behind, List.foldl_cons, List.foldl_nil, Throughout, Along, step,
    after_collect_filled] at hwf hmarks hrun
  exact not_tellsMarked_of_goesOver hwf hmarks goesOver_filled hrun.2.1

end Index

end FileIndex
