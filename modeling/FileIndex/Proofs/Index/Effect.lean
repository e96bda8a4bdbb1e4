/-
Edits of a sound index. Whatever is asked for comes to one of a few effects (`Effect`), which the pure look-ups
foretell (`Edit.effect`): nothing, growth in one place, a cut, a new name or a change in place. What is claimed
of edits is proved effect by effect.
-/
import FileIndex.Proofs.Index.Mutation

namespace FileIndex

open Arena

/-- An edit of an index: a request for one path, or a change that a watcher reported for the area of a root. -/
inductive Edit where
  | add (root : Option Path) (p : Path)
  | remove (root : Option Path) (p : Path)
  | rename (root : Option Path) (old new : Path)
  | refresh (root : Option Path) (p : Path)
  | pin (p : Path) (on : Bool)
  | event (root : Path) (c : PathChange)

/-- What an edit does on a disk. -/
def Edit.work (d : Disk) : Edit → IndexM Unit
  | .add root p => do let _ ← Index.addPath d root p
  | .remove root p => do let _ ← Index.removePath root p
  | .rename root old new => do let _ ← Index.renamePath d root old new
  | .refresh root p => do let _ ← Index.refreshPath d root p
  | .pin p on => do let _ ← Index.setPinned p on
  | .event root c => Index.applyChange d root c

/-- What an edit can do to an index. -/
inductive Effect where
  | idle
  /-- A rename between two directories: the answer is a fault. -/
  | refuse
  /-- The tree of a number becomes another, in an arena with more nodes; the topmost of them is the answer, if
  there is one. -/
  | grow (i : Nat) (t : Tree) (b : Arena) (made : Option NodeId)
  /-- A node of a tree goes with all below it. -/
  | cut (t : Tree) (id : NodeId)
  /-- A node gets another name; the nodes are those that it is known to replace. -/
  | rename (id : NodeId) (name : String) (old : Path) (replaced : List NodeId)
  | update (id : NodeId) (f : Node → Node)

namespace Effect

/-- Whether an edit with this effect has an answer. -/
def answered : Effect → Bool
  | idle | refuse | grow _ _ _ none => false
  | _ => true

/-- An effect if it has an answer, or else another. -/
def orElse (e f : Effect) : Effect := if e.answered then e else f

end Effect

namespace Index

/-! ## The effect that is foretold -/

/-- The effect of adding a path. -/
def addEffect (x : Index) (d : Disk) (root : Option Path) (p : Path) : Effect :=
  match x.owner? root p with
  | none => .idle
  | some (i, t) =>
    match t.add x.arena d p with
    | .ok (made, t, b) => .grow i t b made
    | .error _ => .idle

/-- The effect of removing a path. -/
def removeEffect (x : Index) (root : Option Path) (p : Path) : Effect :=
  match x.owner? root p with
  | none => .idle
  | some (_, t) => (t.located? x.arena p).elim .idle (.cut t)

/-- The effect of renaming a path. -/
def renameEffect (x : Index) (d : Disk) (root : Option Path) (old new : Path) : Effect :=
  match x.owner? root old with
  | none => .idle
  | some (_, t) =>
    if old.sameParent new then
      match t.renames? x.arena old new with
      | some id => .rename id new.entryName old (replacedNodes t x.arena old new)
      | none => x.addEffect d root new
    else .refuse

/-- The effect of reading a path again. -/
def refreshEffect (x : Index) (d : Disk) (root : Option Path) (p : Path) : Effect :=
  match x.owner? root p with
  | none => .idle
  | some (_, t) =>
    match t.located? x.arena p, d.metadata? p with
    | some id, some metadata => .update id fun n => { n with metadata }
    | _, _ => .idle

/-- The effect of pinning a path or letting it go. -/
def pinEffect (x : Index) (p : Path) (on : Bool) : Effect :=
  match x.owner? none p with
  | none => .idle
  | some (_, t) =>
    (t.located? x.arena p).elim .idle fun id =>
      .update id fun n => { n with flags := { n.flags with pinned := on } }

/-- The effect of a reported change. -/
def eventEffect (x : Index) (d : Disk) (r : Path) (c : PathChange) : Effect :=
  if (x.owner? (some r) r).isNone then .idle
  else
    match c with
    | .created p =>
      ((x.addEffect d (some r) p).orElse (x.refreshEffect d (some r) p)).orElse (x.addEffect d (some r) p)
    | .deleted p => x.removeEffect (some r) p
    | .renamed old new => x.renameEffect d (some r) old new
    | .changed p => (x.refreshEffect d (some r) p).orElse (x.addEffect d (some r) p)

end Index

/-- The effect of an edit. -/
def Edit.effect (x : Index) (d : Disk) : Edit → Effect
  | .add root p => x.addEffect d root p
  | .remove root p => x.removeEffect root p
  | .rename root old new => x.renameEffect d root old new
  | .refresh root p => x.refreshEffect d root p
  | .pin p on => x.pinEffect p on
  | .event r c => x.eventEffect d r c

namespace Index

variable {x y z : Index} {t t' : Tree} {i : Nat} {root : Option Path} {r p old new : Path} {d : Disk}
  {a b : Arena} {id top : NodeId} {made : Option NodeId} {e : Effect}

/-! ## Which effects there are -/

section Kinds

variable {P : Effect → Prop}

theorem orElse_of {f : Effect} (he : P e) (hf : P f) : P (e.orElse f) := by
  unfold Effect.orElse
  split
  · exact he
  · exact hf

/-- An addition does nothing, or makes of a tree what adding a path makes of it. -/
theorem addEffect_of (idle : P .idle) (grow : ∀ i t t' b made, x.trees[i]? = some t →
    t.add x.arena d p = .ok (made, t', b) → P (.grow i t' b made)) : P (x.addEffect d root p) := by
  unfold addEffect
  split
  · exact idle
  · rename_i ho
    split
    · rename_i hadd
      exact grow _ _ _ _ _ (get_of_owner? ho) hadd
    · exact idle

theorem removeEffect_of (idle : P .idle) (cut : ∀ t id, P (.cut t id)) : P (x.removeEffect root p) := by
  unfold removeEffect
  split
  · exact idle
  · rename_i t _
    cases t.located? x.arena p with
    | none => exact idle
    | some id => exact cut t id

theorem refreshEffect_of (idle : P .idle) (update : ∀ id f, P (.update id f)) : P (x.refreshEffect d root p) := by
  unfold refreshEffect
  split
  · exact idle
  · split
    · exact update _ _
    · exact idle

theorem pinEffect_of {on : Bool} (idle : P .idle) (update : ∀ id f, P (.update id f)) : P (x.pinEffect p on) := by
  unfold pinEffect
  split
  · exact idle
  · rename_i t _
    cases t.located? x.arena p with
    | none => exact idle
    | some id => exact update id _

/-- A rename that finds nothing to rename is an addition. -/
theorem renameEffect_of (idle : P .idle) (refuse : P .refuse)
    (rename : ∀ id name replaced, P (.rename id name old replaced)) (add : P (x.addEffect d root new)) :
    P (x.renameEffect d root old new) := by
  unfold renameEffect
  split
  · exact idle
  · split
    · split
      · exact rename _ _ _
      · exact add
    · exact refuse

/-- A reported change does what the edits do that it is taken for. -/
theorem eventEffect_of {c : PathChange} (idle : P .idle) (add : ∀ p, P (x.addEffect d (some r) p))
    (refresh : ∀ p, P (x.refreshEffect d (some r) p)) (remove : ∀ p, c = .deleted p → P (x.removeEffect (some r) p))
    (rename : ∀ old new, c = .renamed old new → P (x.renameEffect d (some r) old new)) : P (x.eventEffect d r c) := by
  unfold eventEffect
  split
  · exact idle
  · cases c with
    | created p => exact orElse_of (orElse_of (add p) (refresh p)) (add p)
    | deleted p => exact remove p rfl
    | renamed old new => exact rename old new rfl
    | changed p => exact orElse_of (refresh p) (add p)

/-- What is true of every kind of effect is true of the effect of every edit. -/
theorem effect_of (idle : P .idle) (refuse : P .refuse) (grow : ∀ p i t t' b made, x.trees[i]? = some t →
    t.add x.arena d p = .ok (made, t', b) → P (.grow i t' b made)) (cut : ∀ t id, P (.cut t id))
    (rename : ∀ id name old replaced, P (.rename id name old replaced)) (update : ∀ id f, P (.update id f)) (e : Edit) :
    P (e.effect x d) := by
  have hadd : ∀ root p, P (x.addEffect d root p) := fun _ p => addEffect_of idle (grow p)
  have hremove : ∀ root p, P (x.removeEffect root p) := fun _ _ => removeEffect_of idle cut
  have hrename : ∀ root old new, P (x.renameEffect d root old new) := fun root old new =>
    renameEffect_of idle refuse (fun id name => rename id name old) (hadd root new)
  have hrefresh : ∀ root p, P (x.refreshEffect d root p) := fun _ _ => refreshEffect_of idle update
  cases e with
  | add root p => exact hadd root p
  | remove root p => exact hremove root p
  | rename root old new => exact hrename root old new
  | refresh root p => exact hrefresh root p
  | pin p on => exact pinEffect_of idle update
  | event r c =>
    exact eventEffect_of idle (hadd _) (hrefresh _) (fun p _ => hremove _ p) fun old new _ => hrename _ old new

end Kinds

/-! ## What an effect means -/

/-- An index that had an effect: what became of its arena and trees, and what was told. -/
inductive Realizes (x : Index) : Effect → Index → Prop
  | idle : Realizes x .idle x
  | refuse {y : Index} : Alike x.arena y.arena → y.arena.PathsKnown → y.trees = x.trees →
    Tells x y [] 0 0 → Realizes x .refuse y
  | grow {i : Nat} {t t' : Tree} {p : Path} {b : Arena} {made : Option NodeId} {y : Index} :
    x.trees[i]? = some t → Tree.AddOutcome t x.arena p made t' b → Alike b y.arena →
    y.arena.PathsKnown → y.trees = x.trees.set i t' → (made = none → Tells x y [] 0 0) →
    (∀ top, made = some top → Tells x y [.add (b.views (b.subtree top))] (b.subtree top).length
      (if isBare b t' top then 1 else 0)) → Realizes x (.grow i t' b made) y
  | cut {t : Tree} {id : NodeId} {nodes : List Snapshot} {y : Index} :
    t ∈ x.trees → x.arena.contains id = true → Cut x.arena y.arena id → y.arena.PathsKnown →
    y.trees = x.trees.map (forgetRoots (x.arena.subtree id)) →
    nodes.map Snapshot.id = x.arena.subtree id →
    Tells x y [.remove nodes] (if isBare x.arena t id then 1 else 0) (x.arena.subtree id).length →
    Realizes x (.cut t id) y
  | rename {id : NodeId} {name : String} {old : Path} {replaced : List NodeId} {b : Arena} {y : Index} :
    x.arena.contains id = true →
    (replaced = [] ∨ ∃ s, x.arena.rival? id name = some s ∧ replaced = x.arena.subtree s) →
    Alike x.arena b → b.PathsKnown → Alike ((b.cleared id name).renamed id name) y.arena →
    y.arena.PathsKnown → y.trees = x.trees →
    Tells x y (toldReplaced (x.arena.views replaced) ++ [.rename (y.arena.views (y.arena.subtree id)) old]) 0
      replaced.length → Realizes x (.rename id name old replaced) y
  | update {id : NodeId} {f : Node → Node} {s : Snapshot} {y : Index} :
    x.arena.contains id = true → InPlace f → Alike (x.arena.modify id f) y.arena →
    y.arena.PathsKnown → y.trees = x.trees → y.arena.view? id = some s →
    Tells x y [.update [s]] 0 0 → Realizes x (.update id f) y

/-- What an effect tells the feed. -/
theorem Realizes.feed (h : Realizes x e y) :
    ∃ changes : List IndexChange, y.feed = changes.foldl Feed.publish x.feed := by
  cases h with
  | idle => exact ⟨[], rfl⟩
  | refuse _ _ _ ht => exact ⟨_, ht.feed⟩
  | @grow _ _ _ _ _ made _ _ _ _ _ _ hnone hsome =>
    cases made with
    | none => exact ⟨_, (hnone rfl).feed⟩
    | some top => exact ⟨_, (hsome top rfl).feed⟩
  | cut _ _ _ _ _ _ ht => exact ⟨_, ht.feed⟩
  | rename _ _ _ _ _ _ _ ht => exact ⟨_, ht.feed⟩
  | update _ _ _ _ _ _ ht => exact ⟨_, ht.feed⟩

/-- The result of work with an effect: an answer if the effect has one, and the index behind it. -/
structure Yields {α : Type} (x : Index) (e : Effect) (r : Except Fault (Option α) × Index) : Prop where
  result : ∃ o, r.1 = .ok o ∧ o.isSome = e.answered
  realizes : Realizes x e r.2

/-! ## Every edit has its effect -/

theorem yields_none {α : Type} {r : Except Fault (Option α) × Index} (hr : r = (.ok none, x)) :
    Yields x .idle r := by
  rw [hr]
  exact ⟨⟨none, rfl, rfl⟩, .idle⟩

theorem yields_add (h : x.Sound) (d : Disk) (root : Option Path) (p : Path) :
    Yields x (x.addEffect d root p) (x.perform (addPath d root p)) := by
  unfold addEffect
  cases ho : x.owner? root p with
  | none => exact yields_none (perform_addPath_unowned ho)
  | some it =>
    obtain ⟨i, t⟩ := it
    obtain ⟨made, t', b, y, hadd, hout, hrun, hy, hal, htrees, hnone, hsome⟩ := perform_addPath h ho d
    simp only [hadd]
    rw [hrun]
    refine ⟨⟨_, rfl, ?_⟩, .grow (get_of_owner? ho) hout hal hy.paths htrees hnone hsome⟩
    cases made with
    | none => rfl
    | some top =>
      exact (addOutcome_pathsKnown h.wellFormed h.paths hout).1.view?_isSome (addOutcome_contains hout)

theorem yields_remove (h : x.Sound) (root : Option Path) (p : Path) :
    Yields x (x.removeEffect root p) (x.perform (removePath root p)) := by
  unfold removeEffect
  cases ho : x.owner? root p with
  | none => exact yields_none (perform_removePath_unowned ho)
  | some it =>
    obtain ⟨i, t⟩ := it
    simp only
    cases hl : t.located? x.arena p with
    | none => exact yields_none (perform_removePath_none h ho hl)
    | some id =>
      have hid := contains_of_located? h ho hl
      obtain ⟨y, nodes, hrun, hy, hcut, htrees, hids, htells⟩ := perform_removePath h ho hl
      rw [hrun]
      refine ⟨⟨_, rfl, ?_⟩, .cut (mem_of_owner? ho) hid hcut hy.paths htrees hids htells⟩
      rw [← Option.isSome_map (f := Snapshot.id), ← List.head?_map, hids, h.wellFormed.subtree_eq hid]
      rfl

/-- Where a rename finds nothing to rename, it knows of nothing to replace. -/
theorem replacedNodes_eq_nil (hmove : old.sameParent new) (hn : t.renames? a old new = none) :
    replacedNodes t a old new = [] := by
  unfold replacedNodes
  split
  · rename_i s e hs he
    have hsame : old.same t.area.path = true := by
      by_contra hne
      rw [Tree.renames?, if_pos ⟨hmove, hne⟩, hs] at hn
      cases hn
    -- The old path is the area's own, so the new one, if it lies in the area, is it too.
    obtain ⟨root, names, hr, hnames, hs⟩ := Tree.located?_eq_some.1 hs
    obtain ⟨root', more, hr', hmore, he⟩ := Tree.located?_eq_some.1 he
    rw [Tree.names?_eq_some] at hnames hmore
    rw [same_iff] at hsame
    have hnil : names = [] := by simpa [hsame] using hnames
    have hnil' : more = [] := by
      rcases List.eq_nil_or_concat more with hm | ⟨front, m, rfl⟩
      · exact hm
      · rw [List.concat_eq_append, List.map_append, ← List.append_assoc] at hmore
        have hback : new.sameParent old := by
          rw [Path.sameParent, beq_iff_eq] at hmove ⊢
          exact hmove.symm
        obtain ⟨c, hc⟩ := Path.components_of_sameParent hback hmore
        have := congrArg List.length (hsame.symm.trans hc)
        simp at this
    obtain rfl : root = root' := Option.some.inj (hr.symm.trans hr')
    obtain rfl : s = e := by
      rw [hnil] at hs
      rw [hnil'] at he
      exact Option.some.inj (hs.symm.trans he)
    simp
  · rfl

theorem yields_rename (h : x.Sound) (d : Disk) (root : Option Path) (hmove : old.sameParent new) :
    Yields x (x.renameEffect d root old new) (x.perform (renamePath d root old new)) := by
  unfold renameEffect
  cases ho : x.owner? root old with
  | none => exact yields_none (perform_renamePath_unowned ho)
  | some it =>
    obtain ⟨i, t⟩ := it
    simp only [hmove, if_true]
    cases hn : t.renames? x.arena old new with
    | none =>
      have hlooked : x.looked t old new = x := by
        rw [looked, replacedNodes_eq_nil hmove hn]
        rfl
      simp only [perform_renamePath_absent h ho hmove hn, hlooked]
      exact yields_add h d root new
    | some id =>
      have hid := contains_of_located? h ho (Tree.located?_of_renames? hn)
      have hx := h.looked t old new
      have hal := alike_looked x t old new
      obtain ⟨y, hrun, htrees, hc, hk, htells⟩ := perform_renamePath h ho hmove hn
      rw [hrun]
      refine ⟨⟨_, rfl, ?_⟩, .rename hid ?_ hal hx.paths hc hk htrees htells⟩
      · have hwf := (sameLinks_renamed _ id new.entryName).wellFormed
          (hx.wellFormed.cleared id new.entryName)
        refine (hc.sameLinks.wellFormed hwf).view?_isSome ?_
        rw [hc.contains, (sameLinks_renamed _ id _).contains]
        exact contains_cleared hx.wellFormed (by rw [hal.contains, hid]) _
      · unfold replacedNodes
        rw [Tree.located?_of_renames? hn]
        cases he : t.located? x.arena new with
        | none => exact .inl rfl
        | some e =>
          by_cases hne : id = e
          · exact .inl (if_pos hne)
          · exact .inr ⟨e, Tree.rival?_of_located? h.wellFormed hn he (Ne.symm hne), if_neg hne⟩

theorem yields_refresh (h : x.Sound) (d : Disk) (root : Option Path) (p : Path) :
    Yields x (x.refreshEffect d root p) (x.perform (refreshPath d root p)) := by
  unfold refreshEffect
  cases ho : x.owner? root p with
  | none => exact yields_none (perform_refreshPath_unowned ho)
  | some it =>
    obtain ⟨i, t⟩ := it
    simp only
    split
    · rename_i id metadata hl hm
      obtain ⟨y, hrun, hu⟩ := perform_refreshPath h ho hl hm
      obtain ⟨s, hs, htells⟩ := hu.tells
      rw [hrun, hs]
      exact ⟨⟨_, rfl, rfl⟩, .update (contains_of_located? h ho hl) (inPlace_metadata metadata) hu.alike
        hu.sound.paths hu.trees hs htells⟩
    · rename_i hno
      refine yields_none (perform_refreshPath_absent h ho ?_)
      cases hl : t.located? x.arena p with
      | none => exact .inl rfl
      | some id =>
        cases hm : d.metadata? p with
        | none => exact .inr rfl
        | some metadata => exact absurd hm (hno id metadata hl)

theorem yields_pin (h : x.Sound) (p : Path) (on : Bool) :
    Yields x (x.pinEffect p on) (x.perform (setPinned p on)) := by
  unfold pinEffect
  cases ho : x.owner? none p with
  | none => exact yields_none (perform_setPinned_unowned ho)
  | some it =>
    obtain ⟨i, t⟩ := it
    simp only
    cases hl : t.located? x.arena p with
    | none => exact yields_none (perform_setPinned_absent h ho hl on)
    | some id =>
      obtain ⟨y, hrun, hu⟩ := perform_setPinned h ho hl on
      obtain ⟨s, hs, htells⟩ := hu.tells
      rw [hrun, hs]
      exact ⟨⟨_, rfl, rfl⟩, .update (contains_of_located? h ho hl) (inPlace_pinned on) hu.alike
        hu.sound.paths hu.trees hs htells⟩

/-! ## Reported changes -/

theorem perform_refreshPath_of_names? (h : y.Sound) (hn : ∀ i t, y.owner? root p = some (i, t) → t.names? p = none) :
    y.refreshEffect d root p = .idle ∧ y.perform (refreshPath d root p) = (.ok none, y) := by
  unfold refreshEffect
  cases ho : y.owner? root p with
  | none => exact ⟨rfl, perform_refreshPath_unowned ho⟩
  | some it =>
    obtain ⟨i, t⟩ := it
    have hl : t.located? y.arena p = none := by
      rw [Tree.located?, hn i t ho]
      cases t.root <;> rfl
    exact ⟨by simp only [hl], perform_refreshPath_absent h ho (.inl hl)⟩

theorem components_of_owner? (h : x.owner? (some r) p = some (i, t)) :
    t.area.path.components = r.components := by
  have := List.find?_some h
  exact same_iff.1 this

theorem names?_congr (h : t.area.path.components = t'.area.path.components) : t.names? p = t'.names? p := by
  unfold Tree.names? Path.below?
  rw [h]

/-- An addition without an answer left everything as it was, or it leaves nothing to read again. -/
theorem perform_addPath_unanswered (h : x.Sound) (hu : (x.addEffect d (some r) p).answered = false) :
    x.perform (addPath d (some r) p) = (.ok none, x) ∨
      x.refreshEffect d (some r) p = .idle ∧ ∃ y, x.perform (addPath d (some r) p) = (.ok none, y) ∧
        y.perform (refreshPath d (some r) p) = (.ok none, y) := by
  cases ho : x.owner? (some r) p with
  | none => exact .inl (perform_addPath_unowned ho)
  | some it =>
    obtain ⟨i, t⟩ := it
    obtain ⟨made, t', b, y, hadd, hout, hrun, hy, -, htrees, -⟩ := perform_addPath h ho d
    have hmade : made = none := by
      simp only [addEffect, ho, hadd] at hu
      cases made with
      | none => rfl
      | some top => cases hu
    subst hmade
    have hnames : b = x.arena ∧ t' = t ∨ t.names? p = none := by
      cases hout with
      | unchanged => exact .inl ⟨rfl, rfl⟩
      | root _ _ hm | below _ _ _ hm => exact .inr (hm.resolve_left (by simp)).2
    rcases hnames with ⟨rfl, rfl⟩ | hnames
    · refine .inl ?_
      have hset : x.trees.set i t' = x.trees := by
        obtain ⟨hlt, rfl⟩ := List.getElem?_eq_some_iff.1 (get_of_owner? ho)
        exact List.set_getElem_self hlt
      simp only [addPath, perform_bind, perform_get, ho, perform_lift, hadd, perform_set, perform_pure,
        setTree, hset]
    · -- The tree of that root is the same as before, as far as names are concerned.
      have hall : ∀ u : Tree, u.area.path.components = r.components → u.names? p = none := fun u hu => by
        rw [names?_congr (hu.trans (components_of_owner? ho).symm), hnames]
      exact .inr ⟨(perform_refreshPath_of_names? h fun _ u hk => hall u (components_of_owner? hk)).1, y, hrun,
        (perform_refreshPath_of_names? hy fun _ u hk => hall u (components_of_owner? hk)).2⟩

theorem refreshEffect_idle (hu : (x.refreshEffect d root p).answered = false) :
    x.refreshEffect d root p = .idle := by
  unfold refreshEffect at hu ⊢
  split
  · rfl
  · split
    · simp_all [Effect.answered]
    · rfl

/-- Work whose answer nobody asks for. -/
theorem perform_discard {α : Type} (x : Index) (w : IndexM α) :
    x.perform (do let _ ← w) = ((x.perform w).1.map fun _ => ⟨⟩, (x.perform w).2) := by
  rw [perform_bind]
  generalize x.perform w = r
  obtain ⟨_ | _, _⟩ := r <;> rfl

/-- What work with an effect means for a caller who does not ask for the answer. -/
structure Ends (x : Index) (e : Effect) (r : Except Fault Unit × Index) : Prop where
  realizes : Realizes x e r.2
  fault : ∀ fault, r.1 = .error fault → fault.stale = false

theorem Yields.ends {α : Type} {w : IndexM (Option α)} (h : Yields x e (x.perform w)) :
    Ends x e (x.perform (do let _ ← w)) := by
  obtain ⟨⟨o, ho, -⟩, hreal⟩ := h
  rw [perform_discard]
  exact ⟨hreal, fun fault hf => by rw [ho] at hf; cases hf⟩

/-- What was created may be known; it is read again then. -/
theorem ends_created (h : x.Sound) (d : Disk) (r p : Path) :
    Ends x (((x.addEffect d (some r) p).orElse (x.refreshEffect d (some r) p)).orElse
      (x.addEffect d (some r) p)) (x.perform (do
        if (← addPath d (some r) p).isNone then
          let _ ← refreshPath d (some r) p)) := by
  obtain ⟨⟨o, ho, hoe⟩, hreal⟩ := yields_add h d (some r) p
  generalize hp : x.perform (addPath d (some r) p) = res at ho hreal
  obtain ⟨res, y⟩ := res
  obtain rfl : res = .ok o := ho
  rw [perform_bind_ok hp]
  cases ha : (x.addEffect d (some r) p).answered with
  | true =>
    rw [ha] at hoe
    obtain ⟨s, rfl⟩ := Option.isSome_iff_exists.1 hoe
    simp only [Effect.orElse, ha, if_true]
    exact ⟨hreal, nofun⟩
  | false =>
    rw [ha, Option.isSome_eq_false_iff, Option.isNone_iff_eq_none] at hoe
    subst hoe
    have hfirst : (x.addEffect d (some r) p).orElse (x.refreshEffect d (some r) p) =
        x.refreshEffect d (some r) p := by simp [Effect.orElse, ha]
    rw [hfirst]
    simp only [Option.isNone_none, if_true]
    rcases perform_addPath_unanswered h ha with hx | ⟨hidle, z, hz, hre⟩
    · obtain rfl : x = y := by simpa using (congrArg Prod.snd (hx.symm.trans hp))
      cases hr : (x.refreshEffect d (some r) p).answered with
      | true =>
        simp only [Effect.orElse, hr, if_true]
        exact (yields_refresh h d (some r) p).ends
      | false =>
        have hends := (yields_refresh h d (some r) p).ends
        rw [refreshEffect_idle hr] at hends ⊢
        obtain ⟨hidle, hfault⟩ := hends
        refine ⟨?_, hfault⟩
        generalize (x.perform (do let _ ← refreshPath d (some r) p)).2 = z at hidle ⊢
        cases hidle
        exact hreal
    · obtain rfl : z = y := by simpa using (congrArg Prod.snd (hz.symm.trans hp))
      rw [hidle, perform_discard, hre]
      exact ⟨hreal, nofun⟩

/-- What was changed may not be known; it is added then. -/
theorem ends_changed (h : x.Sound) (d : Disk) (r p : Path) :
    Ends x ((x.refreshEffect d (some r) p).orElse (x.addEffect d (some r) p)) (x.perform (do
      if (← refreshPath d (some r) p).isNone then
        let _ ← addPath d (some r) p)) := by
  obtain ⟨⟨o, ho, hoe⟩, hreal⟩ := yields_refresh h d (some r) p
  generalize hp : x.perform (refreshPath d (some r) p) = res at ho hreal
  obtain ⟨res, y⟩ := res
  obtain rfl : res = .ok o := ho
  rw [perform_bind_ok hp]
  cases ha : (x.refreshEffect d (some r) p).answered with
  | true =>
    rw [ha] at hoe
    obtain ⟨s, rfl⟩ := Option.isSome_iff_exists.1 hoe
    simp only [Effect.orElse, ha, if_true]
    exact ⟨hreal, nofun⟩
  | false =>
    rw [ha, Option.isSome_eq_false_iff, Option.isNone_iff_eq_none] at hoe
    subst hoe
    rw [refreshEffect_idle ha] at hreal ⊢
    cases hreal
    exact (yields_add h d (some r) p).ends

theorem ends_rename (h : x.Sound) (d : Disk) (root : Option Path) (old new : Path) :
    Ends x (x.renameEffect d root old new) (x.perform (do let _ ← renamePath d root old new)) := by
  by_cases hmove : old.sameParent new
  · exact (yields_rename h d root hmove).ends
  · rw [perform_discard]
    unfold renameEffect
    cases ho : x.owner? root old with
    | none =>
      rw [perform_renamePath_unowned ho]
      exact ⟨.idle, fun _ hf => by cases hf⟩
    | some it =>
      obtain ⟨i, t⟩ := it
      rw [perform_renamePath_moves h ho hmove]
      simp only [hmove, Bool.false_eq_true, if_false]
      exact ⟨.refuse (alike_looked x t old new) (h.looked t old new).paths rfl
        (tells_nothing rfl rfl rfl), fun _ hf => by cases hf; rfl⟩

/-- **Every edit has the effect that is foretold**, and no fault but that of a rename that moves. -/
theorem ends_edit (h : x.Sound) (d : Disk) (e : Edit) : Ends x (e.effect x d) (x.perform (e.work d)) := by
  cases e with
  | add root p => exact (yields_add h d root p).ends
  | remove root p => exact (yields_remove h root p).ends
  | rename root old new => exact ends_rename h d root old new
  | refresh root p => exact (yields_refresh h d root p).ends
  | pin p on => exact (yields_pin h p on).ends
  | event r c =>
    simp only [Edit.work, Edit.effect, applyChange, eventEffect, perform_bind, perform_get]
    cases ho : (x.owner? (some r) r).isNone with
    | true => exact ⟨.idle, fun _ hf => by cases hf⟩
    | false =>
      simp only [Bool.false_eq_true, if_false]
      cases c with
      | created p => exact ends_created h d r p
      | deleted p => exact (yields_remove h (some r) p).ends
      | renamed old new => exact ends_rename h d (some r) old new
      | changed p => exact ends_changed h d r p

/-! ## Effects that spare the roots -/

theorem Forest.cleared {ts : List Tree} {name : String} (h : Forest a ts)
    (hs : ∀ s, a.rival? id name = some s → s ∉ Tree.roots ts) : Forest (a.cleared id name) ts := by
  unfold Arena.cleared
  split
  · rename_i s hr
    exact h.cut_spare (h.wellFormed.cut_cutAt s) (hs s hr)
  · exact h

end Index

/-- Whether an effect takes the slot of no tree's root away from that tree. -/
def Effect.Spares (x : Index) : Effect → Prop
  | .rename id name _ _ => ∀ s, x.arena.rival? id name = some s → s ∉ Tree.roots x.trees
  | _ => True

namespace Index

variable {x y z : Index} {t t' : Tree} {i : Nat} {root : Option Path} {r p old new : Path} {d : Disk}
  {a b : Arena} {id top : NodeId} {made : Option NodeId} {e : Effect}

/-- An index stays sound under an effect that spares the roots. -/
theorem Realizes.sound (h : x.Sound) (hr : Realizes x e y) (hs : e.Spares x) : y.Sound := by
  cases hr with
  | idle => exact h
  | refuse hal hk ht _ => exact h.of_alike hal hk ht
  | grow hi hout hal hk ht _ _ => exact h.add hi hout hal hk ht
  | cut _ hid hc _ ht _ _ => exact h.cut hid hc ht
  | @rename id name old replaced b _ hid _ hal hkb hc hk ht _ =>
    have hb := h.forest.sameLinks hal.sameLinks
    have hcleared : Forest (b.cleared id name) x.trees := by
      refine Forest.cleared hb fun s hsr => hs s ?_
      rwa [← hal.rival?]
    refine ⟨?_, by rw [ht]; exact h.apart, hk⟩
    rw [ht]
    exact (hcleared.sameLinks (sameLinks_renamed _ id name)).sameLinks hc.sameLinks
  | @update id f s _ hid hf hal hk ht _ _ =>
    refine ⟨?_, by rw [ht]; exact h.apart, hk⟩
    rw [ht]
    exact (h.forest.sameLinks (sameLinks_modify hf.parent hf.children)).sameLinks hal.sameLinks

/-- Any other effect leaves a tree without the root that it counts on. -/
theorem Realizes.exists_lost (h : x.Sound) (hr : Realizes x e y) (hs : ¬e.Spares x) :
    ∃ s, y.arena.get? s = none ∧ s ∈ Tree.roots y.trees := by
  cases hr with
  | @rename id name old replaced b _ hid _ hal hkb hc hk ht _ =>
    simp only [Effect.Spares] at hs
    push Not at hs
    obtain ⟨s, hrival, hroot⟩ := hs
    refine ⟨s, ?_, by rwa [ht]⟩
    have hwf := hal.sameLinks.wellFormed h.wellFormed
    rw [← hal.rival?] at hrival
    rw [get?_eq_none, hc.contains, (sameLinks_renamed _ id name).contains, Arena.cleared, hrival,
      (hwf.cut_cutAt s).contains_iff]
    exact fun hl => hl.2 (.refl _ s)
  | _ => exact absurd trivial hs

end Index

end FileIndex
