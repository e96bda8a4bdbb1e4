/-
Runs of an index: operations of any kind in any order, each on the disk as it is then. A fault ends its
operation and not the run.

What is kept in a run are the roots of the trees (`KeepsRoots`). Two operations can take the slot of a tree's root
away without a word to that tree: a rename over the entry where a merged tree has its root, and an adoption that
displaces the root of another tree. A run keeps its roots exactly as long as it does neither (`SparesRoots`).
-/
import FileIndex.Proofs.Index.Collecting
import FileIndex.Proofs.Index.Effect
import FileIndex.Proofs.Index.Searching
import FileIndex.Proofs.Run
import Mathlib

namespace FileIndex

open Arena

/-- An operation on an index. -/
inductive Operation where
  | collect (areas : List Area) (c : Cancellation)
  | edit (e : Edit)
  | search (queries : List CompiledQuery) (c : Cancellation)
  /-- A search whose result is kept current. -/
  | live (q : CompiledQuery) (c : Cancellation)
  | watch (on : Bool)

/-- What an operation does on a disk. -/
def Operation.work (d : Disk) : Operation → IndexM Unit
  | .collect areas c => do let _ ← Index.collect d areas c
  | .edit e => e.work d
  | .search queries c => do let _ ← Index.multiSearch queries c
  | .live q c => do let _ ← Index.subscribedSearch q c
  | .watch on => Index.setWatching d on

namespace Index

variable {x y : Index} {d : Disk} {o : Operation} {run : List (Disk × Operation)} {s : NodeId}

/-- The index behind an operation. -/
def after (x : Index) (d : Disk) (o : Operation) : Index := (x.perform (o.work d)).2

/-- The index behind an operation of a run. -/
def step (x : Index) (i : Disk × Operation) : Index := x.after i.1 i.2

/-- Whether every operation of a run has a property. -/
def Throughout (P : Index → Disk → Operation → Prop) : Index → List (Disk × Operation) → Prop :=
  Along step fun x i => P x i.1 i.2

/-- The index behind a run. -/
def behind (x : Index) (run : List (Disk × Operation)) : Index := run.foldl step x

/-! ## Roots -/

/-- The trees and their roots: every root is a node and the root of one tree only, and a tree counts as a child
exactly if its root has a parent. -/
structure RootsInOrder (x : Index) : Prop where
  live : ∀ t ∈ x.trees, ∀ r, t.root = some r → x.arena.contains r = true
  distinct : (Tree.roots x.trees).Nodup
  child_iff : ∀ t ∈ x.trees, t.isChild = true ↔ ∃ r p, t.root = some r ∧ x.arena.parent? r = some p
  top : ∀ t ∈ x.trees, t.isChild = false → ∀ r, t.root = some r → x.arena.parent? r = none

/-- Whether an operation leaves the roots in order, without a fault of handles. -/
structure KeepsRoots (x : Index) (d : Disk) (o : Operation) : Prop where
  order : RootsInOrder (x.after d o)
  fault : ∀ fault, (x.perform (o.work d)).1 = .error fault → fault.stale = false

/-- Whether an operation takes the slot of no root away from its tree. -/
def SparesRoots (x : Index) (d : Disk) : Operation → Prop
  | .collect areas c => CollectSpares x d areas c
  | .edit e => (e.effect x d).Spares x
  | .search _ _ | .live _ _ | .watch _ => True

theorem Sound.rootsInOrder (h : x.Sound) : RootsInOrder x :=
  ⟨fun _ ht => h.contains_root ht, h.forest.distinct, h.forest.child_iff, fun _ ht hc _ hr =>
    h.parent?_root ht hc hr⟩

theorem sound_ofSettings (s : Settings) : (ofSettings s).Sound := by
  have hget : ∀ j, (ofSettings s).arena.get? j = none := fun _ => rfl
  have hlive : ∀ j, ¬(ofSettings s).arena.contains j = true := fun j => get?_eq_none.1 (hget j)
  have hwf : (ofSettings s).arena.WellFormed := by
    refine ⟨⟨List.nodup_nil, fun j => ⟨nofun, fun h => absurd h.1 (Nat.not_lt_zero _)⟩⟩, fun _ =>
      List.nodup_nil, fun {p c} => ⟨nofun, nofun⟩, fun h => absurd h (hlive _)⟩
  exact ⟨⟨hwf, nofun, List.nodup_nil, nofun, fun j hj => absurd hj (hlive j), nofun⟩, List.nodup_nil,
    fun j n _ hn => by rw [hget] at hn; cases hn⟩

/-- An operation that spares the roots leaves the index sound. -/
theorem Sound.after (h : x.Sound) (hs : SparesRoots x d o) : (x.after d o).Sound ∧
    ∀ fault, (x.perform (o.work d)).1 = .error fault → fault.stale = false := by
  unfold Index.after
  cases o with
  | collect areas c =>
    obtain ⟨r, y, hy, hsound, -⟩ := perform_collect h hs
    simp only [Operation.work, perform_discard, hy]
    exact ⟨hsound, nofun⟩
  | edit e =>
    obtain ⟨hreal, hfault⟩ := ends_edit h d e
    exact ⟨hreal.sound h hs, hfault⟩
  | search queries c =>
    obtain ⟨hu, hkind⟩ := perform_multiSearch h queries c
    simp only [Operation.work, perform_discard]
    exact ⟨hu.sound, fun fault hf => Fault.stale_of_ofKinds (hkind fault (map_eq_error.1 hf))⟩
  | live q c =>
    obtain ⟨⟨y, hu, hy⟩, hkind⟩ := perform_subscribedSearch h q c
    simp only [Operation.work, perform_discard]
    refine ⟨?_, fun fault hf => Fault.stale_of_ofKinds (hkind fault (map_eq_error.1 hf))⟩
    rcases hy with hy | hy
    · rw [hy]
      exact hu.sound
    · rw [hy]
      exact hu.sound.congr rfl rfl
  | watch on =>
    obtain ⟨y, hy, hsound, -⟩ := perform_setWatching h d on
    simp only [Operation.work, hy]
    exact ⟨hsound, nofun⟩

/-- An operation that does not spare the roots leaves a tree without its root. -/
theorem Sound.exists_lost_after (h : x.Sound) (hs : ¬SparesRoots x d o) : ∃ s, (x.after d o).arena.get? s = none ∧
    s ∈ Tree.roots (x.after d o).trees := by
  unfold Index.after
  cases o with
  | collect areas c =>
    obtain ⟨s, hl⟩ := exists_lost_collect h hs
    refine ⟨s, ?_⟩
    rw [Operation.work, perform_discard]
    exact ⟨hl.gone, hl.root⟩
  | edit e => exact (ends_edit h d e).realizes.exists_lost h hs
  | search _ _ | live _ _ | watch _ => exact absurd trivial hs

theorem Sound.not_keepsRoots (h : x.Sound) (hs : ¬SparesRoots x d o) : ¬KeepsRoots x d o := by
  obtain ⟨s, hgone, hroot⟩ := h.exists_lost_after hs
  intro hk
  obtain ⟨t, ht, hr⟩ := Tree.mem_roots.1 hroot
  exact get?_eq_none.1 hgone (hk.order.live t ht s hr)

theorem Sound.keeps_iff_spares (h : x.Sound) : KeepsRoots x d o ↔ SparesRoots x d o := by
  refine ⟨fun hk => by_contra fun hs => h.not_keepsRoots hs hk, fun hs => ?_⟩
  obtain ⟨hsound, hfault⟩ := h.after hs
  exact ⟨hsound.rootsInOrder, hfault⟩

/-- **A run keeps its roots exactly if every step spares them.** -/
theorem keepsRoots_iff (s : Settings) (run : List (Disk × Operation)) :
    Throughout KeepsRoots (ofSettings s) run ↔ Throughout SparesRoots (ofSettings s) run :=
  along_iff (sound_ofSettings s) (fun _ _ hx => hx.keeps_iff_spares) fun _ _ hx hs => (hx.after hs).1

/-! ## A root that is lost -/

/-- A directory with a file and a directory in it. -/
def sharedDisk : Disk :=
  ⟨.directory [("a", .directory [("f", .file (.zeros 0) 0 false), ("s", .directory [])])]⟩

/-- An area that does not reach below its entries, and one of its directories as an area of its own. -/
def sharedAreas : List Area := [⟨⟨"a"⟩, false⟩, ⟨⟨"a/s"⟩, true⟩]

/-- What was gathered of these areas: two trees. -/
def sharedGathered : Index where
  arena :=
    { slots := #[
        some { name := "a", fuzzy := "A", word := "A", metadata := (Entry.directory []).metadata,
               anchor := some ⟨""⟩, children := [⟨1⟩, ⟨2⟩] },
        some { name := "f", fuzzy := "F", word := "F", metadata := {}, parent := some ⟨0⟩ },
        some { name := "s", fuzzy := "S", word := "S", metadata := (Entry.directory []).metadata,
               parent := some ⟨0⟩ },
        some { name := "s", fuzzy := "S", word := "S", metadata := (Entry.directory []).metadata,
               anchor := some ⟨"a"⟩ }]
      live := 4 }
  trees :=
    [{ area := ⟨⟨"a"⟩, false⟩, root := some ⟨0⟩, includeHidden := true },
      { area := ⟨⟨"a/s"⟩, true⟩, root := some ⟨3⟩, includeHidden := true }]

/-- The index of these areas: the root of the second tree stands in the first. -/
def sharedIndex : Index :=
  { sharedGathered with
    arena :=
      { slots := #[
          some { name := "a", fuzzy := "A", word := "A", metadata := (Entry.directory []).metadata,
                 anchor := some ⟨""⟩, children := [⟨1⟩, ⟨3⟩] },
          some { name := "f", fuzzy := "F", word := "F", metadata := {}, parent := some ⟨0⟩ },
          none,
          some { name := "s", fuzzy := "S", word := "S", metadata := (Entry.directory []).metadata,
                 parent := some ⟨0⟩, anchor := some ⟨"a"⟩ }]
        free := [⟨2⟩]
        live := 3 }
    trees :=
      [{ area := ⟨⟨"a"⟩, false⟩, root := some ⟨0⟩, includeHidden := true },
        { area := ⟨⟨"a/s"⟩, true⟩, root := some ⟨3⟩, includeHidden := true, isChild := true }]
    size := 2
    counter := 2 }

theorem perform_gather_shared : (ofSettings {}).perform (gather sharedDisk sharedAreas {}) =
    (.ok { complete := true, changed := true }, sharedGathered) := by
  cbv

theorem perform_adopt_shared : sharedGathered.perform (adopt 0 1) =
    (.ok ⟨⟩, { sharedIndex with size := 0, counter := 0 }) := by
  obtain ⟨g, y, hg, hy, -⟩ := perform_gather (sound_ofSettings {}) sharedDisk sharedAreas {}
  rw [perform_gather_shared, Prod.mk.injEq] at hg
  obtain rfl : sharedGathered = y := hg.2
  have ha : Adoption sharedGathered 0 1 _ _ ⟨0⟩ ⟨3⟩ ⟨2⟩ :=
    ⟨rfl, rfl, nofun, rfl, by decide +kernel, rfl, rfl, ⟨"s", rfl, rfl⟩, by decide⟩
  rw [ha.perform hy.sound.forest rfl]
  cbv

theorem after_collect_shared :
    (ofSettings {}).after sharedDisk (.collect sharedAreas {}) = sharedIndex := by
  have hmerge : sharedGathered.perform merge = (.ok ⟨⟩, { sharedIndex with size := 0, counter := 0 }) := by
    have h00 : sharedGathered.perform (adopt 0 0) = (.ok ⟨⟩, sharedGathered) := rfl
    have hpairs : pairs sharedGathered.trees.length = [(0, 0), (0, 1), (1, 0), (1, 1)] := rfl
    rw [perform_merge, hpairs, adoptAll, perform_bind_ok h00, adoptAll, perform_bind_ok perform_adopt_shared]
    rfl
  rw [after, Operation.work, perform_discard, collect, perform_bind_ok perform_gather_shared]
  simp only [if_true, perform_bind_ok hmerge]
  rfl

/-- **Not every run keeps its roots**: a rename can go over the entry where another tree has its root. -/
theorem not_forall_keepsRoots : ¬∀ s run, Throughout KeepsRoots (ofSettings s) run := by
  intro h
  have hrun := h {} [(sharedDisk, .collect sharedAreas {}),
    (sharedDisk, .edit (.rename none ⟨"a/f"⟩ ⟨"a/s"⟩))]
  have hsound := ((sound_ofSettings {}).after ((sound_ofSettings {}).keeps_iff_spares.1 hrun.1)).1
  simp only [Throughout, Along, step, after_collect_shared] at hrun hsound
  have heffect : sharedIndex.renameEffect sharedDisk none ⟨"a/f"⟩ ⟨"a/s"⟩ =
      .rename ⟨1⟩ "s" ⟨"a/f"⟩ [⟨3⟩] := rfl
  refine hsound.not_keepsRoots (fun hs => ?_) hrun.2.1
  simp only [SparesRoots, Edit.effect, heffect] at hs
  exact hs ⟨3⟩ rfl (by decide)

end Index

end FileIndex
