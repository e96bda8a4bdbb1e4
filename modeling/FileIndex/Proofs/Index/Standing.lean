/-
Collects on a disk that does not change. An index whose trees stand as the disk has them, but for those that have
adopted another one, stays so through every collect, whatever its areas and whether it is canceled or not; none of
these collects runs into a fault.
-/
import FileIndex.Proofs.Index.Arranged
import FileIndex.Proofs.Index.Run

namespace FileIndex.Index

open Arena

variable {d : Disk} {x y z : Index} {areas : List Area} {c : Cancellation} {t : Tree}

/-- What a collect on a standing index comes to: what was gathered, merged if no walk was canceled, and counted. -/
structure Collects (d : Disk) (x : Index) (areas : List Area) (c : Cancellation) (r : Option Nat) (z : Index) :
    Prop where
  merged : ∃ g y m, Gathers d x areas c g y ∧ Ready d y ∧ SameForest m z ∧
    (g.complete = true → Merged d y m) ∧ (g.complete = false → m = y) ∧
    r = if g.complete then some z.size else none
  tallied : z.Tallied
  includeHidden : z.includeHidden = x.includeHidden

theorem Ready.standing (h : Ready d y) : y.Standing d := (Adopting.start h).standing

theorem SameForest.standing (h : SameForest y z) (hy : y.Standing d) : z.Standing d := by
  intro t ht
  rw [h.trees] at ht
  rw [h.arena, h.trees, h.includeHidden]
  exact hy t ht

/-- **A collect on a standing index ends well and leaves it standing.** -/
theorem Standing.perform_collect (h : x.Standing d) (hx : x.Sound) (hd : d.Valid) (areas : List Area)
    (c : Cancellation) : ∃ r z, x.perform (collect d areas c) = (.ok r, z) ∧ Collects d x areas c r z ∧
      z.Sound ∧ z.Standing d := by
  obtain ⟨g, y, hg, hy, hgathers⟩ := perform_gather hx d areas c
  have hready : Ready d y := ⟨hd, hy, hgathers.includeHidden ▸ hgathers.stands h⟩
  unfold collect
  rw [perform_bind_ok hg]
  cases hc : g.complete with
  | false =>
    obtain ⟨z, hz, hsame, ht, -⟩ := perform_finish hy.sound g
    rw [hc] at hz
    refine ⟨none, z, hz, ⟨⟨g, y, y, hgathers, hready, hsame, by simp [hc], fun _ => rfl, by simp [hc]⟩, ht, ?_⟩,
      hy.sound.congr hsame.arena hsame.trees, hsame.standing hready.standing⟩
    exact hsame.includeHidden.trans hgathers.includeHidden
  | true =>
    obtain ⟨m, hm, hmerged⟩ := hready.perform_merge
    obtain ⟨z, hz, hsame, ht, -⟩ := perform_finish hmerged.sound g
    rw [hc] at hz
    have hsize : m.entryIds.length = z.size := by
      rw [ht.size, entryIds_congr hsame.arena hsame.trees]
    refine ⟨some z.size, z, ?_, ⟨⟨g, y, m, hgathers, hready, hsame, fun _ => hmerged, by simp [hc], by simp [hc]⟩,
      ht, ?_⟩, hmerged.sound.congr hsame.arena hsame.trees, hsame.standing hmerged.standing⟩
    · simp only [if_true, perform_bind_ok hm]
      rw [← hsize]
      exact hz
    · exact hsame.includeHidden.trans (hmerged.includeHidden.trans hgathers.includeHidden)

end FileIndex.Index
