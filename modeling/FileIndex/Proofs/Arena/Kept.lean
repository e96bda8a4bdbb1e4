/-
Properties of an arena as a whole. One that lasts while new nodes are put into slots, and while nothing is changed about
nodes but their links and what they know of their paths (`Arena.Kept`), lasts while walks are taken in and nodes are hung on
others. Two such are needed: new nodes have no marks (`Plain`), and the arena counts the slots in use as they are taken up
(`Balanced`), so that it counts what slots hold (`Balanced.live_eq`).
-/
import FileIndex.Proofs.Arena.Every
import Mathlib.Data.List.Nodup

namespace FileIndex.Arena

variable {R : Arena → Prop} {a b : Arena} {parent child : NodeId} {f : Node → Node}

/-- Whether a property lasts while nodes get slots, links and paths. -/
structure Kept (R : Arena → Prop) : Prop where
  insert : ∀ a name metadata, R a → R (a.insert (.ofName name metadata)).2
  modify : ∀ a id (f : Node → Node), (∀ n, (f n).flags = n.flags ∧ (f n).anchor = n.anchor) → R a → R (a.modify id f)

namespace Kept

theorem modifyAll (hR : Kept R) (hf : ∀ n, (f n).flags = n.flags ∧ (f n).anchor = n.anchor) (ids : List NodeId) (h : R a) :
    R (a.modifyAll ids f) := by
  induction ids generalizing a with
  | nil => exact h
  | cons i ids ih => exact ih (hR.modify a i f hf h)

theorem attach (hR : Kept R) (h : R a) (hattach : a.attach parent child = .ok b) : R b := by
  unfold Arena.attach at hattach
  split at hattach
  · cases hattach
  · split at hattach <;> cases hattach
    refine hR.modifyAll ?_ _ (hR.modify _ parent _ (fun n => ?_) (hR.modify a child _ ?_ h))
    case refine_2 =>
      unfold Node.addChild
      split <;> exact ⟨rfl, rfl⟩
    all_goals exact fun _ => ⟨rfl, rfl⟩

theorem attachNew (hR : Kept R) (h : R a) (hattach : a.attachNew parent child = .ok b) : R b := by
  unfold Arena.attachNew at hattach
  split at hattach
  · cases hattach
  · split at hattach <;> cases hattach
    refine hR.modify _ parent _ ?_ (hR.modify a child _ ?_ h) <;> exact fun _ => ⟨rfl, rfl⟩

mutual

theorem insertCollected (hR : Kept R) : ∀ {found : Collected} {a b : Arena} {top : NodeId}, R a →
    a.insertCollected found = .ok (top, b) → R b
  | .entry name metadata founds, a, b, top, h, hi => by
    rw [Arena.insertCollected] at hi
    obtain ⟨c, hc, hi⟩ := map_eq_ok.1 hi
    obtain ⟨-, rfl⟩ := Prod.mk.inj hi
    exact insertChildren hR (hR.insert a name metadata h) hc

theorem insertChildren (hR : Kept R) : ∀ {founds : List Collected} {a b : Arena} {parent : NodeId}, R a →
    a.insertChildren parent founds = .ok b → R b
  | [], a, b, parent, h, hi => by
    cases hi
    exact h
  | found :: founds, a, b, parent, h, hi => by
    rw [Arena.insertChildren] at hi
    obtain ⟨⟨id, c⟩, hc, hi⟩ := bind_eq_ok.1 hi
    obtain ⟨e, he, hi⟩ := bind_eq_ok.1 hi
    exact insertChildren hR (hR.attachNew (insertCollected hR h hc) he) hi

end

end Kept

/-! ## Marks -/

/-- Whether whatever is new in an arena, compared with another one, has no marks and no directory of its own. -/
def Plain (a b : Arena) : Prop := ∀ j n, b.get? j = some n → ¬a.contains j = true → n.flags = {} ∧ n.anchor = none

theorem kept_plain (a : Arena) : Kept a.Plain where
  insert b name metadata h := by
    intro j n hn
    rcases get?_insert_cases hn with hn | rfl
    · exact h j n hn
    · exact fun _ => ⟨rfl, rfl⟩
  modify b id f hf h := by
    intro j n hn
    rw [get?_modify] at hn
    split at hn
    · obtain ⟨m, hm, rfl⟩ := Option.map_eq_some_iff.1 hn
      exact fun hj => ⟨(hf m).1.trans (h j m hm hj).1, (hf m).2.trans (h j m hm hj).2⟩
    · exact h j n hn

/-! ## Slots in use -/

/-- Whether an arena has counted as many slots more, compared with another one, as it has taken up. -/
def Balanced (a b : Arena) : Prop :=
  b.live + b.free.length + a.slots.size = a.live + a.free.length + b.slots.size

theorem kept_balanced (a : Arena) : Kept a.Balanced where
  insert b name metadata h := by
    unfold Balanced at h ⊢
    unfold Arena.insert
    split
    · rename_i id free hfree
      rw [hfree, List.length_cons] at h
      simp only [Array.size_setIfInBounds]
      omega
    · simp only [Array.size_push]
      omega
  modify b id f _ h := by
    unfold Balanced at h ⊢
    simpa using h

theorem countP_isSome_congr {l m : List (Option Node)} (h : ∀ i : Nat, (l[i]?.join).isSome = (m[i]?.join).isSome) :
    l.countP Option.isSome = m.countP Option.isSome := by
  -- Where one of the lists has ended the other one holds nothing more.
  have hnil : ∀ m : List (Option Node), (∀ i : Nat, (m[i]?.join).isSome = false) → m.countP Option.isSome = 0 := by
    refine fun m hm => List.countP_eq_zero.2 fun o ho => ?_
    obtain ⟨i, hi⟩ := List.mem_iff_getElem?.1 ho
    simpa [hi] using hm i
  induction l generalizing m with
  | nil => exact (hnil m fun i => (h i).symm).symm
  | cons o l ih =>
    cases m with
    | nil => exact hnil _ h
    | cons o' m =>
      have hhead : o.isSome = o'.isSome := by simpa using h 0
      rw [List.countP_cons, List.countP_cons, hhead, ih fun i => by simpa using h (i + 1)]

/-- Which slots hold nodes tells how many do. -/
theorem occupied_congr (h : ∀ j, b.contains j = a.contains j) : b.occupied = a.occupied :=
  countP_isSome_congr fun i => by simpa [contains, get?] using h ⟨i⟩

/-- The slots in use and the free ones are all there are. -/
theorem FreeList.occupied_add (h : a.FreeList) : a.occupied + a.free.length = a.slots.size := by
  have hslots : a.slots.toList = (List.range a.slots.size).map fun i => a.get? ⟨i⟩ := by
    refine List.ext_getElem (by simp) fun i hi _ => ?_
    simp only [List.getElem_map, List.getElem_range, get?]
    rw [Array.getElem_toList, Array.getElem?_eq_getElem]
    rfl
  have hfree : (a.free.map NodeId.index).Perm ((List.range a.slots.size).filter fun i => !(a.get? ⟨i⟩).isSome) := by
    have hinj : Function.Injective NodeId.index := fun i j hij => by cases i; cases j; exact congrArg NodeId.mk hij
    refine (List.perm_ext_iff_of_nodup (List.Nodup.map hinj h.nodup) (List.nodup_range.filter _)).2 fun i => ?_
    rw [List.mem_map, List.mem_filter, List.mem_range]
    constructor
    · rintro ⟨j, hj, rfl⟩
      simpa using (h.mem_iff j).1 hj
    · exact fun hi => ⟨⟨i⟩, (h.mem_iff ⟨i⟩).2 (by simpa using hi), rfl⟩
  have hlen := hfree.length_eq
  rw [List.length_map, ← List.countP_eq_length_filter] at hlen
  have hsplit := List.length_eq_countP_add_countP (fun i => (a.get? ⟨i⟩).isSome) (l := List.range a.slots.size)
  simp only [List.length_range, Bool.not_eq_true, Bool.decide_eq_false] at hsplit
  rw [occupied, hslots, List.countP_map, hlen]
  exact hsplit.symm

theorem Balanced.live_eq (h : a.Balanced b) (ha : a.FreeList) (hb : b.FreeList) :
    b.live + a.occupied = a.live + b.occupied := by
  have h1 := ha.occupied_add
  have h2 := hb.occupied_add
  unfold Balanced at h
  omega

/-- What is emptied is counted out. -/
theorem releaseAll_counts (a : Arena) (ids : List NodeId) :
    (a.releaseAll ids).2.live = a.live - (a.releaseAll ids).1 ∧
      (a.releaseAll ids).2.occupied + (a.releaseAll ids).1 = a.occupied := by
  induction a, ids using releaseAll.induct with
  | case1 a => simp [releaseAll]
  | case2 a id rest hn ih =>
    rw [releaseAll]
    split
    · exact ih
    · rename_i n hn'
      rw [hn] at hn'
      cases hn'
  | case3 a id rest n hn ih =>
    rw [releaseAll]
    split
    · rename_i hn'
      rw [hn] at hn'
      cases hn'
    · rename_i m hn'
      obtain rfl := Option.some.inj (hn.symm.trans hn')
      have hv := occupied_vacate hn
      have hl : (a.vacate id).live = a.live - 1 := rfl
      simp only at ih ⊢
      omega
end FileIndex.Arena
