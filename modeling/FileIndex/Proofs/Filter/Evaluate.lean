/-
What queries come to. A query that meets no values of different kinds always ends: with the pinned items in
front of those that pass (`CompiledQuery.result`).
-/
import FileIndex.Filter.Query
import FileIndex.Proofs.Outcome

namespace FileIndex

variable {α : Type} {q : CompiledQuery} {k : CompiledKey} {ks : List CompiledKey} {item : Item} {b : Bool}
  {view : α → Item} {l found : List α} {c : Cancellation} {fault : Fault} {n : Nat}

/-! ## Faults -/

/-- Whether a fault is the comparison of two values of different kinds. -/
def Fault.ofKinds : Fault → Bool
  | .incomparable _ _ => true
  | _ => false

theorem Fault.stale_of_ofKinds (h : fault.ofKinds = true) : fault.stale = false := by
  cases fault <;> first | rfl | cases h

theorem Value.ofKinds_of_compare {v w : Value} (h : v.compare w = .error fault) : fault.ofKinds = true := by
  cases v <;> cases w <;> cases h <;> rfl

namespace CompiledQuery

theorem ofKinds_of_test (h : k.test item = .error fault) : fault.ofKinds = true := by
  unfold CompiledKey.test Matcher.holds at h
  split at h
  case h_5 =>
    split at h
    · rename_i v _
      cases hv : v.compare _ with
      | error _ =>
        rw [hv] at h
        cases h
        exact Value.ofKinds_of_compare hv
      | ok _ =>
        rw [hv] at h
        cases h
    · cases h
  all_goals cases h

theorem ofKinds_of_foldKey (h : foldKey item b k = .error fault) : fault.ofKinds = true := by
  unfold foldKey at h
  cases hk : k.conjunction <;> cases b <;>
    simp only [hk, if_true, if_false, Bool.false_eq_true, reduceCtorEq] at h
  case and.true | or.false => exact ofKinds_of_test h
  case not.true =>
    cases ht : k.test item with
    | error _ =>
      rw [ht] at h
      cases h
      exact ofKinds_of_test ht
    | ok _ =>
      rw [ht] at h
      cases h

theorem ofKinds_of_foldlM (h : ks.foldlM (foldKey item) b = .error fault) : fault.ofKinds = true := by
  induction ks generalizing b with
  | nil => cases h
  | cons k ks ih =>
    rw [List.foldlM_cons] at h
    cases hk : foldKey item b k with
    | error _ =>
      rw [hk] at h
      cases h
      exact ofKinds_of_foldKey hk
    | ok v =>
      rw [hk] at h
      exact ih h

theorem ofKinds_of_anyTest (h : anyTest item ks = .error fault) : fault.ofKinds = true := by
  induction ks with
  | nil => cases h
  | cons k ks ih =>
    rw [anyTest] at h
    split at h
    · exact ih h
    · exact ofKinds_of_test h

theorem ofKinds_of_accepts (h : q.accepts item = .error fault) : fault.ofKinds = true := by
  unfold accepts at h
  split at h
  · exact ofKinds_of_anyTest h
  · exact ofKinds_of_foldlM h

theorem ofKinds_of_filterFrom (h : filterFrom q view c n l = .error fault) : fault.ofKinds = true := by
  induction l generalizing n with
  | nil => cases h
  | cons a l ih =>
    rw [filterFrom] at h
    split at h
    · cases h
    · split at h
      · rename_i hacc
        cases h
        exact ofKinds_of_accepts hacc
      · cases hrest : filterFrom q view c (n + 1) l with
        | error _ =>
          rw [hrest] at h
          cases h
          exact ih hrest
        | ok _ =>
          rw [hrest] at h
          cases h

theorem ofKinds_of_evaluate (h : q.evaluate view l c = .error fault) : fault.ofKinds = true := by
  unfold evaluate at h
  dsimp only at h
  split at h
  · cases h
  · cases hf : filterFrom q view c 0 (l.filter fun a => !(view a).isPinned) with
    | error _ =>
      rw [hf] at h
      cases h
      exact ofKinds_of_filterFrom hf
    | ok _ =>
      rw [hf] at h
      cases h

/-! ## Results -/

/-- Whether a query never meets values of different kinds. -/
def Total (q : CompiledQuery) : Prop := ∀ item fault, q.accepts item ≠ .error fault

/-- Whether a query that meets no values of different kinds accepts an item. -/
def accepting (q : CompiledQuery) (item : Item) : Bool := (q.accepts item).toOption.getD false

/-- Whether an item belongs in the result of such a query. -/
def admitting (q : CompiledQuery) (item : Item) : Bool :=
  item.isPinned || !q.isEmpty && q.accepting item

/-- The result of such a query: what is pinned, then what else belongs in it. -/
def result (q : CompiledQuery) (view : α → Item) (l : List α) : List α :=
  l.filter (fun a => (view a).isPinned) ++
    l.filter fun a => !(view a).isPinned && q.admitting (view a)

theorem Total.accepts_eq (h : q.Total) (item : Item) : q.accepts item = .ok (q.accepting item) := by
  unfold accepting
  cases ha : q.accepts item with
  | error fault => exact absurd ha (h item fault)
  | ok v => rfl

theorem Total.admits_eq (h : q.Total) (item : Item) : q.admits item = .ok (q.admitting item) := by
  unfold admits admitting
  rw [h.accepts_eq item]
  cases item.isPinned <;> cases q.isEmpty <;> rfl

theorem Total.filterFrom_eq (h : q.Total) (view : α → Item) (n : Nat) (l : List α) :
    filterFrom q view {} n l = .ok (some (l.filter fun a => q.accepting (view a))) := by
  induction l generalizing n with
  | nil => rfl
  | cons a l ih =>
    have hgo : ({} : Cancellation).allowsStep n = true := Bool.or_true _
    rw [filterFrom, hgo, h.accepts_eq, ih, List.filter_cons]
    simp only [Bool.not_true, Bool.false_eq_true, if_false, ok_map, Option.map_some]

/-- **A total query that is not canceled ends with its result.** -/
theorem Total.evaluate_eq (h : q.Total) (view : α → Item) (l : List α) :
    q.evaluate view l {} = .ok (some (q.result view l)) := by
  unfold evaluate result
  dsimp only
  split
  · rename_i he
    have hrest : l.filter (fun a => !(view a).isPinned && q.admitting (view a)) = [] := by
      refine List.filter_eq_nil_iff.2 fun a _ => ?_
      simp only [admitting, he]
      cases (view a).isPinned <;> simp
    rw [hrest, List.append_nil]
  · rename_i he
    rw [h.filterFrom_eq, ok_map, Option.map_some, List.filter_filter]
    congr 3
    refine List.filter_congr fun a _ => ?_
    simp only [admitting, Bool.not_eq_true] at he ⊢
    rw [he]
    cases (view a).isPinned <;> simp

end CompiledQuery

end FileIndex
