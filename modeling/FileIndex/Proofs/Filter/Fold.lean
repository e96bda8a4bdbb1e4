/-
Queries as operations on sets of items. The program folds a verdict over the keys for one item after another, and
leaves out every test that cannot change it; what it finds is the fold of whole sets, key by key from the left, with
what is united beforehand added at the end (`CompiledQuery.evaluate_eq_fold`).
-/
import FileIndex.Proofs.Filter.Compile
import Mathlib.Data.Set.Basic
import Mathlib.Data.List.Perm.Basic

namespace FileIndex

variable {α : Type} {q r : CompiledQuery} {k : CompiledKey} {ks ls : List CompiledKey} {item : Item} {b : Bool}
  {view : α → Item} {items : List α} {a : α} {s : Set α}

/-! ## Sets of items -/

/-- The items that keys are held against: those that are not pinned. -/
def unpinned (view : α → Item) (items : List α) : Set α := {a | a ∈ items ∧ (view a).isPinned = false}

/-- The matches of a key among all items that are not pinned, whatever the keys in front of it made of them. -/
def CompiledKey.found (k : CompiledKey) (view : α → Item) (items : List α) : Set α :=
  {a ∈ unpinned view items | k.test (view a) = .ok true}

/-- What a key makes of the set that the keys in front of it have left. -/
def CompiledKey.combine (view : α → Item) (items : List α) (s : Set α) (k : CompiledKey) : Set α :=
  match k.conjunction with
  | .and => s ∩ k.found view items
  | .or => s ∪ k.found view items
  | .not => s \ k.found view items
  | .preor => s

namespace CompiledQuery

/-- The keys that count whatever their place, in their order. -/
def placeless (q : CompiledQuery) : List CompiledKey := q.keys.filter (·.conjunction == .preor)

/-- The keys that are folded, in their order. -/
def placed (q : CompiledQuery) : List CompiledKey := q.keys.filter (·.conjunction != .preor)

/-- The fold of the placed keys from the left, over all items that are not pinned. -/
def folded (q : CompiledQuery) (view : α → Item) (items : List α) : Set α :=
  q.placed.foldl (CompiledKey.combine view items) (unpinned view items)

/-- What the keys match that count whatever their place. -/
def united (q : CompiledQuery) (view : α → Item) (items : List α) : Set α :=
  {a | ∃ k ∈ q.placeless, a ∈ k.found view items}

/-- Whether two queries differ in nothing but the places of the keys that count whatever their place. -/
structure Moved (q r : CompiledQuery) : Prop where
  placed : r.placed = q.placed
  placeless : r.placeless.Perm q.placeless

/-! ## What sets hold -/

theorem combine_subset (hs : s ⊆ unpinned view items) : k.combine view items s ⊆ unpinned view items := by
  have hfound : k.found view items ⊆ unpinned view items := fun _ ha => ha.1
  unfold CompiledKey.combine
  cases k.conjunction with
  | preor => exact hs
  | and => exact Set.inter_subset_left.trans hs
  | or => exact Set.union_subset hs hfound
  | not => exact fun _ ha => hs ha.1

theorem foldl_combine_subset (hs : s ⊆ unpinned view items) :
    ks.foldl (CompiledKey.combine view items) s ⊆ unpinned view items := by
  induction ks generalizing s with
  | nil => exact hs
  | cons k ks ih => exact ih (combine_subset hs)

/-- No pinned item is in the sets. -/
theorem folded_union_united_subset : q.folded view items ∪ q.united view items ⊆ unpinned view items := by
  rintro a (ha | ⟨k, -, ha⟩)
  · exact foldl_combine_subset subset_rfl ha
  · exact ha.1

/-! ## One item -/

theorem test_eq_ok (h : k.Fits) (item : Item) : k.test item = .ok true ∨ k.test item = .ok false := by
  cases ht : k.test item with
  | error _ => exact absurd ht (h.test_ne_error item)
  | ok b => cases b <;> simp

/-- **A key does to the verdict on an item what it does to the set**: the verdict stays whether the item is in. -/
theorem foldKey_combine (h : k.Fits) (ha : a ∈ unpinned view items) (hs : b = true ↔ a ∈ s) :
    ∃ b', foldKey (view a) b k = .ok b' ∧ (b' = true ↔ a ∈ k.combine view items s) := by
  have hfound : a ∈ k.found view items ↔ k.test (view a) = .ok true := ⟨fun hk => hk.2, fun hk => ⟨ha, hk⟩⟩
  unfold foldKey CompiledKey.combine
  cases k.conjunction with
  | preor => exact ⟨b, rfl, hs⟩
  | and =>
    cases b with
    | false => exact ⟨false, rfl, by simp [← hs]⟩
    | true => rcases test_eq_ok h (view a) with ht | ht <;> exact ⟨_, ht, by simp [← hs, hfound, ht]⟩
  | or =>
    cases b with
    | true => exact ⟨true, rfl, by simp [← hs]⟩
    | false => rcases test_eq_ok h (view a) with ht | ht <;> exact ⟨_, ht, by simp [← hs, hfound, ht]⟩
  | not =>
    cases b with
    | false => exact ⟨false, rfl, by simp [← hs]⟩
    | true =>
      rcases test_eq_ok h (view a) with ht | ht <;>
        exact ⟨_, by simp only [if_true, ht, ok_map]; rfl, by simp [← hs, hfound, ht]⟩

/-- The fold over one item ends with whether the item is in the fold of the sets. -/
theorem foldlM_combine (h : ∀ k ∈ ks, k.Fits) (ha : a ∈ unpinned view items) (hs : b = true ↔ a ∈ s) :
    ∃ b', ks.foldlM (foldKey (view a)) b = .ok b' ∧
      (b' = true ↔ a ∈ (ks.filter (·.conjunction != .preor)).foldl (CompiledKey.combine view items) s) := by
  induction ks generalizing b s with
  | nil => exact ⟨b, rfl, hs⟩
  | cons k ks ih =>
    obtain ⟨c, hc, hcs⟩ := foldKey_combine (h k (by simp)) ha hs
    obtain ⟨b', hb', hmem⟩ := ih (fun l hl => h l (by simp [hl])) hcs
    refine ⟨b', by rw [List.foldlM_cons, hc, ok_bind, hb'], ?_⟩
    rw [hmem, List.filter_cons]
    split
    · rw [List.foldl_cons]
    · -- such a key has no place, and leaves the set as it is
      rename_i hk
      have hk : k.conjunction = .preor := by simpa using hk
      simp only [CompiledKey.combine, hk]

theorem anyTest_eq_ok (h : ∀ k ∈ ks, k.Fits) (item : Item) :
    ∃ b, anyTest item ks = .ok b ∧ (b = true ↔ ∃ k ∈ ks, k.test item = .ok true) := by
  induction ks with
  | nil => exact ⟨false, rfl, by simp⟩
  | cons k ks ih =>
    obtain ⟨b, hb, hmem⟩ := ih fun l hl => h l (by simp [hl])
    rcases test_eq_ok (h k (by simp)) item with ht | ht
    · exact ⟨true, by simp [anyTest, ht], by simp [ht]⟩
    · exact ⟨b, by simp [anyTest, ht, hb], by simp [hmem, ht]⟩

/-- A query accepts an item that is not pinned if and only if the sets hold it. -/
theorem accepting_iff (h : ∀ k ∈ q.keys, k.Fits) (ha : a ∈ unpinned view items) :
    q.accepting (view a) = true ↔ a ∈ q.folded view items ∪ q.united view items := by
  obtain ⟨b, hb, hfold⟩ := foldlM_combine (b := true) (s := unpinned view items) h ha (by simp [ha])
  obtain ⟨c, hc, hany⟩ := anyTest_eq_ok (fun k hk => h k (List.mem_filter.1 hk).1) (view a)
  have hunited : c = true ↔ a ∈ q.united view items := by
    rw [hany]
    exact exists_congr fun k => and_congr_right fun _ => ⟨fun ht => ⟨ha, ht⟩, fun hk => hk.2⟩
  have haccepts : q.accepts (view a) = .ok (b || c) := by
    unfold accepts
    rw [hb]
    cases b with
    | true => rfl
    | false => exact hc
  rw [accepting, haccepts, Set.mem_union, ← hunited]
  show (b || c) = true ↔ _
  rw [Bool.or_eq_true, hfold]
  rfl

/-! ## Places -/

theorem foldlM_placed (item : Item) (b : Bool) (ks : List CompiledKey) :
    ks.foldlM (foldKey item) b = (ks.filter (·.conjunction != .preor)).foldlM (foldKey item) b := by
  induction ks generalizing b with
  | nil => rfl
  | cons k ks ih =>
    rw [List.filter_cons, List.foldlM_cons]
    split
    · simp only [List.foldlM_cons, ih]
    · rename_i hk
      have hk : k.conjunction = .preor := by simpa using hk
      simp only [foldKey, hk, ok_bind, ih]

theorem anyTest_perm (h : ks.Perm ls) (hk : ∀ k ∈ ks, k.Fits) (item : Item) :
    anyTest item ks = anyTest item ls := by
  obtain ⟨b, hb, hks⟩ := anyTest_eq_ok hk item
  obtain ⟨c, hc, hls⟩ := anyTest_eq_ok (fun k hl => hk k (h.mem_iff.2 hl)) item
  have hbc : b = true ↔ c = true := by
    rw [hks, hls]
    exact exists_congr fun k => and_congr_left fun _ => h.mem_iff
  rw [hb, hc, Bool.eq_iff_iff.2 hbc]

theorem mem_keys_iff : k ∈ q.keys ↔ k ∈ q.placed ∨ k ∈ q.placeless := by
  simp only [placed, placeless, List.mem_filter, bne_iff_ne, beq_iff_eq, ← and_or_left]
  exact ⟨fun h => ⟨h, (em _).symm⟩, And.left⟩

namespace Moved

theorem mem_iff (h : Moved q r) : k ∈ r.keys ↔ k ∈ q.keys := by
  rw [mem_keys_iff, mem_keys_iff (q := q), h.placed, h.placeless.mem_iff]

theorem isEmpty_eq (h : Moved q r) : r.isEmpty = q.isEmpty := by
  rw [isEmpty, isEmpty, Bool.eq_iff_iff, List.all_eq_true, List.all_eq_true]
  simp only [h.mem_iff]

theorem accepts_eq (h : Moved q r) (hq : ∀ k ∈ q.keys, k.Fits) (item : Item) : r.accepts item = q.accepts item := by
  have hfold : r.keys.foldlM (foldKey item) true = q.keys.foldlM (foldKey item) true := by
    rw [foldlM_placed, foldlM_placed item true q.keys]
    exact congrArg (List.foldlM (foldKey item) true) h.placed
  have hany : anyTest item r.placeless = anyTest item q.placeless :=
    anyTest_perm h.placeless (fun k hk => hq k (h.mem_iff.1 (List.mem_filter.1 hk).1)) item
  simp only [CompiledQuery.placeless] at hany
  rw [accepts, accepts, hfold, hany]

theorem filterFrom_eq (h : Moved q r) (hq : ∀ k ∈ q.keys, k.Fits) (c : Cancellation) (n : Nat) (l : List α) :
    filterFrom r view c n l = filterFrom q view c n l := by
  induction l generalizing n with
  | nil => rfl
  | cons a l ih => simp only [filterFrom, h.accepts_eq hq, ih]

/-- Moving keys that count whatever their place changes nothing, canceled or not. -/
theorem evaluate_eq (h : Moved q r) (hq : ∀ k ∈ q.keys, k.Fits) (items : List α) (c : Cancellation) :
    r.evaluate view items c = q.evaluate view items c := by
  simp only [evaluate, h.isEmpty_eq, h.filterFrom_eq hq]

end Moved

/-! ## Results -/

open Classical in
/-- **A query finds the fold of the sets.** Evaluating a query whose keys compare values of one kind each, as all
keys do that a filter compiles (`Filter.fits_of_compileKey`), without a request to stop, ends with the pinned items
and, unless the program put in every key, with the others that the fold of the placed keys or a key of no place
holds, both in the order of the items. These are the items that the query admits, and the places of the keys
without a place make no difference. -/
theorem evaluate_eq_fold (hq : ∀ k ∈ q.keys, k.Fits) (view : α → Item) (items : List α) :
    ∃ found, q.evaluate view items {} = .ok (some found) ∧
      found = items.filter (fun a => (view a).isPinned) ++
        (if q.isEmpty then []
          else items.filter fun a => a ∈ q.folded view items ∪ q.united view items) ∧
      (∀ a, a ∈ found ↔ a ∈ items ∧ q.admits (view a) = .ok true) ∧
      ∀ r, Moved q r → r.evaluate view items {} = .ok (some found) := by
  have htotal : q.Total := total_of_fits hq
  refine ⟨q.result view items, htotal.evaluate_eq view items, ?_, fun a => ?_, fun r hr => ?_⟩
  · rw [result]
    congr 1
    split
    · rename_i he
      refine List.filter_eq_nil_iff.2 fun a _ => ?_
      cases hp : (view a).isPinned <;> simp [admitting, he, hp]
    · rename_i he
      refine List.filter_congr fun a ha => ?_
      cases hp : (view a).isPinned with
      | true =>
        have hout : a ∉ q.folded view items ∪ q.united view items := fun h => by
          simpa [hp] using (folded_union_united_subset h).2
        simp [hout]
      | false =>
        rw [Bool.eq_iff_iff, decide_eq_true_iff, ← accepting_iff hq ⟨ha, hp⟩]
        simp [admitting, he, hp]
  · rw [htotal.admits_eq, result, List.mem_append, List.mem_filter, List.mem_filter]
    cases hp : (view a).isPinned <;> simp [admitting, hp]
  · rw [hr.evaluate_eq hq, htotal.evaluate_eq]

/-- Looks for a letter, in the text as it stands. -/
def letterKey (conjunction : Conjunction) (letter : String) : CompiledKey :=
  { conjunction, property := .text, matcher := .exact letter, exclude := false }

/-- A file of a name. -/
def letterItem (name : String) (isPinned : Bool) : Item :=
  { name, fuzzy := name, word := name, path := name, isDirectory := false, isPinned, size := 0, modified := none }

/-- What has an `a` or a `b` but no `c`, and what has a `d`. -/
def letterQuery : CompiledQuery :=
  ⟨[letterKey .preor "d", letterKey .and "a", letterKey .or "b", letterKey .not "c"]⟩

/-- Three files to look through, and a pinned one. -/
def letterItems : List Item :=
  [letterItem "ac" false, letterItem "b" false, letterItem "cd" false, letterItem "z" true]

theorem evaluate_eq_fold_letters : (∀ k ∈ letterQuery.keys, k.Fits) ∧
    ∃ found, letterQuery.evaluate id letterItems {} = .ok (some found) ∧ found.map (·.name) = ["z", "b", "cd"] ∧
      ∀ r, Moved letterQuery r → r.evaluate id letterItems {} = .ok (some found) := by
  have hfits : ∀ k ∈ letterQuery.keys, k.Fits := by
    intro k hk o reference hm
    simp only [letterQuery, letterKey, List.mem_cons, List.not_mem_nil, or_false] at hk
    rcases hk with rfl | rfl | rfl | rfl <;> cases hm
  have hnames : (letterQuery.evaluate id letterItems {}).toOption.join.map (·.map (·.name)) =
      some ["z", "b", "cd"] := by decide +kernel
  obtain ⟨found, heval, -, -, hmoved⟩ := evaluate_eq_fold hfits id letterItems
  rw [heval] at hnames
  exact ⟨hfits, found, heval, Option.some.inj hnames, hmoved⟩

end CompiledQuery

end FileIndex
