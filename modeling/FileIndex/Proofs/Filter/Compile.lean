/-
Compiled queries are total: a comparison reads its word as a value of the kind that the property has, and every
value of a property is of that kind.
-/
import FileIndex.Engine.Basic
import FileIndex.Proofs.Filter.Evaluate

namespace FileIndex

variable {now : Moment} {k : Kind} {t query : String} {v w : Value} {p : Property} {item : Item} {key : Key}
  {c : CompiledKey} {q : CompiledQuery} {b : Bool} {fault : Fault}

/-! ## Kinds -/

theorem Value.kind_of_parseMoment (h : Value.parseMoment now t = .ok v) : v.kind = .moment := by
  unfold Value.parseMoment at h
  dsimp only at h
  split at h
  · rename_i w hw
    obtain rfl : w = v := by injection h
    split at hw
    · obtain ⟨_, -, rfl⟩ := Option.map_eq_some_iff.1 hw
      rfl
    · split at hw
      · cases hw
        rfl
      · obtain ⟨_, -, rfl⟩ := Option.map_eq_some_iff.1 hw
        rfl
  · cases h

theorem Value.kind_of_parse (h : Value.parse now k t = .ok v) : v.kind = k := by
  cases k with
  | text =>
    cases h
    rfl
  | boolean =>
    obtain ⟨_, -, rfl⟩ := map_eq_ok.1 h
    rfl
  | integer =>
    obtain ⟨_, -, rfl⟩ := map_eq_ok.1 h
    rfl
  | moment => exact Value.kind_of_parseMoment h

theorem Property.kind_of_value? (h : p.value? item = some v) : v.kind = p.kind := by
  cases p with
  | date =>
    obtain ⟨_, -, rfl⟩ := Option.map_eq_some_iff.1 h
    rfl
  | size =>
    rw [Property.value?] at h
    split at h
    · cases h
      rfl
    · cases h
  | text | isDirectory | isPinned | path =>
    cases h
    rfl

theorem Value.compare_ne_error (h : v.kind = w.kind) : v.compare w ≠ .error fault := by
  cases v <;> cases w <;> simp [kind, compare] at h ⊢

/-! ## Keys -/

/-- Whether a key compares its property with a value of the same kind. -/
def CompiledKey.Fits (c : CompiledKey) : Prop :=
  ∀ o reference, c.matcher = .compare o reference → reference.kind = c.property.kind

namespace CompiledKey

theorem Fits.test_ne_error (h : c.Fits) (item : Item) : c.test item ≠ .error fault := by
  intro ht
  unfold test Matcher.holds at ht
  split at ht
  case h_5 o reference hm =>
    split at ht
    · rename_i v hv
      rw [map_eq_error] at ht
      exact Value.compare_ne_error ((Property.kind_of_value? hv).trans (h o reference hm).symm) ht
    · cases ht
  all_goals cases ht

end CompiledKey

theorem Filter.fits_of_compileKey {f : Filter} (h : f.compileKey now key = .ok c) : c.Fits := by
  unfold compileKey at h
  split at h
  · cases h
  · rename_i property _
    intro o reference hm
    obtain ⟨matcher, hc, rfl⟩ := map_eq_ok.1 h
    obtain rfl : matcher = .compare o reference := hm
    unfold Matcher.compile at hc
    split at hc
    case h_5 =>
      obtain ⟨v, hv, hcompare⟩ := map_eq_ok.1 hc
      cases hcompare
      exact Value.kind_of_parse hv
    case h_4 =>
      split at hc <;> cases hc
    all_goals cases hc

/-! ## Queries -/

namespace CompiledQuery

theorem anyTest_ne_error {keys : List CompiledKey} (h : ∀ c ∈ keys, c.Fits) (item : Item) :
    anyTest item keys ≠ .error fault := by
  induction keys with
  | nil => nofun
  | cons c keys ih =>
    rw [anyTest]
    split
    · exact ih fun d hd => h d (by simp [hd])
    · exact (h c (by simp)).test_ne_error item

theorem foldKey_ne_error (h : c.Fits) (item : Item) (b : Bool) : foldKey item b c ≠ .error fault := by
  unfold foldKey
  have htest : c.test item ≠ .error fault := h.test_ne_error item
  cases c.conjunction <;> cases b <;> simp only [if_true, if_false, Bool.false_eq_true, ne_eq, map_eq_error,
    reduceCtorEq, not_false_eq_true, htest]

theorem foldlM_ne_error {keys : List CompiledKey} (h : ∀ c ∈ keys, c.Fits) (item : Item) (b : Bool) :
    keys.foldlM (foldKey item) b ≠ .error fault := by
  induction keys generalizing b with
  | nil => nofun
  | cons c keys ih =>
    rw [List.foldlM_cons]
    cases hc : foldKey item b c with
    | error _ => exact absurd hc (foldKey_ne_error (h c (by simp)) item b)
    | ok v => exact ih (fun d hd => h d (by simp [hd])) v

theorem total_of_fits (h : ∀ c ∈ q.keys, c.Fits) : q.Total := by
  intro item fault
  unfold accepts
  split
  · exact anyTest_ne_error (fun c hc => h c (List.mem_filter.1 hc).1) item
  · exact foldlM_ne_error h item true

end CompiledQuery

theorem mapM_ok_mem {ε α β : Type} {f : α → Except ε β} {l : List α} {r : List β} (h : l.mapM f = .ok r) :
    ∀ y ∈ r, ∃ x ∈ l, f x = .ok y := by
  induction l generalizing r with
  | nil =>
    cases h
    nofun
  | cons x l ih =>
    rw [List.mapM_cons, bind_eq_ok] at h
    obtain ⟨y, hy, h⟩ := h
    obtain ⟨ys, hys, h⟩ := bind_eq_ok.1 h
    cases h
    intro z hz
    rcases List.mem_cons.1 hz with rfl | hz
    · exact ⟨x, by simp, hy⟩
    · obtain ⟨u, hu, hfu⟩ := ih hys z hz
      exact ⟨u, by simp [hu], hfu⟩

theorem Filter.fits_of_compileQuery {f : Filter} (h : f.compileQuery now query = .ok q) :
    ∀ c ∈ q.keys, c.Fits := by
  obtain ⟨keys, -, h⟩ := bind_eq_ok.1 h
  obtain ⟨compiled, hm, rfl⟩ := map_eq_ok.1 h
  intro c hc
  obtain ⟨key, -, hk⟩ := mapM_ok_mem hm c hc
  exact fits_of_compileKey hk

/-- **Every query that the engine compiles is total**, with directories left out or not. -/
theorem Engine.total_of_compile {e : Engine} {withoutDirectories : Bool}
    (h : e.compile now withoutDirectories query = .ok q) : q.Total := by
  obtain ⟨r, hq, h⟩ := bind_eq_ok.1 h
  have hr := Filter.fits_of_compileQuery hq
  cases withoutDirectories with
  | false =>
    cases h
    exact CompiledQuery.total_of_fits hr
  | true =>
    obtain ⟨c, hk, h⟩ := bind_eq_ok.1 h
    cases h
    refine CompiledQuery.total_of_fits fun d hd => ?_
    rcases List.mem_append.1 hd with hd | hd
    · exact hr d hd
    · rw [List.mem_singleton.1 hd]
      exact Filter.fits_of_compileKey hk

end FileIndex
