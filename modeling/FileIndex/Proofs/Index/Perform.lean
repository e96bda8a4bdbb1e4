/-
Work on an index, read step by step: what each kind of step gives back and what index it leaves.
-/
import FileIndex.Index.Basic
import FileIndex.Proofs.Outcome

namespace FileIndex.Index

variable {α β : Type} {x y : Index} {w : IndexM α} {f : α → IndexM β}

@[simp] theorem perform_pure (x : Index) (r : α) : x.perform (pure r) = (.ok r, x) := rfl

@[simp] theorem perform_throw (x : Index) (e : Fault) :
    x.perform (throw e : IndexM α) = (.error e, x) := rfl

@[simp] theorem perform_lift (x : Index) (r : Except Fault α) :
    x.perform (liftM r : IndexM α) = (r, x) := rfl

@[simp] theorem perform_get (x : Index) : x.perform get = (.ok x, x) := rfl

@[simp] theorem perform_set (x y : Index) : x.perform (set y) = (.ok ⟨⟩, y) := rfl

@[simp] theorem perform_modify (x : Index) (g : Index → Index) :
    x.perform (modify g) = (.ok ⟨⟩, g x) := rfl

@[simp] theorem perform_modifyGet (x : Index) (g : Index → α × Index) :
    x.perform (modifyGet g : IndexM α) = (.ok (g x).1, (g x).2) := rfl

theorem perform_bind (x : Index) (w : IndexM α) (f : α → IndexM β) :
    x.perform (w >>= f) = match x.perform w with
      | (.ok r, y) => y.perform (f r)
      | (.error e, y) => (.error e, y) := by
  change (ExceptT.bindCont (m := StateM Index) f (w.run.run x).1).run (w.run.run x).2 = _
  unfold perform
  generalize w.run.run x = r
  obtain ⟨r | e, y⟩ := r <;> rfl

/-- Work whose first step is done goes on from there. -/
theorem perform_bind_ok {r : α} (h : x.perform w = (.ok r, y)) :
    x.perform (w >>= f) = y.perform (f r) := by
  rw [perform_bind, h]

theorem perform_map (x : Index) (g : α → β) (w : IndexM α) :
    x.perform (g <$> w) = ((x.perform w).1.map g, (x.perform w).2) := by
  rw [← bind_pure_comp, perform_bind]
  generalize x.perform w = r
  obtain ⟨fault | r, y⟩ := r <;> rfl

/-! ## What work leaves -/

/-- Whether some work leaves an index with a property. -/
def Leaves (I : Index → Prop) (x : Index) (w : IndexM α) : Prop := I (x.perform w).2

namespace Leaves

variable {I : Index → Prop} {g : Index → Index}

/-- Work behind other work. -/
theorem bind {f : α → IndexM β} (h : Leaves I x w) (hf : ∀ r y, x.perform w = (.ok r, y) → I y → Leaves I y (f r)) :
    Leaves I x (w >>= f) := by
  unfold Leaves at h hf ⊢
  rw [perform_bind]
  generalize x.perform w = r at h hf ⊢
  obtain ⟨fault | r, y⟩ := r
  · exact h
  · exact hf r y rfl h

theorem get {f : Index → IndexM β} (h : Leaves I x (f x)) : Leaves I x (get >>= f) := by
  unfold Leaves at h ⊢
  rwa [perform_bind, perform_get]

theorem lift {r : Except Fault α} {f : α → IndexM β} (h : I x) (hf : ∀ v, r = .ok v → Leaves I x (f v)) :
    Leaves I x ((liftM r : IndexM α) >>= f) :=
  bind h fun v y hv _ => by
    rw [perform_lift, Prod.mk.injEq] at hv
    exact hv.2 ▸ hf v hv.1

theorem modify {f : PUnit → IndexM β} (hf : Leaves I (g x) (f ⟨⟩)) : Leaves I x ((modify g : IndexM PUnit) >>= f) := by
  unfold Leaves at hf ⊢
  rwa [perform_bind, perform_modify]

theorem set {f : PUnit → IndexM β} (hf : Leaves I y (f ⟨⟩)) : Leaves I x ((set y : IndexM PUnit) >>= f) := by
  unfold Leaves at hf ⊢
  rwa [perform_bind, perform_set]

end Leaves

/-! ## What is given back -/

/-- Whether all that some work gives back has a property. -/
def Gives (Q : α → Prop) (x : Index) (w : IndexM α) : Prop := ∀ r, (x.perform w).1 = .ok r → Q r

namespace Gives

variable {Q : β → Prop} {g : Index → Index}

theorem bind {w : IndexM α} {f : α → IndexM β} (hf : ∀ r y, x.perform w = (.ok r, y) → Gives Q y (f r)) :
    Gives Q x (w >>= f) := by
  intro v hv
  rw [perform_bind] at hv
  cases hw : x.perform w with
  | mk r y =>
    rw [hw] at hv
    cases r with
    | error fault => cases hv
    | ok r => exact hf r y hw v hv

theorem get {f : Index → IndexM β} (h : Gives Q x (f x)) : Gives Q x (get >>= f) :=
  bind fun r y hr => by
    cases hr
    exact h

theorem lift {r : Except Fault α} {f : α → IndexM β} (hf : ∀ v, r = .ok v → Gives Q x (f v)) :
    Gives Q x ((liftM r : IndexM α) >>= f) :=
  bind fun v y hv => by
    rw [perform_lift, Prod.mk.injEq] at hv
    exact hv.2 ▸ hf v hv.1

theorem modify {f : PUnit → IndexM β} (hf : Gives Q (g x) (f ⟨⟩)) : Gives Q x ((modify g : IndexM PUnit) >>= f) :=
  bind fun r y hr => by
    cases hr
    exact hf

theorem set {f : PUnit → IndexM β} (hf : Gives Q y (f ⟨⟩)) : Gives Q x ((set y : IndexM PUnit) >>= f) :=
  bind fun r z hr => by
    cases hr
    exact hf

theorem pure {r : β} (h : Q r) : Gives Q x (Pure.pure r : IndexM β) := fun _ hr => by
  cases hr
  exact h

theorem map {g : α → β} {w : IndexM α} (h : Gives (fun r => Q (g r)) x w) : Gives Q x (g <$> w) := by
  intro r hr
  rw [perform_map] at hr
  obtain ⟨v, hv, rfl⟩ := map_eq_ok.1 hr
  exact h v hv

end Gives

end FileIndex.Index
