/-
Runs of a system that takes one step after the other: what holds along a run, step by step.
-/

namespace FileIndex

variable {σ ι : Type} {next : σ → ι → σ} {P Q R : σ → ι → Prop} {I : σ → Prop} {s : σ} {steps : List ι}

/-- Whether every step of a run has a property of the state that it starts from and of the step. -/
def Along (next : σ → ι → σ) (P : σ → ι → Prop) : σ → List ι → Prop
  | _, [] => True
  | s, i :: rest => P s i ∧ Along next P (next s i) rest

/-- Two properties of steps hold along the same runs if they agree, for the steps of the run, wherever an invariant
holds that each step with the property keeps. -/
theorem along_iff_of_mem (hs : I s) (hiff : ∀ s, ∀ i ∈ steps, I s → (P s i ↔ Q s i))
    (hkeep : ∀ s, ∀ i ∈ steps, I s → Q s i → I (next s i)) : Along next P s steps ↔ Along next Q s steps := by
  induction steps generalizing s with
  | nil => exact .rfl
  | cons i rest ih =>
    simp only [Along, hiff s i List.mem_cons_self hs]
    refine and_congr_right fun hq => ih (hkeep s i List.mem_cons_self hs hq) ?_ ?_
    · exact fun s j hj => hiff s j (List.mem_cons_of_mem i hj)
    · exact fun s j hj => hkeep s j (List.mem_cons_of_mem i hj)

/-- Two properties of steps hold along the same runs if they agree wherever an invariant holds that each step
with the property keeps. -/
theorem along_iff (hs : I s) (hiff : ∀ s i, I s → (P s i ↔ Q s i))
    (hkeep : ∀ s i, I s → Q s i → I (next s i)) : Along next P s steps ↔ Along next Q s steps :=
  along_iff_of_mem hs (fun s i _ => hiff s i) fun s i _ => hkeep s i

/-- Along a run whose steps have a third property, two properties hold together if they agree for steps with that one
wherever an invariant holds that each step with both keeps. -/
theorem Along.iff_along (h : Along next R s steps) (hs : I s) (hiff : ∀ s i, I s → R s i → (P s i ↔ Q s i))
    (hkeep : ∀ s i, I s → R s i → Q s i → I (next s i)) : Along next P s steps ↔ Along next Q s steps := by
  induction steps generalizing s with
  | nil => exact .rfl
  | cons i rest ih =>
    simp only [Along, hiff s i hs h.1]
    exact and_congr_right fun hq => ih h.2 (hkeep s i hs h.1 hq)

/-- Every step of a run has what follows from an invariant that each step keeps. -/
theorem along_of_invariant (hs : I s) (hP : ∀ s i, I s → P s i) (hkeep : ∀ s i, I s → I (next s i)) :
    Along next P s steps := by
  induction steps generalizing s with
  | nil => trivial
  | cons i rest ih => exact ⟨hP s i hs, ih (hkeep s i hs)⟩

/-- Along a run whose steps have one property, they have another that follows from it wherever an invariant holds that
each step with the first one keeps. -/
theorem Along.of_along (h : Along next Q s steps) (hs : I s) (hP : ∀ s i, I s → Q s i → P s i)
    (hkeep : ∀ s i, I s → Q s i → I (next s i)) : Along next P s steps := by
  induction steps generalizing s with
  | nil => trivial
  | cons i rest ih => exact ⟨hP s i hs h.1, ih h.2 (hkeep s i hs h.1)⟩

/-- Where a run ends, what each of its steps keeps still holds. -/
theorem Along.invariant (h : Along next P s steps) (hs : I s)
    (hkeep : ∀ s i, I s → P s i → I (next s i)) : I (steps.foldl next s) := by
  induction steps generalizing s with
  | nil => exact hs
  | cons i rest ih => exact ih h.2 (hkeep s i hs h.1)

end FileIndex
