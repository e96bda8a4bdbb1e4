/-
What a memo remembers. All that happens to a memo is noted (`Memo.Event`), and the notes alone tell what it does next
(`Memo.Accounted`): a look-up sweeps if the last sweep is long enough ago, a sweep forgets what was asked for last too
long ago, and a text is computed exactly where none is kept. A projector answers the same with memos and without
(`Projector.answers_eq_and_accounted`).
-/
import FileIndex.Projection.Remembering
import FileIndex.Proofs.Run
import Mathlib.Data.List.Nodup

namespace FileIndex

namespace Memo

/-! ## What happens to a memo -/

/-- What is asked of a memo: the text under a key, with the one that is computed where there is none, or a sweep. -/
inductive Request where
  | look (key text : String)
  | sweep

/-- What came of a look-up. -/
structure Asked where
  key : String
  answer : String
  computed : Bool

/-- What a request did to a memo. -/
structure Event where
  time : Nat
  /-- Whether the memo was swept, in front of anything else. -/
  swept : Bool
  /-- The keys that were forgotten by that. -/
  evicted : List String
  asked : Option Asked

/-- The keys under which there is a text. -/
def keys (m : Memo) : List String := m.entries.map (·.1)

/-- The keys of a memo that another one does not have. -/
def missing (m n : Memo) : List String := m.keys.filter fun key => !n.keys.contains key

/-- What a request does at some time, and the memo behind it. -/
def respond (m : Memo) (now : Nat) : Request → Event × Memo
  | .look key text =>
    let (answer, n, computed) := m.get now key fun _ => text
    ({ time := now, swept := m.isDue now, evicted := m.missing (m.swept now), asked := some ⟨key, answer, computed⟩ }, n)
  | .sweep => ({ time := now, swept := true, evicted := m.missing (m.sweep now), asked := none }, m.sweep now)

/-- A memo at some time, with all that has happened to it, the latest last. -/
structure Chronicle where
  memo : Memo
  now : Nat
  past : List Event

namespace Chronicle

/-- A new memo. -/
def opened (expiry interval start : Nat) : Chronicle :=
  { memo := { expiry, interval, lastSweep := start }, now := start, past := [] }

/-- What some time and then a request do. -/
def event (c : Chronicle) (i : Nat × Request) : Event := (c.memo.respond (c.now + i.1) i.2).1

/-- The memo once some time has passed and a request was made. -/
def next (c : Chronicle) (i : Nat × Request) : Chronicle where
  memo := (c.memo.respond (c.now + i.1) i.2).2
  now := c.now + i.1
  past := c.past ++ [c.event i]

end Chronicle

/-! ## What the notes tell -/

namespace Event

variable {e : Event} {key : String} {r : Remembered}

/-- Whether a key was looked up. -/
def Asks (e : Event) (key : String) : Prop := ∃ a, e.asked = some a ∧ a.key = key

/-- Whether a look-up of a key leaves a text and a time with it. -/
def Leaves (e : Event) (key : String) (r : Remembered) : Prop :=
  e.time = r.lastAsked ∧ ∃ a, e.asked = some a ∧ a.key = key ∧ a.answer = r.value

theorem Leaves.asks (h : e.Leaves key r) : e.Asks key := by
  obtain ⟨-, a, ha, hkey, -⟩ := h
  exact ⟨a, ha, hkey⟩

end Event

/-- The time of the last sweep, or else the time when the memo was new. -/
def sweptLast (start : Nat) (past : List Event) : Nat :=
  ((past.filter (·.swept)).getLast?.map (·.time)).getD start

/-- Whether a text is kept under a key since some time: the last look-up of the key came to that text at that time, and
no sweep since then came later than the time of expiry. -/
def Keeps (expiry : Nat) (past : List Event) (key : String) (r : Remembered) : Prop :=
  ∃ before e after, past = before ++ e :: after ∧ e.Leaves key r ∧
    ∀ s ∈ after, ¬s.Asks key ∧ (s.swept = true → s.time - r.lastAsked ≤ expiry)

/-- Whether an event is what a request has to do, after what has happened so far. -/
structure Accounted (expiry interval start : Nat) (past : List Event) (i : Request) (e : Event) : Prop where
  sweeps : e.swept = true ↔ i = .sweep ∨ interval ≤ e.time - sweptLast start past
  evicts : ∀ key, key ∈ e.evicted ↔
    e.swept = true ∧ ∃ r, Keeps expiry past key r ∧ expiry < e.time - r.lastAsked
  looks : ∀ key text, i = .look key text → ∃ a, e.asked = some a ∧ a.key = key ∧
    (a.computed = true ↔ key ∈ e.evicted ∨ ∀ r, ¬Keeps expiry past key r) ∧
    (a.computed = true → a.answer = text) ∧ (a.computed = false → ∃ r, Keeps expiry past key r ∧ a.answer = r.value)

variable {m : Memo} {now start expiry interval : Nat} {key k : String} {r : Remembered} {past : List Event} {e : Event}
  {l : List (String × Remembered)} {i : Request}

theorem sweptLast_concat (start : Nat) (past : List Event) (e : Event) :
    sweptLast start (past ++ [e]) = if e.swept then e.time else sweptLast start past := by
  unfold sweptLast
  rw [List.filter_append, List.filter_singleton]
  cases e.swept <;> simp

theorem keeps_concat : Keeps expiry (past ++ [e]) key r ↔ e.Leaves key r ∨
    ¬e.Asks key ∧ (e.swept = true → e.time - r.lastAsked ≤ expiry) ∧ Keeps expiry past key r := by
  constructor
  · rintro ⟨before, f, after, hpast, hleaves, hafter⟩
    rcases List.eq_nil_or_concat after with rfl | ⟨rest, last, rfl⟩
    · obtain ⟨-, rfl⟩ := List.append_singleton_inj.1 hpast
      exact .inl hleaves
    · rw [List.concat_eq_append] at hpast hafter
      rw [← List.cons_append, ← List.append_assoc] at hpast
      obtain ⟨rfl, rfl⟩ := List.append_singleton_inj.1 hpast
      obtain ⟨hasks, hswept⟩ := hafter e (by simp)
      exact .inr ⟨hasks, hswept, before, f, rest, rfl, hleaves, fun s hs => hafter s (by simp [hs])⟩
  · rintro (hleaves | ⟨hasks, hswept, before, f, after, rfl, hleaves, hafter⟩)
    · exact ⟨past, e, [], rfl, hleaves, nofun⟩
    · refine ⟨before, f, after ++ [e], by simp, hleaves, fun s hs => ?_⟩
      rcases List.mem_append.1 hs with hs | hs
      · exact hafter s hs
      · exact List.mem_singleton.1 hs ▸ ⟨hasks, hswept⟩

/-! ## Look-ups in lists -/

theorem mem_keys : key ∈ m.keys ↔ ∃ r, m.entries.lookup key = some r := by
  rw [← Option.isSome_iff_exists, List.lookup_isSome_iff]
  simp [keys]

theorem mem_missing {n : Memo} : key ∈ m.missing n ↔ key ∈ m.keys ∧ key ∉ n.keys := by
  simp [missing]

theorem lookup_filter (hn : (l.map (·.1)).Nodup) (p : String × Remembered → Bool) (key : String) :
    (l.filter p).lookup key = (l.lookup key).filter fun r => p (key, r) := by
  induction l with
  | nil => rfl
  | cons kr l ih =>
    obtain ⟨k, r⟩ := kr
    rw [List.map_cons, List.nodup_cons] at hn
    obtain ⟨hfst, hn⟩ := hn
    rw [List.filter_cons, List.lookup_cons]
    by_cases h : key = k
    · subst h
      have hl : l.lookup key = none := by
        rw [← Option.not_isSome_iff_eq_none, List.lookup_isSome_iff]
        rintro ⟨q, hq, hkey⟩
        exact hfst (List.mem_map.2 ⟨q, hq, (eq_of_beq hkey).symm⟩)
      cases hp : p (key, r) <;> simp [ih hn, hl, hp, Option.filter_some]
    · have hne : (key == k) = false := beq_false_of_ne h
      cases p (k, r) <;> simp [ih hn, List.lookup_cons, hne]

theorem map_fst_touch (now : Nat) (key : String) (l : List (String × Remembered)) :
    (touch now key l).map (·.1) = l.map (·.1) := by
  induction l with
  | nil => rfl
  | cons kr l ih =>
    rw [touch]
    split
    · rfl
    · rw [List.map_cons, List.map_cons, ih]

theorem lookup_touch (now : Nat) (key k : String) (l : List (String × Remembered)) :
    (touch now key l).lookup k =
      if k = key then (l.lookup k).map fun r => { r with lastAsked := now } else l.lookup k := by
  induction l with
  | nil => simp [touch]
  | cons kr l ih =>
    obtain ⟨j, r⟩ := kr
    rw [touch]
    by_cases hj : j = key
    · subst hj
      rw [if_pos rfl, List.lookup_cons, List.lookup_cons]
      by_cases hk : k = j
      · simp [hk]
      · simp [hk, beq_false_of_ne hk]
    · rw [if_neg hj, List.lookup_cons, List.lookup_cons, ih]
      by_cases hk : k = j
      · have : k ≠ key := fun he => hj (hk ▸ he)
        simp [hk ▸ this, hk]
      · simp [beq_false_of_ne hk]

/-! ## One request -/

theorem get_of_lookup {compute : Unit → String} (h : (m.swept now).entries.lookup key = some r) :
    m.get now key compute =
      (r.value, { m.swept now with entries := touch now key (m.swept now).entries }, false) := by
  simp [get, find?, h]

theorem get_of_lookup_eq_none {compute : Unit → String} (h : (m.swept now).entries.lookup key = none) :
    m.get now key compute = (compute (),
      { m.swept now with entries := (m.swept now).entries ++ [(key, ⟨compute (), now⟩)] }, true) := by
  simp [get, find?, h]

/-- Whether a memo is as its past tells. -/
structure Reflects (expiry interval start : Nat) (past : List Event) (m : Memo) : Prop where
  expiry_eq : m.expiry = expiry
  interval_eq : m.interval = interval
  lastSweep_eq : m.lastSweep = sweptLast start past
  nodup : m.keys.Nodup
  lookup_iff : ∀ key r, m.entries.lookup key = some r ↔ Keeps expiry past key r

/-- A memo that is swept, or not. -/
def sweptIf (b : Bool) (m : Memo) (now : Nat) : Memo := if b then m.sweep now else m

namespace Reflects

variable {b : Bool}

theorem isDue (h : Reflects expiry interval start past m) (now : Nat) :
    m.isDue now = true ↔ interval ≤ now - sweptLast start past := by
  rw [Memo.isDue, decide_eq_true_eq, h.interval_eq, h.lastSweep_eq]

theorem nodup_sweptIf (h : Reflects expiry interval start past m) (b : Bool) (now : Nat) :
    (sweptIf b m now).keys.Nodup := by
  cases b with
  | false => exact h.nodup
  | true => exact h.nodup.sublist (List.filter_sublist.map _)

theorem lookup_sweptIf (h : Reflects expiry interval start past m) :
    (sweptIf b m now).entries.lookup key = some r ↔
      Keeps expiry past key r ∧ (b = true → now - r.lastAsked ≤ expiry) := by
  cases b with
  | false => simp [sweptIf, h.lookup_iff]
  | true =>
    rw [sweptIf, if_pos rfl, sweep, lookup_filter h.nodup, Option.filter_eq_some_iff, h.lookup_iff, h.expiry_eq,
      decide_eq_true_eq]
    simp only [forall_const]

/-- What a sweep forgets. -/
theorem mem_missing_sweptIf (h : Reflects expiry interval start past m) :
    key ∈ m.missing (sweptIf b m now) ↔ b = true ∧ ∃ r, Keeps expiry past key r ∧ expiry < now - r.lastAsked := by
  simp only [mem_missing, mem_keys, h.lookup_sweptIf, h.lookup_iff, not_exists, not_and]
  constructor
  · rintro ⟨⟨r, hr⟩, hgone⟩
    have hlate := hgone r hr
    rw [Classical.not_imp, Nat.not_le] at hlate
    exact ⟨hlate.1, r, hr, hlate.2⟩
  · rintro ⟨rfl, r, hr, hlate⟩
    refine ⟨⟨r, hr⟩, fun q hq hkept => ?_⟩
    -- There is one text under a key.
    obtain rfl : r = q :=
      Option.some.inj (((h.lookup_iff key r).2 hr).symm.trans ((h.lookup_iff key q).2 hq))
    exact Nat.not_le.2 hlate (hkept rfl)

/-- A text is computed where a sweep just forgot the key or nothing was kept under it anyway. -/
theorem lookup_sweptIf_eq_none (h : Reflects expiry interval start past m) :
    (sweptIf b m now).entries.lookup key = none ↔
      key ∈ m.missing (sweptIf b m now) ∨ ∀ r, ¬Keeps expiry past key r := by
  simp only [mem_missing, mem_keys, h.lookup_iff, not_exists, ← Option.eq_none_iff_forall_ne_some]
  constructor
  · intro hgone
    by_cases hkept : ∃ r, Keeps expiry past key r
    · exact .inl ⟨hkept, hgone⟩
    · exact .inr (not_exists.1 hkept)
  · rintro (⟨-, hgone⟩ | hnever)
    · exact hgone
    · exact Option.eq_none_iff_forall_ne_some.2 fun r hr => hnever r (h.lookup_sweptIf.1 hr).1

/-- A memo reflects its past once more if it was swept or not and then has a text under a key, asked for just now. -/
theorem concat {gone : List String} {value : String} {computed : Bool} (h : Reflects expiry interval start past m)
    (b : Bool) (now : Nat) (hl : (l.map (·.1)).Nodup)
    (hlookup : ∀ k, l.lookup k = if k = key then some ⟨value, now⟩ else (sweptIf b m now).entries.lookup k) :
    Reflects expiry interval start (past ++ [⟨now, b, gone, some ⟨key, value, computed⟩⟩])
      { sweptIf b m now with entries := l } where
  expiry_eq := by cases b <;> exact h.expiry_eq
  interval_eq := by cases b <;> exact h.interval_eq
  lastSweep_eq := by
    rw [sweptLast_concat]
    cases b with
    | false => exact h.lastSweep_eq
    | true => rfl
  nodup := hl
  lookup_iff k r := by
    rw [hlookup, keeps_concat]
    by_cases hk : k = key
    · subst hk
      obtain ⟨v, t⟩ := r
      simp [Event.Leaves, Event.Asks, and_comm]
    · rw [if_neg hk, h.lookup_sweptIf]
      simp [Event.Leaves, Event.Asks, Ne.symm hk, and_comm]

/-- What a look-up does is accounted for, and the memo behind it reflects it. -/
theorem look (h : Reflects expiry interval start past m) (now : Nat) (key text : String) :
    Accounted expiry interval start past (.look key text) (m.respond now (.look key text)).1 ∧
      Reflects expiry interval start (past ++ [(m.respond now (.look key text)).1])
        (m.respond now (.look key text)).2 := by
  have hswept : m.swept now = sweptIf (m.isDue now) m now := rfl
  have hsweeps : m.isDue now = true ↔ Request.look key text = .sweep ∨ interval ≤ now - sweptLast start past :=
    (h.isDue now).trans ⟨.inr, fun hdue => hdue.resolve_left nofun⟩
  have hnodup := h.nodup_sweptIf (m.isDue now) now
  have hcomputed : (sweptIf (m.isDue now) m now).entries.lookup key = none ↔
      key ∈ m.missing (sweptIf (m.isDue now) m now) ∨ ∀ r, ¬Keeps expiry past key r := h.lookup_sweptIf_eq_none
  cases hr : (m.swept now).entries.lookup key with
  | none =>
    have hget : m.get now key (fun _ => text) = _ := get_of_lookup_eq_none hr
    rw [hswept] at hr hget
    simp only [respond, hget, hswept]
    refine ⟨⟨hsweeps, fun k => h.mem_missing_sweptIf, ?_⟩, h.concat (m.isDue now) now ?_ fun k => ?_⟩
    · rintro _ _ ⟨⟩
      exact ⟨_, rfl, rfl, iff_of_true rfl (hcomputed.1 hr), fun _ => rfl, nofun⟩
    · have hnew : key ∉ (sweptIf (m.isDue now) m now).keys := fun hmem => by
        obtain ⟨r, hmem⟩ := mem_keys.1 hmem
        exact Option.some_ne_none r (hmem.symm.trans hr)
      simpa [keys] using List.Nodup.concat hnew hnodup
    · rw [List.lookup_append]
      by_cases hk : k = key
      · simp [hk, hr]
      · simp [hk, List.lookup_cons, beq_false_of_ne hk]
  | some r =>
    have hget : m.get now key (fun _ => text) = _ := get_of_lookup hr
    rw [hswept] at hr hget
    simp only [respond, hget, hswept]
    refine ⟨⟨hsweeps, fun k => h.mem_missing_sweptIf, ?_⟩, h.concat (m.isDue now) now ?_ fun k => ?_⟩
    · rintro _ _ ⟨⟩
      refine ⟨_, rfl, rfl, iff_of_false nofun fun hgone => ?_, nofun, fun _ => ⟨r, (h.lookup_sweptIf.1 hr).1, rfl⟩⟩
      exact Option.some_ne_none r (hr.symm.trans (hcomputed.2 hgone))
    · rw [map_fst_touch]
      exact hnodup
    · rw [lookup_touch]
      by_cases hk : k = key
      · simp [hk, hr]
      · simp [hk]

/-- What a sweep does is accounted for, and the memo behind it reflects it. -/
theorem sweep (h : Reflects expiry interval start past m) (now : Nat) :
    Accounted expiry interval start past .sweep (m.respond now .sweep).1 ∧
      Reflects expiry interval start (past ++ [(m.respond now .sweep).1]) (m.respond now .sweep).2 := by
  have hsweep : m.sweep now = sweptIf true m now := rfl
  simp only [respond, hsweep]
  refine ⟨⟨?_, fun k => h.mem_missing_sweptIf, nofun⟩, ?_⟩
  · simp
  · exact {
      expiry_eq := h.expiry_eq
      interval_eq := h.interval_eq
      lastSweep_eq := by rw [sweptLast_concat]; rfl
      nodup := h.nodup_sweptIf true now
      lookup_iff := fun k r => by
        rw [h.lookup_sweptIf, keeps_concat]
        simp [Event.Leaves, Event.Asks, and_comm] }

theorem respond (h : Reflects expiry interval start past m) (now : Nat) (i : Request) :
    Accounted expiry interval start past i (m.respond now i).1 ∧
      Reflects expiry interval start (past ++ [(m.respond now i).1]) (m.respond now i).2 := by
  cases i with
  | look key text => exact h.look now key text
  | sweep => exact h.sweep now

end Reflects

theorem reflects_opened (expiry interval start : Nat) :
    Reflects expiry interval start [] (Chronicle.opened expiry interval start).memo where
  expiry_eq := rfl
  interval_eq := rfl
  lastSweep_eq := rfl
  nodup := List.nodup_nil
  lookup_iff key r := by simp [Chronicle.opened, Keeps]

/-- Whatever is asked of a new memo and whenever, all it does is accounted for by what has happened before. -/
theorem along_accounted (expiry interval start : Nat) (requests : List (Nat × Request)) :
    Along Chronicle.next (fun c i => Accounted expiry interval start c.past i.2 (c.event i))
      (Chronicle.opened expiry interval start) requests :=
  along_of_invariant (I := fun c => Reflects expiry interval start c.past c.memo)
    (reflects_opened expiry interval start)
    (fun c i h => (h.respond (c.now + i.1) i.2).1)
    (fun c i h => (h.respond (c.now + i.1) i.2).2)

/-! ## Memos of a function -/

/-- Whether every text in a memo is what a function makes of its key. -/
def Holds (g : String → String) (m : Memo) : Prop := ∀ kr ∈ m.entries, kr.2.value = g kr.1

variable {g : String → String}

theorem Holds.swept (h : m.Holds g) (now : Nat) : (m.swept now).Holds g := by
  unfold Memo.swept
  split
  · exact fun kr hkr => h kr (List.mem_of_mem_filter hkr)
  · exact h

theorem mem_touch {kr : String × Remembered} (h : kr ∈ touch now key l) :
    ∃ q ∈ l, q.1 = kr.1 ∧ q.2.value = kr.2.value := by
  induction l with
  | nil => cases h
  | cons q l ih =>
    rw [touch] at h
    split at h
    · rcases List.mem_cons.1 h with rfl | h
      · exact ⟨q, List.mem_cons_self, rfl, rfl⟩
      · exact ⟨kr, List.mem_cons_of_mem q h, rfl, rfl⟩
    · rcases List.mem_cons.1 h with rfl | h
      · exact ⟨q, List.mem_cons_self, rfl, rfl⟩
      · obtain ⟨p, hp, hq⟩ := ih h
        exact ⟨p, List.mem_cons_of_mem q hp, hq⟩

/-- A look-up that computes with the function comes to what the function makes of the key, and so does the next one. -/
theorem Holds.get (h : m.Holds g) (now : Nat) (key : String) :
    (m.get now key fun _ => g key).1 = g key ∧ (m.get now key fun _ => g key).2.1.Holds g := by
  have hswept := h.swept now
  cases hr : (m.swept now).entries.lookup key with
  | none =>
    rw [get_of_lookup_eq_none hr]
    refine ⟨rfl, fun kr hkr => ?_⟩
    rcases List.mem_append.1 hkr with hkr | hkr
    · exact hswept kr hkr
    · obtain rfl := List.mem_singleton.1 hkr
      rfl
  | some r =>
    obtain ⟨before, after, hl, -⟩ := List.lookup_eq_some_iff.1 hr
    rw [get_of_lookup hr]
    refine ⟨hswept (key, r) (hl ▸ by simp), fun kr hkr => ?_⟩
    obtain ⟨q, hq, hfst, hvalue⟩ := mem_touch hkr
    rw [← hvalue, ← hfst]
    exact hswept q hq

end Memo

namespace Projector

/-- What a projector answers, at some time, to forms that are asked for one after the other, each after a while. -/
def answers (p : Projector) (now : Nat) : List (Nat × Projection × String) → List String
  | [] => []
  | (wait, f, t) :: rest => (p.apply (now + wait) f t).1 :: (p.apply (now + wait) f t).2.answers (now + wait) rest

/-- Whether all that a projector remembers are forms of their keys. -/
def Faithful (p : Projector) : Prop :=
  ∀ memory, p.memory = some memory →
    memory.fuzzy.Holds Projection.fuzzy.apply ∧ memory.word.Holds Projection.word.apply

variable {p : Projector}

theorem faithful_ofSettings (s : Settings) : (ofSettings s).Faithful := by
  intro memory hmemory
  obtain ⟨-, rfl⟩ : s.memoEnabled = true ∧ _ := by simpa [ofSettings] using hmemory
  exact ⟨nofun, nofun⟩

theorem Faithful.apply (h : p.Faithful) (now : Nat) (f : Projection) (t : String) :
    (p.apply now f t).1 = f.apply t ∧ (p.apply now f t).2.Faithful := by
  obtain ⟨memory⟩ := p
  cases memory with
  | none => exact ⟨rfl, h⟩
  | some memory =>
    obtain ⟨hfuzzy, hword⟩ := h memory rfl
    cases f with
    | fuzzy =>
      have hget := hfuzzy.get now t
      refine ⟨hget.1, ?_⟩
      rintro _ ⟨⟩
      exact ⟨hget.2, hword⟩
    | word =>
      have hget := hword.get now t
      refine ⟨hget.1, ?_⟩
      rintro _ ⟨⟩
      exact ⟨hfuzzy, hget.2⟩

theorem Faithful.answers_eq (h : p.Faithful) (now : Nat) (asked : List (Nat × Projection × String)) :
    p.answers now asked = asked.map fun a => a.2.1.apply a.2.2 := by
  induction asked generalizing p now with
  | nil => rfl
  | cons a rest ih =>
    obtain ⟨wait, f, t⟩ := a
    obtain ⟨hform, hnext⟩ := h.apply (now + wait) f t
    rw [answers, List.map_cons, hform, ih hnext]

/-- Whatever the settings, a projector answers with the form of every text, as one without a memory does; and a memo
with any times of expiry and between sweeps does what its past asks for. -/
theorem answers_eq_and_accounted :
    (∀ (s : Settings) (start : Nat) (asked : List (Nat × Projection × String)),
      (ofSettings s).answers start asked = (asked.map fun a => a.2.1.apply a.2.2) ∧
        (ofSettings s).answers start asked = ({} : Projector).answers start asked) ∧
      ∀ (expiry interval start : Nat) (requests : List (Nat × Memo.Request)),
        Along Memo.Chronicle.next (fun c i => Memo.Accounted expiry interval start c.past i.2 (c.event i))
          (Memo.Chronicle.opened expiry interval start) requests := by
  refine ⟨fun s start asked => ?_, Memo.along_accounted⟩
  have hanswers := (faithful_ofSettings s).answers_eq start asked
  have hnone : ({} : Projector).Faithful := nofun
  exact ⟨hanswers, hanswers.trans (hnone.answers_eq start asked).symm⟩

end Projector

end FileIndex
