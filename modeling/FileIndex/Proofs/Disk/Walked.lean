/-
What a walk takes of an entry (`Entry.pruned`): the entry without hidden names and, unless the walk goes all the way
down, with its own directories empty. A walk of some scope finds what a walk that takes everything finds of the
pruned entry.
-/
import FileIndex.Proofs.Disk.Entries
import FileIndex.Proofs.Disk.Under
import FileIndex.Walk

namespace FileIndex

open Path (IsFileName)

/-- A walk that takes all that there is. -/
def WalkScope.all : WalkScope := { includeHidden := true, recursive := true }

namespace Entry

variable {e f : Entry} {children : List (String × Entry)} {s : WalkScope} {name : String} {names : List String}

/-! ## Names -/

/-- Whether all names in the directories of an entry are ones that entries can have. -/
def Named (e : Entry) : Prop :=
  ∀ names children, e.at? names = some (.directory children) → ∀ c ∈ children, IsFileName c.1

theorem Named.at? (h : e.Named) (hf : e.at? names = some f) : f.Named := by
  intro more children hm
  refine h (names ++ more) children ?_
  rw [at?_append, hf]
  exact hm

theorem Named.isFileName (h : e.Named) (hf : e.at? (names ++ [name]) = some f) : IsFileName name := by
  rw [at?_append] at hf
  obtain ⟨g, hg, hf⟩ := Option.bind_eq_some_iff.1 hf
  rw [at?_cons] at hf
  obtain ⟨k, hk, -⟩ := Option.bind_eq_some_iff.1 hf
  obtain ⟨children, rfl⟩ := exists_directory (isDirectory_of_child? hk)
  exact h names children hg (name, k) (mem_of_lookup hk)

theorem named_leaf (h : e.isDirectory = false) : e.Named := by
  intro names children hat
  cases names with
  | nil =>
    obtain rfl := Option.some.inj hat
    cases h
  | cons name names =>
    rw [at?_cons, child?_eq_none h] at hat
    cases hat

theorem named_directory (h : ∀ c ∈ children, IsFileName c.1 ∧ c.2.Named) : (Entry.directory children).Named := by
  intro names more hat
  cases names with
  | nil =>
    obtain rfl := Entry.directory.inj (Option.some.inj hat)
    exact fun c hc => (h c hc).1
  | cons name names =>
    rw [at?_cons] at hat
    obtain ⟨e, he, hat⟩ := Option.bind_eq_some_iff.1 hat
    exact (h (name, e) (mem_of_lookup he)).2 names more hat

/-! ## Pruning -/

mutual

/-- What a walk takes of an entry. -/
def pruned (s : WalkScope) (isTop : Bool) : Entry → Entry
  | .directory children => .directory (if isTop || s.recursive then prunedChildren s children else [])
  | e => e

/-- What a walk takes of the entries of a directory. -/
def prunedChildren (s : WalkScope) : List (String × Entry) → List (String × Entry)
  | [] => []
  | (name, e) :: rest =>
    if s.skips name then prunedChildren s rest else (name, e.pruned s false) :: prunedChildren s rest

end

theorem pruned_directory (s : WalkScope) (isTop : Bool) (children : List (String × Entry)) :
    (Entry.directory children).pruned s isTop =
      .directory (if isTop || s.recursive then prunedChildren s children else []) := by
  rw [pruned]

theorem pruned_leaf (s : WalkScope) (isTop : Bool) (h : e.isDirectory = false) : e.pruned s isTop = e := by
  cases e with
  | directory => cases h
  | file | symlink | pipe => rw [pruned]; exact nofun

theorem isDirectory_pruned (s : WalkScope) (isTop : Bool) (e : Entry) :
    (e.pruned s isTop).isDirectory = e.isDirectory := by
  cases e with
  | directory => rw [pruned_directory]; rfl
  | file | symlink | pipe => rw [pruned_leaf s isTop rfl]

mutual

/-- A walk that takes everything takes the entry as it is. -/
theorem pruned_all : (e : Entry) → ∀ isTop, e.pruned .all isTop = e
  | .directory children, isTop => by
    rw [pruned_directory, prunedChildren_all children]
    simp [WalkScope.all]
  | .file .., _ | .symlink .., _ | .pipe .., _ => by rw [pruned_leaf _ _ rfl]

theorem prunedChildren_all : (children : List (String × Entry)) → prunedChildren .all children = children
  | [] => by rw [prunedChildren]
  | (name, e) :: rest => by
    rw [prunedChildren, prunedChildren_all rest, pruned_all e]
    simp [WalkScope.skips, WalkScope.all]

end

theorem prunedChildren_eq (s : WalkScope) (children : List (String × Entry)) : prunedChildren s children =
    (children.filter fun c => !s.skips c.1).map fun c => (c.1, c.2.pruned s false) := by
  induction children with
  | nil => rw [prunedChildren]; rfl
  | cons c rest ih =>
    obtain ⟨n, e⟩ := c
    rw [prunedChildren]
    cases hs : s.skips n <;> simp [hs, ih]

theorem map_fst_prunedChildren (s : WalkScope) (children : List (String × Entry)) :
    (prunedChildren s children).map Prod.fst = (children.map Prod.fst).filter fun n => !s.skips n := by
  rw [prunedChildren_eq, List.map_map, List.filter_map]
  rfl

mutual

theorem Proper.pruned (s : WalkScope) : (e : Entry) → e.Proper → ∀ isTop, (e.pruned s isTop).Proper
  | .directory children, h, isTop => by
    rw [pruned_directory]
    split
    · refine ⟨?_, AllProper.prunedChildren s children h.2⟩
      rw [map_fst_prunedChildren]
      exact h.1.filter _
    · exact ⟨List.nodup_nil, trivial⟩
  | .file .., _, isTop | .symlink .., _, isTop | .pipe .., _, isTop => by
    rw [pruned_leaf s isTop rfl]
    trivial

theorem AllProper.prunedChildren (s : WalkScope) : (children : List (String × Entry)) → AllProper children →
    AllProper (prunedChildren s children)
  | [], _ => by rw [Entry.prunedChildren]; trivial
  | (n, e) :: rest, h => by
    rw [Entry.prunedChildren]
    split
    · exact AllProper.prunedChildren s rest h.2
    · exact ⟨Proper.pruned s e h.1 false, AllProper.prunedChildren s rest h.2⟩

end

/-! ## Pruned entries by their names -/

theorem lookup_prunedChildren (s : WalkScope) (children : List (String × Entry)) (name : String) :
    (prunedChildren s children).lookup name =
      if s.skips name then none else (children.lookup name).map (·.pruned s false) := by
  induction children with
  | nil => simp [prunedChildren]
  | cons c rest ih =>
    obtain ⟨n, e⟩ := c
    rw [prunedChildren, lookup_cons_ite]
    by_cases hn : name = n
    · subst hn
      rw [if_pos rfl]
      split
      · rename_i hs
        rw [ih, if_pos hs]
      · rw [lookup_cons_ite, if_pos rfl]
        rfl
    · rw [if_neg hn]
      split
      · exact ih
      · rw [lookup_cons_ite, if_neg hn, ih]

/-- Whether a walk takes what names lead to: no name is one that it skips, and it goes down far enough. -/
def Reaches (s : WalkScope) (isTop : Bool) (names : List String) : Prop :=
  (∀ n ∈ names, s.skips n = false) ∧ (s.recursive = true ∨ names.length ≤ if isTop then 1 else 0)

/-- Of what names lead to, that is taken which the walk reaches. -/
theorem at?_pruned_isSome (s : WalkScope) (isTop : Bool) (e : Entry) (names : List String) :
    ((e.pruned s isTop).at? names).isSome = true ↔ Reaches s isTop names ∧ (e.at? names).isSome = true := by
  induction names generalizing isTop e with
  | nil => simp [Entry.at?, Reaches]
  | cons name names ih =>
    rw [at?_cons, at?_cons]
    cases e with
    | file | symlink | pipe =>
      rw [pruned_leaf s isTop rfl]
      simp [child?]
    | directory children =>
      rw [pruned_directory, child?, child?]
      by_cases htop : (isTop || s.recursive) = true
      · rw [if_pos htop, lookup_prunedChildren]
        cases hs : s.skips name with
        | true => simp [Reaches, hs]
        | false =>
          cases hl : children.lookup name with
          | none => simp
          | some c =>
            rw [if_neg Bool.false_ne_true, Option.map_some, Option.bind_some, Option.bind_some, ih]
            refine and_congr_left fun _ => ?_
            simp only [Reaches, List.mem_cons, forall_eq_or_imp, hs, true_and, List.length_cons,
              Bool.false_eq_true, if_false, Nat.le_zero, List.length_eq_zero_iff]
            rw [Bool.or_eq_true] at htop
            refine and_congr_right fun _ => ?_
            rcases htop with h | h <;> simp [h]
      · rw [Bool.not_eq_true, Bool.or_eq_false_iff] at htop
        simp [htop.1, htop.2, Reaches]

/-- What is taken is what is there, as far as the walk looks into it. -/
theorem at?_pruned {isTop : Bool} (h : (e.pruned s isTop).at? names = some f) :
    ∃ g, e.at? names = some g ∧ f = g.pruned s (isTop && names.isEmpty) := by
  induction names generalizing isTop e with
  | nil =>
    obtain rfl := Option.some.inj h
    exact ⟨e, rfl, by simp⟩
  | cons name names ih =>
    rw [at?_cons] at h
    obtain ⟨c, hc, hf⟩ := Option.bind_eq_some_iff.1 h
    have hdir := isDirectory_of_child? hc
    rw [isDirectory_pruned] at hdir
    obtain ⟨children, rfl⟩ := exists_directory hdir
    rw [pruned_directory, child?] at hc
    split at hc
    · rw [lookup_prunedChildren] at hc
      split at hc
      · cases hc
      · obtain ⟨k, hk, rfl⟩ := Option.map_eq_some_iff.1 hc
        obtain ⟨g, hg, rfl⟩ := ih hf
        exact ⟨g, by rw [at?_cons, child?, hk]; exact hg, by simp⟩
    · cases hc

theorem Named.pruned (h : e.Named) (s : WalkScope) (isTop : Bool) : (e.pruned s isTop).Named := by
  intro names children hc c hmem
  obtain ⟨g, hg, he⟩ := at?_pruned hc
  have hdir : g.isDirectory = true := by
    rw [← isDirectory_pruned s (isTop && names.isEmpty) g, ← he]
    rfl
  obtain ⟨all, rfl⟩ := exists_directory hdir
  rw [pruned_directory, Entry.directory.injEq] at he
  split at he
  · subst he
    have hm := List.mem_map_of_mem (f := Prod.fst) hmem
    rw [map_fst_prunedChildren] at hm
    obtain ⟨k, hk, hke⟩ := List.mem_map.1 (List.mem_filter.1 hm).1
    exact hke ▸ h names all hg k hk
  · subst he
    cases hmem

end Entry

/-! ## Walks -/

mutual

/-- A walk finds what a walk that takes everything finds of the pruned entry. -/
theorem walkEntry_eq (s : WalkScope) : (e : Entry) → ∀ isTop name,
    walkEntry s isTop name e = walkEntry .all isTop name (e.pruned s isTop)
  | .directory children, isTop, name => by
    rw [Entry.pruned_directory, walkEntry, walkEntry, walkChildren_eq s children]
    cases htop : isTop || s.recursive <;> simp [WalkScope.all, walkChildren, Collected.sorted]
  | .file .., isTop, name | .symlink .., isTop, name | .pipe .., isTop, name => by
    rw [Entry.pruned_leaf s isTop rfl, walkEntry, walkEntry] <;> exact nofun

theorem walkChildren_eq (s : WalkScope) : (children : List (String × Entry)) →
    walkChildren s children = walkChildren .all (Entry.prunedChildren s children)
  | [] => by rw [Entry.prunedChildren, walkChildren, walkChildren]
  | (name, e) :: rest => by
    have hall : WalkScope.all.skips name = false := rfl
    rw [walkChildren, Entry.prunedChildren]
    split
    · exact walkChildren_eq s rest
    · rw [walkChildren, hall, if_neg Bool.false_ne_true, walkEntry_eq s e, walkChildren_eq s rest]

end

/-- A disk as there can be one: a directory of directories whose entries have names of their own that entries can
have. -/
structure Disk.Valid (d : Disk) : Prop where
  isDirectory : d.top.isDirectory = true
  proper : d.top.Proper
  named : d.top.Named

namespace Disk.Valid

variable {d : Disk} {e : Entry} {p : Path} {follow : Bool}

theorem find? (h : d.Valid) (he : d.find? follow p = some e) : e.Proper ∧ e.Named := by
  obtain ⟨place, -, hp⟩ := Option.bind_eq_some_iff.1 he
  exact ⟨h.proper.at? hp, h.named.at? hp⟩

end Disk.Valid

end FileIndex
