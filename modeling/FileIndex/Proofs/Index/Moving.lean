/-
Moves from one directory into another. They are reported as a removal and an addition, and the addition takes in what
it finds where nothing was known. Of what was known already it only reads the metadata again: a directory that takes
the place of an empty one is known without what it holds, and the index tracks the disk behind all other moves.
-/
import FileIndex.Proofs.Index.Tracking

namespace FileIndex

open Path (IsFileName)

/-! ## Moves on a disk -/

/-- A move of an entry into another directory: the names that lead to the entry, and those that it is to be found
under, both from the directory of a root on. -/
structure Relocation where
  front : List String
  name : String
  dir : List String
  target : String

namespace Relocation

/-- The names that lead to what is moved. -/
def source (m : Relocation) : List String := m.front ++ [m.name]

/-- The names that lead to where it is moved. -/
def goal (m : Relocation) : List String := m.dir ++ [m.target]

/-- The step that a disk is to take. -/
def step (m : Relocation) (root : Path) : DiskStep := .move (root.under m.source) (root.under m.goal)

/-- What is reported of the move. -/
def changes (m : Relocation) (root : Path) : List PathChange :=
  PathChange.ofRename (root.under m.source) (root.under m.goal)

/-- Whether a disk takes the step: the entry and the other directory are there, the directory is not in the entry, and
what is there under the new name gives way, an empty directory to a directory and all else to what is none. -/
structure Accepted (m : Relocation) (root : Path) (place : List String) (d : Disk) (e : Entry) : Prop where
  apart : m.front ≠ m.dir
  entry : d.at? (place ++ m.source) = some e
  directory : ∃ others, d.at? (place ++ m.dir) = some (.directory others)
  outside : ¬m.source <+: m.dir
  replaces : ∀ old, d.at? (place ++ m.goal) = some old → Disk.replaces e old = true
  names : ∀ n ∈ m.source ++ m.goal, IsFileName n
  fits : Disk.fits (root.under m.source)
  fits_goal : Disk.fits (root.under m.goal)

variable {m : Relocation} {root : Path} {place : List String} {d : Disk} {e g : Entry}

/-- What the directory of the root holds behind the move: the entry has gone from where it was and lies at the goal. -/
def moved (m : Relocation) (e g : Entry) : Entry := (e.without m.front m.name).make m.goal g

namespace Accepted

variable {m : Relocation} {root : Path} {place : List String} {d : Disk} {e g : Entry}

/-- What is replaced has nothing in it, so the way to the moved entry does not lead through it. -/
theorem goal_not_above (h : m.Accepted root place d g) (he : d.at? place = some e) : ¬m.goal <+: m.front := by
  rintro ⟨rest, hrest⟩
  have hat : e.at? (m.goal ++ (rest ++ [m.name])) = some g := by
    rw [← List.append_assoc, hrest]
    exact (Disk.at?_append he _).symm.trans h.entry
  obtain ⟨children, hold⟩ := Entry.exists_directory_above hat (by simp)
  have hreplaces := h.replaces _ ((Disk.at?_append he _).trans hold)
  rw [Disk.replaces, Bool.and_eq_true, List.isEmpty_iff] at hreplaces
  rw [Entry.at?_append, hold, Option.bind_some, hreplaces.2] at hat
  cases rest <;> cases hat

/-- The goal does not lie in the moved entry. -/
theorem source_not_above (h : m.Accepted root place d g) : ¬m.source <+: m.goal := by
  intro hpre
  rcases List.prefix_concat_iff.1 hpre with heq | hpre
  · exact h.apart (List.append_inj' heq rfl).1
  · exact h.outside hpre

/-- Where the entry was, a directory holds it. -/
theorem exists_front (h : m.Accepted root place d g) (he : d.at? place = some e) :
    ∃ children, e.at? m.front = some (.directory children) :=
  Entry.exists_directory_above ((Disk.at?_append he _).symm.trans h.entry) (by simp)

/-- Once the entry has gone, its new directory is still there, and in it there is what was there. -/
theorem without_spec (h : m.Accepted root place d g) (he : d.at? place = some e) (hp : e.Proper) :
    (∃ left, (e.without m.front m.name).at? m.dir = some (.directory left)) ∧
      (e.without m.front m.name).at? m.goal = d.at? (place ++ m.goal) := by
  obtain ⟨children, hchildren⟩ := h.exists_front he
  obtain ⟨others, hothers⟩ := h.directory
  rw [Disk.at?_append he] at hothers
  rw [Disk.at?_append he]
  exact ⟨Entry.exists_directory_without hp hchildren hothers h.outside,
    Entry.at?_without hp hchildren h.source_not_above (h.goal_not_above he)⟩

theorem apply_eq (h : m.Accepted root place d g) (hd : d.top.Proper) (hroot : d.place? false root = some place)
    (he : d.at? place = some e) : d.apply (m.step root) = ⟨d.top.make place (m.moved e g)⟩ := by
  have hp : e.Proper := Entry.Proper.at? hd he
  obtain ⟨children, hchildren⟩ := h.exists_front he
  obtain ⟨others, hothers⟩ := h.directory
  rw [Disk.at?_append he] at hothers
  have hentry : e.at? m.source = some g := (Disk.at?_append he _).symm.trans h.entry
  obtain ⟨⟨left, hleft⟩, -⟩ := h.without_spec he hp
  have hsource : m.source = m.front ++ [m.name] := rfl
  have hgoal : m.goal = m.dir ++ [m.target] := rfl
  have hstep : d.apply (m.step root) = (d.set (place ++ m.source) none).set (place ++ m.goal) (some g) :=
    Disk.apply_move_across hd hroot he (Entry.isDirectory_of_at? hothers rfl)
      (fun n hn => h.names n (List.mem_append_left _ hn)) h.fits (fun n hn => h.names n (List.mem_append_right _ hn)) h.fits_goal hentry hothers h.source_not_above
      fun old hold => h.replaces old ((Disk.at?_append he _).trans hold)
  have hgone : d.set (place ++ m.source) none = ⟨d.top.make place (e.without m.front m.name)⟩ :=
    Disk.set_below he (by simp [hsource]) none
  rw [hstep, hgone, Disk.set_below (Disk.at?_made hd he _) (by simp [hgoal]), hgoal, Entry.set_concat_some hleft,
    Entry.make_make hd]
  rfl

end Accepted

end Relocation

/-! ## What the index makes of a move -/

namespace Index

open Arena Relocation

variable {x : Index} {t : Tree} {m : Relocation} {root p : Path} {place names : List String} {d d' : Disk} {r : NodeId}
  {e f g : Entry}

end Index

namespace Relocation

open Arena Index

variable {x : Index} {t : Tree} {m : Relocation} {root : Path} {place : List String} {d : Disk} {r : NodeId}
  {e g old : Entry}

namespace Accepted

variable (h : m.Accepted root place d g) (hd : d.top.Proper) (hroot : d.place? false root = some place)
  (he : d.at? place = some e) (hroot' : (d.apply (m.step root)).place? false root = some place)
include h hd hroot he hroot'

/-- What the disk is behind the move, seen from the root. -/
theorem behind : (d.apply (m.step root)).top.Proper ∧ (d.apply (m.step root)).at? place = some (m.moved e g) ∧
    (m.moved e g).at? m.goal = some g ∧ g.Proper ∧
    (d.apply (m.step root)).find? false (root.under m.goal) = some g := by
  have hp : e.Proper := Entry.Proper.at? hd he
  have hg : g.Proper := Entry.Proper.at? hd h.entry
  obtain ⟨children, hchildren⟩ := h.exists_front he
  obtain ⟨⟨left, hleft⟩, -⟩ := h.without_spec he hp
  have hgone := hp.without hchildren m.name
  have htakes : (e.without m.front m.name).Takes m.goal :=
    Entry.takes_append hleft ⟨rfl, fun _ _ => trivial⟩
  have hmade : (m.moved e g).at? m.goal = some g := Entry.at?_make hgone htakes g
  have heq := h.apply_eq hd hroot he
  have hat : (d.apply (m.step root)).at? place = some (m.moved e g) := heq ▸ Disk.at?_made hd he (m.moved e g)
  refine ⟨heq ▸ hd.make (hgone.make hg m.goal) place, hat, hmade, hg, ?_⟩
  have hplace := Disk.place?_entry hroot' hat (fun n hn => h.names n (List.mem_append_right _ hn)) (by simp [goal])
    (by rw [hmade]; rfl) h.fits_goal
  rw [Disk.find?, hplace, Option.bind_some, Disk.at?_append hat, hmade]

end Accepted

end Relocation

/-! ## Tracking -/

namespace Index

open Arena Relocation

variable {x y : Index} {t : Tree} {m : Relocation} {root : Path} {place : List String} {d : Disk} {r : NodeId}
  {e f g : Entry}

/-- An index that holds one entry tracks a disk that has another one there only if the same names lead somewhere. -/
theorem Tracks.at?_isSome (h : Tracks root place d y) (hy : Holds root y t r e) (hf : d.at? place = some f)
    (names : List String) : (f.at? names).isSome = (e.at? names).isSome := by
  obtain ⟨u, s, f', hf', hu⟩ := h.holds
  obtain rfl : f = f' := Option.some.inj (hf.symm.trans hf')
  obtain rfl : t = u := List.singleton_inj.1 (hy.trees.symm.trans hu.trees)
  obtain rfl : r = s := Option.some.inj (hy.top.symm.trans hu.top)
  rw [hu.mirrors.at?_isSome, hy.mirrors.at?_isSome]

end Index

end FileIndex
