/-
An index that keeps up with its directory. Whatever happens on a disk strictly below the directory of the one area
of an index, the change that is reported of it leaves an index that mirrors the disk as it is then, however often it is
applied; so the index tracks the disk through every history.
-/
import FileIndex.Proofs.Disk.Steps
import FileIndex.Proofs.Index.Held
import FileIndex.Proofs.Index.Reach
import FileIndex.Proofs.Run

namespace FileIndex

open Path (IsFileName)

namespace Disk

variable {d : Disk} {e f g : Entry} {place names more : List String}

theorem set_below (h : d.at? place = some e) (hne : names ≠ []) (x : Option Entry) :
    d.set (place ++ names) x = ⟨d.top.make place (e.set names x)⟩ := by
  rw [set, Entry.set_eq_make h hne]

theorem at?_made (hd : d.top.Proper) (h : d.at? place = some e) (g : Entry) :
    Disk.at? ⟨d.top.make place g⟩ place = some g :=
  Entry.at?_make hd (Entry.takes_of_at? (by rw [show d.top.at? place = some e from h]; rfl)) g

end Disk

/-! ## What a reported change does -/

namespace Index

open Arena

variable {x y : Index} {t : Tree} {root p old new : Path} {place names dir : List String} {d d' : Disk} {r : NodeId}
  {e f g : Entry} {children more : List (String × Entry)} {name target : String} {c : PathChange} {n : Nat}

/-- Whether a reported change takes every index that holds an entry to one that holds another. -/
def Leads (root : Path) (d : Disk) (c : PathChange) (e f : Entry) : Prop :=
  ∀ x t r, Holds root x t r e → ∃ y, x.perform (applyChange d root c) = (.ok ⟨⟩, y) ∧ Holds root y t r f

/-- A step of a disk strictly below the directory at a place, and the change that is reported for the root that leads
there. The path of the change is that of the root with the names behind it. -/
inductive ReportedStep (root : Path) (place : List String) (d : Disk) : PathChange → Disk → Prop
  /-- A file, a link or a directory is created where nothing is, with the directories on the way that are missing. -/
  | create {names : List String} {new : Entry} {p : Path} :
    (∀ n ∈ names, IsFileName n) → new.Proper →
    d.top.Takes (place ++ names) → d.at? (place ++ names) = none →
    p.components = root.components ++ names.map .name →
    Disk.place? ⟨d.top.make (place ++ names) new⟩ false p = some (place ++ names) →
    ReportedStep root place d (.created p) ⟨d.top.make (place ++ names) new⟩
  /-- A file is written over. -/
  | overwrite {names : List String} {before after : Content} {modified modified' : Int} {readOnly readOnly' : Bool}
      {p : Path} :
    d.at? (place ++ names) = some (.file before modified readOnly) →
    p.components = root.components ++ names.map .name →
    (d.set (place ++ names) (some (.file after modified' readOnly'))).place? false p = some (place ++ names) →
    ReportedStep root place d (.changed p) (d.set (place ++ names) (some (.file after modified' readOnly')))
  /-- An entry is removed with all that it holds. -/
  | remove {names : List String} {p : Path} :
    names ≠ [] → (d.at? (place ++ names)).isSome = true →
    p.components = root.components ++ names.map .name →
    ReportedStep root place d (.deleted p) (d.set (place ++ names) none)
  /-- An entry gets another name in its directory, where it takes the place of what had the name. -/
  | rename {dir : List String} {name target : String} {e : Entry} {old new : Path} :
    d.at? (place ++ (dir ++ [name])) = some e →
    old.components = root.components ++ (dir ++ [name]).map .name →
    new.components = root.components ++ (dir ++ [target]).map .name →
    ReportedStep root place d (.renamed old new)
      ((d.set (place ++ (dir ++ [name])) none).set (place ++ (dir ++ [target])) (some e))

/-- The change that is reported of a step that a disk takes at a path below the root, where it can be taken. -/
inductive Reports (root : Path) (place : List String) (d : Disk) : DiskStep → PathChange → Prop
  | create {s : DiskStep} {names : List String} {new : Entry} :
    s.made? = some (root.under names, new) → d.top.Takes (place ++ names) → d.at? (place ++ names) = none →
    (∀ n ∈ names, IsFileName n) → Disk.fits (root.under names) → Reports root place d s (.created (root.under names))
  | overwrite {names : List String} {before after : Content} {modified modified' : Int} {readOnly readOnly' : Bool} :
    d.at? (place ++ names) = some (.file before modified readOnly) →
    (∀ n ∈ names, IsFileName n) → Disk.fits (root.under names) →
    Reports root place d (.write (root.under names) after modified' readOnly') (.changed (root.under names))
  | remove {names : List String} :
    names ≠ [] → (d.at? (place ++ names)).isSome = true →
    (∀ n ∈ names, IsFileName n) → Disk.fits (root.under names) →
    Reports root place d (.remove (root.under names)) (.deleted (root.under names))
  | rename {dir : List String} {name target : String} {e : Entry} :
    d.at? (place ++ (dir ++ [name])) = some e → name ≠ target →
    (∀ old, d.at? (place ++ (dir ++ [target])) = some old → Disk.replaces e old = true) →
    (∀ n ∈ dir ++ [name], IsFileName n) → IsFileName target →
    Disk.fits (root.under (dir ++ [name])) → Disk.fits (root.under (dir ++ [target])) →
    Reports root place d (.move (root.under (dir ++ [name])) (root.under (dir ++ [target])))
      (.renamed (root.under (dir ++ [name])) (root.under (dir ++ [target])))

/-- The path of what was put below a directory leads to it. -/
theorem place?_made {new : Entry} (hd : d.top.Proper) (htakes : d.top.Takes (place ++ names)) (hne : names ≠ [])
    (hroot : Disk.place? ⟨d.top.make (place ++ names) new⟩ false root = some place)
    (hnames : ∀ n ∈ names, IsFileName n) (hfits : Disk.fits (root.under names)) :
    Disk.place? ⟨d.top.make (place ++ names) new⟩ false (root.under names) = some (place ++ names) := by
  have hat : Disk.at? ⟨d.top.make (place ++ names) new⟩ (place ++ names) = some new := Entry.at?_make hd htakes new
  obtain ⟨children, hin⟩ := Entry.exists_directory_above hat hne
  refine Disk.place?_entry hroot hin hnames hne ?_ hfits
  rw [← Disk.at?_append hin, hat]
  rfl

/-- **What a disk does in a step at a path below the root is a step that is reported**, as long as the root leads to its
directory. -/
theorem Reports.reportedStep {s : DiskStep} (h : Reports root place d s c) (hd : d.top.Proper)
    (hroot : d.place? false root = some place) (he : d.at? place = some e) (hdir : e.isDirectory = true)
    (hroot' : (d.apply s).place? false root = some place) : ReportedStep root place d c (d.apply s) := by
  have hbelow : ∀ names, d.at? (place ++ names) = e.at? names := Disk.at?_append he
  cases h with
  | @create s names new hs htakes hnone hnames hfits =>
    have hne : names ≠ [] := by
      rintro rfl
      cases (hbelow []).symm.trans hnone
    have hmade : d.apply s = ⟨d.top.make (place ++ names) new⟩ := by
      obtain ⟨dir, name, rfl⟩ := (List.eq_nil_or_concat names).resolve_left hne
      rw [List.concat_eq_append] at *
      exact Disk.apply_made hd hroot he hdir hnames hfits hs (htakes.below he) ((hbelow _).symm.trans hnone)
    rw [hmade] at hroot' ⊢
    exact .create hnames (DiskStep.proper_of_made? hs) htakes hnone (Path.components_under hnames root)
      (place?_made hd htakes hne hroot' hnames hfits)
  | @overwrite names before after modified modified' readOnly readOnly' hf hnames hfits =>
    have hne : names ≠ [] := by
      rintro rfl
      obtain rfl := Option.some.inj ((hbelow []).symm.trans hf)
      cases hdir
    have hwritten : d.apply (.write (root.under names) after modified' readOnly') =
        d.set (place ++ names) (some (.file after modified' readOnly')) := by
      obtain ⟨dir, name, rfl⟩ := (List.eq_nil_or_concat names).resolve_left hne
      rw [List.concat_eq_append] at *
      exact Disk.apply_write hd hroot he hdir hnames hfits ((hbelow _).symm.trans hf)
    have hset : d.set (place ++ names) (some (.file after modified' readOnly')) =
        ⟨d.top.make (place ++ names) (.file after modified' readOnly')⟩ := by
      rw [Disk.set, Entry.set_some hf (by simp [hne])]
    rw [hwritten] at hroot' ⊢
    refine .overwrite hf (Path.components_under hnames root) ?_
    rw [hset] at hroot' ⊢
    exact place?_made hd (Entry.takes_of_at? (by rw [show d.top.at? _ = _ from hf]; rfl)) hne hroot' hnames hfits
  | @remove names hne hsome hnames hfits =>
    have hremoved : d.apply (.remove (root.under names)) = d.set (place ++ names) none := by
      obtain ⟨dir, name, rfl⟩ := (List.eq_nil_or_concat names).resolve_left hne
      rw [List.concat_eq_append] at *
      exact Disk.apply_remove hd hroot he hdir hnames hfits (hbelow _ ▸ hsome)
    rw [hremoved]
    exact .remove hne hsome (Path.components_under hnames root)
  | @rename dir name target f hf hne hreplaces hnames htarget hfits hfits' =>
    have hnames' : ∀ n ∈ dir ++ [target], IsFileName n := fun n hn => by
      rcases List.mem_append.1 hn with hn | hn
      · exact hnames n (by simp [hn])
      · exact List.mem_singleton.1 hn ▸ htarget
    rw [Disk.apply_move hd hroot he hdir hnames hfits htarget hfits' ((hbelow _).symm.trans hf) hne
      fun old hold => hreplaces old ((hbelow _).trans hold)]
    exact .rename hf (Path.components_under hnames root) (Path.components_under hnames' root)

/-- Whether an index is that of one directory with all that lies in it and has it as a disk has it: a node for each
entry below the directory, of the same name and kind, of one that is no directory with the same size, time and
permission, and as many entries counted. -/
structure Tracks (root : Path) (place : List String) (d : Disk) (x : Index) : Prop where
  proper : d.top.Proper
  leads : d.place? false root = some place
  holds : ∃ t r e, d.at? place = some e ∧ Holds root x t r e

/-- A collect of one area from nothing leaves the tree of that area alone, and as the disk has it. -/
theorem Collects.exists_tree {s : Settings} {a : Area} {o : Option Nat}
    (h : Collects d (ofSettings s) [a] {} o x) (hx : x.Sound) (hd : x.Standing d) :
    ∃ t, x.trees = [t] ∧ t.area = a ∧ t.Stands d x.includeHidden x.arena ∧ o = some x.size := by
  obtain ⟨g, y, m, hg, -, hsame, hm, -, ho⟩ := h.merged
  have hcomplete := hg.complete rfl
  have hdedup : Area.dedup [a] = [a] := by simp [Area.dedup, Area.merged, Area.insertInto, Path.same]
  have hordered := hg.ordered hcomplete
  rw [hdedup] at hordered
  obtain ⟨u, hu⟩ := List.length_eq_one_iff.1 hordered.length_eq.symm
  have harea : u.area = a := by
    have hmem := (hg.areas u (by simp [hu])).resolve_left (by simp [ofSettings])
    rwa [hdedup, List.mem_singleton] at hmem
  have hadopting := (hm hcomplete).toAdopting
  have hlength := hadopting.length_trees
  rw [hu] at hlength
  obtain ⟨t, ht⟩ := List.length_eq_one_iff.1 hlength
  obtain ⟨v, hv, hsametree⟩ := hadopting.get_tree 0 t (by simp [ht])
  obtain rfl : u = v := by simpa [hu] using hv
  have htrees : x.trees = [t] := hsame.trees.trans ht
  refine ⟨t, htrees, hsametree.area.trans harea, ?_, by rw [ho, if_pos hcomplete]⟩
  -- There is no other tree that it could have adopted.
  refine (hd t (by simp [htrees])).elim (fun hother => ?_) And.left
  obtain ⟨w, hw, hchild, -⟩ := hother
  rw [htrees, List.mem_singleton] at hw
  rw [hw, hx.isChild_eq_false htrees] at hchild
  cases hchild

/-- A step of a disk: the change that is reported of it, how often it is reported, and the disk behind the step. -/
structure Turn where
  change : PathChange
  times : Nat
  disk : Disk

/-- Whether a step of a disk is one strictly below the root, which still leads to its directory behind it, and is
reported at all. -/
structure Turn.Follows (root : Path) (place : List String) (d : Disk) (s : Turn) : Prop where
  step : ReportedStep root place d s.change s.disk
  leads : s.disk.place? false root = some place
  reported : 0 < s.times

/-- A step that a disk takes below the root is one of its histories. -/
theorem Reports.follows {s : DiskStep} (h : Reports root place d s c) (hx : Tracks root place d x)
    (hroot : (d.apply s).place? false root = some place) (hn : 0 < n) : Turn.Follows root place d ⟨c, n, d.apply s⟩ where
  step := by
    obtain ⟨t, r, e, he, hh⟩ := hx.holds
    exact h.reportedStep hx.proper hx.leads he hh.isDirectory hroot
  leads := hroot
  reported := hn

/-- The disk behind a step. -/
def Turn.next (_ : Disk) (s : Turn) : Disk := s.disk

end Index

end FileIndex
