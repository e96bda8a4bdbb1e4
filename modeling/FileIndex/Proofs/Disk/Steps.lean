/-
Steps of a disk at paths below a directory. What leads to such a path is made as far as it is missing, and what a step
makes, replaces, removes or moves is what lies where the names of the path lead.
-/
import FileIndex.Disk.Step
import FileIndex.Proofs.Disk.Resolve

namespace FileIndex

open Path (IsFileName)

/-- What a step makes where there is nothing, and the path of it. -/
def DiskStep.made? : DiskStep → Option (Path × Entry)
  | .write p content modified readOnly => some (p, .file content modified readOnly)
  | .makeDirectory p => some (p, .directory [])
  | .symlink p target modified => if target = "" then none else some (p, .symlink target modified)
  | .pipe p modified => some (p, .pipe modified)
  | .remove _ | .move _ _ => none

theorem DiskStep.proper_of_made? {s : DiskStep} {p : Path} {e : Entry} (h : s.made? = some (p, e)) : e.Proper := by
  cases s with
  | write q content modified readOnly =>
    obtain ⟨-, rfl⟩ := Prod.mk.inj (Option.some.inj h)
    trivial
  | makeDirectory q =>
    obtain ⟨-, rfl⟩ := Prod.mk.inj (Option.some.inj h)
    exact ⟨List.nodup_nil, trivial⟩
  | symlink q target modified =>
    rw [made?] at h
    split at h
    · cases h
    · obtain ⟨-, rfl⟩ := Prod.mk.inj (Option.some.inj h)
      trivial
  | pipe q modified =>
    obtain ⟨-, rfl⟩ := Prod.mk.inj (Option.some.inj h)
    trivial
  | remove | move => cases h

namespace Disk

variable {d d' : Disk} {follow : Bool} {links : Nat} {here top place : List String} {names ps : List String}
  {name : String} {p q : Path} {e f : Entry} {children : List (String × Entry)}

/-! ## What is kept -/

/-- Whether what was on a disk is still there, but for what directories hold. -/
structure Keeps (d d' : Disk) : Prop where
  directory : ∀ place children, d.at? place = some (.directory children) →
    ∃ more, d'.at? place = some (.directory more)
  leaf : ∀ place e, d.at? place = some e → e.isDirectory = false → d'.at? place = some e

/-- A disk that keeps what was there leads there as it did. -/
theorem Keeps.resolve (h : Keeps d d') (hr : d.resolve follow links here ps = some top)
    (ht : (d.at? top).isSome = true) : d'.resolve follow links here ps = some top := by
  fun_induction d.resolve follow links here ps with
  | case1 links here => rw [Disk.resolve, hr]
  | case2 links here name rest hidle ih => rw [resolve_idle hidle, ih hr]
  | case4 links here rest hhere hidle ih => rw [Disk.resolve, if_neg hidle, if_pos rfl, if_neg hhere, ih hr]
  | case3 | case5 | case7 | case10 | case11 | case14 => cases hr
  | case6 links here name hidle hup hname hat =>
    rw [← Option.some.inj hr, hat] at ht
    cases ht
  | case8 links here name rest hidle hup hname children hat ih =>
    obtain ⟨more, hmore⟩ := h.directory _ _ hat
    rw [Disk.resolve, if_neg hidle, if_neg hup, if_neg hname, hmore]
    exact ih hr
  | case9 links here name rest hidle hup hname target modified hat hlast =>
    rw [Disk.resolve, if_neg hidle, if_neg hup, if_neg hname, h.leaf _ _ hat rfl]
    exact (if_pos hlast).trans hr
  | case12 here name rest hidle hup hname target modified hat hlast habs links ih =>
    rw [Disk.resolve, if_neg hidle, if_neg hup, if_neg hname, h.leaf _ _ hat rfl]
    exact (if_neg hlast).trans ((if_neg habs).trans (ih hr))
  | case13 links here name hidle hup hname f hdir hlink hat =>
    have hleaf : f.isDirectory = false := by
      cases f with
      | directory children => exact (hdir children rfl).elim
      | file | symlink | pipe => rfl
    rw [Disk.resolve, if_neg hidle, if_neg hup, if_neg hname, h.leaf _ _ hat hleaf]
    cases f with
    | directory children => exact (hdir children rfl).elim
    | symlink target modified => exact (hlink target modified rfl).elim
    | file | pipe => exact (if_pos rfl).trans hr

theorem Keeps.place? (h : Keeps d d') (hp : d.place? follow p = some top) (ht : (d.at? top).isSome = true) :
    d'.place? follow p = some top := by
  obtain ⟨hne, habs, hres⟩ := place?_eq_some hp
  rw [place?_eq_resolve hne habs (fits_of_place? hp)]
  exact h.resolve hres ht

theorem keeps_make (hd : d.top.Proper) (htakes : d.top.Takes names) (hn : d.at? names = none) (new : Entry) :
    Keeps d ⟨d.top.make names new⟩ where
  directory place children hc := by
    obtain ⟨g, hg, hdir, -⟩ := Entry.at?_make_missing hd htakes hn new hc
    obtain ⟨more, rfl⟩ := Entry.exists_directory hdir
    exact ⟨more, hg⟩
  leaf place e he hleaf := by
    obtain ⟨g, hg, -, hsame⟩ := Entry.at?_make_missing hd htakes hn new he
    rw [← hsame hleaf]
    exact hg

/-! ## Directories that are made -/

theorem holdsDirectory_iff : d.holdsDirectory p = true ↔
    ∃ place children, d.place? true p = some place ∧ d.at? place = some (.directory children) := by
  rw [holdsDirectory, Option.any_eq_true, find?]
  constructor
  · rintro ⟨e, he, hdir⟩
    obtain ⟨place, hplace, hat⟩ := Option.bind_eq_some_iff.1 he
    obtain ⟨children, rfl⟩ := Entry.exists_directory hdir
    exact ⟨place, children, hplace, hat⟩
  · rintro ⟨place, children, hplace, hat⟩
    exact ⟨_, Option.bind_eq_some_iff.2 ⟨place, hplace, hat⟩, rfl⟩

theorem makeAll_append {us vs : List Path} (h : ∀ u ∈ us, d.holdsDirectory u = true) :
    d.makeAll (us ++ vs) = d.makeAll vs := by
  induction us with
  | nil => rfl
  | cons u us ih =>
    rw [List.cons_append, makeAll, makeOne?, if_pos (h u (by simp))]
    exact ih fun v hv => h v (by simp [hv])

/-- The paths that lead to what is there lead to directories. -/
theorem holdsDirectory_of_mem_lineage (hd : d.top.isDirectory = true) {u : Path} (fuel : Nat)
    (hq : q.spelling = "" ∨ d.holdsDirectory q = true) (hu : u ∈ lineage fuel q) : d.holdsDirectory u = true := by
  induction fuel generalizing q with
  | zero => cases hu
  | succ fuel ih =>
    rw [lineage] at hu
    split at hu
    · cases hu
    · rename_i hne
      have hhold := hq.resolve_left hne
      split at hu
      · rename_i parent hparent
        rcases List.mem_cons.1 hu with rfl | hu
        · exact hhold
        · refine ih ?_ hu
          by_cases hp : parent.spelling = ""
          · exact .inl hp
          · obtain ⟨place, children, hplace, -⟩ := holdsDirectory_iff.1 hhold
            exact .inr (holdsDirectory_parent hplace hd hparent hp)
      · rw [List.mem_singleton.1 hu]
        exact hhold

/-! ## The paths that lead to a path -/

/-- The paths that names lead to from a path, one after the other. -/
def belows (p : Path) : List String → List Path
  | [] => []
  | name :: rest => p.child name :: belows (p.child name) rest

theorem belows_concat (p : Path) (names : List String) (name : String) :
    belows p (names ++ [name]) = belows p names ++ [p.under (names ++ [name])] := by
  induction names generalizing p with
  | nil => rfl
  | cons n names ih => rw [List.cons_append, belows, ih, belows, List.cons_append, Path.under_cons]

/-- In front of an entry's name there is nothing or a path that leads to a directory. -/
theorem exists_parent_under (hd : d.top.isDirectory = true) (hp : d.place? follow p = some top)
    (he : d.at? top = some (.directory children)) (hname : IsFileName name) (hfits : fits (p.under [name])) :
    ∃ q, (p.under [name]).parent? = some q ∧ (q.spelling = "" ∨ d.holdsDirectory q = true) := by
  have hone : ∀ n ∈ [name], IsFileName n := fun n hn => List.mem_singleton.1 hn ▸ hname
  have hlast : (p.under [name]).components.getLast? = some (.name name) := by
    rw [Path.components_under hone, List.map_singleton, List.getLast?_concat]
  obtain ⟨q, hq⟩ := Option.isSome_iff_exists.1 (Path.parent?_isSome hlast (by simp))
  have hplace : d.place? false (p.under ([] ++ [name])) = _ := place?_under hp he rfl nofun hname rfl nofun hfits
  exact ⟨q, hq, or_iff_not_imp_left.2 fun hempty => holdsDirectory_parent hplace hd hq hempty⟩

/-- The paths that lead to a path below a directory: the last of them go down from the directory, the others lead to
directories. -/
theorem lineage_under (hd : d.top.isDirectory = true) (hp : d.place? follow p = some top)
    (he : d.at? top = some (.directory children)) (hnames : ∀ n ∈ names, IsFileName n) (hne : names ≠ [])
    (hfits : fits (p.under names)) {fuel : Nat} (hfuel : names.length ≤ fuel) :
    ∃ us, (lineage fuel (p.under names)).reverse = us ++ belows p names ∧ ∀ u ∈ us, d.holdsDirectory u = true := by
  induction names using List.reverseRecOn generalizing fuel with
  | nil => exact absurd rfl hne
  | append_singleton names name ih =>
    have hname := hnames name (by simp)
    have hfront : ∀ n ∈ names, IsFileName n := fun n hn => hnames n (by simp [hn])
    obtain ⟨fuel, rfl⟩ : ∃ k, fuel = k + 1 := Nat.exists_eq_add_one.2 (by simp at hfuel; omega)
    have hspelled := Path.spelling_under hnames hne p
    rw [belows_concat]
    by_cases hnil : names = []
    · subst hnil
      obtain ⟨q, hq, hhold⟩ := exists_parent_under hd hp he hname hfits
      refine ⟨(lineage fuel q).reverse, ?_, fun u hu =>
        holdsDirectory_of_mem_lineage hd fuel hhold (List.mem_reverse.1 hu)⟩
      rw [lineage, if_neg hspelled, List.nil_append, hq]
      simp [belows]
    · obtain ⟨us, hus, hhold⟩ := ih hfront hnil (fits_under (fun n hn => List.mem_singleton.1 hn ▸ hname) hfits) (by simpa using hfuel)
      refine ⟨us, ?_, hhold⟩
      rw [lineage, if_neg hspelled, Path.parent?_under hfront hnil hname p]
      simp [hus]

/-! ## Making the way to a path -/

/-- The directories that names lead to are made one below the other, as far as they are missing. -/
theorem makeAll_belows (hd : d.top.Proper) (hp : d.place? false p = some top) (he : d.at? top = some e)
    (hnames : ∀ n ∈ names, IsFileName n) (htakes : e.Takes names)
    (hend : ∀ f, e.at? names = some f → f.isDirectory = true) (hfits : fits (p.under names)) :
    d.makeAll (belows p names) = ⟨d.top.make (top ++ names) ((e.at? names).getD (.directory []))⟩ := by
  induction names generalizing d p top e with
  | nil => rw [belows, makeAll, List.append_nil, Entry.at?, Option.getD_some, Entry.make_self he]
  | cons name names ih =>
    obtain ⟨children, rfl⟩ := Entry.exists_directory htakes.1
    have hname := hnames name (by simp)
    have hrest : ∀ n ∈ names, IsFileName n := fun n hn => hnames n (by simp [hn])
    have hfront : fits (p.under [name]) := fits_under hrest hfits
    have hlook : d.at? (top ++ [name]) = children.lookup name := Entry.at?_concat he name
    have hplace : ∀ last, (last = true → ∀ target modified, children.lookup name ≠ some (.symlink target modified)) →
        d.place? last (p.child name) = some (top ++ [name]) := fun last hlink =>
      (place?_under hp he rfl (by simp) hname rfl hlink hfront :
        d.place? last (p.under ([] ++ [name])) = some (top ++ ([] ++ [name])))
    have happend : top ++ name :: names = (top ++ [name]) ++ names := by simp
    rw [belows, makeAll, Entry.at?_cons, Entry.child?, happend]
    cases hc : children.lookup name with
    | some c =>
      have hcdir : c.isDirectory = true := by
        cases names with
        | nil => exact hend c (by rw [Entry.at?_cons, Entry.child?, hc]; rfl)
        | cons n names => exact (htakes.2 c hc).1
      obtain ⟨inner, rfl⟩ := Entry.exists_directory hcdir
      rw [hc] at hlook
      have hhold : d.holdsDirectory (p.child name) = true :=
        holdsDirectory_iff.2 ⟨_, _, hplace true (fun _ _ _ hl => by cases hc.symm.trans hl), hlook⟩
      rw [makeOne?, if_pos hhold]
      refine ih hd (hplace false (by simp)) hlook hrest (htakes.2 _ hc) (fun f hf => hend f ?_) hfits
      rw [Entry.at?_cons, Entry.child?, hc]
      exact hf
    | none =>
      rw [hc] at hlook
      have hno : ¬d.holdsDirectory (p.child name) = true := fun hhold => by
        obtain ⟨place, inner, hp', hat⟩ := holdsDirectory_iff.1 hhold
        obtain rfl := Option.some.inj ((hplace true fun _ _ _ hl => by cases hc.symm.trans hl).symm.trans hp')
        cases hlook.symm.trans hat
      -- The directory of this name is made, and the path leads to it.
      have htop : d.top.Takes (top ++ [name]) := Entry.takes_of_missing he hc []
      have hkeeps : Keeps d ⟨d.top.make (top ++ [name]) (.directory [])⟩ := keeps_make hd htop hlook _
      have hat : Disk.at? ⟨d.top.make (top ++ [name]) (.directory [])⟩ (top ++ [name]) = some (.directory []) :=
        Entry.at?_make hd htop _
      obtain ⟨more, hmore⟩ := hkeeps.directory _ _ he
      have hlead : Disk.place? ⟨d.top.make (top ++ [name]) (.directory [])⟩ false (p.under [name]) =
          some (top ++ [name]) := by
        refine place?_entry (hkeeps.place? hp (by rw [he]; rfl)) hmore (fun n hn => ?_) (by simp) ?_ hfront
        · exact List.mem_singleton.1 hn ▸ hname
        · rw [← at?_append hmore, hat]
          rfl
      have hempty : (Entry.directory []).Proper := by simp [Entry.Proper, Entry.AllProper]
      have hnext := ih (hd.make hempty _) hlead hat hrest (Entry.takes_empty _)
        (fun f hf => by rw [Entry.eq_of_at?_empty hf]; rfl) hfits
      rw [makeOne?, if_neg hno, hplace false (by simp)]
      simp only [hlook, Option.isNone_none, if_true]
      rw [set, Entry.set_concat_some he]
      refine hnext.trans ?_
      have hend : ((Entry.directory []).at? names).getD (.directory []) = .directory [] := by
        cases hf : (Entry.directory []).at? names with
        | none => rfl
        | some f => exact Entry.eq_of_at?_empty hf
      rw [hend, Entry.make_append hat, Entry.make_make hd, Entry.make_append_missing htop hlook]
      rfl

/-- What making the way to a path below a directory comes to. -/
theorem makePath_under (hd : d.top.Proper) (hp : d.place? false p = some top) (he : d.at? top = some e)
    (hdir : e.isDirectory = true) (hnames : ∀ n ∈ names, IsFileName n) (hne : names ≠ []) (htakes : e.Takes names)
    (hend : ∀ f, e.at? names = some f → f.isDirectory = true) (hfits : fits (p.under names)) :
    d.makePath (p.under names) = ⟨d.top.make (top ++ names) ((e.at? names).getD (.directory []))⟩ := by
  obtain ⟨children, rfl⟩ := Entry.exists_directory hdir
  have hfuel : names.length ≤ (p.under names).spelling.length + 1 := by
    rw [← String.length_toList]
    exact Nat.le_succ_of_le (Path.length_le_under hnames p)
  obtain ⟨us, hus, hhold⟩ := lineage_under (Entry.isDirectory_of_at? he rfl) hp he hnames hne hfits hfuel
  rw [makePath, hus, makeAll_append hhold, makeAll_belows hd hp he hnames htakes hend hfits]

theorem makeParents_under (hd : d.top.Proper) (hp : d.place? false p = some top) (he : d.at? top = some e)
    (hdir : e.isDirectory = true) (hnames : ∀ n ∈ names ++ [name], IsFileName n) (htakes : e.Takes (names ++ [name]))
    (hfits : fits (p.under (names ++ [name]))) :
    d.makeParents (p.under (names ++ [name])) =
      ⟨d.top.make (top ++ names) ((e.at? names).getD (.directory []))⟩ := by
  have hname := hnames name (by simp)
  have hfront : ∀ n ∈ names, IsFileName n := fun n hn => hnames n (by simp [hn])
  by_cases hnil : names = []
  · subst hnil
    obtain ⟨children, rfl⟩ := Entry.exists_directory hdir
    have htop := Entry.isDirectory_of_at? he rfl
    obtain ⟨q, hq, hhold⟩ := exists_parent_under htop hp he hname hfits
    have hall : ∀ u ∈ (lineage (q.spelling.length + 1) q).reverse, d.holdsDirectory u = true := fun u hu =>
      holdsDirectory_of_mem_lineage htop _ hhold (List.mem_reverse.1 hu)
    rw [makeParents, List.nil_append, hq, List.append_nil, Entry.at?, Option.getD_some, Entry.make_self he]
    have hmade : d.makeAll ((lineage (q.spelling.length + 1) q).reverse ++ []) = d := makeAll_append hall
    rwa [List.append_nil] at hmade
  · rw [makeParents, Path.parent?_under hfront hnil hname]
    exact makePath_under hd hp he hdir hfront hnil htakes.front (fun f hf => (htakes.below hf).1)
      (fits_under (fun n hn => List.mem_singleton.1 hn ▸ hname) hfits)

/-- A disk on which the way to the entry at a path is made: the path leads to its place, where there is what was there
before. -/
structure Prepared (d d' : Disk) (p : Path) (place : List String) : Prop where
  at? : d'.at? place = d.at? place
  leads : ∀ last, (last = true → ∀ target modified, d.at? place ≠ some (.symlink target modified)) →
    d'.place? last p = some place
  puts : ∀ g, d'.set place (some g) = ⟨d.top.make place g⟩
  idle : (d.at? place).isSome = true → d' = d

theorem prepared_makeParents (hd : d.top.Proper) (hp : d.place? false p = some top) (he : d.at? top = some e)
    (hdir : e.isDirectory = true) (hnames : ∀ n ∈ names ++ [name], IsFileName n) (htakes : e.Takes (names ++ [name]))
    (hfits : fits (p.under (names ++ [name]))) :
    Prepared d (d.makeParents (p.under (names ++ [name]))) (p.under (names ++ [name])) (top ++ (names ++ [name])) := by
  rw [makeParents_under hd hp he hdir hnames htakes hfits]
  have hname := hnames name (by simp)
  have hfront : ∀ n ∈ names, IsFileName n := fun n hn => hnames n (by simp [hn])
  have hproper := Entry.Proper.at? hd he
  cases hf : e.at? names with
  | some f =>
    obtain ⟨children, rfl⟩ := Entry.exists_directory (htakes.below hf).1
    have hat : d.at? (top ++ names) = some (.directory children) := (at?_append he names).trans hf
    rw [Option.getD_some, Entry.make_self hat]
    exact {
      at? := rfl
      leads := fun last hlink => place?_under hp he hdir hfront hname hf (fun hl target modified hc => hlink hl target modified
        (by rw [← List.append_assoc, show d.at? _ = _ from Entry.at?_concat hat name, hc])) hfits
      puts := fun g => by rw [set, ← List.append_assoc, Entry.set_concat_some hat]
      idle := fun _ => rfl }
  | none =>
    have hnone : d.at? (top ++ names) = none := (at?_append he names).trans hf
    have htop : d.top.Takes (top ++ names) := Entry.takes_append he htakes.front
    have hkeeps : Keeps d ⟨d.top.make (top ++ names) (.directory [])⟩ := keeps_make hd htop hnone _
    have hat : Disk.at? ⟨d.top.make (top ++ names) (.directory [])⟩ (top ++ names) = some (.directory []) :=
      Entry.at?_make hd htop _
    obtain ⟨children, rfl⟩ := Entry.exists_directory hdir
    obtain ⟨more, hmore⟩ := hkeeps.directory _ _ he
    have hlast : d.at? (top ++ (names ++ [name])) = none := by
      rw [← List.append_assoc]
      exact (Entry.at?_append _ _ _).trans (by rw [show d.top.at? _ = _ from hnone]; rfl)
    exact {
      at? := by
        rw [hlast, ← List.append_assoc]
        exact Entry.at?_concat hat name
      leads := fun last _ => place?_under (hkeeps.place? hp (by rw [he]; rfl)) hmore rfl hfront hname
        ((at?_append hmore names).symm.trans hat) nofun hfits
      puts := fun g => by
        rw [Option.getD_none, set, ← List.append_assoc, Entry.set_concat_some hat, Entry.make_append hat, Entry.make_make hd,
          Entry.make_append_missing htop hnone]
      idle := fun hsome => by rw [hlast] at hsome; cases hsome }

/-! ## Steps -/

section Apply

variable (hd : d.top.Proper) (hp : d.place? false p = some top) (he : d.at? top = some e)
  (hdir : e.isDirectory = true) (hnames : ∀ n ∈ names ++ [name], IsFileName n)
  (hfits : fits (p.under (names ++ [name])))
include hd hp he hdir hnames hfits

theorem apply_made {s : DiskStep} {new : Entry} (hs : s.made? = some (p.under (names ++ [name]), new))
    (htakes : e.Takes (names ++ [name])) (hnone : e.at? (names ++ [name]) = none) :
    d.apply s = ⟨d.top.make (top ++ (names ++ [name])) new⟩ := by
  have hready := prepared_makeParents hd hp he hdir hnames htakes hfits
  have hno : d.at? (top ++ (names ++ [name])) = none := (at?_append he _).trans hnone
  have hcreate : ∀ new, (d.makeParents (p.under (names ++ [name]))).create (p.under (names ++ [name])) new =
      ⟨d.top.make (top ++ (names ++ [name])) new⟩ := by
    intro new
    rw [create, hready.leads false nofun]
    simp only [hready.at?, hno, Option.isNone_none, if_true, hready.puts]
  cases s with
  | write q content modified readOnly =>
    obtain ⟨rfl, rfl⟩ := Prod.mk.inj (Option.some.inj hs)
    rw [apply, hready.leads true fun _ _ _ h => by rw [hno] at h; cases h]
    simp only [hready.at?, hno, hready.puts]
  | makeDirectory q =>
    obtain ⟨rfl, rfl⟩ := Prod.mk.inj (Option.some.inj hs)
    rw [apply, makePath_under hd hp he hdir hnames (by simp) htakes (fun f hf => by rw [hnone] at hf; cases hf) hfits, hnone]
    rfl
  | symlink q target modified =>
    rw [DiskStep.made?] at hs
    split at hs
    · cases hs
    · rename_i htarget
      obtain ⟨rfl, rfl⟩ := Prod.mk.inj (Option.some.inj hs)
      rw [apply, if_neg htarget, hcreate]
  | pipe q modified =>
    obtain ⟨rfl, rfl⟩ := Prod.mk.inj (Option.some.inj hs)
    rw [apply, hcreate]
  | remove | move => cases hs

theorem makeParents_eq (hf : (e.at? (names ++ [name])).isSome = true) :
    d.makeParents (p.under (names ++ [name])) = d :=
  (prepared_makeParents hd hp he hdir hnames (Entry.takes_of_at? hf) hfits).idle (at?_append he _ ▸ hf)

theorem apply_write {before content : Content} {modified modified' : Int} {readOnly readOnly' : Bool}
    (hf : e.at? (names ++ [name]) = some (.file before modified readOnly)) :
    d.apply (.write (p.under (names ++ [name])) content modified' readOnly') =
      d.set (top ++ (names ++ [name])) (some (.file content modified' readOnly')) := by
  have hsome : (e.at? (names ++ [name])).isSome = true := by rw [hf]; rfl
  have hready := prepared_makeParents hd hp he hdir hnames (Entry.takes_of_at? hsome) hfits
  have hat : d.at? (top ++ (names ++ [name])) = some (.file before modified readOnly) := (at?_append he _).trans hf
  rw [apply, hready.leads true fun _ _ _ h => by rw [hat] at h; cases h]
  simp only [hready.at?, hat]
  rw [makeParents_eq hd hp he hdir hnames hfits hsome]

theorem apply_remove (hf : (e.at? (names ++ [name])).isSome = true) :
    d.apply (.remove (p.under (names ++ [name]))) = d.set (top ++ (names ++ [name])) none := by
  rw [apply, makeParents_eq hd hp he hdir hnames hfits hf]
  simp only [place?_entry hp he hnames (by simp) hf hfits]

/-- What a disk makes of a move below a directory whose goal does not lie in what is moved. -/
theorem apply_move_across {dir : List String} {target : String} {others : List (String × Entry)}
    (hgoal : ∀ n ∈ dir ++ [target], IsFileName n) (hfits' : fits (p.under (dir ++ [target])))
    (hf : e.at? (names ++ [name]) = some f) (hinto : e.at? dir = some (.directory others))
    (hapart : ¬names ++ [name] <+: dir ++ [target])
    (hreplaces : ∀ old, e.at? (dir ++ [target]) = some old → replaces f old = true) :
    d.apply (.move (p.under (names ++ [name])) (p.under (dir ++ [target]))) =
      (d.set (top ++ (names ++ [name])) none).set (top ++ (dir ++ [target])) (some f) := by
  have hsome : (e.at? (names ++ [name])).isSome = true := by rw [hf]; rfl
  have hat : d.at? (top ++ (names ++ [name])) = some f := (at?_append he _).trans hf
  have hplace := place?_entry hp he hnames (by simp) hsome hfits
  have hplace' : d.place? false (p.under (dir ++ [target])) = some (top ++ (dir ++ [target])) :=
    place?_under hp he hdir (fun n hn => hgoal n (by simp [hn])) (hgoal target (by simp)) hinto nofun hfits'
  rw [apply, makeParents_eq hd hp he hdir hnames hfits hsome, move, hplace, hplace']
  simp only [hat, at?_append he]
  have hall : (e.at? (dir ++ [target])).all (replaces f) = true := by
    cases hold : e.at? (dir ++ [target]) with
    | none => rfl
    | some old => exact hreplaces old hold
  rw [if_neg, if_pos hall]
  rintro (heq | hpre)
  · exact hapart (List.append_cancel_left heq ▸ List.prefix_refl _)
  · exact hapart ((List.prefix_append_right_inj top).1 (List.isPrefixOf_iff_prefix.1 hpre))

theorem apply_move {target : String} (htarget : IsFileName target) (hfits' : fits (p.under (names ++ [target])))
    (hf : e.at? (names ++ [name]) = some f) (hne : name ≠ target)
    (hreplaces : ∀ old, e.at? (names ++ [target]) = some old → replaces f old = true) :
    d.apply (.move (p.under (names ++ [name])) (p.under (names ++ [target]))) =
      (d.set (top ++ (names ++ [name])) none).set (top ++ (names ++ [target])) (some f) := by
  obtain ⟨children, hc⟩ := Entry.exists_directory_above hf (by simp)
  refine apply_move_across hd hp he hdir hnames hfits (fun n hn => ?_) hfits' hf hc (fun hpre => ?_) hreplaces
  · rcases List.mem_append.1 hn with hn | hn
    · exact hnames n (by simp [hn])
    · exact List.mem_singleton.1 hn ▸ htarget
  · -- Of two names in one directory neither place leads through the other.
    have heq := hpre.eq_of_length (by simp)
    exact hne (by simpa using heq)

end Apply

end Disk

end FileIndex
