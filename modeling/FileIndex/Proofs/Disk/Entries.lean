/-
What lies in an entry of a disk, and what setting another entry somewhere in it changes. An entry is proper if no
directory in it has two entries of one name.
-/
import FileIndex.Disk.Basic
import Mathlib.Data.List.Nodup

namespace FileIndex.Entry

variable {e f top : Entry} {children : List (String × Entry)} {name m : String} {names more : List String}
  {x : Option Entry}

/-! ## Children -/

theorem mem_of_lookup (h : children.lookup name = some f) : (name, f) ∈ children := by
  induction children with
  | nil => cases h
  | cons c rest ih =>
    obtain ⟨n, c⟩ := c
    rw [List.lookup_cons] at h
    split at h
    · rename_i he
      rw [beq_iff_eq] at he
      rw [Option.some.injEq] at h
      simp [he, h]
    · exact List.mem_cons_of_mem _ (ih h)

theorem lookup_eq_none (h : name ∉ children.map Prod.fst) : children.lookup name = none := by
  cases hl : children.lookup name with
  | none => rfl
  | some f => exact absurd (List.mem_map_of_mem (mem_of_lookup hl)) h

theorem lookup_of_mem (hn : (children.map Prod.fst).Nodup) (h : (name, f) ∈ children) :
    children.lookup name = some f := by
  induction children with
  | nil => cases h
  | cons c rest ih =>
    obtain ⟨n, c⟩ := c
    rw [List.map_cons, List.nodup_cons] at hn
    rw [List.lookup_cons]
    rcases List.mem_cons.1 h with he | hmem
    · simp only [Prod.mk.injEq] at he
      simp [he.1, he.2]
    · have hne : name ≠ n := by
        rintro rfl
        exact hn.1 (List.mem_map.2 ⟨_, hmem, rfl⟩)
      have hbeq : (name == n) = false := by simpa using hne
      rw [hbeq, ih hn.2 hmem]

theorem lookup_cons_ite (name m : String) (f : Entry) (children : List (String × Entry)) :
    ((name, f) :: children).lookup m = if m = name then some f else children.lookup m := by
  rw [List.lookup_cons]
  by_cases hm : m = name
  · simp [hm]
  · have hbeq : (m == name) = false := by simpa using hm
    rw [hbeq, if_neg hm]

theorem lookup_setChild (hn : (children.map Prod.fst).Nodup) (name : String) (x : Option Entry) (m : String) :
    (setChild children name x).lookup m = if m = name then x else children.lookup m := by
  induction children with
  | nil => cases x <;> simp [setChild, lookup_cons_ite]
  | cons c rest ih =>
    obtain ⟨n, c⟩ := c
    rw [List.map_cons, List.nodup_cons] at hn
    rw [setChild, lookup_cons_ite]
    by_cases hname : n = name
    · subst hname
      rw [if_pos rfl]
      cases x with
      | none =>
        by_cases hm : m = n
        · subst hm
          simpa using lookup_eq_none hn.1
        · simp [hm]
      | some f =>
        by_cases hm : m = n <;> simp [lookup_cons_ite, hm]
    · rw [if_neg hname, lookup_cons_ite, ih hn.2]
      by_cases hm : m = n
      · subst hm
        simp [hname]
      · simp [hm]

theorem mem_setChild {c : String × Entry} (h : c ∈ setChild children name x) : c ∈ children ∨ x = some c.2 ∧ c.1 = name := by
  induction children with
  | nil =>
    rw [setChild, List.mem_map] at h
    obtain ⟨f, hf, rfl⟩ := h
    exact .inr ⟨Option.mem_toList.1 hf, rfl⟩
  | cons d rest ih =>
    obtain ⟨n, d⟩ := d
    rw [setChild] at h
    split at h
    · rcases List.mem_append.1 h with h | h
      · obtain ⟨f, hf, rfl⟩ := List.mem_map.1 h
        exact .inr ⟨Option.mem_toList.1 hf, rfl⟩
      · exact .inl (List.mem_cons_of_mem _ h)
    · rcases List.mem_cons.1 h with rfl | h
      · exact .inl (by simp)
      · exact (ih h).imp_left (List.mem_cons_of_mem _)

theorem nodup_setChild (hn : (children.map Prod.fst).Nodup) (name : String) (x : Option Entry) :
    ((setChild children name x).map Prod.fst).Nodup := by
  induction children with
  | nil => cases x <;> simp [setChild]
  | cons c rest ih =>
    obtain ⟨n, c⟩ := c
    rw [List.map_cons, List.nodup_cons] at hn
    rw [setChild]
    split
    · rename_i he
      subst he
      cases x with
      | none => exact hn.2
      | some f => exact List.nodup_cons.2 hn
    · rename_i hne
      refine List.nodup_cons.2 ⟨fun h => ?_, ih hn.2⟩
      obtain ⟨d, hd, he⟩ := List.mem_map.1 h
      rcases mem_setChild hd with hd | ⟨-, hd⟩
      · exact hn.1 (he ▸ List.mem_map_of_mem hd)
      · exact hne (he.symm.trans hd)

theorem setChild_self (h : children.lookup name = some f) : setChild children name (some f) = children := by
  induction children with
  | nil => cases h
  | cons c rest ih =>
    obtain ⟨n, k⟩ := c
    rw [lookup_cons_ite] at h
    rw [setChild]
    by_cases hn : n = name
    · rw [if_pos hn.symm, Option.some.injEq] at h
      rw [if_pos hn, hn, h]
      rfl
    · rw [if_neg (Ne.symm hn)] at h
      rw [if_neg hn, ih h]

theorem setChild_setChild (children : List (String × Entry)) (name : String) (f g : Entry) :
    setChild (setChild children name (some f)) name (some g) = setChild children name (some g) := by
  induction children with
  | nil => simp [setChild]
  | cons c rest ih =>
    obtain ⟨n, k⟩ := c
    by_cases hn : n = name
    · simp [setChild, hn]
    · simp [setChild, hn, ih]

/-! ## Proper entries -/

mutual

/-- Whether in every directory the names are different. -/
def Proper : Entry → Prop
  | .directory children => (children.map Prod.fst).Nodup ∧ AllProper children
  | _ => True

/-- Whether all entries of a directory are proper. -/
def AllProper : List (String × Entry) → Prop
  | [] => True
  | (_, e) :: rest => e.Proper ∧ AllProper rest

end

theorem allProper_iff : AllProper children ↔ ∀ c ∈ children, c.2.Proper := by
  induction children with
  | nil => simp [AllProper]
  | cons c rest ih =>
    obtain ⟨n, c⟩ := c
    simp [AllProper, ih]

theorem Proper.child (h : e.Proper) (hc : e.child? name = some f) : f.Proper := by
  cases e with
  | directory children => exact allProper_iff.1 h.2 _ (mem_of_lookup hc)
  | file | symlink | pipe => cases hc

theorem Proper.setChild (h : (Entry.directory children).Proper) (name : String) (hx : ∀ f, x = some f → f.Proper) :
    (Entry.directory (setChild children name x)).Proper := by
  refine ⟨nodup_setChild h.1 name x, allProper_iff.2 fun c hc => ?_⟩
  rcases mem_setChild hc with hc | ⟨hc, -⟩
  · exact allProper_iff.1 h.2 c hc
  · exact hx _ hc

/-! ## Entries further down -/

theorem at?_cons (e : Entry) (name : String) (names : List String) :
    e.at? (name :: names) = (e.child? name).bind (·.at? names) := by
  rw [at?]
  cases e.child? name <;> rfl

theorem at?_append (e : Entry) (names more : List String) :
    e.at? (names ++ more) = (e.at? names).bind (·.at? more) := by
  induction names generalizing e with
  | nil => rfl
  | cons name names ih =>
    rw [List.cons_append, at?_cons, at?_cons, Option.bind_assoc]
    simp only [ih]

theorem at?_concat (h : e.at? names = some (.directory children)) (name : String) :
    e.at? (names ++ [name]) = children.lookup name := by
  rw [at?_append, h, Option.bind_some, at?_cons, child?]
  cases children.lookup name <;> rfl

theorem Proper.at? (h : e.Proper) (hf : e.at? names = some f) : f.Proper := by
  induction names generalizing e with
  | nil =>
    cases hf
    exact h
  | cons name names ih =>
    rw [at?_cons] at hf
    obtain ⟨c, hc, hf⟩ := Option.bind_eq_some_iff.1 hf
    exact ih (h.child hc) hf

/-- An entry with another one put where names lead to; directories on the way that are missing are made. -/
def make (top : Entry) (names : List String) (e : Entry) : Entry :=
  match names, top with
  | [], _ => e
  | name :: rest, .directory children =>
    .directory (setChild children name (some (((children.lookup name).getD (.directory [])).make rest e)))
  | _ :: _, _ => top

/-- Whether an entry can be put where names lead to: what is there on the way are directories. -/
def Takes : Entry → List String → Prop
  | _, [] => True
  | top, name :: rest => top.isDirectory = true ∧ ∀ c, top.child? name = some c → c.Takes rest

theorem exists_directory (h : e.isDirectory = true) : ∃ children, e = .directory children := by
  cases e with
  | directory children => exact ⟨children, rfl⟩
  | file | symlink | pipe => cases h

theorem child?_eq_none (h : e.isDirectory = false) : e.child? name = none := by
  cases e with
  | directory children => cases h
  | file | symlink | pipe => rfl

theorem isDirectory_of_child? (h : e.child? name = some f) : e.isDirectory = true := by
  cases e with
  | directory children => rfl
  | file | symlink | pipe => cases h

theorem isDirectory_of_at? (h : e.at? names = some f) (hf : f.isDirectory = true) : e.isDirectory = true := by
  cases names with
  | nil =>
    cases h
    exact hf
  | cons name names =>
    rw [at?_cons] at h
    obtain ⟨c, hc, -⟩ := Option.bind_eq_some_iff.1 h
    exact isDirectory_of_child? hc

/-- What is there can be replaced. -/
theorem takes_of_at? (h : (e.at? names).isSome = true) : e.Takes names := by
  induction names generalizing e with
  | nil => trivial
  | cons name names ih =>
    rw [at?_cons] at h
    cases hc : e.child? name with
    | none =>
      rw [hc] at h
      cases h
    | some c =>
      rw [hc] at h
      refine ⟨isDirectory_of_child? hc, fun d hd => ?_⟩
      obtain rfl : c = d := by rw [hc] at hd; exact Option.some.inj hd
      exact ih h

theorem Proper.make (ht : top.Proper) (he : e.Proper) (names : List String) : (top.make names e).Proper := by
  induction names generalizing top with
  | nil => exact he
  | cons name names ih =>
    cases top with
    | directory children =>
      refine ht.setChild name fun f hf => ?_
      rw [Option.some.injEq] at hf
      subst hf
      refine ih ?_
      cases hl : children.lookup name with
      | none => exact ⟨List.nodup_nil, trivial⟩
      | some c => exact ht.child (show (Entry.directory children).child? name = some c from hl)
    | file | symlink | pipe => exact ht

theorem at?_make (ht : top.Proper) (h : top.Takes names) (e : Entry) : (top.make names e).at? names = some e := by
  induction names generalizing top with
  | nil => rfl
  | cons name names ih =>
    obtain ⟨children, rfl⟩ := exists_directory h.1
    have hlook : (Entry.make (.directory children) (name :: names) e).child? name =
        some (((children.lookup name).getD (.directory [])).make names e) := by
      rw [Entry.make, child?, lookup_setChild ht.1, if_pos rfl]
    rw [at?_cons, hlook, Option.bind_some]
    cases hl : children.lookup name with
    | none =>
      refine ih ⟨List.nodup_nil, trivial⟩ ?_
      cases names with
      | nil => trivial
      | cons n names => exact ⟨rfl, fun c hc => by cases hc⟩
    | some c => exact ih (ht.child (show (Entry.directory children).child? name = some c from hl)) (h.2 c hl)

theorem isDirectory_make (h : top.isDirectory = true) (hne : names ≠ []) (e : Entry) :
    (top.make names e).isDirectory = true := by
  obtain ⟨children, rfl⟩ := exists_directory h
  cases names with
  | nil => exact absurd rfl hne
  | cons name names => rfl

theorem isDirectory_make_directory (h : top.isDirectory = true) (names : List String)
    (children : List (String × Entry)) : (top.make names (.directory children)).isDirectory = true := by
  cases names with
  | nil => rw [make]; rfl
  | cons name names => exact isDirectory_make h (by simp) _

theorem make_append (h : e.at? names = some f) (more : List String) (g : Entry) :
    e.make (names ++ more) g = e.make names (f.make more g) := by
  induction names generalizing e with
  | nil =>
    cases h
    rfl
  | cons name names ih =>
    rw [at?_cons] at h
    obtain ⟨c, hc, h⟩ := Option.bind_eq_some_iff.1 h
    have hdeep := ih h
    cases e with
    | directory children =>
      rw [child?] at hc
      rw [List.cons_append, make, make, hc, Option.getD_some, hdeep]
    | file | symlink | pipe => cases hc

theorem takes_empty (names : List String) : (Entry.directory []).Takes names := by
  cases names with
  | nil => trivial
  | cons name names => exact ⟨rfl, fun c hc => by cases hc⟩

theorem Takes.front (h : e.Takes (names ++ more)) : e.Takes names := by
  induction names generalizing e with
  | nil => trivial
  | cons name names ih => exact ⟨h.1, fun c hc => ih (h.2 c hc)⟩

/-- Where names lead, more names can be put if the whole of them can. -/
theorem Takes.below (h : e.Takes (names ++ more)) (hf : e.at? names = some f) : f.Takes more := by
  induction names generalizing e with
  | nil =>
    obtain rfl := Option.some.inj hf
    exact h
  | cons name names ih =>
    rw [at?_cons] at hf
    obtain ⟨c, hc, hf⟩ := Option.bind_eq_some_iff.1 hf
    exact ih (h.2 c hc) hf

theorem takes_append (hf : e.at? names = some f) (h : f.Takes more) : e.Takes (names ++ more) := by
  induction names generalizing e with
  | nil =>
    cases hf
    exact h
  | cons n names ih =>
    rw [at?_cons] at hf
    obtain ⟨c, hc, hf⟩ := Option.bind_eq_some_iff.1 hf
    refine ⟨isDirectory_of_child? hc, fun k hk => ?_⟩
    obtain rfl : c = k := Option.some.inj (hc.symm.trans hk)
    exact ih hf

/-- Where a name is missing in a directory, anything can be put there, also further down. -/
theorem takes_of_missing (hf : e.at? names = some (.directory children)) (hn : children.lookup name = none)
    (rest : List String) : e.Takes (names ++ name :: rest) :=
  takes_append hf ⟨rfl, fun _ hc => nomatch hn.symm.trans hc⟩

/-- Where names lead to nothing, one of them is the first that is missing. -/
theorem exists_missing (ht : e.Takes names) (hn : e.at? names = none) : ∃ dir name rest children,
    names = dir ++ name :: rest ∧ e.at? dir = some (.directory children) ∧ children.lookup name = none := by
  induction names generalizing e with
  | nil => cases hn
  | cons name names ih =>
    obtain ⟨children, rfl⟩ := exists_directory ht.1
    rw [at?_cons] at hn
    cases hc : (Entry.directory children).child? name with
    | none => exact ⟨[], name, names, children, rfl, rfl, hc⟩
    | some c =>
      rw [hc, Option.bind_some] at hn
      obtain ⟨dir, m, rest, inner, rfl, hat, hl⟩ := ih (ht.2 c hc) hn
      exact ⟨name :: dir, m, rest, inner, rfl, by rw [at?_cons, hc, Option.bind_some, hat], hl⟩

theorem eq_of_at?_empty (h : (Entry.directory []).at? names = some f) : f = .directory [] := by
  cases names with
  | nil => exact (Option.some.inj h).symm
  | cons name names => cases h

/-- Directories that are missing are made empty. -/
theorem make_append_missing (ht : e.Takes names) (hn : e.at? names = none) (more : List String) (g : Entry) :
    e.make (names ++ more) g = e.make names ((Entry.directory []).make more g) := by
  induction names generalizing e with
  | nil => cases hn
  | cons name names ih =>
    obtain ⟨children, rfl⟩ := exists_directory ht.1
    rw [at?_cons] at hn
    have hbelow : ((children.lookup name).getD (.directory [])).make (names ++ more) g =
        ((children.lookup name).getD (.directory [])).make names ((Entry.directory []).make more g) := by
      cases hc : children.lookup name with
      | some c => exact ih (ht.2 c hc) (by rwa [child?, hc, Option.bind_some] at hn)
      | none =>
        cases names with
        | nil => rfl
        | cons n names => exact ih (takes_empty _) rfl
    rw [List.cons_append, make, make, hbelow]

/-- Where something is put that was missing, all else stays: only what directories hold can have changed. -/
theorem at?_make_missing (ht : top.Proper) (htakes : top.Takes names) (hn : top.at? names = none) (new : Entry)
    (hf : top.at? more = some f) : ∃ g, (top.make names new).at? more = some g ∧
      g.isDirectory = f.isDirectory ∧ (f.isDirectory = false → g = f) := by
  induction names generalizing top more with
  | nil => cases hn
  | cons name names ih =>
    obtain ⟨children, rfl⟩ := exists_directory htakes.1
    rw [make]
    cases more with
    | nil =>
      cases hf
      exact ⟨_, rfl, rfl, fun h => by cases h⟩
    | cons m more =>
      rw [at?_cons, child?] at hf ⊢
      rw [lookup_setChild ht.1]
      split
      · rename_i hm
        subst hm
        obtain ⟨c, hc, hf⟩ := Option.bind_eq_some_iff.1 hf
        rw [at?_cons, child?, hc, Option.bind_some] at hn
        rw [hc, Option.getD_some, Option.bind_some]
        exact ih (ht.child hc) (htakes.2 c hc) hn hf
      · exact ⟨f, hf, rfl, fun _ => rfl⟩

/-- Setting something where there is something, or where only the last name is missing. -/
theorem set_eq_make (hf : e.at? names = some f) (hne : more ≠ []) (x : Option Entry) :
    e.set (names ++ more) x = e.make names (f.set more x) := by
  induction names generalizing e with
  | nil =>
    cases hf
    rfl
  | cons name names ih =>
    rw [at?_cons] at hf
    obtain ⟨c, hc, hf⟩ := Option.bind_eq_some_iff.1 hf
    have hset := ih hf
    cases e with
    | directory children =>
      rw [child?] at hc
      have hmore : names ++ more ≠ [] := by simp [hne]
      rw [List.cons_append, make, hc, Option.getD_some, ← hset]
      cases hnames : names ++ more with
      | nil => exact absurd hnames hmore
      | cons n ns =>
        rw [set]
        · simp only [hc]
        · exact nofun
    | file | symlink | pipe => cases hc

/-- What is put where it is already changes nothing. -/
theorem make_self (h : e.at? names = some f) : e.make names f = e := by
  induction names generalizing e with
  | nil =>
    cases h
    rfl
  | cons name names ih =>
    rw [at?_cons] at h
    obtain ⟨c, hc, h⟩ := Option.bind_eq_some_iff.1 h
    have hdeep : c.make names f = c := ih h
    obtain ⟨children, rfl⟩ := exists_directory (isDirectory_of_child? hc)
    rw [child?] at hc
    rw [make, hc, Option.getD_some, hdeep, setChild_self hc]

/-- Of what is put at one place twice the second stays. -/
theorem make_make (he : e.Proper) (names : List String) (f g : Entry) : (e.make names f).make names g = e.make names g := by
  induction names generalizing e with
  | nil => rfl
  | cons name names ih =>
    cases e with
    | directory children =>
      rw [make, make, lookup_setChild he.1, if_pos rfl, Option.getD_some, setChild_setChild, ih, make]
      cases hl : children.lookup name with
      | none => exact ⟨List.nodup_nil, trivial⟩
      | some c => exact he.child (show (Entry.directory children).child? name = some c from hl)
    | file | symlink | pipe => rfl

/-- What is there lies in a directory. -/
theorem exists_directory_above (h : e.at? (names ++ more) = some f) (hne : more ≠ []) :
    ∃ children, e.at? names = some (.directory children) := by
  rw [at?_append] at h
  obtain ⟨k, hk, hf⟩ := Option.bind_eq_some_iff.1 h
  obtain ⟨name, rest, rfl⟩ := List.exists_cons_of_ne_nil hne
  rw [at?_cons] at hf
  obtain ⟨c, hc, -⟩ := Option.bind_eq_some_iff.1 hf
  obtain ⟨children, rfl⟩ := exists_directory (isDirectory_of_child? hc)
  exact ⟨children, hk⟩

/-- What is set in a directory further down. -/
theorem set_concat (h : e.at? names = some (.directory children)) (name : String) (x : Option Entry) :
    e.set (names ++ [name]) x = e.make names (.directory (setChild children name x)) := by
  rw [set_eq_make h (by simp)]
  rfl

theorem set_concat_some (h : e.at? names = some (.directory children)) (name : String) (g : Entry) :
    e.set (names ++ [name]) (some g) = e.make (names ++ [name]) g := by
  rw [set_concat h, make_append h]
  rfl

theorem set_some (h : e.at? names = some f) (hne : names ≠ []) (g : Entry) : e.set names (some g) = e.make names g := by
  obtain ⟨dir, name, rfl⟩ := (List.eq_nil_or_concat names).resolve_left hne
  rw [List.concat_eq_append] at *
  obtain ⟨children, hdir⟩ := exists_directory_above h (by simp)
  exact set_concat_some hdir name g

/-! ## What stays when an entry goes -/

variable {front : List String} {others : List (String × Entry)}

/-- What is put at a place changes nothing at a place that neither leads there nor lies below it. -/
theorem at?_make_apart (he : e.Proper) (hf : (e.at? names).isSome = true) (hnot : ¬names <+: more)
    (hnot' : ¬more <+: names) (g : Entry) : (e.make names g).at? more = e.at? more := by
  induction names generalizing e more with
  | nil => exact absurd List.nil_prefix hnot
  | cons name names ih =>
    cases more with
    | nil => exact absurd List.nil_prefix hnot'
    | cons m more =>
      obtain ⟨f, hf⟩ := Option.isSome_iff_exists.1 hf
      rw [at?_cons] at hf
      obtain ⟨c, hc, hat⟩ := Option.bind_eq_some_iff.1 hf
      obtain ⟨children, rfl⟩ := exists_directory (isDirectory_of_child? hc)
      rw [make, at?_cons, at?_cons, child?, child?, lookup_setChild he.1]
      split
      · rename_i hm
        subst hm
        rw [child?] at hc
        rw [hc, Option.getD_some, Option.bind_some, Option.bind_some]
        have hproper : c.Proper := he.child (show (Entry.directory children).child? m = some c from hc)
        exact ih hproper (by rw [hat]; rfl) (fun h => hnot ((List.prefix_cons_inj m).2 h)) fun h =>
          hnot' ((List.prefix_cons_inj m).2 h)
      · rfl

/-- An entry without one that lies further down. -/
def without (e : Entry) (front : List String) (name : String) : Entry := e.set (front ++ [name]) none

theorem without_eq (hdir : e.at? front = some (.directory children)) (name : String) :
    e.without front name = e.make front (.directory (setChild children name none)) := set_concat hdir name none

theorem Proper.without (he : e.Proper) (hdir : e.at? front = some (.directory children)) (name : String) :
    (e.without front name).Proper := by
  rw [without_eq hdir]
  exact he.make ((he.at? hdir).setChild name fun _ hno => by cases hno) front

/-- What neither leads to the entry that has gone nor lies in it is where it was. -/
theorem at?_without (he : e.Proper) (hdir : e.at? front = some (.directory children)) (hbelow : ¬front ++ [name] <+: more)
    (habove : ¬more <+: front) : (e.without front name).at? more = e.at? more := by
  rw [without_eq hdir]
  by_cases hmore : front <+: more
  · obtain ⟨rest, rfl⟩ := hmore
    cases rest with
    | nil => exact absurd (by simp) habove
    | cons m rest =>
      have hne : m ≠ name := by
        rintro rfl
        exact hbelow ⟨rest, by simp⟩
      rw [at?_append, at?_make he (takes_of_at? (by rw [hdir]; rfl)), at?_append, hdir, Option.bind_some, Option.bind_some,
        at?_cons, at?_cons, child?, child?, lookup_setChild (he.at? hdir).1, if_neg hne]
  · exact at?_make_apart he (by rw [hdir]; rfl) hmore habove _

/-- A directory that is not in what has gone is still one. -/
theorem exists_directory_without (he : e.Proper) (hdir : e.at? front = some (.directory children))
    (hmore : e.at? more = some (.directory others)) (hbelow : ¬front ++ [name] <+: more) :
    ∃ left, (e.without front name).at? more = some (.directory left) := by
  by_cases habove : more <+: front
  · obtain ⟨rest, rfl⟩ := habove
    rw [without_eq hdir, make_append hmore, at?_make he (takes_of_at? (by rw [hmore]; rfl))]
    have hdirectory : (Entry.directory others).isDirectory = true := rfl
    obtain ⟨left, hleft⟩ := exists_directory (isDirectory_make_directory hdirectory rest (setChild children name none))
    exact ⟨left, congrArg some hleft⟩
  · exact ⟨others, by rw [at?_without he hdir hbelow habove, hmore]⟩

end FileIndex.Entry
