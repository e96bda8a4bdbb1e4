/-
The way from a directory on: where a path leads to a directory, a path below it is walked from there by its names
alone (`place?_under`), as long as all of them but the last lead to directories.
-/
import FileIndex.Proofs.Disk.Entries
import FileIndex.Proofs.Disk.Under

namespace FileIndex.Disk

open Path (IsFileName)

variable {d : Disk} {follow last : Bool} {links : Nat} {here top place : List String}
  {names ps tail rest : List String} {name : String} {p : Path} {e f : Entry} {children : List (String × Entry)}

/-! ## Steps of a walk -/

theorem resolve_idle (h : name = "" ∨ name = ".") :
    d.resolve follow links here (name :: rest) = d.resolve follow links here rest := by
  rw [resolve, if_pos h]

theorem resolve_all_idle (h : ∀ t ∈ tail, t = "" ∨ t = ".") : d.resolve follow links here tail = some here := by
  induction tail with
  | nil => rw [resolve]
  | cons t tail ih => rw [resolve_idle (h t (by simp)), ih fun u hu => h u (by simp [hu])]

theorem resolve_name (h : IsFileName name) : d.resolve follow links here (name :: rest) =
    match d.at? (here ++ [name]) with
    | none => if rest = [] then some (here ++ [name]) else none
    | some (.directory _) => d.resolve follow links (here ++ [name]) rest
    | some (.symlink target _) =>
      if rest = [] ∧ !follow then some (here ++ [name])
      else if Path.isAbsolute ⟨target⟩ then none
      else
        match links with
        | 0 => none
        | links + 1 => d.resolve follow links here (walked target ++ rest)
    | some _ => if rest = [] then some (here ++ [name]) else none := by
  rw [resolve, if_neg (not_or.2 ⟨h.not_empty, h.not_here⟩), if_neg h.not_up, h.fits]
  rfl

/-- What leads to a directory leads on from there. -/
theorem resolve_through (hdir : d.at? top = some (.directory children)) (hrest : rest ≠ [])
    (htail : ∀ t ∈ tail, t = "" ∨ t = ".") (links : Nat) (here ps : List String)
    (h : d.resolve follow links here (ps ++ tail) = some top) :
    ∃ left, d.resolve last links here (ps ++ rest) = d.resolve last left top rest := by
  match ps with
  | [] =>
    rw [List.nil_append, resolve_all_idle htail, Option.some.injEq] at h
    exact ⟨links, by rw [h, List.nil_append]⟩
  | piece :: ps =>
    have hps : ¬ps ++ rest = [] := by simp [hrest]
    rw [List.cons_append, resolve] at h ⊢
    split
    · rename_i hidle
      rw [if_pos hidle] at h
      exact resolve_through hdir hrest htail links here ps h
    rename_i hidle
    rw [if_neg hidle] at h
    split
    · rename_i hup
      rw [if_pos hup] at h
      split
      · rename_i hhere
        rw [if_pos hhere] at h
        cases h
      · rename_i hhere
        rw [if_neg hhere] at h
        exact resolve_through hdir hrest htail links here.dropLast ps h
    rename_i hup
    rw [if_neg hup] at h
    split
    · rename_i hname
      rw [if_pos hname] at h
      cases h
    rename_i hname
    rw [if_neg hname] at h
    -- What is no directory is not where the walk ends.
    have hend : ∀ o : Option Entry, d.at? (here ++ [piece]) = o → o ≠ some (.directory children) →
        (if ps ++ tail = [] then some (here ++ [piece]) else none) ≠ some top := by
      intro o ho hno he
      split at he
      · rw [← Option.some.inj he, ho] at hdir
        exact hno hdir
      · cases he
    cases hat : d.at? (here ++ [piece]) with
    | none =>
      rw [hat] at h
      exact absurd h (hend _ hat (by simp))
    | some f =>
      rw [hat] at h
      cases f with
      | file content modified readOnly => exact absurd h (hend _ hat (by simp))
      | pipe modified => exact absurd h (hend _ hat (by simp))
      | directory inner => exact resolve_through hdir hrest htail links (here ++ [piece]) ps h
      | symlink target modified =>
        dsimp only at h ⊢
        rw [if_neg fun hb => hps hb.1]
        split at h
        · rw [← Option.some.inj h, hat] at hdir
          cases hdir
        · split at h
          · cases h
          · rename_i habs
            rw [if_neg habs]
            cases links with
            | zero => cases h
            | succ links =>
              rw [← List.append_assoc] at h ⊢
              exact resolve_through hdir hrest htail links here (walked target ++ ps) h
termination_by (links, ps.length)

/-- What stands in front of a directory on the way to it is a directory. -/
theorem isDirectory_dropLast (h : d.at? here = some (.directory children)) :
    ∃ inner, d.at? here.dropLast = some (.directory inner) := by
  rcases List.eq_nil_or_concat here with rfl | ⟨front, last, rfl⟩
  · exact ⟨children, h⟩
  · rw [List.concat_eq_append] at h ⊢
    rw [List.dropLast_concat]
    exact Entry.exists_directory_above h (by simp)

/-- Where a walk goes on, there is a directory. -/
theorem resolve_front (hrest : rest ≠ []) (links : Nat) (here ps : List String) {children : List (String × Entry)}
    (hhere : d.at? here = some (.directory children)) (h : d.resolve follow links here (ps ++ rest) = some top) :
    ∃ place inner, d.resolve true links here ps = some place ∧ d.at? place = some (.directory inner) := by
  match ps with
  | [] => exact ⟨here, children, by rw [resolve], hhere⟩
  | piece :: ps =>
    have hps : ¬ps ++ rest = [] := by simp [hrest]
    rw [List.cons_append, resolve] at h
    rw [resolve]
    split
    · rename_i hidle
      rw [if_pos hidle] at h
      exact resolve_front hrest links here ps hhere h
    rename_i hidle
    rw [if_neg hidle] at h
    split
    · rename_i hup
      rw [if_pos hup] at h
      split
      · rename_i htop
        rw [if_pos htop] at h
        cases h
      · rename_i htop
        rw [if_neg htop] at h
        obtain ⟨inner, hin⟩ := isDirectory_dropLast hhere
        exact resolve_front hrest links here.dropLast ps hin h
    rename_i hup
    rw [if_neg hup] at h
    split
    · rename_i hname
      rw [if_pos hname] at h
      cases h
    rename_i hname
    rw [if_neg hname] at h
    cases hat : d.at? (here ++ [piece]) with
    | none => simp [hat, hps] at h
    | some f =>
      rw [hat] at h
      cases f with
      | file content modified readOnly => simp [hps] at h
      | pipe modified => simp [hps] at h
      | directory inner => exact resolve_front hrest links (here ++ [piece]) ps hat h
      | symlink target modified =>
        dsimp only at h ⊢
        rw [if_neg fun hb => hps hb.1] at h
        rw [if_neg (by simp)]
        split at h
        · cases h
        · rename_i habs
          rw [if_neg habs]
          cases links with
          | zero => cases h
          | succ links =>
            rw [← List.append_assoc] at h
            exact resolve_front hrest links here (walked target ++ ps) hhere h
termination_by (links, ps.length)

/-! ## Below a directory -/

theorem at?_append (h : d.at? top = some e) (names : List String) : d.at? (top ++ names) = e.at? names := by
  rw [at?] at h ⊢
  rw [Entry.at?_append, h, Option.bind_some]

/-- Names that lead from directory to directory are walked as they stand; only the last may be missing. A walk that
follows links also at the end must not find one there. -/
theorem resolve_names (h : d.at? top = some e) (hnames : ∀ n ∈ names, IsFileName n) (hname : IsFileName name)
    (he : e.at? names = some (.directory children))
    (hlink : last = true → ∀ target modified, children.lookup name ≠ some (.symlink target modified)) :
    d.resolve last links top (names ++ [name]) = some (top ++ (names ++ [name])) := by
  induction names generalizing top e with
  | nil =>
    cases he
    rw [List.nil_append, resolve_name hname, at?_append h, Entry.at?_cons, Entry.child?]
    cases hc : children.lookup name with
    | none => rfl
    | some f =>
      rw [Option.bind_some, Entry.at?]
      cases f with
      | file content modified readOnly => rfl
      | pipe modified => rfl
      | directory inner =>
        dsimp only
        rw [resolve]
      | symlink target modified =>
        cases last with
        | false => simp
        | true => exact absurd hc (hlink rfl target modified)
  | cons n names ih =>
    rw [Entry.at?_cons] at he
    obtain ⟨c, hc, he⟩ := Option.bind_eq_some_iff.1 he
    have hcat : d.at? (top ++ [n]) = some c := by
      rw [at?_append h, Entry.at?_cons, hc]
      rfl
    obtain ⟨inner, rfl⟩ := Entry.exists_directory (Entry.isDirectory_of_at? he rfl)
    rw [List.cons_append, resolve_name (hnames n (by simp)), hcat]
    dsimp only
    rw [ih hcat (fun m hm => hnames m (by simp [hm])) he]
    simp

/-! ## Paths below a path -/

theorem walked_under (h : ∀ n ∈ names, IsFileName n) (hne : names ≠ []) :
    walked (p.under names).spelling = p.firm.map String.ofList ++ names := by
  rw [walked, Path.pieces_under h hne, List.map_append, List.map_map]
  congr 1
  simp [Function.comp_def]

theorem walked_eq (p : Path) : ∃ tail, (∀ t ∈ tail, t = "" ∨ t = ".") ∧
    walked p.spelling = p.firm.map String.ofList ++ tail := by
  rcases Path.pieces_eq_firm p with h | h
  · exact ⟨[], nofun, by rw [walked, h, List.append_nil]⟩
  · exact ⟨[""], by simp, by rw [walked, h, List.map_append]; rfl⟩

/-- A path that a disk can walk. -/
def fits (p : Path) : Prop := p.spelling.utf8ByteSize ≤ pathLimit

instance (p : Path) : Decidable (fits p) := inferInstanceAs (Decidable (_ ≤ _))

theorem place?_eq_resolve (h : p.spelling ≠ "") (ha : p.isAbsolute = false) (hfits : fits p) :
    d.place? follow p = d.resolve follow linkLimit [] (walked p.spelling) := by
  rw [place?, if_neg]
  simp [h, ha, Nat.not_lt.2 hfits]

theorem place?_eq_some (h : d.place? follow p = some place) : p.spelling ≠ "" ∧ p.isAbsolute = false ∧
    d.resolve follow linkLimit [] (walked p.spelling) = some place := by
  unfold place? at h
  split at h
  · cases h
  · rename_i hno
    simp only [not_or, Bool.not_eq_true] at hno
    exact ⟨hno.1, hno.2.1, h⟩

/-- A path below a directory leads to where its names lead from there. -/
theorem place?_under (hp : d.place? follow p = some top) (h : d.at? top = some e) (hdir : e.isDirectory = true)
    (hnames : ∀ n ∈ names, IsFileName n) (hname : IsFileName name) (he : e.at? names = some (.directory children))
    (hlink : last = true → ∀ target modified, children.lookup name ≠ some (.symlink target modified))
    (hfits : fits (p.under (names ++ [name]))) :
    d.place? last (p.under (names ++ [name])) = some (top ++ (names ++ [name])) := by
  obtain ⟨-, habs, hp⟩ := place?_eq_some hp
  obtain ⟨inner, rfl⟩ := Entry.exists_directory hdir
  have hall : ∀ n ∈ names ++ [name], IsFileName n := by simpa [or_imp, forall_and] using ⟨hnames, hname⟩
  rw [place?_eq_resolve (Path.spelling_under hall (by simp) p) (Path.isAbsolute_under hall habs) hfits,
    walked_under hall (by simp)]
  obtain ⟨tail, htail, hw⟩ := walked_eq p
  rw [hw] at hp
  have hne : names ++ [name] ≠ [] := by simp
  obtain ⟨left, hres⟩ := resolve_through h hne htail _ _ _ hp
  rw [hres, resolve_names h hnames hname he hlink]

/-- The path of an entry below a directory leads to the entry. -/
theorem place?_entry (hp : d.place? false p = some top) (h : d.at? top = some e) (hnames : ∀ n ∈ names, IsFileName n)
    (hne : names ≠ []) (hf : (e.at? names).isSome = true) (hfits : fits (p.under names)) :
    d.place? false (p.under names) = some (top ++ names) := by
  obtain ⟨f, hf⟩ := Option.isSome_iff_exists.1 hf
  obtain ⟨front, name, rfl⟩ := (List.eq_nil_or_concat names).resolve_left hne
  rw [List.concat_eq_append] at *
  obtain ⟨children, hc⟩ := Entry.exists_directory_above hf (by simp)
  exact place?_under hp h (Entry.isDirectory_of_at? hc rfl) (fun n hn => hnames n (by simp [hn]))
    (hnames name (by simp)) hc nofun hfits

/-! ## The directories on the way to a path -/

theorem fits_of_place? (h : d.place? follow p = some place) : fits p := by
  unfold place? at h
  split at h
  · cases h
  · rename_i hno
    simp only [not_or, Nat.not_lt] at hno
    exact hno.2.2

/-- What a disk can walk can also be shorter. -/
theorem fits_of_append {l : List Char} (h : p.spelling.toList = q.spelling.toList ++ l) (hp : fits p) : fits q := by
  have hspelling : p.spelling = q.spelling ++ String.ofList l := by
    rw [← String.toList_inj, h, String.toList_append, String.toList_ofList]
  rw [fits, hspelling, String.utf8ByteSize_append] at hp
  exact Nat.le_of_add_right_le hp

theorem fits_under {more : List String} (h : ∀ n ∈ more, IsFileName n) (hp : fits (p.under (names ++ more))) :
    fits (p.under names) := by
  induction more using List.reverseRecOn with
  | nil => rwa [List.append_nil] at hp
  | append_singleton more name ih =>
    rw [← List.append_assoc, Path.under_concat] at hp
    obtain ⟨l, -, hl⟩ := Path.exists_spelling_child (h name (by simp)) (p.under (names ++ more))
    exact ih (fun n hn => h n (by simp [hn])) (fits_of_append hl hp)

/-- What a path leads to lies in what its directory leads to. -/
theorem holdsDirectory_parent (h : d.place? follow p = some top) (hd : d.top.isDirectory = true)
    (hp : p.parent? = some q) (hq : q.spelling ≠ "") : d.holdsDirectory q = true := by
  obtain ⟨-, habs, hres⟩ := place?_eq_some h
  obtain ⟨rest, hrest⟩ := Path.exists_of_parent? hp hq habs
  have hwalked : walked p.spelling = walked q.spelling ++ walked (String.ofList rest) := by
    simp only [walked, hrest, Path.pieces_slash, String.toList_ofList, List.map_append]
  have hne : walked (String.ofList rest) ≠ [] := by
    rw [walked, Ne, List.map_eq_nil_iff]
    exact Path.pieces_ne_nil _
  have habsq : q.isAbsolute = false := by
    rw [Bool.eq_false_iff, Ne, Path.isAbsolute_iff] at habs ⊢
    rw [hrest, List.head?_append] at habs
    intro hhead
    rw [hhead] at habs
    exact habs rfl
  obtain ⟨children, hc⟩ := Entry.exists_directory hd
  rw [hwalked] at hres
  obtain ⟨place, inner, hplace, hat⟩ := resolve_front hne linkLimit [] (walked q.spelling) (congrArg some hc) hres
  rw [holdsDirectory, find?, place?_eq_resolve hq habsq (fits_of_append hrest (fits_of_place? h)), hplace,
    Option.bind_some, hat]
  rfl

end FileIndex.Disk
