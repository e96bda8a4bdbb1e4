/-
Written tokens. A token has a text (`Token.text`), and a query that consists of the texts of tokens with a space
between each two has exactly these tokens (`ofQuery_written`), if each of them can be written at all: a word without
white space, a phrase, and neither with a double quote. Every token that is read can be.

Keys that are written and read back (`parse_queryText`). What the writer leaves out is what the reader takes for
granted: an option that is not there leaves its part of the next key unset, and whether a word is quoted decides about
its operator in both directions. Keys that were read can always be written.
-/
import FileIndex.Proofs.Outcome
import FileIndex.Query.Token
import FileIndex.Query.Writer
import Mathlib.Data.List.Nodup

namespace FileIndex

namespace Token

open Text

variable {t : Token} {ts : List Token} {c : Char} {l acc rest : List Char} {s : Scan} {query : String}

/-- The text of a token in a query. -/
def text : Token → String
  | .word w => w
  | .phrase p => "\"" ++ p ++ "\""

/-- What can be part of a word. -/
def IsPlain (c : Char) : Prop := c ≠ '"' ∧ isBlank c = false

/-- Whether a token stands for its text. -/
def Writable : Token → Prop
  | .word w => w ≠ "" ∧ ∀ c ∈ w.toList, IsPlain c
  | .phrase p => '"' ∉ p.toList

/-! ## Reading what was written -/

theorem closed_reverse (l : List Char) : closed l.reverse = String.ofList l := by
  rw [closed, List.reverse_reverse]

theorem scan_inWord (h : ∀ c ∈ l, IsPlain c) (acc rest : List Char) :
    scan (.inWord acc) (l ++ rest) = scan (.inWord (l.reverse ++ acc)) rest := by
  induction l generalizing acc with
  | nil => rfl
  | cons c l ih =>
    obtain ⟨hq, hb⟩ := h c (by simp)
    have hstep : (Scan.inWord acc).step c = (.inWord (c :: acc), none) := by
      rw [Scan.step, if_neg hq, hb, if_neg Bool.false_ne_true]
    rw [List.cons_append, scan, hstep, ih fun d hd => h d (by simp [hd])]
    simp

theorem scan_inPhrase (h : '"' ∉ l) (acc rest : List Char) :
    scan (.inPhrase acc) (l ++ '"' :: rest) = .phrase (closed (l.reverse ++ acc)) :: scan .between rest := by
  induction l generalizing acc with
  | nil => rfl
  | cons c l ih =>
    rw [List.mem_cons, not_or] at h
    have hstep : (Scan.inPhrase acc).step c = (.inPhrase (c :: acc), none) := by
      rw [Scan.step, if_neg (Ne.symm h.1)]
    rw [List.cons_append, scan, hstep, ih h.2]
    simp

/-- A word stands alone at the end, and in front of a space. -/
theorem scan_word (w : String) (h : (Token.word w).Writable) (hrest : rest = [] ∨ ∃ more, rest = ' ' :: more) :
    scan .between (w.toList ++ rest) = .word w :: scan .between rest := by
  obtain ⟨hne, hplain⟩ := h
  cases hl : w.toList with
  | nil => exact absurd (String.toList_eq_nil_iff.1 hl) hne
  | cons c l =>
    rw [hl] at hplain
    obtain ⟨hq, hb⟩ := hplain c (by simp)
    have hstep : Scan.between.step c = (.inWord [c], none) := by
      rw [Scan.step, if_neg hq, hb, if_neg Bool.false_ne_true]
    have hw : closed (l.reverse ++ [c]) = w := by
      rw [show l.reverse ++ [c] = (c :: l).reverse by simp, closed_reverse, ← hl, String.ofList_toList]
    rw [List.cons_append, scan, hstep, scan_inWord fun d hd => hplain d (by simp [hd])]
    rcases hrest with rfl | ⟨more, rfl⟩
    · simp [scan, Scan.finish, hw]
    · rw [scan, scan, show (Scan.inWord (l.reverse ++ [c])).step ' ' = (.between, some (.word w)) by
        simp [Scan.step, hw, show isBlank ' ' = true by rfl]]
      rfl

/-- A token in front of the end or of a space is read as it was written. -/
theorem scan_text (h : t.Writable) (hrest : rest = [] ∨ ∃ more, rest = ' ' :: more) :
    scan .between (t.text.toList ++ rest) = t :: scan .between rest := by
  cases t with
  | word w => exact scan_word w h hrest
  | phrase p =>
    have htext : (Token.phrase p).text.toList ++ rest = '"' :: (p.toList ++ '"' :: rest) := by simp [text]
    rw [htext, scan, show Scan.between.step '"' = (.inPhrase [], none) from rfl, scan_inPhrase h,
      List.append_nil, closed_reverse, String.ofList_toList]
    rfl

/-- **Tokens with a space between each two are read as they were written.** -/
theorem ofQuery_written (h : ∀ t ∈ ts, t.Writable) : ofQuery (" ".intercalate (ts.map text)) = ts := by
  have hlist : (" ".intercalate (ts.map text)).toList = [' '].intercalate (ts.map fun t => t.text.toList) := by
    rw [String.toList_intercalate, List.map_map]
    rfl
  rw [ofQuery, hlist]
  clear hlist
  induction ts with
  | nil => rfl
  | cons t ts ih =>
    have hts := ih fun u hu => h u (by simp [hu])
    cases ts with
    | nil => simpa [scan, Scan.finish] using scan_text (h t (by simp)) (.inl rfl)
    | cons u ts =>
      rw [List.map_cons, List.map_cons, List.intercalate_cons_cons, List.append_assoc, List.singleton_append,
        scan_text (h t (by simp)) (.inr ⟨_, rfl⟩), scan, show Scan.between.step ' ' = (.between, none) from rfl]
      exact congrArg (t :: ·) hts

/-! ## What is read can be written -/

/-- What a scan has read of the token that is open can be part of it. -/
def Scan.Writable : Scan → Prop
  | .between => True
  | .inWord acc => acc ≠ [] ∧ ∀ c ∈ acc, IsPlain c
  | .inPhrase acc => '"' ∉ acc

theorem writable_word (h : (Scan.inWord acc).Writable) : (Token.word (closed acc)).Writable := by
  refine ⟨fun he => h.1 ?_, fun c hc => h.2 c ?_⟩
  · simpa [closed] using congrArg String.toList he
  · simpa [closed] using hc

theorem writable_phrase (h : (Scan.inPhrase acc).Writable) : (Token.phrase (closed acc)).Writable := by
  simpa [closed, Writable, Scan.Writable] using h

theorem Scan.writable_step (h : s.Writable) (c : Char) :
    (s.step c).1.Writable ∧ ∀ t, (s.step c).2 = some t → t.Writable := by
  have hopen : '"' ∉ ([] : List Char) := List.not_mem_nil
  cases s with
  | between =>
    rw [step]
    split
    · exact ⟨hopen, nofun⟩
    rename_i hq
    split
    · exact ⟨trivial, nofun⟩
    · rename_i hb
      exact ⟨⟨by simp, by simp [IsPlain, hq, hb]⟩, nofun⟩
  | inWord acc =>
    have hword : ∀ t, some (Token.word (closed acc)) = some t → t.Writable := by
      rintro t ⟨⟩
      exact writable_word h
    rw [step]
    split
    · exact ⟨hopen, hword⟩
    rename_i hq
    split
    · exact ⟨trivial, hword⟩
    · rename_i hb
      refine ⟨⟨by simp, fun d hd => ?_⟩, nofun⟩
      rcases List.mem_cons.1 hd with rfl | hd
      · exact ⟨hq, by simpa using hb⟩
      · exact h.2 d hd
  | inPhrase acc =>
    rw [step]
    split
    · refine ⟨trivial, ?_⟩
      rintro t ⟨⟩
      exact writable_phrase h
    · rename_i hq
      refine ⟨fun hm => ?_, nofun⟩
      rcases List.mem_cons.1 hm with he | hm
      · exact hq he.symm
      · exact h hm

theorem writable_of_mem_scan (hs : s.Writable) (h : t ∈ scan s l) : t.Writable := by
  induction l generalizing s with
  | nil =>
    cases s with
    | between => cases h
    | inWord acc =>
      obtain rfl : t = .word (closed acc) := by simpa [scan, Scan.finish] using h
      exact writable_word hs
    | inPhrase acc =>
      obtain rfl : t = .phrase (closed acc) := by simpa [scan, Scan.finish] using h
      exact writable_phrase hs
  | cons c l ih =>
    obtain ⟨hnext, hended⟩ := Scan.writable_step hs c
    rw [scan] at h
    rcases List.mem_append.1 h with h | h
    · exact hended t (Option.mem_toList.1 h)
    · exact ih hnext h

/-- Every token of a query can be written. -/
theorem writable_of_mem_ofQuery (h : t ∈ ofQuery query) : t.Writable := writable_of_mem_scan (s := .between) trivial h

end Token

open Text Token

theorem Conjunction.mem_all (c : Conjunction) : c ∈ Conjunction.all := by cases c <;> decide

theorem Operator.mem_all (o : Operator) : o ∈ Operator.all := by
  rcases o with _ | _ | _ | b | c
  case pattern => cases b <;> decide
  case compare => cases c <;> decide
  all_goals decide

/-! ## The options of the standard registry -/

namespace Registry

variable {properties : List String} {name p : String} {r : Registry} {s : Setting} {settings : List Setting}

/-- Whether a text can be the option of a property. -/
def isPropertyName (name : String) : Bool := ['p', '.'].isPrefixOf name.toList

theorem toList_lowerAscii (t : String) : (lowerAscii t).toList = t.toList.map Char.toLower := String.toList_map

theorem lowerAscii_property (name : String) : lowerAscii ("p." ++ name) = "p." ++ lowerAscii name := by
  rw [← String.toList_inj]
  simp only [toList_lowerAscii, String.toList_append, List.map_append]
  rfl

/-- The options of some properties, the last one first. -/
def propertyOptions (properties : List String) : List (String × Setting) :=
  (properties.map fun p => ("p." ++ lowerAscii p, Setting.property p)).reverse

theorem options_foldl_addProperty (properties : List String) (r : Registry) :
    (properties.foldl addProperty r).options = propertyOptions properties ++ r.options := by
  induction properties generalizing r with
  | nil => rfl
  | cons p properties ih =>
    rw [List.foldl_cons, ih, addProperty, addOption, lowerAscii_property]
    simp [propertyOptions]

/-- The options of the properties stand in front of the others. -/
theorem options_standard (properties : List String) :
    (standard properties).options = propertyOptions properties ++ (standard []).options :=
  options_foldl_addProperty properties _

theorem resolve_of_lookup (h : r.options.lookup (lowerAscii name) = some s) : r.resolve name = .ok [s] := by
  rw [resolve, h]

/-- What cannot be the option of a property is found as if there were no properties. -/
theorem resolve_standard_other (properties : List String) (hname : isPropertyName (lowerAscii name) = false)
    (h : (standard []).options.lookup (lowerAscii name) = some s) : (standard properties).resolve name = .ok [s] := by
  refine resolve_of_lookup ?_
  have hnone : (propertyOptions properties).lookup (lowerAscii name) = none := by
    refine List.lookup_eq_none_iff.2 fun c hc => ?_
    obtain ⟨p, -, rfl⟩ := List.mem_map.1 (List.mem_reverse.1 hc)
    rw [bne_iff_ne]
    intro he
    rw [he, isPropertyName, String.toList_append] at hname
    cases hname
  rw [options_standard, List.lookup_append, hnone, Option.none_or, h]

theorem resolve_conjunction (properties : List String) (c : Conjunction) :
    (standard properties).resolve c.name = .ok [.conjunction c] := by
  have hall : ∀ c ∈ Conjunction.all, isPropertyName (lowerAscii c.name) = false ∧
      (standard []).options.lookup (lowerAscii c.name) = some (.conjunction c) := by decide +kernel
  exact resolve_standard_other properties (hall c c.mem_all).1 (hall c c.mem_all).2

theorem resolve_operator (properties : List String) (o : Operator) :
    (standard properties).resolve o.name = .ok [.operator o] := by
  have hall : ∀ o ∈ Operator.all, isPropertyName (lowerAscii o.name) = false ∧
      (standard []).options.lookup (lowerAscii o.name) = some (.operator o) := by decide +kernel
  exact resolve_standard_other properties (hall o o.mem_all).1 (hall o o.mem_all).2

/-- Of properties that differ not only in case each one is found. -/
theorem lookup_propertyOptions (hd : (properties.map lowerAscii).Nodup) (h : name ∈ properties) :
    (propertyOptions properties).lookup ("p." ++ lowerAscii name) = some (.property name) := by
  have hkeys : ((propertyOptions properties).map Prod.fst).Nodup := by
    rw [propertyOptions, List.map_reverse, List.nodup_reverse, List.map_map]
    have := hd.map (f := fun p => "p." ++ p) fun p q he => (String.append_right_inj "p.").1 he
    rwa [List.map_map] at this
  have hmem : ("p." ++ lowerAscii name, Setting.property name) ∈ propertyOptions properties :=
    List.mem_reverse.2 (List.mem_map_of_mem h)
  generalize propertyOptions properties = options at hkeys hmem
  induction options with
  | nil => cases hmem
  | cons c rest ih =>
    rw [List.map_cons, List.nodup_cons] at hkeys
    rcases List.mem_cons.1 hmem with rfl | hrest
    · rw [List.lookup_cons_self]
    · rw [List.lookup_cons, beq_eq_false_iff_ne.2, ih hkeys.2 hrest]
      rintro he
      exact hkeys.1 (he ▸ List.mem_map_of_mem (f := Prod.fst) hrest)

theorem resolve_property (hd : (properties.map lowerAscii).Nodup) (h : name ∈ properties) :
    (standard properties).resolve ("p." ++ name) = .ok [.property name] := by
  refine resolve_of_lookup ?_
  rw [options_standard, List.lookup_append, lowerAscii_property, lookup_propertyOptions hd h, Option.some_or]

/-- A property that an option sets is one of the registered ones. -/
theorem mem_of_lookup (h : (standard properties).options.lookup name = some (.property p)) : p ∈ properties := by
  have hfixed : (standard []).options.map (·.2) =
      (Conjunction.all.map Setting.conjunction ++ Operator.all.map Setting.operator).reverse := rfl
  obtain ⟨front, back, hsplit, -⟩ := List.lookup_eq_some_iff.1 h
  have hmem : (name, Setting.property p) ∈ propertyOptions properties ++ (standard []).options := by
    rw [← options_standard, hsplit]
    simp
  rcases List.mem_append.1 hmem with hm | hm
  · obtain ⟨q, hq, he⟩ := List.mem_map.1 (List.mem_reverse.1 hm)
    obtain rfl : q = p := by simpa using congrArg Prod.snd he
    exact hq
  · have := List.mem_map_of_mem (f := Prod.snd) hm
    rw [hfixed] at this
    simp at this

theorem mem_of_mapM {targets : List String} (h : targets.mapM (fun t => r.options.lookup t) = some settings)
    (hs : s ∈ settings) : ∃ t, r.options.lookup t = some s := by
  induction targets generalizing settings with
  | nil =>
    obtain rfl : [] = settings := by simpa using h
    cases hs
  | cons t targets ih =>
    rw [List.mapM_cons] at h
    obtain ⟨first, hfirst, h⟩ := Option.bind_eq_some_iff.1 h
    obtain ⟨others, hothers, h⟩ := Option.bind_eq_some_iff.1 h
    obtain rfl : first :: others = settings := by simpa using h
    rcases List.mem_cons.1 hs with rfl | hs
    · exact ⟨t, hfirst⟩
    · exact ih hothers hs

theorem mem_of_resolve (h : (standard properties).resolve name = .ok settings) (hs : .property p ∈ settings) :
    p ∈ properties := by
  rw [resolve] at h
  split at h
  · rename_i s hl
    rw [Except.ok.injEq] at h
    obtain rfl : .property p = s := by simpa [← h] using hs
    exact mem_of_lookup hl
  · split at h
    · rename_i found hm
      obtain rfl : found = settings := by simpa using h
      obtain ⟨targets, -, hm⟩ := Option.bind_eq_some_iff.1 hm
      obtain ⟨t, ht⟩ := mem_of_mapM hm hs
      exact mem_of_lookup ht
    · cases h

end Registry

/-! ## The tokens of a key -/

namespace Key

variable {k : Key} {marker : Char} {properties : List String}

/-- Whether a key has a written form that names it and no other. -/
def Readable (properties : List String) (k : Key) : Prop :=
  '"' ∉ k.word.toList ∧ (k.property = defaultProperty ∨ k.property ∈ properties)

/-- The word that is an option. -/
def option (marker : Char) (name : String) : Token := .word (marker.toString ++ name)

/-- The options and the word of a key, as tokens. -/
def tokens (k : Key) (marker : Char) : List Token :=
  (if k.conjunction = .and then [] else [option marker k.conjunction.name])
    ++ (if k.property = defaultProperty then [] else [option marker ("p." ++ k.property)])
    ++ (if k.operator = (if k.isQuoted marker then .exact else .fuzzy) then []
        else [option marker k.operator.name])
    ++ [if k.isQuoted marker then .phrase k.word else .word k.word]

theorem queryParts_eq (k : Key) (marker : Char) : k.queryParts marker = (k.tokens marker).map Token.text := by
  have hword : (if k.isQuoted marker then Token.phrase k.word else .word k.word).text =
      if k.isQuoted marker then "\"" ++ k.word ++ "\"" else k.word := apply_ite Token.text ..
  simp only [queryParts, tokens, List.map_append, apply_ite (List.map Token.text), List.map_singleton, List.map_nil,
    hword]
  rfl

theorem toList_option (marker : Char) (name : String) : (marker.toString ++ name).toList = marker :: name.toList := by
  rw [String.toList_append, Char.toString, String.toList_singleton, List.singleton_append]

theorem isQuoted_eq_false : k.isQuoted marker = false ↔
    k.word ≠ "" ∧ (∀ c ∈ k.word.toList, isBlank c = false) ∧ k.word.toList.head? ≠ some marker := by
  simp only [isQuoted, Bool.or_eq_false_iff, List.any_eq_false, Bool.not_eq_true, and_assoc, beq_eq_false_iff_ne]
  refine and_congr_left fun _ => ?_
  rw [← Bool.not_eq_true, String.isEmpty_iff]

/-- An option can be written if its name can. -/
theorem writable_option {name : String} (hb : isBlank marker = false) (hq : marker ≠ '"')
    (hname : ∀ c ∈ name.toList, IsPlain c) : (option marker name).Writable := by
  have hlist := toList_option marker name
  refine ⟨fun he => ?_, fun c hc => ?_⟩
  · rw [he] at hlist
    cases hlist
  · rw [hlist] at hc
    rcases List.mem_cons.1 hc with rfl | hc
    · exact ⟨hq, hb⟩
    · exact hname c hc

theorem isPlain_conjunction (c : Conjunction) : ∀ d ∈ c.name.toList, IsPlain d := by
  cases c <;> simp [Conjunction.name, IsPlain, isBlank]

theorem isPlain_operator (o : Operator) : ∀ d ∈ o.name.toList, IsPlain d := by
  have hall : ∀ o ∈ Operator.all, ∀ d ∈ o.name.toList, IsPlain d := by
    simp [Operator.all, Operator.name, Comparison.name, IsPlain, isBlank]
  exact hall o o.mem_all

/-- The tokens of a key can be written. -/
theorem Readable.writable (h : k.Readable properties) (hb : isBlank marker = false) (hq : marker ≠ '"')
    (hprops : ∀ p ∈ properties, ∀ c ∈ p.toList, IsPlain c) : ∀ t ∈ k.tokens marker, t.Writable := by
  have hword : (if k.isQuoted marker then Token.phrase k.word else .word k.word).Writable := by
    split
    · exact h.1
    · rename_i hn
      obtain ⟨hne, hblank, -⟩ := isQuoted_eq_false.1 (Bool.eq_false_iff.2 hn)
      exact ⟨hne, fun c hc => ⟨fun he => h.1 (he ▸ hc), hblank c hc⟩⟩
  have hproperty : k.property ≠ defaultProperty → ∀ c ∈ ("p." ++ k.property).toList, IsPlain c := by
    intro hne c hc
    rw [String.toList_append] at hc
    rcases List.mem_append.1 hc with hc | hc
    · have hp : ∀ c ∈ "p.".toList, IsPlain c := by simp [IsPlain, isBlank]
      exact hp c hc
    · exact hprops _ (h.2.resolve_left hne) c hc
  have hoption : ∀ {c : Prop} [Decidable c] {name : String}, (¬c → ∀ d ∈ name.toList, IsPlain d) →
      ∀ t ∈ (if c then [] else [option marker name]), t.Writable := by
    intro c _ name hplain t ht
    split at ht
    · cases ht
    · rename_i hc
      rw [List.mem_singleton.1 ht]
      exact writable_option hb hq (hplain hc)
  intro t ht
  simp only [tokens, List.mem_append, List.mem_singleton] at ht
  rcases ht with ((ht | ht) | ht) | rfl
  · exact hoption (fun _ => isPlain_conjunction _) t ht
  · exact hoption hproperty t ht
  · exact hoption (fun _ => isPlain_operator _) t ht
  · exact hword

end Key

/-! ## Reading tokens -/

namespace QueryLanguage

variable {l : QueryLanguage} {pending : Pending} {keys : List Key} {k : Key} {text name query : String}
  {settings : List Setting} {properties : List String} {marker : Char}

/-- What one token adds, without validation. -/
abbrev read (l : QueryLanguage) (state : Pending × List Key) (token : Token) :
    ExceptT QueryError Id (Pending × List Key) := l.step (fun _ => pure ()) state token

theorem optionName?_option (l : QueryLanguage) (name : String) :
    l.optionName? (l.marker.toString ++ name) = some name := by
  rw [optionName?, Key.toList_option]
  simp

theorem optionName?_eq_none (h : text.toList.head? ≠ some l.marker) : l.optionName? text = none := by
  unfold optionName?
  split
  · rename_i c name hl
    rw [hl, List.head?_cons, ne_eq, Option.some.injEq] at h
    rw [if_neg h]
  · rfl

theorem read_option (h : l.registry.resolve name = .ok settings) :
    l.read (pending, keys) (Key.option l.marker name) = pure (settings.foldl Pending.apply pending, keys) := by
  simp only [read, step, Key.option, optionName?_option, h]

/-- The word of a key, quoted or not, takes what is pending. -/
theorem read_word (k : Key) : l.read (pending, keys) (if k.isQuoted l.marker then .phrase k.word else .word k.word) =
    pure ({}, keys ++ [pending.key k.word (if k.isQuoted l.marker then .exact else .fuzzy)]) := by
  split
  · rfl
  · rename_i hn
    obtain ⟨-, -, hmarker⟩ := Key.isQuoted_eq_false.1 (Bool.eq_false_iff.2 hn)
    simp only [read, step, optionName?_eq_none hmarker]
    rfl

/-- Setting a part of the next key, unless it goes without saying. -/
theorem foldlM_option {c : Prop} [Decidable c] {s : Setting} (h : ¬c → l.registry.resolve name = .ok [s]) :
    (if c then [] else [Key.option l.marker name]).foldlM l.read (pending, keys) =
      pure (if c then pending else pending.apply s, keys) := by
  split
  · rfl
  · rename_i hc
    rw [List.foldlM_cons, read_option (h hc), pure_bind]
    rfl

/-- **The tokens of a key are read as that key.** -/
theorem foldlM_tokens (hd : (properties.map lowerAscii).Nodup) (h : k.Readable properties) (he : k.exclude = false)
    (marker : Char) (keys : List Key) : (k.tokens marker).foldlM
      (read ⟨.standard properties, marker⟩) ({}, keys) = pure ({}, keys ++ [k]) := by
  simp only [Key.tokens, List.foldlM_append]
  rw [foldlM_option fun _ => Registry.resolve_conjunction ..]
  simp only [pure_bind]
  rw [foldlM_option fun hne => Registry.resolve_property hd (h.2.resolve_left hne)]
  simp only [pure_bind]
  rw [foldlM_option fun _ => Registry.resolve_operator ..]
  simp only [pure_bind, List.foldlM_cons]
  rw [read_word]
  simp only [pure_bind, List.foldlM_nil]
  congr 4
  -- Each part of the key was set, or is what an unset part stands for.
  generalize (if k.isQuoted marker then Operator.exact else .fuzzy) = implied
  obtain ⟨word, conjunction, property, operator, exclude⟩ := k
  simp only at he
  subst he
  simp only [Pending.key, Key.mk.injEq, true_and, and_true]
  refine ⟨?_, ?_, ?_⟩ <;> split_ifs <;> simp_all [Pending.apply]

theorem parse_eq (l : QueryLanguage) (query : String) :
    l.parse query = ((ofQuery query).foldlM l.read ({}, [])).run.map (·.2) := by
  rw [parse, parseWith]
  rcases (ofQuery query).foldlM l.read ({}, []) with e | r <;> rfl

theorem foldlM_flatMap_tokens (hd : (properties.map lowerAscii).Nodup) {ks : List Key}
    (h : ∀ k ∈ ks, k.Readable properties ∧ k.exclude = false) (marker : Char) (keys : List Key) :
    (ks.flatMap (·.tokens marker)).foldlM (read ⟨.standard properties, marker⟩) ({}, keys) =
      pure ({}, keys ++ ks) := by
  induction ks generalizing keys with
  | nil => rw [List.append_nil]; rfl
  | cons k ks ih =>
    obtain ⟨hk, he⟩ := h k (by simp)
    rw [List.flatMap_cons, List.foldlM_append, foldlM_tokens hd hk he, pure_bind,
      ih fun j hj => h j (by simp [hj]), List.append_assoc, List.singleton_append]

/-- Keys that are written are read back, but for those that the program put in. -/
theorem parse_written (hb : isBlank marker = false) (hq : marker ≠ '"')
    (hprops : ∀ p ∈ properties, ∀ c ∈ p.toList, IsPlain c) (hd : (properties.map lowerAscii).Nodup)
    (h : ∀ k ∈ keys, k.Readable properties) :
    parse ⟨.standard properties, marker⟩ (queryText keys marker) = .ok (keys.filter (!·.exclude)) := by
  have hkept : ∀ k ∈ keys.filter (!·.exclude), k.Readable properties ∧ k.exclude = false := fun k hk => by
    rw [List.mem_filter, Bool.not_eq_true'] at hk
    exact ⟨h k hk.1, hk.2⟩
  have hwritable : ∀ t ∈ (keys.filter (!·.exclude)).flatMap (·.tokens marker), t.Writable := fun t ht => by
    obtain ⟨k, hk, ht⟩ := List.mem_flatMap.1 ht
    exact (hkept k hk).1.writable hb hq hprops t ht
  have htext : queryText keys marker =
      " ".intercalate (((keys.filter (!·.exclude)).flatMap (·.tokens marker)).map Token.text) := by
    rw [queryText, List.map_flatMap]
    simp only [Key.queryParts_eq]
  rw [parse_eq, htext, ofQuery_written hwritable, foldlM_flatMap_tokens hd hkept]
  rfl

/-! ## What is read can be written -/

/-- What has been read can be written: the property that is set, and the keys. -/
def Good (properties : List String) (state : Pending × List Key) : Prop :=
  (∀ p, state.1.property = some p → p ∈ properties) ∧
    ∀ k ∈ state.2, k.Readable properties ∧ k.exclude = false

theorem good_foldl_apply (hs : ∀ p, .property p ∈ settings → p ∈ properties)
    (hp : ∀ p, pending.property = some p → p ∈ properties) :
    ∀ p, (settings.foldl Pending.apply pending).property = some p → p ∈ properties := by
  induction settings generalizing pending with
  | nil => exact hp
  | cons s settings ih =>
    refine ih (fun p hm => hs p (by simp [hm])) fun p hset => ?_
    cases s with
    | property name =>
      obtain rfl : name = p := by simpa [Pending.apply] using hset
      exact hs name (by simp)
    | conjunction | operator => exact hp p hset

theorem readable_key (hp : ∀ p, pending.property = some p → p ∈ properties) (hword : '"' ∉ text.toList)
    (o : Operator) : (pending.key text o).Readable properties := by
  refine ⟨hword, ?_⟩
  cases hs : pending.property with
  | none => exact .inl (by rw [Pending.key, hs]; rfl)
  | some p => exact .inr (by rw [Pending.key, hs]; exact hp p hs)

theorem good_read {state next : Pending × List Key} {t : Token} (h : Good properties state) (ht : t.Writable)
    (hr : (read ⟨.standard properties, marker⟩ state t).run = .ok next) : Good properties next := by
  have haccept : ∀ {text : String} {o : Operator}, '"' ∉ text.toList →
      Good properties ({}, state.2 ++ [state.1.key text o]) := fun hword => by
    refine ⟨nofun, fun k hk => ?_⟩
    rcases List.mem_append.1 hk with hk | hk
    · exact h.2 k hk
    · rw [List.mem_singleton.1 hk]
      exact ⟨readable_key h.1 hword _, rfl⟩
  cases t with
  | phrase text =>
    obtain rfl : ({}, state.2 ++ [state.1.key text .exact]) = next := Except.ok.inj hr
    exact haccept ht
  | word text =>
    rw [read, step] at hr
    split at hr
    · obtain rfl : ({}, state.2 ++ [state.1.key text .fuzzy]) = next := Except.ok.inj hr
      exact haccept fun hm => (ht.2 _ hm).1 rfl
    · split at hr
      · cases hr
      · rename_i name _ settings hsettings
        obtain rfl : (settings.foldl Pending.apply state.1, state.2) = next := Except.ok.inj hr
        exact ⟨good_foldl_apply (fun p hp => Registry.mem_of_resolve hsettings hp) h.1, h.2⟩

theorem good_foldlM {state last : Pending × List Key} {ts : List Token} (h : Good properties state)
    (ht : ∀ t ∈ ts, t.Writable)
    (hr : (ts.foldlM (read ⟨.standard properties, marker⟩) state).run = .ok last) : Good properties last := by
  induction ts generalizing state with
  | nil =>
    obtain rfl : state = last := Except.ok.inj hr
    exact h
  | cons t ts ih =>
    rw [List.foldlM_cons] at hr
    rcases hs : read ⟨.standard properties, marker⟩ state t with e | next
    · rw [hs] at hr
      cases hr
    · rw [hs] at hr
      exact ih (good_read h (ht t (by simp)) (by rw [hs]; rfl)) (fun u hu => ht u (by simp [hu])) hr

theorem good_of_parse (h : parse ⟨.standard properties, marker⟩ query = .ok keys) :
    ∀ k ∈ keys, k.Readable properties ∧ k.exclude = false := by
  rw [parse_eq] at h
  obtain ⟨last, hlast, rfl⟩ := map_eq_ok.1 h
  have hstart : Good properties ({}, []) := ⟨nofun, nofun⟩
  exact (good_foldlM hstart (fun t ht => writable_of_mem_ofQuery ht) hlast).2

/-- **Written keys read back**: of any keys without double quotes and with known properties those that the program did
not put in, in their order, and of the keys of a query all. -/
theorem parse_queryText (hb : isBlank marker = false) (hq : marker ≠ '"')
    (hprops : ∀ p ∈ properties, ∀ c ∈ p.toList, IsPlain c) (hd : (properties.map lowerAscii).Nodup) :
    (∀ keys, (∀ k ∈ keys, k.Readable properties) →
      parse ⟨.standard properties, marker⟩ (queryText keys marker) = .ok (keys.filter (!·.exclude))) ∧
    ∀ query keys, parse ⟨.standard properties, marker⟩ query = .ok keys →
      parse ⟨.standard properties, marker⟩ (queryText keys marker) = .ok keys := by
  refine ⟨fun keys h => parse_written hb hq hprops hd h, fun query keys h => ?_⟩
  have hgood := good_of_parse h
  have hall : keys.filter (!·.exclude) = keys := List.filter_eq_self.2 fun k hk => by rw [(hgood k hk).2]; rfl
  rw [parse_written hb hq hprops hd fun k hk => (hgood k hk).1, hall]

/-- Keys for what is not of today, or is large, and one that the program put in. -/
def mixedKeys : List Key :=
  [{ word := "two days", conjunction := .not, property := "date" },
    { word := "false", property := "isDirectory", operator := .compare .eq, exclude := true },
    { word := "", operator := .word }, { word := "-x", conjunction := .preor, property := "Size", operator := .exact }]

/-- The keys but the second one, read back behind a marker that is part of a word. -/
theorem parse_queryText_mixedKeys :
    (isBlank '-' = false ∧ '-' ≠ '"' ∧ (∀ p ∈ ["date", "isDirectory", "Size"], ∀ c ∈ p.toList, IsPlain c) ∧
      (["date", "isDirectory", "Size"].map lowerAscii).Nodup ∧
      ∀ k ∈ mixedKeys, k.Readable ["date", "isDirectory", "Size"]) ∧
    parse ⟨.standard ["date", "isDirectory", "Size"], '-'⟩ (queryText mixedKeys '-') =
      .ok (mixedKeys.filter (!·.exclude)) := by
  have hprops : ∀ p ∈ ["date", "isDirectory", "Size"], ∀ c ∈ p.toList, IsPlain c := by
    simp [IsPlain, isBlank]
  have hd : (["date", "isDirectory", "Size"].map lowerAscii).Nodup := by decide +kernel
  have hkeys : ∀ k ∈ mixedKeys, '"' ∉ k.word.toList ∧
      (k.property = Key.defaultProperty ∨ k.property ∈ ["date", "isDirectory", "Size"]) := by decide +kernel
  exact ⟨⟨rfl, by decide, hprops, hd, hkeys⟩, (parse_queryText rfl (by decide) hprops hd).1 mixedKeys hkeys⟩

end QueryLanguage

end FileIndex
