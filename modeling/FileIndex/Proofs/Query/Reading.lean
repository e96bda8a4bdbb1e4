/-
What the reader of queries makes of the tokens that it is handed, told place by place: the options that stand right in
front of a word or phrase say what they set of its key, the last setting of each part counts, and a validator is asked
once for every key, in order, up to the first token that fails (`parseWith_reads`).

A place is a token with the tokens in front of it. All that the reader keeps between two tokens is told by those in
front (`step_eq`), so that the order of the checks is that of the places.
-/
import FileIndex.Proofs.Query.Segments
import Mathlib.Data.List.DropRight

namespace FileIndex

/-! ## Settings -/

namespace Setting

/-- The conjunction that is set, if one is. -/
def conjunction? : Setting → Option Conjunction
  | .conjunction c => some c
  | _ => none

/-- The property that is set, if one is. -/
def property? : Setting → Option String
  | .property name => some name
  | _ => none

/-- The operator that is set, if one is. -/
def operator? : Setting → Option Operator
  | .operator o => some o
  | _ => none

end Setting

/-- Of several settings the last one of each part counts. -/
theorem Pending.foldl_apply (settings : List Setting) : settings.foldl Pending.apply {} =
    { conjunction := (settings.filterMap Setting.conjunction?).getLast?
      property := (settings.filterMap Setting.property?).getLast?
      operator := (settings.filterMap Setting.operator?).getLast? } := by
  induction settings using List.reverseRecOn with
  | nil => rfl
  | append_singleton settings s ih =>
    rw [List.foldl_append, ih]
    cases s <;> simp [Pending.apply, Setting.conjunction?, Setting.property?, Setting.operator?, List.filterMap_append]

namespace Registry

variable {r : Registry} {name : String}

/-- What an option name stands for: its own setting, or else the settings of all the options that its alias names. -/
def expansion? (r : Registry) (name : String) : Option (List Setting) :=
  match r.options.lookup (lowerAscii name) with
  | some s => some [s]
  | none => do (← r.aliases.lookup (lowerAscii name)).mapM fun target => r.options.lookup target

/-- A name that stands for nothing is reported as it was typed. -/
theorem resolve_eq (r : Registry) (name : String) :
    r.resolve name = (r.expansion? name).elim (.error (.unknownOption name)) .ok := by
  rw [resolve, expansion?]
  cases r.options.lookup (lowerAscii name) with
  | some s => rfl
  | none =>
    simp only [Option.bind_eq_bind]
    cases (r.aliases.lookup (lowerAscii name)).bind fun targets =>
      targets.mapM fun target => r.options.lookup target <;> rfl

end Registry

/-! ## Places -/

namespace Token

/-- The text of a token, without quotes. -/
def content : Token → String
  | .word text | .phrase text => text

/-- The operator of a token's key where no option sets one. -/
def operator : Token → Operator
  | .word _ => .fuzzy
  | .phrase _ => .exact

/-- The tokens, each behind those in front of it. -/
def places (tokens : List Token) : List (List Token × Token) :=
  tokens.zipIdx.map fun (t, i) => (tokens.take i, t)

@[simp] theorem places_nil : places [] = [] := rfl

@[simp] theorem places_concat (tokens : List Token) (t : Token) :
    places (tokens ++ [t]) = places tokens ++ [(tokens, t)] := by
  have hfront : (tokens.zipIdx.map fun (u, i) => ((tokens ++ [t]).take i, u)) = places tokens := by
    refine List.map_congr_left fun ⟨u, i⟩ hu => ?_
    have hlt : i < tokens.length := by simpa using List.snd_lt_of_mem_zipIdx hu
    exact congrArg (·, u) (List.take_append_of_le_length hlt.le)
  rw [places, List.zipIdx_append, List.map_append, hfront]
  simp

end Token

namespace QueryLanguage

open Tokenizer Token

variable {σ : Type} {l : QueryLanguage} {t : Token} {front tokens : List Token} {name : String}

/-- The name of the option that a token is, if it is one. -/
def option? (l : QueryLanguage) : Token → Option String
  | .word text => l.optionName? text
  | .phrase _ => none

/-- A token is an option if it is a word that starts with the marker. -/
theorem option?_eq_some_iff :
    l.option? t = some name ↔ ∃ text, t = .word text ∧ text.toList = l.marker :: name.toList := by
  cases t with
  | phrase text => simp [option?]
  | word text =>
    simp only [option?, optionName?, word.injEq, exists_eq_left']
    cases text.toList with
    | nil => simp
    | cons c rest =>
      by_cases hc : c = l.marker
      · simp only [hc, if_true, Option.some.injEq, List.cons.injEq, true_and, ← String.toList_inj,
          String.toList_ofList]
      · simp [hc]

/-- The settings of the options right behind the last word or phrase, from the first to the last. -/
def settingsBehind (l : QueryLanguage) (front : List Token) : List Setting :=
  (front.rtakeWhile fun t => (l.option? t).isSome).flatMap fun t =>
    ((l.option? t).bind l.registry.expansion?).getD []

/-- The key of a word or phrase behind some tokens. -/
def keyBehind (l : QueryLanguage) (front : List Token) (t : Token) : Key where
  word := t.content
  conjunction := ((l.settingsBehind front).filterMap Setting.conjunction?).getLast?.getD .and
  property := ((l.settingsBehind front).filterMap Setting.property?).getLast?.getD "text"
  operator := ((l.settingsBehind front).filterMap Setting.operator?).getLast?.getD t.operator
  exclude := false

/-- The key of a place, if it is not that of an option. -/
def key? (l : QueryLanguage) (place : List Token × Token) : Option Key :=
  if (l.option? place.2).isSome then none else some (l.keyBehind place.1 place.2)

/-- The keys of tokens, in order: one for each that is no option. -/
def keysOf (l : QueryLanguage) (tokens : List Token) : List Key := (places tokens).filterMap l.key?

theorem keysOf_concat (l : QueryLanguage) (tokens : List Token) (t : Token) :
    l.keysOf (tokens ++ [t]) = l.keysOf tokens ++ (l.key? (tokens, t)).toList := by
  rw [keysOf, places_concat, List.filterMap_append]
  cases h : l.key? (tokens, t) <;> simp [keysOf, h]

/-- What is pending behind some tokens. -/
def pendingBehind (l : QueryLanguage) (front : List Token) : Pending := (l.settingsBehind front).foldl Pending.apply {}

theorem key_pendingBehind (l : QueryLanguage) (front : List Token) (t : Token) :
    (l.pendingBehind front).key t.content t.operator = l.keyBehind front t := by
  rw [pendingBehind, Pending.foldl_apply]
  rfl

/-- What the options behind the last key set stays pending behind one more. -/
theorem pendingBehind_option {settings : List Setting} (h : l.option? t = some name)
    (hs : l.registry.expansion? name = some settings) :
    l.pendingBehind (front ++ [t]) = settings.foldl Pending.apply (l.pendingBehind front) := by
  rw [pendingBehind, settingsBehind, List.rtakeWhile_concat_pos _ _ _ (by rw [h]; rfl), List.flatMap_append,
    List.foldl_append, pendingBehind, settingsBehind]
  simp [h, hs]

/-- Nothing is pending behind a key. -/
theorem pendingBehind_key (h : l.option? t = none) : l.pendingBehind (front ++ [t]) = {} := by
  rw [pendingBehind, settingsBehind, List.rtakeWhile_concat_neg _ _ _ (by simp [h])]
  rfl

/-! ## Checks -/

section Checks

variable {m : Type → Type} [Monad m]

/-- What is checked at a place: that the name of an option stands for something, and a key by the validator. -/
def check (l : QueryLanguage) (validate : Key → ExceptT QueryError m Unit) (place : List Token × Token) :
    ExceptT QueryError m Unit :=
  match l.option? place.2 with
  | some name => if (l.registry.expansion? name).isSome then pure () else throw (.unknownOption name)
  | none => validate (l.keyBehind place.1 place.2)

variable [LawfulMonad m]

/-- **A step checks its place** and then has what is pending and the keys behind one more token. -/
theorem step_eq (l : QueryLanguage) (validate : Key → ExceptT QueryError m Unit) (front : List Token) (t : Token) :
    l.step validate (l.pendingBehind front, l.keysOf front) t = do
      l.check validate (front, t)
      return (l.pendingBehind (front ++ [t]), l.keysOf (front ++ [t])) := by
  have haccept (ht : l.option? t = none) : (do
      validate ((l.pendingBehind front).key t.content t.operator)
      return (({}, l.keysOf front ++ [(l.pendingBehind front).key t.content t.operator]) : Pending × List Key)) = do
        l.check validate (front, t)
        return (l.pendingBehind (front ++ [t]), l.keysOf (front ++ [t])) := by
    rw [key_pendingBehind, pendingBehind_key ht, keysOf_concat]
    simp [check, key?, ht]
  cases t with
  | phrase text => exact haccept rfl
  | word text =>
    cases ht : l.optionName? text with
    | none =>
      simp only [step, ht]
      exact haccept ht
    | some name =>
      have hoption : l.option? (.word text) = some name := ht
      simp only [step, ht, Registry.resolve_eq, check, hoption, keysOf_concat, key?]
      cases hs : l.registry.expansion? name with
      | none =>
        refine ExceptT.ext ?_
        simp
      | some settings => simp [pendingBehind_option hoption hs]

/-- **Reading tokens is checking their places**, one after the other. -/
theorem foldlM_step (l : QueryLanguage) (validate : Key → ExceptT QueryError m Unit) (tokens : List Token) :
    tokens.foldlM (l.step validate) ({}, []) = do
      forM (places tokens) (l.check validate)
      return (l.pendingBehind tokens, l.keysOf tokens) := by
  induction tokens using List.reverseRecOn with
  | nil => simp [pendingBehind, settingsBehind, keysOf]
  | append_singleton front t ih =>
    rw [List.foldlM_append, ih, places_concat, List.forM_append]
    simp [step_eq]

theorem parseWith_eq (l : QueryLanguage) (validate : Key → ExceptT QueryError m Unit) (query : String) :
    l.parseWith validate query = do
      forM (places (Token.ofQuery query)) (l.check validate)
      return l.keysOf (Token.ofQuery query) := by
  rw [parseWith, foldlM_step]
  simp

end Checks

/-! ## Validators with a state -/

/-- A validator that keeps a state from key to key. -/
abbrev Validator (σ : Type) : Type := Key → ExceptT QueryError (StateM σ) Unit

namespace Validator

variable {v : Validator σ} {s last : σ} {keys asked : List Key} {k : Key}

/-- The answer to a key in a state, and the state behind it. -/
def ask (v : Validator σ) (k : Key) (s : σ) : Except QueryError Unit × σ := (v k).run.run s

/-- A validator that also notes the keys that it is asked for. -/
def noting (v : Validator σ) : Validator (List Key × σ) := fun k => ExceptT.mk fun s =>
  ((v.ask k s.2).1, s.1 ++ [k], (v.ask k s.2).2)

theorem ask_noting (v : Validator σ) (k : Key) (asked : List Key) (s : σ) :
    v.noting.ask k (asked, s) = ((v.ask k s).1, asked ++ [k], (v.ask k s).2) := rfl

/-- Whether keys are accepted one after the other, which leads from one state to another. -/
inductive Accepts (v : Validator σ) (s : σ) : List Key → σ → Prop
  | nil : Accepts v s [] s
  | concat {keys : List Key} {k : Key} {mid last : σ} (front : Accepts v s keys mid)
      (accepted : v.ask k mid = (.ok (), last)) : Accepts v s (keys ++ [k]) last

theorem accepts_nil : v.Accepts s [] last ↔ s = last := by
  constructor
  · generalize hk : ([] : List Key) = keys
    rintro (_ | _)
    · rfl
    · simp at hk
  · rintro rfl
    exact .nil

theorem accepts_concat :
    v.Accepts s (keys ++ [k]) last ↔ ∃ mid, v.Accepts s keys mid ∧ v.ask k mid = (.ok (), last) := by
  constructor
  · generalize hk : keys ++ [k] = all
    rintro (_ | ⟨front, accepted⟩)
    · simp at hk
    · obtain ⟨rfl, rfl⟩ := List.append_singleton_inj.1 hk
      exact ⟨_, front, accepted⟩
  · rintro ⟨mid, front, accepted⟩
    exact front.concat accepted

/-- Accepted keys are noted. -/
theorem Accepts.noting (h : v.Accepts s keys last) (asked : List Key) :
    v.noting.Accepts (asked, s) keys (asked ++ keys, last) := by
  induction h with
  | nil => simpa using Accepts.nil (v := v.noting)
  | concat _ accepted ih => exact ih.concat (by rw [ask_noting, accepted, List.append_assoc])

end Validator

/-! ## How reading ends -/

variable {v : Validator σ} {s mid last : σ} {examined : List Token} {asked : List Key}
  {answer : Except QueryError (List Key)}

/-- Whether a token is no option, or one that stands for something. -/
def Known (l : QueryLanguage) (t : Token) : Prop :=
  ∀ name, l.option? t = some name → (l.registry.expansion? name).isSome

theorem known_of_option {settings : List Setting} (h : l.option? t = some name)
    (hs : l.registry.expansion? name = some settings) : l.Known t := by
  intro n hn
  obtain rfl : name = n := Option.some.inj (h.symm.trans hn)
  rw [hs]
  rfl

theorem known_of_key (h : l.option? t = none) : l.Known t := by
  intro n hn
  rw [h] at hn
  cases hn

/-- How the reading of tokens ends: the tokens that are handed out, the keys that the validator is asked for, the
answer, and the state in which the validator is then. -/
inductive Ends (l : QueryLanguage) (v : Validator σ) (s : σ) (tokens : List Token) :
    List Token → List Key → Except QueryError (List Key) → σ → Prop
  /-- Every option stands for something and every key is accepted. -/
  | read {last : σ} (known : ∀ t ∈ tokens, l.Known t) (accepted : v.Accepts s (l.keysOf tokens) last) :
    Ends l v s tokens tokens (l.keysOf tokens) (.ok (l.keysOf tokens)) last
  /-- The first token that fails is an option that stands for nothing. -/
  | unknown {front behind : List Token} {t : Token} {name : String} {last : σ} (split : tokens = front ++ t :: behind)
      (known : ∀ u ∈ front, l.Known u) (accepted : v.Accepts s (l.keysOf front) last)
      (option : l.option? t = some name) (nothing : l.registry.expansion? name = none) :
    Ends l v s tokens (front ++ [t]) (l.keysOf front) (.error (.unknownOption name)) last
  /-- The first token that fails has a key that is refused. -/
  | refused {front behind : List Token} {t : Token} {e : QueryError} {mid last : σ}
      (split : tokens = front ++ t :: behind) (known : ∀ u ∈ front, l.Known u)
      (accepted : v.Accepts s (l.keysOf front) mid) (key : l.option? t = none)
      (refused : v.ask (l.keyBehind front t) mid = (.error e, last)) :
    Ends l v s tokens (front ++ [t]) (l.keysOf front ++ [l.keyBehind front t]) (.error e) last

theorem keysOf_option (h : l.option? t = some name) : l.keysOf (front ++ [t]) = l.keysOf front := by
  simp [keysOf_concat, key?, h]

theorem keysOf_key (h : l.option? t = none) : l.keysOf (front ++ [t]) = l.keysOf front ++ [l.keyBehind front t] := by
  simp [keysOf_concat, key?, h]

/-- Reading always ends. -/
theorem exists_ends (l : QueryLanguage) (v : Validator σ) (s : σ) (tokens : List Token) :
    ∃ examined asked answer last, l.Ends v s tokens examined asked answer last := by
  induction tokens using List.reverseRecOn with
  | nil => exact ⟨_, _, _, _, .read nofun .nil⟩
  | append_singleton front t ih =>
    obtain ⟨examined, asked, answer, last, hends⟩ := ih
    cases hends with
    | read known accepted =>
      cases ht : l.option? t with
      | some name =>
        cases hs : l.registry.expansion? name with
        | none => exact ⟨_, _, _, _, .unknown rfl known accepted ht hs⟩
        | some settings =>
          have hknown := List.forall_mem_append.2 ⟨known, List.forall_mem_singleton.2 (known_of_option ht hs)⟩
          exact ⟨_, _, _, _, .read hknown (by rwa [keysOf_option ht])⟩
      | none =>
        rcases hv : v.ask (l.keyBehind front t) last with ⟨e | u, next⟩
        · exact ⟨_, _, _, _, .refused rfl known accepted ht hv⟩
        · have hknown := List.forall_mem_append.2 ⟨known, List.forall_mem_singleton.2 (known_of_key ht)⟩
          exact ⟨_, _, _, _, .read hknown (by rw [keysOf_key ht]; exact accepted.concat hv)⟩
    | unknown split known accepted option nothing =>
      exact ⟨_, _, _, _, .unknown (by rw [split, List.append_assoc]; rfl) known accepted option nothing⟩
    | refused split known accepted key refused =>
      exact ⟨_, _, _, _, .refused (by rw [split, List.append_assoc]; rfl) known accepted key refused⟩

/-- A validator that notes its keys notes those that it is asked for. -/
theorem Ends.noting (h : l.Ends v s tokens examined asked answer last) :
    l.Ends v.noting ([], s) tokens examined asked answer (asked, last) := by
  cases h with
  | read known accepted => exact .read known (accepted.noting [])
  | unknown split known accepted option nothing => exact .unknown split known (accepted.noting []) option nothing
  | refused split known accepted key refused =>
    exact .refused split known (accepted.noting []) key (by rw [Validator.ask_noting, refused, List.nil_append])

/-! ## The reader as one who takes tokens -/

/-- The reader of queries with a validator, as one who takes tokens. -/
def reader (l : QueryLanguage) (v : Validator σ) (state : (Pending × List Key) × σ) (t : Token) :
    Except QueryError Unit × (Pending × List Key) × σ :=
  match (l.step v state.1 t).run.run state.2 with
  | (.ok next, s) => (.ok (), next, s)
  | (.error e, s) => (.error e, state.1, s)

/-- The reader behind some tokens. -/
abbrev behind (l : QueryLanguage) (front : List Token) (s : σ) : (Pending × List Key) × σ :=
  ((l.pendingBehind front, l.keysOf front), s)

theorem reader_eq (l : QueryLanguage) (v : Validator σ) (front : List Token) (t : Token) (s : σ) :
    l.reader v (l.behind front s) t = match (l.check v (front, t)).run.run s with
      | (.ok (), s) => (.ok (), l.behind (front ++ [t]) s)
      | (.error e, s) => (.error e, l.behind front s) := by
  rw [reader, step_eq, ExceptT.run_bind, StateT.run_bind]
  rcases (l.check v (front, t)).run.run s with ⟨_ | _, _⟩ <;> rfl

theorem reader_option {settings : List Setting} (h : l.option? t = some name)
    (hs : l.registry.expansion? name = some settings) :
    l.reader v (l.behind front s) t = (.ok (), l.behind (front ++ [t]) s) := by
  rw [reader_eq, check, h]
  simp [hs]
  rfl

theorem reader_key (h : l.option? t = none) (hv : v.ask (l.keyBehind front t) s = (.ok (), last)) :
    l.reader v (l.behind front s) t = (.ok (), l.behind (front ++ [t]) last) := by
  rw [Validator.ask] at hv
  rw [reader_eq, check, h]
  simp only [hv]

/-- What is known and accepted is handed out as a whole. -/
theorem handAll_reader (known : ∀ t ∈ tokens, l.Known t) (accepted : v.Accepts s (l.keysOf tokens) last) :
    handAll (l.reader v) (l.behind [] s) tokens = (.ok (), l.behind tokens last) := by
  induction tokens using List.reverseRecOn generalizing last with
  | nil =>
    obtain rfl := Validator.accepts_nil.1 accepted
    rfl
  | append_singleton front t ih =>
    have hfront : ∀ u ∈ front, l.Known u := fun u hu => known u (by simp [hu])
    cases ht : l.option? t with
    | some name =>
      obtain ⟨settings, hs⟩ := Option.isSome_iff_exists.1 (known t (by simp) name ht)
      rw [keysOf_option ht] at accepted
      rw [handAll_append (ih hfront accepted), handAll, reader_option ht hs]
      rfl
    | none =>
      rw [keysOf_key ht] at accepted
      obtain ⟨mid, hmid, hlast⟩ := Validator.accepts_concat.1 accepted
      rw [handAll_append (ih hfront hmid), handAll, reader_key ht hlast]
      rfl

/-- Behind a token that fails nothing is handed out; the reader answers with what was wrong with it. -/
theorem handAll_ends (h : l.Ends v s tokens examined asked answer last) : ∃ state,
    handAll (l.reader v) (l.behind [] s) tokens = (answer.map fun _ => (), state, last) ∧
    handAll (Tokenizer.noting (l.reader v)) ([], l.behind [] s) tokens =
      (answer.map fun _ => (), examined, state, last) ∧
    ∀ keys, answer = .ok keys → state.2 = keys := by
  have hfails {front rest : List Token} {t : Token} {e : QueryError} {mid last : σ}
      (known : ∀ u ∈ front, l.Known u) (accepted : v.Accepts s (l.keysOf front) mid)
      (fails : l.reader v (l.behind front mid) t = (.error e, l.behind front last)) :
      handAll (l.reader v) (l.behind [] s) (front ++ t :: rest) = (.error e, l.behind front last) ∧
      handAll (Tokenizer.noting (l.reader v)) ([], l.behind [] s) (front ++ t :: rest) =
        (.error e, front ++ [t], l.behind front last) := by
    have hfront := handAll_reader known accepted
    refine ⟨?_, handAll_noting_refused hfront fails [] rest⟩
    rw [handAll_append hfront, handAll, fails]
  cases h with
  | read known accepted =>
    have hall := handAll_reader known accepted
    refine ⟨_, hall, handAll_noting hall [], fun keys hk => Except.ok.inj hk⟩
  | @unknown front rest t name _ split known accepted option nothing =>
    have hlast : l.reader v (l.behind front last) t = (.error (.unknownOption name), l.behind front last) := by
      rw [reader_eq, check, option]
      simp [nothing]
      rfl
    obtain ⟨hanswer, hhanded⟩ := hfails known accepted hlast
    exact ⟨_, split ▸ hanswer, split ▸ hhanded, fun _ hk => by cases hk⟩
  | @refused front rest t e mid _ split known accepted key refused =>
    rw [Validator.ask] at refused
    have hlast : l.reader v (l.behind front mid) t = (.error e, l.behind front last) := by
      rw [reader_eq, check, key]
      simp only [refused]
    obtain ⟨hanswer, hhanded⟩ := hfails known accepted hlast
    exact ⟨_, split ▸ hanswer, split ▸ hhanded, fun _ hk => by cases hk⟩

/-- Reading tokens is handing them out to the reader. -/
theorem foldlM_reader (l : QueryLanguage) (v : Validator σ) (tokens : List Token) (state : Pending × List Key)
    (s : σ) :
    (tokens.foldlM (l.step v) state).run.run s = match handAll (l.reader v) (state, s) tokens with
      | (.ok (), state, s) => (.ok state, s)
      | (.error e, _, s) => (.error e, s) := by
  induction tokens generalizing state s with
  | nil => rfl
  | cons t tokens ih =>
    rw [List.foldlM_cons, handAll, reader, ExceptT.run_bind, StateT.run_bind]
    rcases (l.step v state t).run.run s with ⟨e | next, mid⟩
    · rfl
    · exact ih next mid

theorem Ends.parseWith {query : String} (h : l.Ends v s (Token.ofQuery query) examined asked answer last) :
    (l.parseWith v query).run.run s = (answer, last) := by
  obtain ⟨state, hall, -, hkeys⟩ := handAll_ends h
  have hfold := foldlM_reader l v (Token.ofQuery query) ({}, []) s
  rw [show (((({}, []), s) : (Pending × List Key) × σ)) = l.behind [] s from rfl, hall] at hfold
  rw [QueryLanguage.parseWith, ExceptT.run_bind, StateT.run_bind, hfold]
  cases answer with
  | error e => rfl
  | ok keys => exact congrArg (fun k => (Except.ok k, last)) (hkeys keys rfl)

/-- **What reading a query comes to.** An option is a word that starts with the marker. With any validator, reading is
to check the places one after the other and then to give the keys. How it ends is determined by the tokens (`Ends`): the
answer is that of the first token that fails, the keys in front of it and its own are the ones that the validator is
asked for, each once, and no token behind it is handed out. -/
theorem parseWith_reads (l : QueryLanguage) (query : String) :
    (∀ t name, l.option? t = some name ↔ ∃ text, t = .word text ∧ text.toList = l.marker :: name.toList) ∧
    (∀ {m : Type → Type} [Monad m] [LawfulMonad m] (validate : Key → ExceptT QueryError m Unit),
      l.parseWith validate query = do
        forM (places (Token.ofQuery query)) (l.check validate)
        return l.keysOf (Token.ofQuery query)) ∧
    ∀ {σ : Type} (v : Validator σ) (s : σ),
      (∃ examined asked answer last, l.Ends v s (Token.ofQuery query) examined asked answer last) ∧
      ∀ examined asked answer last, l.Ends v s (Token.ofQuery query) examined asked answer last →
        (l.parseWith v query).run.run s = (answer, last) ∧
        (l.parseWith v.noting query).run.run ([], s) = (answer, asked, last) ∧
        ∃ state, Tokenizer.run (Tokenizer.noting (l.reader v)) ([], ({}, []), s) query =
          .ok (answer.map fun _ => (), examined, state, last) := by
  refine ⟨fun t name => option?_eq_some_iff, fun validate => parseWith_eq l validate query, fun v s => ?_⟩
  refine ⟨exists_ends l v s _, fun examined asked answer last hends => ?_⟩
  refine ⟨hends.parseWith, hends.noting.parseWith, ?_⟩
  obtain ⟨state, -, hhanded, -⟩ := handAll_ends hends
  exact ⟨state, by rw [Tokenizer.run, Stands.wordBoundary.runFrom_eq, ← Token.ofQuery, ← hhanded]; rfl⟩

/-- A language with few options. -/
def dated : QueryLanguage where
  registry :=
    { options := [("or", .conjunction .or), ("p.date", .property "date"), ("m.gt", .operator (.compare .gt))]
      aliases := [("since", ["p.date", "m.gt"])] }

/-- A validator that counts the keys and refuses one word. -/
def counting : Validator Nat := fun k => ExceptT.mk fun n =>
  (if k.word = "b" then .error (.badDate k.word) else .ok (), n + 1)

/-- The second key takes an alias and an option in front of it and is refused; the option behind it, which stands for
nothing, is not looked at. -/
theorem parseWith_reads_refused :
    dated.Ends counting 0 (Token.ofQuery "a /since /OR b /nope") [.word "a", .word "/since", .word "/OR", .word "b"]
      [{ word := "a" }, { word := "b", conjunction := .or, property := "date", operator := .compare .gt }]
      (.error (.badDate "b")) 2 ∧
    (dated.parseWith counting "a /since /OR b /nope").run.run 0 = (.error (.badDate "b"), 2) := by
  have hsplit : Token.ofQuery "a /since /OR b /nope" =
      [.word "a", .word "/since", .word "/OR"] ++ .word "b" :: [.word "/nope"] := by decide +kernel
  have hknown : ∀ u ∈ [Token.word "a", .word "/since", .word "/OR"], dated.Known u := by
    have hnames : ∀ u ∈ [Token.word "a", .word "/since", .word "/OR"],
        ((dated.option? u).all fun name => (dated.registry.expansion? name).isSome) = true := by decide +kernel
    intro u hu name hname
    simpa [hname] using hnames u hu
  have hfirst : dated.keysOf [.word "a", .word "/since", .word "/OR"] = [{ word := "a" }] := by decide +kernel
  have hsecond : dated.keyBehind [.word "a", .word "/since", .word "/OR"] (.word "b") =
      { word := "b", conjunction := .or, property := "date", operator := .compare .gt } := by decide +kernel
  have haccepted : counting.Accepts 0 [{ word := "a" }] 1 := Validator.Accepts.nil.concat (by decide +kernel)
  have hoption : dated.option? (.word "b") = none := by decide +kernel
  have hrefused : counting.ask { word := "b", conjunction := .or, property := "date", operator := .compare .gt } 1 =
      (.error (.badDate "b"), 2) := by decide +kernel
  rw [← hfirst] at haccepted
  rw [← hsecond] at hrefused
  have hends := Ends.refused hsplit hknown haccepted hoption hrefused
  rw [hfirst, hsecond] at hends
  exact ⟨hends, (((parseWith_reads dated _).2.2 counting 0).2 _ _ _ _ hends).1⟩

end QueryLanguage

end FileIndex
