import H5Lifecycle.Library.Machine

/-!
What every run of the lifecycle code of `src/H5.c` keeps, whatever the world outside it
does.

`Machine` and `Refinement` describe quiet runs. Here a callback, hook or subsystem init
may call back into the library at any depth: `H5close` inside a hook, `H5atclose`
inside a callback, `H5open` inside a subsystem init. `Sane` collects what still holds
of every state such a run reaches, among it that `H5_libterm_g` is what the log shows
(`termOpen`: a body of `H5_term_library` begun and none finished since), and `Keeps f`
says that `f` keeps `Sane` and only grows the run: the log is extended, and once
`H5_dont_atexit_g` is set it stays set and `atexit` is handed nothing more. Each stage of `Exec` keeps it when the nested calls
`run` do, so `exec` keeps it by induction on the depth of nesting.

* `runCalls_atexit_once` — `H5_term_library` is handed to `atexit` at most once.
* `runCalls_atexit_lifo` — `atexit` holds no handler or those of one registration,
  `H5_term_library` first, so `exit()` runs `H5TS_term_package` last.
* `runCalls_dont_atexit_first` — after `H5dont_atexit` as the first call, nothing is
  ever handed to `atexit`.
* `runCalls_dont_atexit_late` — once the body of `H5_init_library` has run,
  `H5dont_atexit` fails and changes nothing.
* `runCalls_callback_registered` — every `atclose` callback the library calls was
  registered by `H5atclose` before.
* `runCalls_terminating_flag` — a callback or hook is entered with, and
  `H5is_library_terminating` answers, `TRUE` exactly when a body of `H5_term_library`
  has begun and no body has finished since.
* `runCalls_libterm_clear` — between two calls `H5_libterm_g` is clear, unless the
  process aborted.
-/

namespace H5Lifecycle

/-- The handler an `atexit` entry of the log hands over. -/
def Event.atexitOf : Event → Option Handler
  | .atexit h => some h
  | _ => none

/-- `H5_libterm_g` after an entry, from its value before: set by the start of a body of
`H5_term_library`, cleared by its end. -/
def Event.termStep (o : Bool) : Event → Bool
  | .termBody => true
  | .termDone => false
  | _ => o

/-- The log shows a body of `H5_term_library` begun, and no body finished since. -/
def termOpen (log : List Event) : Bool := log.foldl Event.termStep false

/-- The value of `H5_libterm_g` an entry records: what a callback or hook is entered with,
and what `H5is_library_terminating` answers. -/
def Event.flag : Event → Option Bool
  | .callback _ t | .hook _ t | .reported t => some t
  | _ => none

/-- Every entry of `log` that records `H5_libterm_g` records `termOpen` of the log before it. -/
def FlagsOpen (log : List Event) : Prop :=
  ∀ p e t, p ++ [e] <+: log → e.flag = some t → t = termOpen p

/-- The entries that touch none of the accounting of `Sane` while `H5_libterm_g` is `t`:
no body, `atexit` registration or callback, and a hook or answer that records `t`. -/
def Event.neutral (t : Bool) : Event → Bool
  | .initBody | .atexit _ | .callback _ _ | .termBody | .termDone => false
  | .hook _ u | .reported u => u == t
  | _ => true

/-- What holds of every state of every run of the build `b`. -/
structure Sane (b : Build) (s : Lib) : Prop where
  /-- `atexit` holds the handlers the log shows were handed to it, newest first. -/
  atexit : s.atexit = (s.log.filterMap Event.atexitOf).reverse
  /-- The log shows no `atexit` registration, or the one of `H5_init_library`. -/
  handlers : s.log.filterMap Event.atexitOf = [] ∨ s.log.filterMap Event.atexitOf = atexitHandlers b
  optOut : .atexit .termLibrary ∈ s.log → s.dontAtexit = true
  initOptOut : .initBody ∈ s.log → s.dontAtexit = true
  nodes : ∀ n ∈ s.atclose, .registered n ∈ s.log
  /-- A callback entry comes after a registration of its node. -/
  callbacks : ∀ p n t, p ++ [.callback n t] <+: s.log → .registered n ∈ p
  libterm : s.libterm = termOpen s.log
  flags : FlagsOpen s.log

/-- `s'` continues the run from `s`. -/
structure Grows (s s' : Lib) : Prop where
  log : s.log <+: s'.log
  optOut : s.dontAtexit = true → s'.dontAtexit = true ∧ s'.atexit = s.atexit

/-- `f` keeps `Sane` and only grows the run. -/
def Keeps (b : Build) (f : Lib → Lib) : Prop := ∀ s, Sane b s → Sane b (f s) ∧ Grows s (f s)

theorem Grows.refl (s : Lib) : Grows s s := ⟨List.prefix_refl _, fun h => ⟨h, rfl⟩⟩

theorem Grows.trans {s₁ s₂ s₃ : Lib} (h₁ : Grows s₁ s₂) (h₂ : Grows s₂ s₃) : Grows s₁ s₃ :=
  ⟨h₁.log.trans h₂.log, fun h => by
    obtain ⟨h', e₁⟩ := h₁.optOut h
    obtain ⟨h'', e₂⟩ := h₂.optOut h'
    exact ⟨h'', e₂.trans e₁⟩⟩

/-! ### The log's entries -/

theorem Event.neutral_term {e : Event} {t : Bool} (h : e.neutral t = true) :
    e ≠ .termBody ∧ e ≠ .termDone :=
  ⟨fun he => by subst he; exact Bool.false_ne_true h,
    fun he => by subst he; exact Bool.false_ne_true h⟩

theorem Event.neutral_flag {e : Event} {t u : Bool} (h : e.neutral t = true) (hf : e.flag = some u) :
    u = t := by
  cases e <;> simp only [Event.flag, Event.neutral, reduceCtorEq, Option.some.injEq, beq_iff_eq]
    at h hf
  all_goals exact hf ▸ h

theorem Event.termStep_of_ne {e : Event} (o : Bool) (h : e ≠ .termBody ∧ e ≠ .termDone) :
    Event.termStep o e = o := by
  cases e
  case termBody => exact absurd rfl h.1
  case termDone => exact absurd rfl h.2
  all_goals rfl

theorem termOpen_concat (l : List Event) (e : Event) :
    termOpen (l ++ [e]) = Event.termStep (termOpen l) e := by
  simp [termOpen]

/-- Entries that neither begin nor finish a body leave `termOpen` as it was. -/
theorem termOpen_append {l q : List Event} (h : ∀ e ∈ q, e ≠ .termBody ∧ e ≠ .termDone) :
    termOpen (l ++ q) = termOpen l := by
  induction q using List.reverseRecOn with
  | nil => rw [List.append_nil]
  | append_singleton q e ih =>
    rw [← List.append_assoc, termOpen_concat,
      Event.termStep_of_ne _ (h e (List.mem_append_right _ (List.mem_singleton_self e))),
      ih fun x hx => h x (List.mem_append_left _ hx)]

/-- A prefix of `l ++ new` that ends in `a` is a prefix of `l`, or ends in `new`. -/
theorem prefix_concat_append {p l new : List Event} {a : Event} (h : p ++ [a] <+: l ++ new) :
    p ++ [a] <+: l ∨ ∃ q, p = l ++ q ∧ q ++ [a] <+: new := by
  obtain ⟨r, hr⟩ := h
  rw [List.append_assoc, List.singleton_append] at hr
  rcases List.append_eq_append_iff.mp hr with ⟨a', rfl, h'⟩ | ⟨c', rfl, h'⟩
  · cases a' with
    | nil => exact .inr ⟨[], by simp, ⟨r, by simpa using h'⟩⟩
    | cons x xs =>
      obtain ⟨rfl, -⟩ := List.cons.inj h'
      exact .inl ⟨xs, by simp⟩
  · exact .inr ⟨c', rfl, ⟨r, by simp [h']⟩⟩

/-- A new entry that is not `a` cannot end a prefix ending in `a`. -/
theorem prefix_concat_of_not_mem {p l new : List Event} {a : Event} (h : p ++ [a] <+: l ++ new)
    (ha : a ∉ new) : p ++ [a] <+: l :=
  (prefix_concat_append h).resolve_right fun ⟨_, _, hq⟩ => ha (hq.subset (by simp))

theorem FlagsOpen.append {l new : List Event} (hl : FlagsOpen l)
    (hnew : ∀ q e t, q ++ [e] <+: new → e.flag = some t → t = termOpen (l ++ q)) :
    FlagsOpen (l ++ new) := by
  intro p e t hp hf
  rcases prefix_concat_append hp with h | ⟨q, rfl, hq⟩
  · exact hl p e t h hf
  · exact hnew q e t hq hf

theorem FlagsOpen.concat {l : List Event} {e : Event} (hl : FlagsOpen l)
    (he : ∀ t, e.flag = some t → t = termOpen l) : FlagsOpen (l ++ [e]) := by
  intro p e' t hp hf
  rcases List.prefix_concat_iff.mp hp with h | h
  · obtain ⟨rfl, h'⟩ := List.append_inj' h rfl
    exact he t (List.singleton_inj.mp h' ▸ hf)
  · exact hl p e' t h hf

theorem FlagsOpen.append_of_none {l new : List Event} (hl : FlagsOpen l)
    (hnew : ∀ e ∈ new, e.flag = none) : FlagsOpen (l ++ new) :=
  hl.append fun q e t hq hf => by simp [hnew e (hq.subset (by simp))] at hf

theorem count_filterMap_atexitOf (l : List Event) (h : Handler) :
    (l.filterMap Event.atexitOf).count h = l.count (.atexit h) := by
  induction l with
  | nil => rfl
  | cons e l ih => cases e <;> simp [Event.atexitOf, List.count_cons, ih]

theorem filterMap_atexitOf_version (os : List VersionOut) :
    (os.map Event.version).filterMap Event.atexitOf = [] :=
  List.filterMap_eq_nil_iff.mpr fun _ he => by
    obtain ⟨o, -, rfl⟩ := List.mem_map.mp he
    rfl

theorem filterMap_atexitOf_of_neutral {new : List Event} {t : Bool}
    (h : ∀ e ∈ new, e.neutral t = true) : new.filterMap Event.atexitOf = [] :=
  List.filterMap_eq_nil_iff.mpr fun e he => by
    have := h e he
    cases e <;> first | rfl | simp [Event.neutral] at this

section Updates

variable {b : Build}

/-- A step that keeps `Sane`, taken from a state the run reached. -/
theorem Keeps.then {s t : Lib} (h : Sane b t ∧ Grows s t) {g : Lib → Lib} (hg : Keeps b g) :
    Sane b (g t) ∧ Grows s (g t) :=
  ⟨(hg t h.1).1, h.2.trans (hg t h.1).2⟩

theorem sane_init : Sane b Lib.init where
  atexit := rfl
  handlers := .inl rfl
  optOut := by simp [Lib.init]
  initOptOut := by simp [Lib.init]
  nodes := by simp [Lib.init]
  callbacks := fun p n t h => by simpa [Lib.init] using h.length_le
  libterm := rfl
  flags := fun p e t h => by simpa [Lib.init] using h.length_le

/-! ### Updates of one state -/

/-- **Entries that touch none of the accounting.** A step that appends only neutral
entries, keeps `atexit`, `H5_dont_atexit_g` and `H5_libterm_g`, and links only nodes it
registers keeps `Sane` and grows the run. -/
theorem Sane.update {s s' : Lib} (hs : Sane b s) (new : List Event) (hlog : s'.log = s.log ++ new)
    (hnew : ∀ e ∈ new, e.neutral s.libterm = true) (hat : s'.atexit = s.atexit)
    (hd : s'.dontAtexit = s.dontAtexit) (ht : s'.libterm = s.libterm)
    (hnodes : ∀ n ∈ s'.atclose, n ∈ s.atclose ∨ .registered n ∈ new) :
    Sane b s' ∧ Grows s s' := by
  have hnot : ∀ e, e.neutral s.libterm = false → e ∉ new :=
    fun e he hm => absurd (hnew e hm) (by simp [he])
  have hfm : s'.log.filterMap Event.atexitOf = s.log.filterMap Event.atexitOf := by
    rw [hlog, List.filterMap_append, filterMap_atexitOf_of_neutral hnew, List.append_nil]
  have hterm : ∀ q, (∀ e ∈ q, e ∈ new) → termOpen (s.log ++ q) = s.libterm := fun q hq =>
    (termOpen_append fun e he => Event.neutral_term (hnew e (hq e he))).trans hs.libterm.symm
  refine ⟨⟨?_, hfm ▸ hs.handlers, ?_, ?_, ?_, ?_, ?_, ?_⟩,
    ⟨hlog ▸ List.prefix_append _ _, fun h => ⟨hd ▸ h, hat⟩⟩⟩
  · rw [hat, hs.atexit, hfm]
  · rw [hlog, hd]
    exact fun h => hs.optOut ((List.mem_append.mp h).resolve_right (hnot (.atexit .termLibrary) rfl))
  · rw [hlog, hd]
    exact fun h => hs.initOptOut ((List.mem_append.mp h).resolve_right (hnot .initBody rfl))
  · intro n hn
    rw [hlog]
    rcases hnodes n hn with h | h
    · exact List.mem_append_left _ (hs.nodes n h)
    · exact List.mem_append_right _ h
  · intro p n t hp
    rw [hlog] at hp
    exact hs.callbacks p n t (prefix_concat_of_not_mem hp (hnot (.callback n t) rfl))
  · rw [ht, hlog, hterm new fun _ h => h]
  · rw [hlog]
    exact hs.flags.append fun q e u hq hf =>
      (Event.neutral_flag (hnew e (hq.subset (by simp))) hf).trans
        (hterm q fun x hx => hq.subset (List.mem_append_left _ hx)).symm

/-- The start or the end of a body of `H5_term_library`, which sets or clears
`H5_libterm_g` with it. -/
theorem Sane.term {s s' : Lib} (hs : Sane b s) {e : Event} (he : e = .termBody ∨ e = .termDone)
    (hlog : s'.log = s.log ++ [e]) (hat : s'.atexit = s.atexit) (hd : s'.dontAtexit = s.dontAtexit)
    (ht : s'.libterm = Event.termStep s.libterm e) (hnodes : ∀ n ∈ s'.atclose, n ∈ s.atclose) :
    Sane b s' ∧ Grows s s' := by
  have hnot : ∀ n t, Event.callback n t ∉ [e] := by rcases he with rfl | rfl <;> simp
  have hfm : s'.log.filterMap Event.atexitOf = s.log.filterMap Event.atexitOf := by
    rcases he with rfl | rfl <;> simp [hlog, Event.atexitOf]
  refine ⟨⟨?_, hfm ▸ hs.handlers, ?_, ?_,
    fun n hn => hlog ▸ List.mem_append_left _ (hs.nodes n (hnodes n hn)),
    fun p n t hp => hs.callbacks p n t (prefix_concat_of_not_mem (hlog ▸ hp) (hnot n t)), ?_, ?_⟩,
    ⟨hlog ▸ List.prefix_append _ _, fun h => ⟨hd ▸ h, hat⟩⟩⟩
  · rw [hat, hs.atexit, hfm]
  · rcases he with rfl | rfl <;> simpa [hlog, hd] using hs.optOut
  · rcases he with rfl | rfl <;> simpa [hlog, hd] using hs.initOptOut
  · rw [ht, hlog, termOpen_concat, hs.libterm]
  · rw [hlog]
    exact hs.flags.concat fun t ht => by rcases he with rfl | rfl <;> cases ht

/-- The entry of an `atclose` callback whose node was registered. -/
theorem Sane.callback {s : Lib} (hs : Sane b s) {n : Node} (hn : .registered n ∈ s.log) :
    Sane b { s with log := s.log ++ [.callback n s.libterm] } ∧
      Grows s { s with log := s.log ++ [.callback n s.libterm] } := by
  refine ⟨⟨?_, ?_, ?_, ?_, fun m hm => List.mem_append_left _ (hs.nodes m hm), ?_, ?_, ?_⟩,
    ⟨List.prefix_append _ _, fun h => ⟨h, rfl⟩⟩⟩
  · simp [hs.atexit, Event.atexitOf]
  · simpa [Event.atexitOf] using hs.handlers
  · simpa using hs.optOut
  · simpa using hs.initOptOut
  · intro p m u hp
    rcases List.prefix_concat_iff.mp hp with h | h
    · obtain ⟨hp, hcb⟩ := List.append_inj' h rfl
      simp only [List.cons.injEq, Event.callback.injEq, and_true] at hcb
      rw [hp, hcb.1]
      exact hn
    · exact hs.callbacks p m u h
  · rw [termOpen_concat]
    exact hs.libterm
  · exact hs.flags.concat fun u hu => (Option.some.inj hu).symm.trans hs.libterm

/-- Neutral entries appended to the log. -/
theorem Sane.append {s : Lib} (hs : Sane b s) (new : List Event)
    (hnew : ∀ e ∈ new, e.neutral s.libterm = true) :
    Sane b { s with log := s.log ++ new } ∧ Grows s { s with log := s.log ++ new } :=
  hs.update new rfl hnew rfl rfl rfl fun _ hn => .inl hn

theorem Sane.opt_out {s : Lib} (hs : Sane b s) :
    Sane b { s with dontAtexit := true } ∧ Grows s { s with dontAtexit := true } :=
  ⟨⟨hs.atexit, hs.handlers, fun _ => rfl, fun _ => rfl, hs.nodes, hs.callbacks, hs.libterm,
    hs.flags⟩, ⟨List.prefix_refl _, fun _ => ⟨rfl, rfl⟩⟩⟩

/-- Before `H5_dont_atexit_g` is set the log shows no `atexit` registration. -/
theorem Sane.filterMap_nil {s : Lib} (hs : Sane b s) (hd : s.dontAtexit = false) :
    s.log.filterMap Event.atexitOf = [] := by
  refine hs.handlers.resolve_right fun h => absurd (hs.optOut ?_) (by simp [hd])
  obtain ⟨e, he, hae⟩ := List.mem_filterMap.mp (h ▸ List.mem_reverse.mp termLibrary_mem_atexitHandlers)
  cases e <;> simp only [Event.atexitOf, reduceCtorEq, Option.some.injEq] at hae
  exact hae ▸ he

theorem Sane.count_termLibrary {s : Lib} (hs : Sane b s) : s.log.count (.atexit .termLibrary) ≤ 1 := by
  rw [← count_filterMap_atexitOf]
  rcases hs.handlers with h | h <;> rw [h]
  · simp
  · unfold atexitHandlers
    split <;> decide

theorem Sane.initStart {env : Env} {s : Lib} (hs : Sane b s) :
    Sane b (initStart b env s) ∧ Grows s (initStart b env s) := by
  have hcb : ∀ n t, Event.callback n t ∉ Event.initBody :: ((versionCheck env s).out.map
      Event.version ++ (if s.dontAtexit then [] else (atexitHandlers b).map Event.atexit)) :=
    fun n t h => by rcases mem_initStart_log h with h | ⟨_, h⟩ | ⟨-, _, h⟩ <;> cases h
  have hfm : (s.log ++ Event.initBody :: ((versionCheck env s).out.map Event.version ++
      (if s.dontAtexit then [] else (atexitHandlers b).map Event.atexit))).filterMap
        Event.atexitOf = s.log.filterMap Event.atexitOf ++ if s.dontAtexit then [] else atexitHandlers b := by
    rw [List.filterMap_append, List.filterMap_cons_none rfl, List.filterMap_append,
      filterMap_atexitOf_version, List.nil_append]
    split <;> simp [List.filterMap_map, Function.comp_def, Event.atexitOf]
  rw [initStart_eq]
  refine ⟨⟨?_, ?_, fun _ => rfl, fun _ => rfl, fun n hn => List.mem_append_left _ (hs.nodes n hn),
    fun p n t hp => hs.callbacks p n t (prefix_concat_of_not_mem hp (hcb n t)), ?_, ?_⟩,
    ⟨List.prefix_append _ _, fun h => ⟨rfl, by simp [h]⟩⟩⟩
  · rw [hfm, List.reverse_append, hs.atexit]
    split <;> simp
  · rw [hfm]
    cases hd : s.dontAtexit
    · simp [hs.filterMap_nil hd]
    · simpa using hs.handlers
  · rw [termOpen_append fun e he => by
      rcases mem_initStart_log he with rfl | ⟨_, rfl⟩ | ⟨-, _, rfl⟩ <;> simp]
    exact hs.libterm
  · exact hs.flags.append_of_none fun e he => by
      rcases mem_initStart_log he with rfl | ⟨_, rfl⟩ | ⟨-, _, rfl⟩ <;> rfl

theorem termFinish_keeps (func : Bool) (r : Sweep Lib) (hs : Sane b r.world) :
    Sane b (termFinish b func r) ∧ Grows r.world (termFinish b func r) := by
  have hdone : Keeps b fun s =>
      { s with
        debug := { s.debug with openStream := [] }, libterm := false, libinit := false,
        log := s.log ++ [.termDone] } :=
    fun s hs => hs.term (.inr rfl) rfl rfl rfl rfl fun _ hn => hn
  -- the report of a loop that did not converge
  have hprint : Sane b { r.world with
        log := r.world.log ++ [.print "HDF5: infinite loop closing library\n".toList,
          .print ("      ".toList ++ cStr r.loop 0 loopSize ++ ['\n'])],
        aborted := !b.ndebug } ∧
      Grows r.world { r.world with
        log := r.world.log ++ [.print "HDF5: infinite loop closing library\n".toList,
          .print ("      ".toList ++ cStr r.loop 0 loopSize ++ ['\n'])],
        aborted := !b.ndebug } :=
    hs.update _ rfl (by simp [Event.neutral]) rfl rfl rfl fun _ hn => .inl hn
  unfold termFinish
  dsimp only
  split_ifs
  all_goals first
    | exact ⟨hs, .refl _⟩ | exact hdone _ hs | exact hprint | exact Keeps.then hprint hdone

theorem initFinish_keeps {env : Env} (r : Lib × Bool) (hs : Sane b r.1) :
    Sane b (initFinish env r).1 ∧ Grows r.1 (initFinish env r).1 := by
  unfold initFinish
  split
  · exact ⟨hs, .refl _⟩
  · split
    · exact hs.append [.initDone false] (by simp [Event.neutral])
    · dsimp only
      refine hs.update _ (List.append_assoc _ _ _) (fun e he => ?_) rfl rfl rfl fun _ hn => .inl hn
      simp only [List.mem_append, List.mem_map, List.mem_singleton] at he
      rcases he with ⟨_, _, rfl⟩ | rfl <;> rfl

theorem atcloseBody_keeps {env : Env} (func : Option Nat) (ctx : Nat) :
    Keeps b fun s => (atcloseBody env func ctx s).1 := by
  intro s hs
  cases func with
  | none => exact ⟨hs, .refl s⟩
  | some f =>
    simp only [atcloseBody]
    split
    · refine hs.update [.registered ⟨f, ctx⟩] rfl (by simp [Event.neutral]) rfl rfl rfl
        fun n hn => ?_
      rcases List.mem_cons.mp hn with rfl | hn
      · exact .inr (List.mem_singleton_self _)
      · exact .inl hn
    · exact ⟨hs, .refl s⟩

end Updates

/-! ### Every stage keeps `Sane` -/

section Stages

variable {b : Build} {env : Env} {run : Api → Lib → Lib × Bool}
  (hrun : ∀ c, Keeps b fun s => (run c s).1)
include hrun

theorem nested_keeps : ∀ cs, Keeps b (nested run cs)
  | [], s, hs => ⟨hs, .refl s⟩
  | c :: cs, s, hs => by
    unfold nested
    split
    · exact ⟨hs, .refl s⟩
    · exact Keeps.then (hrun c s hs) (nested_keeps cs)

theorem termPackage_keeps (x : Interface) : Keeps b fun s => (termPackage env run x s).2 := by
  intro s hs
  dsimp only [termPackage]
  split
  · exact ⟨hs, .refl s⟩
  · exact Keeps.then (hs.append [.hook x s.libterm] (by simp [Event.neutral])) (nested_keeps hrun _)

/-- The `atclose` loop keeps `Sane` from a state where every node it walks is registered. -/
theorem atcloseLoop_keeps : ∀ (ns : List Node) (s : Lib), Sane b s →
    (∀ n ∈ ns, .registered n ∈ s.log) →
      Sane b (atcloseLoop env run ns s) ∧ Grows s (atcloseLoop env run ns s)
  | [], s, hs, _ => ⟨hs, .refl s⟩
  | n :: ns, s, hs, hns => by
    unfold atcloseLoop
    split
    · exact ⟨hs, .refl s⟩
    · have h := Keeps.then (hs.callback (hns n (List.mem_cons_self _ _)))
        (nested_keeps hrun (env.callbackCalls (s.log ++ [.callback n s.libterm]) n))
      have h' := atcloseLoop_keeps ns _ h.1 fun m hm =>
        h.2.log.subset (hns m (List.mem_cons_of_mem _ hm))
      exact ⟨h'.1, h.2.trans h'.2⟩

theorem drainAtclose_keeps : Keeps b (drainAtclose env run) := by
  intro s hs
  unfold drainAtclose
  split
  · exact ⟨hs, .refl s⟩
  · have h₁ : Sane b { s with draining := true } ∧ Grows s { s with draining := true } :=
      hs.update [] (by simp) (by simp) rfl rfl rfl fun _ hn => .inl hn
    have h₂ := @atcloseLoop_keeps b env run hrun s.atclose _ h₁.1 hs.nodes
    have hclear : Keeps b fun t => { t with atclose := [], draining := false } :=
      fun t ht => ht.update [] (by simp) (by simp) rfl rfl rfl (by simp)
    exact Keeps.then ⟨h₂.1, h₁.2.trans h₂.2⟩ hclear

theorem closeLoop_keeps (nt : Nat) :
    Keeps b fun s => (closeLoop (termPackage env run) nt (Sweep.start s)).1.world := by
  intro s hs
  refine @closeLoop_induct _ (termPackage env run) (fun st => Sane b st.world ∧ Grows s st.world)
    (fun st h => @sweep_induct _ (termPackage env run) (fun st => Sane b st.world ∧ Grows s st.world)
      (fun x _ h' => Keeps.then h' (termPackage_keeps hrun x)) st h)
    nt _ ⟨hs, .refl s⟩

theorem termLibrary_keeps : Keeps b (termLibrary b env run) := by
  intro s hs
  unfold termLibrary
  split
  · exact ⟨hs, .refl s⟩
  split
  · exact hs.update [] (by simp) (by simp) rfl rfl rfl fun _ hn => .inl hn
  · have h : Sane b { s with libterm := true, log := s.log ++ [.termBody] } ∧
        Grows s { s with libterm := true, log := s.log ++ [.termBody] } :=
      hs.term (.inl rfl) rfl rfl rfl rfl fun _ hn => hn
    have h' := Keeps.then (Keeps.then h (@drainAtclose_keeps b env run hrun))
      (@closeLoop_keeps b env run hrun 0)
    exact ⟨(termFinish_keeps _ _ h'.1).1, h'.2.trans (termFinish_keeps _ _ h'.1).2⟩

theorem initInterfaces_keeps : ∀ xs, Keeps b fun s => (initInterfaces env run xs s).1
  | [], s, hs => ⟨hs, .refl s⟩
  | x :: xs, s, hs => by
    have h := nested_keeps hrun (env.initCalls s.log x) s hs
    unfold initInterfaces
    dsimp only
    split
    · exact h
    · have h' := Keeps.then h fun t ht => ht.append [.subInit x (env.initResult t.log x)]
        (by simp [Event.neutral])
      split
      · exact Keeps.then h' (initInterfaces_keeps xs)
      · exact h'

theorem initLibrary_keeps : Keeps b fun s => (initLibrary b env run s).1 := by
  intro s hs
  dsimp only [initLibrary]
  split
  · exact ⟨hs, .refl s⟩
  · have h := Keeps.then (@Sane.initStart b env s hs) (@initInterfaces_keeps b env run hrun Subsystem.order)
    exact ⟨(initFinish_keeps _ h.1).1, h.2.trans (initFinish_keeps _ h.1).2⟩

theorem funcEnterApi_keeps : Keeps b fun s => (funcEnterApi b env run s).1 := by
  intro s hs
  dsimp only [funcEnterApi]
  split
  · exact initLibrary_keeps hrun s hs
  · exact ⟨hs, .refl s⟩

theorem runHandlers_keeps : ∀ hs, Keeps b (runHandlers b env run hs)
  | [], s, h => ⟨h, .refl s⟩
  | .tsTermPackage :: hs, s, h => runHandlers_keeps hs s h
  | .termLibrary :: hs, s, h => by
    unfold runHandlers
    split
    · exact ⟨h, .refl s⟩
    · exact Keeps.then (termLibrary_keeps hrun s h) (runHandlers_keeps hs)

theorem apiCall_keeps (c : Api) : Keeps b fun s => (apiCall b env run c s).1 := by
  intro s hs
  cases c with
  | H5open | H5__init_package | H5api => exact @funcEnterApi_keeps b env run hrun s hs
  | H5close => exact @termLibrary_keeps b env run hrun s hs
  | H5_init_library => exact @initLibrary_keeps b env run hrun s hs
  | exit => exact @runHandlers_keeps b env run hrun s.atexit s hs
  | H5is_library_terminating => exact hs.append [.reported s.libterm] (by simp [Event.neutral])
  | H5dont_atexit =>
    simp only [apiCall]
    split
    · exact ⟨hs, .refl s⟩
    · exact hs.opt_out
  | H5atclose func ctx =>
    have h := @funcEnterApi_keeps b env run hrun s hs
    simp only [apiCall]
    split
    · exact h
    · exact Keeps.then h (atcloseBody_keeps func ctx)

end Stages

/-- **Every call keeps `Sane`**, at any depth of nesting, whatever the world calls back. -/
theorem exec_keeps (b : Build) (env : Env) : ∀ (depth : Nat) (c : Api),
    Keeps b fun s => (exec b env depth c s).1
  | 0, _, s, hs => hs.update [] (List.append_nil _).symm (by simp) rfl rfl rfl fun _ hn => .inl hn
  | depth + 1, c, s, hs => by
    dsimp only [exec]
    split
    · exact ⟨hs, .refl s⟩
    · exact apiCall_keeps (exec_keeps b env depth) c s hs

theorem runCalls_keeps (b : Build) (env : Env) (depth : Nat) :
    ∀ cs, Keeps b (runCalls b env depth cs)
  | [], s, hs => ⟨hs, .refl s⟩
  | c :: cs, s, hs => Keeps.then (exec_keeps b env (depth + 1) c s hs) (runCalls_keeps b env depth cs)

/-! ### What every run shows -/

/-- **`H5_term_library` goes to `atexit` at most once** in every run, whatever the
callbacks, hooks and subsystem inits call back: the log shows at most one registration,
and the handlers `exit()` runs hold it at most once. -/
theorem runCalls_atexit_once (b : Build) (env : Env) (depth : Nat) (cs : List Api) :
    (runCalls b env depth cs Lib.init).log.count (.atexit .termLibrary) ≤ 1 ∧
      (runCalls b env depth cs Lib.init).atexit.count .termLibrary ≤ 1 := by
  have hs := (runCalls_keeps b env depth cs Lib.init sane_init).1
  refine ⟨hs.count_termLibrary, ?_⟩
  rw [hs.atexit, List.count_reverse, count_filterMap_atexitOf]
  exact hs.count_termLibrary

/-- **`exit()` runs `H5_term_library` first.** In every run, whatever the world calls back,
`atexit` holds no handler, or exactly those of one registration by `H5_init_library`,
newest first: `H5_term_library`, then, in a threadsafe build only, `H5TS_term_package`,
which the source pushes first so that it runs last. -/
theorem runCalls_atexit_lifo (b : Build) (env : Env) (depth : Nat) (cs : List Api) :
    (runCalls b env depth cs Lib.init).atexit = [] ∨
      (runCalls b env depth cs Lib.init).atexit =
        .termLibrary :: if b.threadsafe then [.tsTermPackage] else [] := by
  have hs := (runCalls_keeps b env depth cs Lib.init sane_init).1
  rw [hs.atexit]
  rcases hs.handlers with h | h <;> rw [h]
  · exact .inl rfl
  · right
    unfold atexitHandlers
    cases b.threadsafe <;> rfl

/-- **`H5dont_atexit` first: nothing goes to `atexit`**, in every run that starts with it,
whatever the world calls back. -/
theorem runCalls_dont_atexit_first (b : Build) (env : Env) (depth : Nat) (cs : List Api) :
    (runCalls b env depth (.H5dont_atexit :: cs) Lib.init).atexit = [] ∧
      ∀ h, .atexit h ∉ (runCalls b env depth (.H5dont_atexit :: cs) Lib.init).log := by
  have hk := runCalls_keeps b env depth cs { Lib.init with dontAtexit := true }
    sane_init.opt_out.1
  have hat : (runCalls b env depth cs { Lib.init with dontAtexit := true }).atexit = [] :=
    (hk.2.optOut rfl).2
  refine ⟨hat, fun h hm => ?_⟩
  have hnil := hk.1.atexit
  rw [hat, eq_comm, List.reverse_eq_nil_iff, List.filterMap_eq_nil_iff] at hnil
  exact absurd (hnil _ hm) (by simp [Event.atexitOf])

/-- A world whose first subsystem init, `H5E_init`, fails. -/
def Env.initFails : Env := { Env.idle with initResult := fun _ _ => false }

/-- **`H5dont_atexit` after the first initialisation fails**: once the body of
`H5_init_library` has run, in any run whatever the world calls back, `H5dont_atexit`
returns `FAIL` and changes nothing. -/
theorem runCalls_dont_atexit_late (b : Build) (env : Env) (depth : Nat) (cs : List Api)
    (h : .initBody ∈ (runCalls b env depth cs Lib.init).log) :
    exec b env (depth + 1) .H5dont_atexit (runCalls b env depth cs Lib.init) =
      (runCalls b env depth cs Lib.init, false) := by
  have hd := (runCalls_keeps b env depth cs Lib.init sane_init).1.initOptOut h
  cases ha : (runCalls b env depth cs Lib.init).aborted <;> simp [exec, apiCall, ha, hd]

theorem runCalls_dont_atexit_late_failed_init :
    .initBody ∈ (runCalls ⟨false, false⟩ Env.initFails 0 [.H5open] Lib.init).log ∧
      exec ⟨false, false⟩ Env.initFails 1 .H5dont_atexit
          (runCalls ⟨false, false⟩ Env.initFails 0 [.H5open] Lib.init) =
        (runCalls ⟨false, false⟩ Env.initFails 0 [.H5open] Lib.init, false) :=
  have h : .initBody ∈ (runCalls ⟨false, false⟩ Env.initFails 0 [.H5open] Lib.init).log := by
    decide
  ⟨h, runCalls_dont_atexit_late ⟨false, false⟩ Env.initFails 0 [.H5open] h⟩

/-- **Every `atclose` callback was registered first.** In every run, whatever the
callbacks call back, each callback entry of the log comes after a registration of its
node by `H5atclose`. A callback may register nodes of its own; one that calls `H5close`
ends the run there, since the body it begins frees the nodes the drain still walks. -/
theorem runCalls_callback_registered (b : Build) (env : Env) (depth : Nat) (cs : List Api)
    {p : List Event} {n : Node} {t : Bool}
    (h : p ++ [.callback n t] <+: (runCalls b env depth cs Lib.init).log) : .registered n ∈ p :=
  (runCalls_keeps b env depth cs Lib.init sane_init).1.callbacks p n t h

/-- After a failed `H5E_init` the library stays initialised, so `H5atclose` links its node
and `H5close` calls it. -/
theorem runCalls_callback_registered_failed_init :
    [.initBody, .atexit .termLibrary, .subInit .E false, .initDone false, .registered ⟨7, 0⟩,
        .termBody] ++ [.callback ⟨7, 0⟩ true] <+:
      (runCalls ⟨false, false⟩ Env.initFails 0 [.H5open, .H5atclose (some 7) 0, .H5close]
        Lib.init).log ∧
    Event.registered ⟨7, 0⟩ ∈ [.initBody, .atexit .termLibrary, .subInit .E false,
      .initDone false, .registered ⟨7, 0⟩, .termBody] := by
  have hrun := exec_keeps ⟨false, false⟩ Env.initFails 0
  have hs := (runCalls_keeps ⟨false, false⟩ Env.initFails 0 [.H5open, .H5atclose (some 7) 0]
    Lib.init sane_init).1
  set s := runCalls ⟨false, false⟩ Env.initFails 0 [.H5open, .H5atclose (some 7) 0] Lib.init
  -- the drain of `H5close` calls the callback; the shutdown loop only extends the log
  have h₁ : Sane ⟨false, false⟩ { s with libterm := true, log := s.log ++ [.termBody] } ∧
      Grows s { s with libterm := true, log := s.log ++ [.termBody] } :=
    hs.term (.inl rfl) rfl rfl rfl rfl fun _ hn => hn
  have h₂ := Keeps.then h₁ (@drainAtclose_keeps _ Env.initFails _ hrun)
  have h₃ := @closeLoop_keeps _ Env.initFails _ hrun 0 _ h₂.1
  have h₄ := @termFinish_keeps ⟨false, false⟩ (Env.initFails.autoFunc (s.log ++ [.termBody])) _ h₃.1
  have hpre : [.initBody, .atexit .termLibrary, .subInit .E false, .initDone false,
      .registered ⟨7, 0⟩, .termBody] ++ [.callback ⟨7, 0⟩ true] <+:
      (runCalls ⟨false, false⟩ Env.initFails 0 [.H5open, .H5atclose (some 7) 0, .H5close]
        Lib.init).log :=
    List.IsPrefix.trans ⟨[], by decide⟩ (h₃.2.log.trans h₄.2.log)
  exact ⟨hpre, runCalls_callback_registered ⟨false, false⟩ Env.initFails 0 _ hpre⟩

/-- **`H5_libterm_g` says whether a termination is open.** In every run, whatever the
world calls back, each `atclose` callback and `term_package` hook is entered with, and each
call of `H5is_library_terminating` answers, `TRUE` exactly when the log before it shows a
body of `H5_term_library` begun and no body finished since: a nested `H5close` that
finishes clears the flag for the rest of the outer body. -/
theorem runCalls_terminating_flag (b : Build) (env : Env) (depth : Nat) (cs : List Api)
    {p : List Event} {e : Event} {t : Bool}
    (h : p ++ [e] <+: (runCalls b env depth cs Lib.init).log) (he : e.flag = some t) :
    t = termOpen p :=
  (runCalls_keeps b env depth cs Lib.init sane_init).1.flags p e t h he

/-- After a failed `H5E_init`, `H5is_library_terminating` answers `FALSE`: no body of
`H5_term_library` has begun. -/
theorem runCalls_terminating_flag_failed_init :
    [.initBody, .atexit .termLibrary, .subInit .E false, .initDone false] ++ [.reported false] <+:
      (runCalls ⟨false, false⟩ Env.initFails 0 [.H5open, .H5is_library_terminating] Lib.init).log ∧
    Event.flag (.reported false) = some false ∧
    false = termOpen [.initBody, .atexit .termLibrary, .subInit .E false, .initDone false] :=
  have h : [.initBody, .atexit .termLibrary, .subInit .E false, .initDone false] ++
      [.reported false] <+:
      (runCalls ⟨false, false⟩ Env.initFails 0 [.H5open, .H5is_library_terminating] Lib.init).log :=
    ⟨[], by decide⟩
  ⟨h, rfl, runCalls_terminating_flag ⟨false, false⟩ Env.initFails 0 _ h rfl⟩

/-! ### `H5_libterm_g` between calls -/

/-- `H5_libterm_g` is clear, or the process has aborted. -/
def Lib.Clear (s : Lib) : Prop := s.libterm = false ∨ s.aborted = true

/-- `f` leaves `H5_libterm_g` clear, or aborts, when it finds it clear. -/
def KeepsClear (f : Lib → Lib) : Prop := ∀ s, s.Clear → (f s).Clear

/-- `H5_term_library` ends with `H5_libterm_g` clear, unless it aborts. -/
theorem termFinish_clear {b : Build} (func : Bool) (r : Sweep Lib) : (termFinish b func r).Clear := by
  unfold termFinish
  dsimp only
  split_ifs with h₁ h₂ h₃ <;> first | exact .inr ‹_› | exact .inl rfl

theorem termLibrary_clear {b : Build} {env : Env} {run : Api → Lib → Lib × Bool} :
    KeepsClear (termLibrary b env run) := by
  intro s h
  unfold termLibrary
  split
  · exact h
  split
  · exact .inr rfl
  · exact termFinish_clear _ _

theorem runHandlers_clear {b : Build} {env : Env} {run : Api → Lib → Lib × Bool} :
    ∀ hs, KeepsClear (runHandlers b env run hs)
  | [], _, h => h
  | .tsTermPackage :: hs, s, h => runHandlers_clear hs s h
  | .termLibrary :: hs, s, h => by
    unfold runHandlers
    split
    · exact h
    · exact runHandlers_clear hs _ (termLibrary_clear s h)

section Clear

variable {b : Build} {env : Env} {run : Api → Lib → Lib × Bool}
  (hrun : ∀ c, KeepsClear fun s => (run c s).1)
include hrun

theorem nested_clear : ∀ cs, KeepsClear (nested run cs)
  | [], _, h => h
  | c :: cs, s, h => by
    unfold nested
    split
    · exact h
    · exact nested_clear cs _ (hrun c s h)

theorem initInterfaces_clear : ∀ xs, KeepsClear fun s => (initInterfaces env run xs s).1
  | [], _, h => h
  | x :: xs, s, h => by
    have h' := nested_clear hrun (env.initCalls s.log x) s h
    unfold initInterfaces
    dsimp only
    split
    · exact h'
    · split
      · exact initInterfaces_clear xs _ h'
      · exact h'

theorem initLibrary_clear : KeepsClear fun s => (initLibrary b env run s).1 := by
  intro s h
  dsimp only [initLibrary]
  split
  · exact h
  · have h' := @initInterfaces_clear env run hrun Subsystem.order (initStart b env s)
      (by rw [initStart_eq]; exact h)
    unfold initFinish
    split <;> (try split) <;> exact h'

theorem funcEnterApi_clear : KeepsClear fun s => (funcEnterApi b env run s).1 := by
  intro s h
  dsimp only [funcEnterApi]
  split
  · exact initLibrary_clear hrun s h
  · exact h

theorem apiCall_clear (c : Api) : KeepsClear fun s => (apiCall b env run c s).1 := by
  intro s h
  cases c with
  | H5open | H5__init_package | H5api => exact @funcEnterApi_clear b env run hrun s h
  | H5close => exact termLibrary_clear s h
  | H5_init_library => exact initLibrary_clear hrun s h
  | exit => exact @runHandlers_clear b env run s.atexit s h
  | H5is_library_terminating => exact h
  | H5dont_atexit =>
    simp only [apiCall]
    split <;> exact h
  | H5atclose func ctx =>
    have h' := @funcEnterApi_clear b env run hrun s h
    simp only [apiCall]
    split
    · exact h'
    · unfold atcloseBody
      split <;> (try split) <;> exact h'

end Clear

theorem exec_clear (b : Build) (env : Env) : ∀ (depth : Nat) (c : Api),
    KeepsClear fun s => (exec b env depth c s).1
  | 0, _, _, _ => .inr rfl
  | depth + 1, c, s, h => by
    dsimp only [exec]
    split
    · exact h
    · exact apiCall_clear (exec_clear b env depth) c s h

/-- **`H5_libterm_g` is clear between calls**, in every run whatever the world calls back,
unless the process aborted: the application outside any callback always finds the
library not terminating. -/
theorem runCalls_libterm_clear (b : Build) (env : Env) (depth : Nat) (cs : List Api) :
    (runCalls b env depth cs Lib.init).libterm = false ∨
      (runCalls b env depth cs Lib.init).aborted = true := by
  suffices ∀ cs s, s.Clear → (runCalls b env depth cs s).Clear from this cs Lib.init (.inl rfl)
  intro cs
  induction cs with
  | nil => exact fun _ h => h
  | cons c cs ih => exact fun s h => ih _ (exec_clear b env (depth + 1) c s h)

end H5Lifecycle
