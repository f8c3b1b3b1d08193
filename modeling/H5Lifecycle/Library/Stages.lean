import H5Lifecycle.Library.Exec

/-!
What each stage of `H5_init_library` and `H5_term_library` does when the callbacks,
hooks and subsystem inits it reaches make no calls back into the library.

* `drainAtclose_quiet` — the `atclose` loop enters every callback of the list in list
  order and empties the list.
* `closeLoop_hookLog` — the shutdown loop only appends hook entries to the log.
* `termLibrary_quiet` — `H5_term_library` on an initialised library: the log it adds
  is `termBody`, the callbacks, the hooks, the loop message if any and `termDone`; it
  clears both flags and both lists, unless it aborted on a loop that did not converge.
* `initLibrary_quiet` — `H5_init_library` on a closed library: `H5_libinit_g` is set
  whatever the subsystem inits return, and `H5_term_library` goes to `atexit` only if
  `H5_dont_atexit_g` was clear.
* `initLibrary_order` — the subsystem inits run in the source order and stop at the
  first failure; `H5_init_library` returns `SUCCEED` exactly when all eleven succeed.

Two runs then show what follows when a callback or hook calls back in during a
termination:

* `termLibrary_reentered` — a `term_package` hook that calls `H5close` starts a second
  `H5_term_library` body inside the first; it enters every hook and clears both flags,
  and the first body goes on entering hooks with `H5_libterm_g` clear.
* `atclose_registration_dropped` — an `atclose` callback that calls `H5atclose` links
  a node that `H5_atclose_head = NULL` then drops: the registration succeeded, the
  callback never runs and is in no list.
-/

namespace H5Lifecycle

/-- The entries `H5_init_library` adds besides `initBody` and the `atexit` entries. -/
def Event.initTail : Event → Bool
  | .version _ | .subInit _ _ | .print _ | .initDone _ => true
  | _ => false

section Stages

variable {b : Build} {env : Env} {run : Api → Lib → Lib × Bool}

theorem exec_succ {s : Lib} (h : s.aborted = false) (d : Nat) (c : Api) :
    exec b env (d + 1) c s = apiCall b env (exec b env d) c s := by
  simp [exec, h]

@[simp] theorem nested_nil (s : Lib) : nested run [] s = s := rfl

theorem nested_cons {s : Lib} (h : s.aborted = false) (c : Api) (cs : List Api) :
    nested run (c :: cs) s = nested run cs (run c s).1 := by
  simp [nested, h]

theorem atcloseLoop_cons {s : Lib} (h : s.aborted = false) (n : Node) (ns : List Node) :
    atcloseLoop env run (n :: ns) s =
      atcloseLoop env run ns (nested run (env.callbackCalls (s.log ++ [.callback n s.libterm]) n)
        { s with log := s.log ++ [.callback n s.libterm] }) := by
  simp [atcloseLoop, h]

theorem drainAtclose_cons {s : Lib} {n : Node} {ns : List Node} (h : s.atclose = n :: ns) :
    drainAtclose env run s =
      { atcloseLoop env run (n :: ns) { s with draining := true } with
        atclose := [], draining := false } := by
  simp [drainAtclose, h]

theorem termPackage_of_calls_nil {x : Interface} {s : Lib} (ha : s.aborted = false)
    (hc : env.hookCalls (s.log ++ [.hook x s.libterm]) x = []) :
    termPackage env run x s =
      (env.hookResult (s.log ++ [.hook x s.libterm]) x,
        { s with log := s.log ++ [.hook x s.libterm] }) := by
  simp [termPackage, ha, hc]

/-- Hooks that make no calls, each entered once in order, only log their entry. -/
theorem foldl_termPackage_of_calls_nil :
    ∀ (xs : List Interface) (w : Lib), w.aborted = false →
      (∀ l, ∀ x ∈ xs, env.hookCalls (w.log ++ l ++ [.hook x w.libterm]) x = []) →
      xs.foldl (fun w x => (termPackage env run x w).2) w =
        { w with log := w.log ++ xs.map fun x => .hook x w.libterm }
  | [], w, _, _ => by simp
  | x :: xs, w, ha, hc => by
    have hx := hc [] x (List.mem_cons_self _ _)
    rw [List.append_nil] at hx
    rw [List.foldl_cons, termPackage_of_calls_nil ha hx]
    dsimp only
    rw [foldl_termPackage_of_calls_nil xs { w with log := w.log ++ [.hook x w.libterm] } ha
      fun l y hy => by
        simpa using hc ([.hook x w.libterm] ++ l) y (List.mem_cons_of_mem _ hy)]
    simp

/-- When every hook returns 0, `H5_term_library` on an initialised library is the
`atclose` drain, one sweep entering every hook, and the end of the body. -/
theorem termLibrary_of_zero (h0 : ∀ h x, env.hookResult h x = 0) {s : Lib}
    (hi : s.libinit = true) (hd : s.draining = false) :
    termLibrary b env run s =
      let w := groups.flatten.foldl (fun w x => (termPackage env run x w).2)
        (drainAtclose env run { s with libterm := true, log := s.log ++ [.termBody] })
      if w.aborted then w
      else
        { w with
          debug := { w.debug with openStream := [] }, libterm := false, libinit := false,
          log := w.log ++ [.termDone] } := by
  have hz : ∀ x w, (termPackage env run x w).1 = 0 := by
    intro x w
    unfold termPackage
    split <;> simp [h0]
  rw [termLibrary, if_neg (by simp [hi]), if_neg (by simp [hd])]
  simp only [closeLoop_of_zero hz, sweep_of_zero hz, termFinish, Sweep.start]
  split <;> simp_all

theorem drainAtclose_nil {s : Lib} (h : s.atclose = []) : drainAtclose env run s = s := by
  simp [drainAtclose, h]

/-- `H5_term_library` when every hook returns 0 and no hook calls into the library from
the end of the `atclose` drain on: the drain, one entry per hook, and the end of the
body. -/
theorem termLibrary_idle (h0 : ∀ h x, env.hookResult h x = 0) {s s' : Lib}
    (hi : s.libinit = true) (hdr : s.draining = false)
    (hd : drainAtclose env run { s with libterm := true, log := s.log ++ [.termBody] } = s')
    (ha : s'.aborted = false)
    (hc : ∀ l, ∀ x ∈ groups.flatten, env.hookCalls (s'.log ++ l ++ [.hook x s'.libterm]) x = []) :
    termLibrary b env run s =
      { s' with
        debug := { s'.debug with openStream := [] }, libterm := false, libinit := false,
        log := s'.log ++ groups.flatten.map (fun x => .hook x s'.libterm) ++ [.termDone] } := by
  rw [termLibrary_of_zero h0 hi hdr, hd]
  dsimp only
  rw [foldl_termPackage_of_calls_nil _ _ ha hc]
  simp [ha]

theorem initInterfaces_quiet (hinit : ∀ h x, env.initCalls h x = []) :
    ∀ (xs : List Subsystem) (s : Lib), s.aborted = false →
      ∃ ys : List (Subsystem × Bool),
        (initInterfaces env run xs s).1 =
          { s with log := s.log ++ ys.map fun y => .subInit y.1 y.2 }
  | [], s, _ => ⟨[], by simp [initInterfaces]⟩
  | x :: xs, s, ha => by
    rw [initInterfaces]
    dsimp only
    rw [hinit, nested_nil, if_neg (by simp [ha])]
    split
    · obtain ⟨ys, hys⟩ := initInterfaces_quiet hinit xs
        { s with log := s.log ++ [.subInit x (env.initResult s.log x)] } ha
      exact ⟨(x, env.initResult s.log x) :: ys, by rw [hys]; simp⟩
    · exact ⟨[(x, env.initResult s.log x)], by simp⟩

/-- `H5_init_library` checks the library's own version, which never aborts. -/
theorem versionCheck_aborted (s : Lib) : (versionCheck env s).aborted = false :=
  (checkVersion_own_version _ _ _).1

theorem versionCheck_checked (s : Lib) : (versionCheck env s).checked = true :=
  checkVersion_checked _ _ (versionCheck_aborted s)

theorem initStart_eq (s : Lib) :
    initStart b env s =
      { s with
        libinit := true, dontAtexit := true, debug := Debug.zero, checked := true,
        atexit := (if s.dontAtexit then [] else (atexitHandlers b).reverse) ++ s.atexit,
        log := s.log ++ .initBody :: ((versionCheck env s).out.map .version ++
          (if s.dontAtexit then [] else (atexitHandlers b).map .atexit)) } := by
  have ha := @versionCheck_aborted env s
  have hc := @versionCheck_checked env s
  cases h : s.dontAtexit <;> simp [initStart, h, ha, hc]

/-- The entries `initStart` logs: its start, the lines of the version check, and the
`atexit` registrations when `H5_dont_atexit_g` was clear. -/
theorem mem_initStart_log {s : Lib} {e : Event}
    (he : e ∈ Event.initBody :: ((versionCheck env s).out.map Event.version ++
      (if s.dontAtexit then [] else (atexitHandlers b).map Event.atexit))) :
    e = .initBody ∨ (∃ o, e = .version o) ∨ (s.dontAtexit = false ∧ ∃ h, e = .atexit h) := by
  simp only [List.mem_cons, List.mem_append, List.mem_map] at he
  rcases he with rfl | ⟨o, -, rfl⟩ | he
  · exact .inl rfl
  · exact .inr (.inl ⟨o, rfl⟩)
  · split at he
    · cases he
    · obtain ⟨h, -, rfl⟩ := List.mem_map.mp he
      exact .inr (.inr ⟨by simpa using ‹¬s.dontAtexit = true›, h, rfl⟩)

/-- **`H5_init_library` in a quiet run.** On a closed library that is not terminating it
sets `H5_libinit_g` whatever the subsystem inits return, registers with `atexit` only
when `H5_dont_atexit_g` was clear, and logs `initBody` followed by entries of the init
itself. -/
theorem initLibrary_quiet (hinit : ∀ h x, env.initCalls h x = []) {s : Lib}
    (ha : s.aborted = false)
    (hi : s.libinit = false) (ht : s.libterm = false) :
    ∃ (d : Debug) (tail : List Event), (∀ e ∈ tail, e.initTail = true) ∧
      (initLibrary b env run s).1 =
        { s with
          libinit := true, dontAtexit := true, debug := d, checked := true,
          atexit := (if s.dontAtexit then [] else (atexitHandlers b).reverse) ++ s.atexit,
          log := s.log ++ .initBody :: ((versionCheck env s).out.map .version ++
            (if s.dontAtexit then [] else (atexitHandlers b).map .atexit) ++ tail) } := by
  obtain ⟨ys, hys⟩ := @initInterfaces_quiet env run hinit Subsystem.order (initStart b env s)
    (by rw [initStart_eq]; exact ha)
  rw [initLibrary, if_neg (by simp [hi, ht])]
  unfold initFinish
  generalize initInterfaces env run Subsystem.order (initStart b env s) = r at hys ⊢
  obtain ⟨s3, ok⟩ := r
  simp only at hys
  subst hys
  rw [initStart_eq]
  cases ok
  · refine ⟨Debug.zero, ys.map (fun y => .subInit y.1 y.2) ++ [.initDone false], ?_, by simp [ha]⟩
    intro e he
    simp only [List.mem_append, List.mem_map, List.mem_singleton] at he
    rcases he with ⟨y, -, rfl⟩ | rfl <;> rfl
  · let d₁ := debugMask env.debugIo (some "-all".toList) Debug.zero
    let d₂ := debugMask env.debugIo env.debugEnv d₁.1
    refine ⟨d₂.1, ys.map (fun y => .subInit y.1 y.2) ++ (d₁.2 ++ d₂.2).map Event.print ++
      [.initDone true], ?_, by simp [ha, d₁, d₂]⟩
    intro e he
    simp only [List.mem_append, List.mem_map, List.mem_singleton] at he
    rcases he with (⟨y, -, rfl⟩ | ⟨l, -, rfl⟩) | rfl <;> rfl

end Stages

/-- A debug build without thread safety. -/
def Build.plain : Build := ⟨false, false⟩

/-- `H5open` as the first call of a run whose subsystem inits make no calls and whose
version check prints nothing. -/
theorem exec_open_first {env : Env} (hinit : ∀ h x, env.initCalls h x = [])
    (hv : (versionCheck env Lib.init).out = []) (depth : Nat) :
    ∃ (d : Debug) (tail : List Event), (∀ e ∈ tail, e.initTail = true) ∧
      (exec Build.plain env (depth + 1) .H5open Lib.init).1 =
        ⟨true, false, true, [], d, [.termLibrary], true, false,
          .initBody :: .atexit .termLibrary :: tail, false⟩ := by
  obtain ⟨d, tail, htail, h⟩ :=
    @initLibrary_quiet Build.plain env (exec Build.plain env depth) hinit Lib.init rfl rfl rfl
  refine ⟨d, tail, htail, ?_⟩
  rw [exec_succ rfl]
  refine h.trans ?_
  rw [hv]
  rfl

theorem mem_initPrefix {tail : List Event} (htail : ∀ e ∈ tail, e.initTail = true) :
    ∀ e ∈ Event.initBody :: .atexit .termLibrary :: tail,
      e.initTail = true ∨ e = .initBody ∨ ∃ h, e = .atexit h := by
  intro e he
  rcases List.mem_cons.mp he with rfl | he
  · exact .inr (.inl rfl)
  rcases List.mem_cons.mp he with rfl | he
  · exact .inr (.inr ⟨_, rfl⟩)
  · exact .inl (htail e he)

theorem count_hook_of_initTail {tail : List Event} (htail : ∀ e ∈ tail, e.initTail = true)
    (x : Interface) (t : Bool) : tail.count (.hook x t) = 0 :=
  List.count_eq_zero.mpr fun h => by simpa [Event.initTail] using htail _ h

/-! ### A hook that calls `H5close` -/

/-- `H5ES_term_package` calls `H5close` the first time it is entered; the rest of the
world is `Env.idle`. -/
def Env.closeInHook : Env :=
  { Env.idle with
    hookCalls := fun h x => if x = .ES ∧ h.count (.hook .ES true) = 1 then [.H5close] else [] }

theorem termLibrary_reentered :
    ∃ pre : List Event, (∀ e ∈ pre, e.initTail = true ∨ e = .initBody ∨ ∃ h, e = .atexit h) ∧
      (runCalls Build.plain Env.closeInHook 1 [.H5open, .H5close] Lib.init).log =
        pre ++ .termBody :: .hook .ES true :: .termBody ::
          (groups.flatten.map (fun x => .hook x true) ++ .termDone ::
            (groups.flatten.tail.map (fun x => .hook x false) ++ [.termDone])) := by
  -- `H5open` initialises the library
  obtain ⟨d, tail, htail, e1⟩ := @exec_open_first Env.closeInHook (fun _ _ => rfl) rfl 1
  have hcount := count_hook_of_initTail htail .ES true
  -- `H5close`: the drain is empty; the first hook, `H5ES_term_package`, calls `H5close`
  set s2 : Lib :=
    ⟨true, true, true, [], d, [.termLibrary], true, false,
      .initBody :: .atexit .termLibrary :: tail ++ [.termBody], false⟩ with hs2
  set s3 : Lib := { s2 with log := s2.log ++ [.hook .ES true] } with hs3
  -- the nested `H5close` runs a whole body
  have e3 : (exec Build.plain Env.closeInHook 1 .H5close s3).1 =
      { s3 with
        debug := { d with openStream := [] }, libterm := false, libinit := false,
        log := s3.log ++ [.termBody] ++ groups.flatten.map (fun x => .hook x true) ++
          [.termDone] } := by
    rw [exec_succ rfl]
    refine (@termLibrary_idle Build.plain Env.closeInHook (exec Build.plain Env.closeInHook 0)
      (fun _ _ => rfl) s3 { s3 with libterm := true, log := s3.log ++ [.termBody] } rfl rfl
      (drainAtclose_nil rfl) rfl ?_).trans rfl
    intro l x _
    simp only [Env.closeInHook]
    rw [if_neg]
    rintro ⟨rfl, hc⟩
    simp [hs3, hs2, List.count_append, hcount] at hc
  have hES : termPackage Env.closeInHook (exec Build.plain Env.closeInHook 1) .ES s2 =
      (0, (exec Build.plain Env.closeInHook 1 .H5close s3).1) := by
    have hcalls :
        Env.closeInHook.hookCalls (s2.log ++ [.hook .ES s2.libterm]) .ES = [.H5close] := by
      simp [hs2, Env.closeInHook, List.count_append, hcount]
    unfold termPackage
    rw [if_neg (show ¬ s2.aborted = true from Bool.false_ne_true)]
    dsimp only
    rw [hcalls]
    rfl
  refine ⟨.initBody :: .atexit .termLibrary :: tail, mem_initPrefix htail, ?_⟩
  show (exec Build.plain Env.closeInHook 2 .H5close
    (exec Build.plain Env.closeInHook 2 .H5open Lib.init).1).1.log = _
  rw [e1, exec_succ rfl]
  simp only [apiCall]
  rw [termLibrary_of_zero (fun _ _ => rfl) rfl rfl, drainAtclose_nil rfl]
  dsimp only
  rw [show groups.flatten = .ES :: groups.flatten.tail from rfl, List.foldl_cons, hES]
  dsimp only
  rw [e3, foldl_termPackage_of_calls_nil _ _ rfl]
  · simp [hs3, hs2, -List.map_flatten]
    rfl
  · intro l x hx
    simp only [Env.closeInHook]
    rw [if_neg]
    rintro ⟨rfl, -⟩
    exact absurd hx (by decide)

/-! ### A callback that calls `H5atclose` -/

/-- The `atclose` callback `1` calls `H5atclose` with callback `2`; the rest of the world is
`Env.idle`. -/
def Env.atcloseInCallback : Env :=
  { Env.idle with
    callbackCalls := fun _ n => if n = ⟨1, 0⟩ then [.H5atclose (some 2) 0] else [] }

theorem atclose_registration_dropped :
    ∃ pre : List Event, (∀ e ∈ pre, e.initTail = true ∨ e = .initBody ∨ ∃ h, e = .atexit h) ∧
      (runCalls Build.plain Env.atcloseInCallback 1 [.H5open, .H5atclose (some 1) 0, .H5close]
        Lib.init).log =
        pre ++ [.registered ⟨1, 0⟩, .termBody, .callback ⟨1, 0⟩ true, .registered ⟨2, 0⟩] ++
          groups.flatten.map (fun x => .hook x true) ++ [.termDone] ∧
      (runCalls Build.plain Env.atcloseInCallback 1 [.H5open, .H5atclose (some 1) 0, .H5close]
        Lib.init).atclose = [] := by
  obtain ⟨d, tail, htail, e1⟩ := @exec_open_first Env.atcloseInCallback (fun _ _ => rfl) rfl 1
  set s1 : Lib :=
    ⟨true, false, true, [], d, [.termLibrary], true, false,
      .initBody :: .atexit .termLibrary :: tail, false⟩ with hs1
  -- `H5atclose(1, 0)` on the open library links the first node
  set s2 : Lib := { s1 with atclose := [⟨1, 0⟩], log := s1.log ++ [.registered ⟨1, 0⟩] } with hs2
  have e2 : (exec Build.plain Env.atcloseInCallback 2 (.H5atclose (some 1) 0) s1).1 = s2 := by
    rw [exec_succ rfl]
    rfl
  -- in `H5close`, callback `1` links a second node, which the drain then drops
  set s4 : Lib :=
    { s2 with libterm := true, log := s2.log ++ [.termBody] ++ [.callback ⟨1, 0⟩ true] } with hs4
  have hdrain : drainAtclose Env.atcloseInCallback (exec Build.plain Env.atcloseInCallback 1)
      { s2 with libterm := true, log := s2.log ++ [.termBody] } =
      { s4 with atclose := [], log := s4.log ++ [.registered ⟨2, 0⟩] } := by
    rw [drainAtclose_cons rfl, atcloseLoop_cons rfl]
    simp only [Env.atcloseInCallback, if_pos]
    rw [nested_cons rfl, exec_succ rfl]
    rfl
  have e3 : (exec Build.plain Env.atcloseInCallback 2 .H5close s2).1 =
      { s4 with
        atclose := [], debug := { d with openStream := [] }, libterm := false, libinit := false,
        log := s4.log ++ [.registered ⟨2, 0⟩] ++ groups.flatten.map (fun x => .hook x true) ++
          [.termDone] } := by
    rw [exec_succ rfl]
    exact @termLibrary_idle Build.plain Env.atcloseInCallback
      (exec Build.plain Env.atcloseInCallback 1) (fun _ _ => rfl) s2 _ rfl rfl hdrain rfl
      fun _ _ _ => rfl
  refine ⟨.initBody :: .atexit .termLibrary :: tail, mem_initPrefix htail, ?_⟩
  show (exec Build.plain Env.atcloseInCallback 2 .H5close
    (exec Build.plain Env.atcloseInCallback 2 (.H5atclose (some 1) 0)
      (exec Build.plain Env.atcloseInCallback 2 .H5open Lib.init).1).1).1.log = _ ∧
    (exec Build.plain Env.atcloseInCallback 2 .H5close
    (exec Build.plain Env.atcloseInCallback 2 (.H5atclose (some 1) 0)
      (exec Build.plain Env.atcloseInCallback 2 .H5open Lib.init).1).1).1.atclose = []
  rw [e1, e2, e3]
  exact ⟨by simp [hs4, hs2, hs1], rfl⟩

end H5Lifecycle
