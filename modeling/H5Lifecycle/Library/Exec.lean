import H5Lifecycle.Library.State
import H5Lifecycle.Shutdown.Loop

/-!
The lifecycle functions of `src/H5.c` as an interpreter of API calls.

`exec depth c s` runs the call `c` on the globals `s`. The functions it reaches
(`H5_init_library`, `H5_term_library`, `H5atclose`, ...) are written against a
parameter `run` that makes the nested calls of a callback or hook; `exec` passes
itself one level down, so `depth` bounds how deep callbacks may nest, and running
out of it aborts the run like a stack overflow would. `H5_term_library` runs the
shutdown loop `closeLoop` of `Shutdown/Loop` with the globals as the world the
hooks act on, and `H5_init_library` runs `H5_check_version` of `Version/Check`.

A body of `H5_term_library` that begins inside an `atclose` callback is undefined
behaviour in `H5.c`: the loop that called the callback has freed the nodes before it,
which `H5_atclose_head` still points at, and the new body frees the node the loop
reads `next` from when the callback returns. The run ends there.

`FUNC_ENTER_API` and its variants live in `H5private.h`, which is not part of the
source; they are modelled as the spec describes them: an entry point that
initialises calls `H5_init_library` unless the library is initialised or
terminating, and fails if that fails. The API lock is a no-op for one thread.
-/

namespace H5Lifecycle

section Stages

variable (b : Build) (env : Env) (run : Api → Lib → Lib × Bool)

/-- The calls a callback or hook makes, one after the other; an `abort()` ends them. -/
def nested : List Api → Lib → Lib
  | [], s => s
  | c :: cs, s => if s.aborted then s else nested cs (run c s).1

/-- `H5<F>_term_package()` as `DOWN(F)` calls it: the hook is entered, makes its calls,
and returns its result. -/
def termPackage (x : Interface) (s : Lib) : Int × Lib :=
  if s.aborted then (0, s)
  else
    let s := { s with log := s.log ++ [.hook x s.libterm] }
    let s := nested run (env.hookCalls s.log x) s
    (env.hookResult s.log x, s)

/-- The `while (curr_atclose)` loop of `H5_term_library`: each callback with its `ctx`,
from the node the loop is at; the loop follows the `next` links as they were when
it started. -/
def atcloseLoop : List Node → Lib → Lib
  | [], s => s
  | n :: ns, s =>
    if s.aborted then s
    else
      let s := { s with log := s.log ++ [.callback n s.libterm] }
      atcloseLoop ns (nested run (env.callbackCalls s.log n) s)

/-- `if (H5_atclose_head) { ...; H5_atclose_head = NULL; }`, with `draining` set while
the loop runs. -/
def drainAtclose (s : Lib) : Lib :=
  match s.atclose with
  | [] => s
  | nodes =>
    { atcloseLoop env run nodes { s with draining := true } with atclose := [], draining := false }

/-- What `H5_term_library` does after the `do ... while` loop, `func` being what
`H5E_get_default_auto_func` handed back: report a loop that did not converge (and
`abort()` unless `NDEBUG`), close the debug streams, clear both flags. -/
def termFinish (func : Bool) (r : Sweep Lib) : Lib :=
  let s := r.world
  if s.aborted then s
  else
    let s := if r.pending ≠ 0 ∧ func then
        { s with
          log := s.log ++ [.print "HDF5: infinite loop closing library\n".toList,
            .print ("      ".toList ++ cStr r.loop 0 loopSize ++ ['\n'])],
          aborted := !b.ndebug }
      else s
    if s.aborted then s
    else
      { s with
        debug := { s.debug with openStream := [] }, libterm := false, libinit := false,
        log := s.log ++ [.termDone] }

/-- `H5_term_library`; a body that would begin inside an `atclose` callback ends the run
as undefined behaviour. `H5E_get_default_auto_func` is read once `H5_libterm_g` is set. -/
def termLibrary (s : Lib) : Lib :=
  if !s.libinit then s
  else if s.draining then { s with aborted := true }
  else
    let s := { s with libterm := true, log := s.log ++ [.termBody] }
    termFinish b (env.autoFunc s.log)
      (closeLoop (termPackage env run) 0 (Sweep.start (drainAtclose env run s))).1

/-- The subsystem inits of `H5_init_library`, stopping at the first that fails. -/
def initInterfaces : List Subsystem → Lib → Lib × Bool
  | [], s => (s, true)
  | x :: xs, s =>
    let s := nested run (env.initCalls s.log x) s
    if s.aborted then (s, false)
    else
      let ok := env.initResult s.log x
      let s := { s with log := s.log ++ [.subInit x ok] }
      if ok then initInterfaces xs s else (s, false)

/-- The handlers `H5_init_library` registers with `atexit`, in the order it registers them. -/
def atexitHandlers : List Handler :=
  if b.threadsafe then [.tsTermPackage, .termLibrary] else [.termLibrary]

/-- `H5_check_version(H5_VERS_MAJOR, H5_VERS_MINOR, H5_VERS_RELEASE)` as
`H5_init_library` calls it. Of the statics of `H5_check_version` only `checked` is read
again once a call has returned; before that `disable_version_check` is still 0. -/
def versionCheck (s : Lib) : VersionState :=
  checkVersion env.version ⟨env.versionEnv, env.version.major, env.version.minor, env.version.release⟩
    ⟨s.checked, 0, [], false⟩

/-- The start of the body of `H5_init_library`: the version check, `H5_INIT_GLOBAL = true`,
the `memset` of `H5_debug_g`, and the `atexit` registration unless `H5_dont_atexit_g` is
set, which it then sets. -/
def initStart (s : Lib) : Lib :=
  let v := versionCheck env s
  let s := { s with checked := v.checked, log := s.log ++ Event.initBody :: v.out.map Event.version }
  if v.aborted then { s with aborted := true }
  else
    let s := { s with libinit := true, debug := Debug.zero }
    if s.dontAtexit then s
    else
      { s with
        atexit := (atexitHandlers b).reverse ++ s.atexit, dontAtexit := true,
        log := s.log ++ (atexitHandlers b).map Event.atexit }

/-- The end of `H5_init_library` after the subsystem inits: on a failure, `done` with
`FAIL`; else the two `H5__debug_mask` calls. -/
def initFinish (r : Lib × Bool) : Lib × Bool :=
  if r.1.aborted then r
  else if !r.2 then ({ r.1 with log := r.1.log ++ [.initDone false] }, false)
  else
    let d₁ := debugMask env.debugIo (some "-all".toList) r.1.debug
    let d₂ := debugMask env.debugIo env.debugEnv d₁.1
    ({ r.1 with debug := d₂.1, log := r.1.log ++ (d₁.2 ++ d₂.2).map Event.print ++ [.initDone true] },
      true)

/-- `H5_init_library`. On a failed subsystem init `H5_libinit_g` stays set. -/
def initLibrary (s : Lib) : Lib × Bool :=
  if s.libinit || s.libterm then (s, true)
  else initFinish env (initInterfaces env run Subsystem.order (initStart b env s))

/-- `FUNC_ENTER_API`: initialise the library unless it is initialised or terminating. -/
def funcEnterApi (s : Lib) : Lib × Bool :=
  if !s.libinit && !s.libterm then initLibrary b env run s else (s, true)

/-- The body of `H5atclose(func, ctx)` after `FUNC_ENTER_API`. -/
def atcloseBody (func : Option Nat) (ctx : Nat) (s : Lib) : Lib × Bool :=
  match func with
  | none => (s, false)
  | some f =>
    if env.alloc s.log then
      ({ s with atclose := ⟨f, ctx⟩ :: s.atclose, log := s.log ++ [.registered ⟨f, ctx⟩] }, true)
    else (s, false)

/-- The `atexit` handlers at `exit()`, newest first; `H5TS_term_package` is outside this
model. -/
def runHandlers : List Handler → Lib → Lib
  | [], s => s
  | .termLibrary :: hs, s => if s.aborted then s else runHandlers hs (termLibrary b env run s)
  | .tsTermPackage :: hs, s => runHandlers hs s

/-- One call; `true` is `SUCCEED`. -/
def apiCall : Api → Lib → Lib × Bool
  | .H5open, s => funcEnterApi b env run s
  | .H5close, s => (termLibrary b env run s, true)
  | .H5atclose func ctx, s =>
    let r := funcEnterApi b env run s
    if r.1.aborted || !r.2 then (r.1, false) else atcloseBody env func ctx r.1
  | .H5dont_atexit, s => if s.dontAtexit then (s, false) else ({ s with dontAtexit := true }, true)
  | .H5is_library_terminating, s => ({ s with log := s.log ++ [.reported s.libterm] }, true)
  | .H5__init_package, s => funcEnterApi b env run s
  | .H5_init_library, s => initLibrary b env run s
  | .H5api, s => funcEnterApi b env run s
  | .exit, s => (runHandlers b env run s.atexit s, true)

end Stages

section Run

variable (b : Build) (env : Env)

/-- A call with room for `depth` nested calls below it. -/
def exec : Nat → Api → Lib → Lib × Bool
  | 0, _, s => ({ s with aborted := true }, false)
  | depth + 1, c, s => if s.aborted then (s, false) else apiCall b env (exec depth) c s

/-- A run: the calls one after the other, each from the top of the stack. -/
def runCalls (depth : Nat) : List Api → Lib → Lib
  | [], s => s
  | c :: cs, s => runCalls depth cs (exec b env (depth + 1) c s).1

end Run

end H5Lifecycle
