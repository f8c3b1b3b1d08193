import H5Lifecycle.Shutdown.Down
import H5Lifecycle.Debug.Mask
import H5Lifecycle.Version.Check

/-!
The library-global state of `src/H5.c` and what a run can observe of it.

`Lib` holds the globals the lifecycle code reads and writes: `H5_libinit_g`,
`H5_libterm_g`, `H5_dont_atexit_g`, the `atclose` list, `H5_debug_g`, the functions
handed to `atexit` and the static `checked` of `H5_check_version`. Besides them it keeps
whether the `atclose` loop of a body of `H5_term_library` is running, the log of
`Event`s (what a callback, a hook or the user can see happen) and an `aborted` flag:
once the process has called `abort()`, or has run into undefined behaviour, nothing of
it runs any more.

Everything outside `H5.c` is an oracle in `Env`, answered from the log so far:
what each `term_package` hook, `atclose` callback and subsystem init does
(the API calls it makes, then its result), whether `H5FL_MALLOC` of a node
succeeds, and the error-reporting hook `H5E_get_default_auto_func` hands back. `Env`
also holds the version macros of `H5public.h` and the environment variables
`HDF5_DEBUG` and `HDF5_DISABLE_VERSION_CHECK`. A callback that calls back into the
library is an oracle whose list of calls is not empty.
-/

namespace H5Lifecycle

/-- A node of the `atclose` list: the callback and the `ctx` it is called with. -/
structure Node where
  func : Nat
  ctx : Nat
  deriving DecidableEq, Repr

/-- The subsystem inits of `H5_init_library`, in its order: `H5E_init`, `H5FD_init`,
`H5VL_init_phase1`, `H5P_init_phase1`, `H5L_init`, `H5O_init`, `H5FS_init`,
`H5S_init`, `H5T_init`, `H5P_init_phase2`, `H5VL_init_phase2`. -/
inductive Subsystem where
  | E | FD | VL1 | P1 | L | O | FS | S | T | P2 | VL2
  deriving DecidableEq, Repr

def Subsystem.order : List Subsystem := [.E, .FD, .VL1, .P1, .L, .O, .FS, .S, .T, .P2, .VL2]

/-- A function `H5_init_library` hands to `atexit`. -/
inductive Handler where
  | termLibrary
  | tsTermPackage
  deriving DecidableEq, Repr

/-- The ways into the lifecycle code: the public functions of `H5.c` that reach it,
`H5__init_package`, `H5_init_library` called directly, any other public function
(`FUNC_ENTER_API` and a body outside this model), and the exit of the process. -/
inductive Api where
  | H5open
  | H5close
  | H5atclose (func : Option Nat) (ctx : Nat)
  | H5dont_atexit
  | H5is_library_terminating
  | H5__init_package
  | H5_init_library
  | H5api
  | exit
  deriving DecidableEq, Repr

/-- What a run of the lifecycle code shows. `callback` and `hook` carry the value of
`H5_libterm_g` when the callback or hook is entered, which is what
`H5is_library_terminating` reports inside it. -/
inductive Event where
  | initBody
  | atexit (h : Handler)
  | subInit (x : Subsystem) (ok : Bool)
  | initDone (ok : Bool)
  | termBody
  | callback (n : Node) (terminating : Bool)
  | hook (x : Interface) (terminating : Bool)
  | print (line : List Char)
  | termDone
  | registered (n : Node)
  | reported (terminating : Bool)
  | version (o : VersionOut)
  deriving DecidableEq, Repr

/-- The world outside `H5.c`, answering from the log of the run so far. -/
structure Env where
  hookCalls : List Event → Interface → List Api
  hookResult : List Event → Interface → Int
  callbackCalls : List Event → Node → List Api
  initCalls : List Event → Subsystem → List Api
  initResult : List Event → Subsystem → Bool
  alloc : List Event → Bool
  autoFunc : List Event → Bool
  debugEnv : Option (List Char)
  debugIo : DebugIo
  version : LibVersion
  versionEnv : Option (List Char)

/-- The build: `NDEBUG` and `H5_HAVE_THREADSAFE_API`. -/
structure Build where
  ndebug : Bool
  threadsafe : Bool

/-- The globals of `H5.c`, the log and whether the process aborted. `atclose` is the
list from `H5_atclose_head` on; `atexit` lists the registered handlers, newest first.
`draining` is set while an `atclose` loop walks and frees the nodes of that list. -/
structure Lib where
  libinit : Bool
  libterm : Bool
  dontAtexit : Bool
  atclose : List Node
  debug : Debug
  atexit : List Handler
  checked : Bool
  draining : Bool
  log : List Event
  aborted : Bool

/-- The process before its first call: every global at its static initialiser. -/
def Lib.init : Lib := ⟨false, false, false, [], Debug.zero, [], false, false, [], false⟩

/-- A world that stays out of the way: every hook returns 0 at once, every callback and
subsystem init returns without calling the library and every init succeeds, every
allocation succeeds, errors are reported, the library is 1.14.4 with the exception table
of `H5.c`, and neither `HDF5_DEBUG` nor `HDF5_DISABLE_VERSION_CHECK` is set. -/
def Env.idle : Env where
  hookCalls _ _ := []
  hookResult _ _ := 0
  callbackCalls _ _ := []
  initCalls _ _ := []
  initResult _ _ := true
  alloc _ := true
  autoFunc _ := true
  debugEnv := none
  debugIo := .opensAll
  version := ⟨1, 14, 4, [], [0], "HDF5 library version: 1.14.4".toList⟩
  versionEnv := none

end H5Lifecycle
