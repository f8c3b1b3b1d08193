import H5Lifecycle.Shutdown.Down
import Mathlib.Logic.Function.Iterate

/-!
The shutdown loop of `H5_term_library` (`src/H5.c`).

```
do { pending = 0; pending += DOWN(ES); if (pending == 0) { ... } ... }
while (pending && ntries++ < 100);
```

The hooks are external: `call x w` is what `H5<x>_term_package()` returns in
the world `w`, and the world it leaves. Nothing is assumed of them. `int`
arithmetic on `pending` is modelled on `Int`; below `INT_MAX` the two agree.

* `sweep` is the body as the source nests it; `sweep_eq_gatedSweep` flattens it
  into twelve gated groups (`groups`).
* `closeLoop_iterate` — the loop is `k` sweeps with `1 ≤ k ≤ 101`; every sweep
  but the last ended with `pending ≠ 0`, and a last sweep with `pending ≠ 0`
  is the 101st. The `ntries++ < 100` test lets a 101st sweep run.
* `closeLoop_loop_in_bounds` — `DOWN` writes only inside `loop`, `at` stays at
  most 1021, and when the loop gives up `loop` holds a NUL-terminated string
  of length `at > 0` written by `DOWN`.
-/

namespace H5Lifecycle

/-- The locals of `H5_term_library` the loop uses, and the world the hooks act on. -/
structure Sweep (σ : Type) where
  pending : Int
  atPos : Nat
  loop : Buffer
  world : σ

/-- The loop's start: `at = 0`, `loop` never written. -/
def Sweep.start {σ : Type} (w : σ) : Sweep σ := ⟨0, 0, render [], w⟩

section Loop

variable {σ : Type} (call : Interface → σ → Int × σ)

/-- `pending += DOWN(x)`. -/
def down (x : Interface) (st : Sweep σ) : Sweep σ :=
  let r := call x st.world
  let b := downBuf x r.1 st.atPos st.loop
  ⟨st.pending + r.1, b.1, b.2, r.2⟩

/-- `pending += DOWN(x)` for each `x` of a block, in order. -/
def downs (xs : List Interface) (st : Sweep σ) : Sweep σ :=
  xs.foldl (fun st x => down call x st) st

/-- `if (pending == 0) { body }`. -/
def gate (body : Sweep σ → Sweep σ) (st : Sweep σ) : Sweep σ :=
  if st.pending = 0 then body st else st

/-- One pass of the `do ... while` body, nested as in the source. -/
def sweep (st : Sweep σ) : Sweep σ :=
  let st := down call .ES { st with pending := 0 }
  let st := gate (downs call [.L, .A_top, .D_top, .G_top, .M_top, .S_top, .T_top]) st
  let st := gate (down call .F) st
  let st := gate (down call .P) st
  let st := gate (downs call [.A, .D, .G, .M, .S, .T]) st
  gate (fun st =>
    let st := downs call [.AC, .Z, .FD, .VL] st
    let st := gate (down call .PL) st
    let st := gate (down call .E) st
    let st := gate (down call .I) st
    let st := gate (down call .SL) st
    let st := gate (down call .FL) st
    gate (down call .CX) st) st

/-- `do { sweep } while (pending && ntries++ < 100)`, returning the last state and
`ntries`. -/
def closeLoop (ntries : Nat) (st : Sweep σ) : Sweep σ × Nat :=
  let st := sweep call st
  if st.pending ≠ 0 then
    if ntries < 100 then closeLoop (ntries + 1) st else (st, ntries + 1)
  else (st, ntries)
termination_by 100 - ntries

/-- The groups of a sweep in order: each is called only while `pending == 0`. -/
def groups : List (List Interface) :=
  [[.ES], [.L, .A_top, .D_top, .G_top, .M_top, .S_top, .T_top], [.F], [.P],
   [.A, .D, .G, .M, .S, .T], [.AC, .Z, .FD, .VL], [.PL], [.E], [.I], [.SL], [.FL], [.CX]]

/-- A sweep over a flat list of gated groups. -/
def gatedSweep (gs : List (List Interface)) (st : Sweep σ) : Sweep σ :=
  gs.foldl (fun st g => gate (downs call g) st) st

/-! ### The sweep as gated groups -/

theorem gate_gate (f h : Sweep σ → Sweep σ) :
    gate (fun st => gate h (f st)) = fun st => gate h (gate f st) := by
  funext st
  by_cases hp : st.pending = 0 <;> simp [gate, hp]

/-- The nested `if (pending == 0)` blocks of the source are the flat gated groups. -/
theorem sweep_eq_gatedSweep (st : Sweep σ) :
    sweep call st = gatedSweep call groups { st with pending := 0 } := by
  simp only [sweep, gatedSweep, groups, List.foldl, gate_gate]
  simp [gate, downs]

theorem downs_cons (x : Interface) (xs : List Interface) (st : Sweep σ) :
    downs call (x :: xs) st = downs call xs (down call x st) := rfl

theorem gatedSweep_cons (g : List Interface) (gs : List (List Interface)) (st : Sweep σ) :
    gatedSweep call (g :: gs) st = gatedSweep call gs (gate (downs call g) st) := rfl

theorem gatedSweep_of_pending_ne_zero (gs : List (List Interface)) {st : Sweep σ}
    (h : st.pending ≠ 0) : gatedSweep call gs st = st := by
  induction gs with
  | nil => rfl
  | cons g gs ih => simpa [gatedSweep, gate, h] using ih

/-! ### Packaged inductions -/

variable {call}

theorem downs_induct {P : Sweep σ → Prop} (hd : ∀ x st, P st → P (down call x st)) :
    ∀ (xs : List Interface) (st : Sweep σ), P st → P (downs call xs st)
  | [], _, h => h
  | x :: xs, st, h => downs_induct hd xs (down call x st) (hd x st h)

theorem gatedSweep_induct {P : Sweep σ → Prop} (hd : ∀ x st, P st → P (down call x st)) :
    ∀ (gs : List (List Interface)) (st : Sweep σ), P st → P (gatedSweep call gs st)
  | [], _, h => h
  | g :: gs, st, h => by
    rw [gatedSweep_cons]
    refine gatedSweep_induct hd gs _ ?_
    unfold gate
    split
    · exact downs_induct hd g st h
    · exact h

/-- What holds once `pending` is reset and every `DOWN` keeps, holds after the sweep. -/
theorem sweep_induct {P : Sweep σ → Prop} (hd : ∀ x st, P st → P (down call x st))
    {st : Sweep σ} (h : P { st with pending := 0 }) : P (sweep call st) := by
  rw [sweep_eq_gatedSweep]
  exact gatedSweep_induct hd _ _ h

/-- What every sweep keeps, the whole loop keeps. -/
theorem closeLoop_induct {P : Sweep σ → Prop} (hs : ∀ st, P st → P (sweep call st)) :
    ∀ (ntries : Nat) (st : Sweep σ), P st → P (closeLoop call ntries st).1 := by
  intro ntries st h
  induction ntries, st using closeLoop.induct call with
  | case1 => rw [closeLoop]; simp [*]
  | case2 => rw [closeLoop]; simp [*]
  | case3 => rw [closeLoop]; simp [*]

/-! ### How many sweeps -/

/-- **The loop is `k` sweeps.** Started at `ntries`, it stops after the `k`-th sweep
for some `1 ≤ k ≤ 101 - ntries`; every earlier sweep ended with `pending ≠ 0`,
and if the last one did too then `k = 101 - ntries`. -/
theorem closeLoop_iterate (nt : Nat) (st : Sweep σ) (hnt : nt ≤ 100) :
    ∃ k, 1 ≤ k ∧ k ≤ 101 - nt ∧ (closeLoop call nt st).1 = (sweep call)^[k] st ∧
      (∀ j, 1 ≤ j → j < k → ((sweep call)^[j] st).pending ≠ 0) ∧
      (((sweep call)^[k] st).pending ≠ 0 → k = 101 - nt) := by
  induction nt, st using closeLoop.induct call with
  | case1 nt st _ hp hlt ih =>
    change (sweep call st).pending ≠ 0 at hp
    obtain ⟨k, hk1, hk, hrun, hmid, hlast⟩ := ih (by omega)
    refine ⟨k + 1, by omega, by omega, ?_, ?_, fun h => by have := hlast h; omega⟩
    · rw [closeLoop]; simpa [hp, hlt] using hrun
    · intro j hj1 hjk
      rcases Nat.lt_or_ge j 2 with hj | hj
      · obtain rfl : j = 1 := by omega
        exact hp
      · obtain ⟨i, rfl⟩ : ∃ i, j = i + 1 := ⟨j - 1, by omega⟩
        simpa using hmid i (by omega) (by omega)
  | case2 nt st _ hp hlt =>
    change (sweep call st).pending ≠ 0 at hp
    refine ⟨1, le_refl _, by omega, ?_, fun j hj1 hj => by omega, fun _ => by omega⟩
    rw [closeLoop]; simp [hp, hlt]
  | case3 nt st _ hp =>
    change ¬(sweep call st).pending ≠ 0 at hp
    refine ⟨1, le_refl _, by omega, ?_, fun j hj1 hj => by omega, fun h => absurd h hp⟩
    rw [closeLoop]; simp [hp]

/-! ### Quiet hooks -/

section Zero

variable (h0 : ∀ x w, (call x w).1 = 0)
include h0

theorem downs_of_zero : ∀ (xs : List Interface) (st : Sweep σ),
    downs call xs st = { st with world := xs.foldl (fun w x => (call x w).2) st.world }
  | [], _ => rfl
  | x :: xs, st => by
    rw [downs_cons, downs_of_zero xs]
    simp [down, h0, downBuf, downText]

/-- When every hook returns 0, a sweep calls all 26 hooks once, in order, and leaves
`pending`, `at` and `loop` as they were. -/
theorem sweep_of_zero (st : Sweep σ) :
    sweep call st =
      { st with
        pending := 0, world := groups.flatten.foldl (fun w x => (call x w).2) st.world } := by
  rw [sweep_eq_gatedSweep]
  suffices ∀ (gs : List (List Interface)) (st : Sweep σ), st.pending = 0 →
      gatedSweep call gs st =
        { st with world := gs.flatten.foldl (fun w x => (call x w).2) st.world } from
    this groups _ rfl
  intro gs
  induction gs with
  | nil => intro st _; rfl
  | cons g gs ih =>
    intro st hp
    rw [gatedSweep_cons, gate, if_pos hp, downs_of_zero h0,
      ih { st with world := g.foldl (fun w x => (call x w).2) st.world } hp]
    simp

/-- When every hook returns 0 the loop stops after one sweep. -/
theorem closeLoop_of_zero (nt : Nat) (st : Sweep σ) :
    closeLoop call nt st = (sweep call st, nt) := by
  rw [closeLoop]
  simp [sweep_of_zero h0]

end Zero

/-! ### The buffer `loop` -/

/-- What the loop keeps true of `at` and `loop`: `loop` holds a string of length
`at` written by `DOWN`, and `at > 0` once anything was pending in this sweep. -/
def LoopInv (st : Sweep σ) : Prop :=
  Written st.atPos st.loop ∧ (st.pending ≠ 0 → 0 < st.atPos)

theorem down_loopInv (x : Interface) {st : Sweep σ} (h : LoopInv st) :
    LoopInv (down call x st) := by
  refine ⟨downBuf_written h.1, fun hp => ?_⟩
  simp only [down] at hp ⊢
  by_cases hn : (call x st.world).1 = 0
  · have := le_downBuf x (call x st.world).1 st.atPos st.loop
    have := h.2 (by rw [hn] at hp; simpa using hp)
    omega
  · exact downBuf_pos hn _ _

theorem sweep_loopInv {st : Sweep σ} (h : Written st.atPos st.loop) :
    LoopInv (sweep call st) :=
  sweep_induct (fun x _ h => down_loopInv x h) ⟨h, fun hp => absurd rfl hp⟩

/-- **`DOWN` writes only inside `loop`.** Every `sprintf` of `DOWN` ends with its NUL
at index at most 1021; every `DOWN` keeps `loop` a string of length `at ≤ 1021`,
which holds at the start; and when the loop gives up with `pending ≠ 0`, `at > 0`
and `loop[0..at]` is a NUL-terminated string of initialised non-NUL bytes. -/
theorem closeLoop_loop_in_bounds (w : σ) :
    (∀ x n atPos text, downText x n atPos = some text → atPos + text.length ≤ 1021) ∧
    (∀ x (st : Sweep σ), Written st.atPos st.loop →
      Written (down call x st).atPos (down call x st).loop) ∧
    Written (closeLoop call 0 (Sweep.start w)).1.atPos (closeLoop call 0 (Sweep.start w)).1.loop ∧
    ((closeLoop call 0 (Sweep.start w)).1.pending ≠ 0 →
      0 < (closeLoop call 0 (Sweep.start w)).1.atPos ∧
      (closeLoop call 0 (Sweep.start w)).1.loop (closeLoop call 0 (Sweep.start w)).1.atPos =
        some '\x00' ∧
      ∀ i < (closeLoop call 0 (Sweep.start w)).1.atPos,
        ∃ c, (closeLoop call 0 (Sweep.start w)).1.loop i = some c ∧ c ≠ '\x00') := by
  have hinv : LoopInv (closeLoop call 0 (Sweep.start w)).1 :=
    @closeLoop_induct σ call LoopInv (fun _ h => sweep_loopInv h.1) 0 _
      ⟨written_empty, fun hp => absurd rfl hp⟩
  obtain ⟨⟨text, hloop, hlen, hnul, hle⟩, hpos⟩ := hinv
  refine ⟨fun _ _ _ _ h => downText_fits h, fun _ _ h => downBuf_written h,
    ⟨text, hloop, hlen, hnul, hle⟩, fun hp => ⟨hpos hp, ?_, ?_⟩⟩
  · have hne : text ≠ [] := by rintro rfl; have := hpos hp; simp at hlen; omega
    simp [hloop, render, ← hlen, hne]
  · intro i hi
    rw [← hlen] at hi
    refine ⟨text[i], by simp [hloop, render, hi], fun hc => hnul (hc ▸ List.getElem_mem hi)⟩

end Loop

end H5Lifecycle
