import H5Lifecycle.Shutdown.Order
import H5Lifecycle.Debug.Mask

/-!
The message `H5_term_library` prints when its shutdown loop does not converge
(`src/H5.c`):

```
if (pending) { if (func) { fprintf(stderr, "HDF5: infinite loop closing library\n");
                           fprintf(stderr, "      %s\n", loop); ... } }
```

`loop` is filled by `DOWN` over the whole loop: `at` is set to 0 once, before the first
sweep, so the names of every sweep go into it one after the other until fewer than 8
bytes are left. `reportText` is that text as a function of the hook calls and their
results, in order.

* `closeLoop_printed` — under the history world, the string `loop` that is printed is
  `reportText` of every hook call the loop made.
* `closeLoop_names_hook` — a hook that returned non-zero while the text was shorter
  than `sizeof loop - 8` is named in it.
* `closeLoop_names_last_sweep` — when the loop gives up, a hook of its last sweep that
  returned a positive value while the text was shorter than `sizeof loop - 8` is named.
* `closeLoop_report_omits_final_hook` — hooks whose earlier sweeps fill `loop` make a
  last sweep whose positive hook is not named in the message.
-/

namespace H5Lifecycle

/-- `loop` as text after one more `DOWN`: hook `c.1` returned `c.2` while `loop` held `t`. -/
def reportText.step (t : List Char) (c : Interface × Int) : List Char :=
  t ++ (downText c.1 c.2 t.length).getD []

/-- The string in `loop` after the hook calls `cs` with their results, from `at = 0`. -/
def reportText (cs : List (Interface × Int)) : List Char :=
  cs.foldl reportText.step []

/-! ### The text -/

theorem reportText_append (cs : List (Interface × Int)) (c : Interface × Int) :
    reportText (cs ++ [c]) = reportText.step (reportText cs) c := by
  simp [reportText, List.foldl_append]

/-- `DOWN` on a `loop` holding `t` at `at = strlen(t)` leaves the text of one more step. -/
theorem downBuf_render (x : Interface) (n : Int) (t : List Char) :
    downBuf x n t.length (render t) =
      ((reportText.step t (x, n)).length, render (reportText.step t (x, n))) := by
  unfold downBuf reportText.step
  split
  · rename_i u hu
    rw [hu, Option.getD_some, sprintfAt_render t u (downText_spec hu).1, List.length_append]
  · rename_i hu
    simp [hu]

theorem step_spec (t : List Char) (c : Interface × Int) (hle : t.length ≤ 1021)
    (hnul : '\x00' ∉ t) :
    (reportText.step t c).length ≤ 1021 ∧ '\x00' ∉ reportText.step t c := by
  unfold reportText.step
  cases hu : downText c.1 c.2 t.length with
  | none => simpa using ⟨hle, hnul⟩
  | some u =>
    obtain ⟨-, hunul, hfit⟩ := downText_spec hu
    simp only [Option.getD_some, List.length_append, List.mem_append, not_or]
    exact ⟨hfit, hnul, hunul⟩

/-- The text fits in `loop` with room for its NUL, and holds no NUL. -/
theorem foldl_step_spec : ∀ (cs : List (Interface × Int)) (t : List Char),
    t.length ≤ 1021 → '\x00' ∉ t →
      (cs.foldl reportText.step t).length ≤ 1021 ∧ '\x00' ∉ cs.foldl reportText.step t
  | [], _, hle, hnul => ⟨hle, hnul⟩
  | c :: cs, t, hle, hnul =>
    foldl_step_spec cs _ (step_spec t c hle hnul).1 (step_spec t c hle hnul).2

theorem reportText_spec (cs : List (Interface × Int)) :
    (reportText cs).length ≤ 1021 ∧ '\x00' ∉ reportText cs :=
  foldl_step_spec cs [] (by simp) (by simp)

/-- `%s` of a `loop` holding `t`. -/
theorem cStr_render {t : List Char} {n : Nat} (hn : t.length < n) (hnul : '\x00' ∉ t) :
    cStr (render t) 0 n = t := by
  by_cases ht : t = []
  · obtain ⟨m, rfl⟩ : ∃ m, n = m + 1 := ⟨n - 1, by subst ht; simp at hn; omega⟩
    subst ht
    rfl
  · refine cStr_eq (fun j hj => ?_) ?_ hnul hn
    · simp [render, hj]
    · simp [render, ht]

/-! ### The loop fills `loop` with `reportText` -/

section Loop

variable (hooks : Hooks) (h0 : List (Interface × Int))

/-- `loop` and `at` hold `reportText` of the calls made since the history `h0`. -/
def Reported (st : Sweep (List (Interface × Int))) : Prop :=
  ∃ cs, st.world = h0 ++ cs ∧ st.loop = render (reportText cs) ∧ st.atPos = (reportText cs).length

theorem down_reported (x : Interface) {st : Sweep (List (Interface × Int))}
    (h : Reported h0 st) : Reported h0 (down hooks.call x st) := by
  obtain ⟨cs, hw, hl, ha⟩ := h
  refine ⟨cs ++ [(x, hooks st.world x)], ?_, ?_, ?_⟩
  · simp [down, Hooks.call, hw]
  · simp only [down, Hooks.call, hl, ha, downBuf_render, reportText_append]
  · simp only [down, Hooks.call, hl, ha, downBuf_render, reportText_append]

theorem closeLoop_reported (nt : Nat) :
    Reported h0 (closeLoop hooks.call nt (Sweep.start h0)).1 :=
  @closeLoop_induct _ hooks.call (Reported h0)
    (fun _ ⟨cs, hw, hl, ha⟩ => sweep_induct (fun x _ h => down_reported hooks h0 x h)
      ⟨cs, hw, hl, ha⟩) nt _ ⟨[], by simp [Sweep.start], rfl, rfl⟩

/-- **The printed `loop` is the text of the whole call history.** -/
theorem closeLoop_printed :
    cStr (closeLoop hooks.call 0 (Sweep.start h0)).1.loop 0 loopSize =
      reportText ((closeLoop hooks.call 0 (Sweep.start h0)).1.world.drop h0.length) := by
  obtain ⟨cs, hw, hl, -⟩ := closeLoop_reported hooks h0 0
  rw [hl, hw, List.drop_left]
  exact cStr_render (by have := (reportText_spec cs).1; unfold loopSize; omega)
    (reportText_spec cs).2

end Loop

/-! ### Which hooks the text names -/

theorem prefix_foldl_step : ∀ (cs : List (Interface × Int)) (t : List Char),
    t <+: cs.foldl reportText.step t
  | [], t => List.prefix_refl t
  | c :: cs, t => (List.prefix_append t _).trans (prefix_foldl_step cs (reportText.step t c))

/-- A hook that returned non-zero while `at + 8 < sizeof loop` is named in the text from
then on. -/
theorem reportText_names {pre post : List (Interface × Int)} {c : Interface × Int}
    (hn : c.2 ≠ 0) (hat : (reportText pre).length + 8 < loopSize) :
    c.1.name <:+: reportText (pre ++ c :: post) := by
  have hstep : c.1.name <:+: reportText.step (reportText pre) c := by
    rw [reportText.step, downText_of_ne_zero hn hat, Option.getD_some]
    exact ((List.suffix_append _ _).trans (List.suffix_append _ _)).isInfix
  rw [reportText, List.foldl_append, List.foldl_cons]
  exact hstep.trans (prefix_foldl_step post _).isInfix

/-- **A hook that returned non-zero while `loop` had room is named in the message.** -/
theorem closeLoop_names_hook (hooks : Hooks) (h0 : List (Interface × Int))
    {pre post : List (Interface × Int)} {c : Interface × Int}
    (hcalls : (closeLoop hooks.call 0 (Sweep.start h0)).1.world.drop h0.length = pre ++ c :: post)
    (hn : c.2 ≠ 0) (hat : (reportText pre).length + 8 < loopSize) :
    c.1.name <:+: cStr (closeLoop hooks.call 0 (Sweep.start h0)).1.loop 0 loopSize := by
  rw [closeLoop_printed, hcalls]
  exact reportText_names hn hat

/-- Hooks that always return 1: the loop's 101 calls of `H5ES_term_package` each returned
1, and the first of them, made with `loop` empty, is named. -/
theorem closeLoop_names_hook_busy :
    (closeLoop (Hooks.call fun _ _ => 1) 0 (Sweep.start [])).1.world.drop
        ([] : List (Interface × Int)).length = [] ++ (.ES, 1) :: List.replicate 100 (.ES, 1) ∧
      (Interface.ES, (1 : Int)).2 ≠ 0 ∧ (reportText []).length + 8 < loopSize ∧
      (Interface.ES, (1 : Int)).1.name <:+:
        cStr (closeLoop (Hooks.call fun _ _ => 1) 0 (Sweep.start [])).1.loop 0 loopSize := by
  have hw : (closeLoop (Hooks.call fun _ _ => 1) 0 (Sweep.start [])).1.world =
      List.replicate 101 (.ES, 1) := by
    obtain ⟨k, hk1, hk, hrun, -, hlast⟩ :=
      @closeLoop_iterate _ (Hooks.call fun _ _ => 1) 0 (Sweep.start []) (Nat.zero_le _)
    obtain ⟨i, rfl⟩ : ∃ i, k = i + 1 := ⟨k - 1, by omega⟩
    rw [hrun, hlast (by rw [(iterate_busy i).2]; decide)]
    exact (iterate_busy 100).1
  have hcalls : (closeLoop (Hooks.call fun _ _ => 1) 0 (Sweep.start [])).1.world.drop
      ([] : List (Interface × Int)).length = [] ++ (.ES, 1) :: List.replicate 100 (.ES, 1) := by
    rw [hw]; rfl
  exact ⟨hcalls, by decide, by decide,
    closeLoop_names_hook (fun _ _ => 1) [] hcalls (by decide) (by decide)⟩

/-- **The hooks of the last sweep that the message names.** For hooks with non-negative
results, every hook of the loop's last sweep that returned a positive value while the text
in `loop` was shorter than `sizeof loop - 8` is named in `loop`, the string printed when the
loop gives up with `pending > 0`. -/
theorem closeLoop_names_last_sweep (hooks : Hooks) (hnn : ∀ h x, 0 ≤ hooks h x)
    (h0 : List (Interface × Int)) :
    ∃ last, (closeLoop hooks.call 0 (Sweep.start h0)).1 = sweep hooks.call last ∧
      ∀ pre x n post, sweepCalls hooks last = pre ++ (x, n) :: post → 0 < n →
        (reportText (last.world.drop h0.length ++ pre)).length + 8 < loopSize →
        x.name <:+: cStr (closeLoop hooks.call 0 (Sweep.start h0)).1.loop 0 loopSize := by
  obtain ⟨k, hk1, -, hrun, -, -⟩ :=
    @closeLoop_iterate _ hooks.call 0 (Sweep.start h0) (Nat.zero_le _)
  obtain ⟨i, rfl⟩ : ∃ i, k = i + 1 := ⟨k - 1, by omega⟩
  rw [Function.iterate_succ_apply'] at hrun
  refine ⟨_, hrun, fun pre x n post hcalls hn hat => ?_⟩
  obtain ⟨cs, hw, -⟩ := iterate_world hnn (Sweep.start h0) i
  rw [closeLoop_printed, hrun, sweep_world hnn, hcalls, hw]
  rw [hw, Sweep.start, List.drop_left] at hat
  rw [Sweep.start, List.append_assoc, List.drop_left, ← List.append_assoc]
  exact @reportText_names (cs ++ pre) post (x, n) (Int.ne_of_gt hn) hat

/-- Hooks that always return 1, for which the loop gives up. -/
theorem closeLoop_names_last_sweep_busy :
    (∀ h x, 0 ≤ (fun _ _ => 1 : Hooks) h x) ∧
    ∃ last, (closeLoop (Hooks.call fun _ _ => 1) 0 (Sweep.start [])).1 =
        sweep (Hooks.call fun _ _ => 1) last ∧
      ∀ pre x n post, sweepCalls (fun _ _ => 1) last = pre ++ (x, n) :: post → 0 < n →
        (reportText (last.world.drop ([] : List (Interface × Int)).length ++ pre)).length + 8 <
          loopSize →
        x.name <:+: cStr (closeLoop (Hooks.call fun _ _ => 1) 0 (Sweep.start [])).1.loop 0 loopSize :=
  have hnn : ∀ h x, 0 ≤ (fun _ _ => 1 : Hooks) h x := fun _ _ => Int.le_of_lt Int.one_pos
  ⟨hnn, closeLoop_names_last_sweep _ hnn []⟩

/-! ### Growth of the text -/

/-- What a call adds to `loop` counts toward filling it: the name, unless the text has
reached `sizeof loop - 8`. -/
def nameWeight (c : Interface × Int) : Nat := if c.2 = 0 then 0 else c.1.name.length

theorem step_length (t : List Char) (c : Interface × Int) :
    t.length ≤ (reportText.step t c).length ∧
      (1016 ≤ (reportText.step t c).length ∨
        t.length + nameWeight c ≤ (reportText.step t c).length) := by
  unfold reportText.step nameWeight
  by_cases hn : c.2 = 0
  · simp [downText, hn]
  · by_cases hat : t.length + 8 < loopSize
    · rw [downText_of_ne_zero hn hat]
      simp only [Option.getD_some, List.length_append, hn, if_false]
      omega
    · unfold loopSize at hat
      simp only [List.length_append]
      omega

theorem foldl_step_length : ∀ (cs : List (Interface × Int)) (t : List Char),
    t.length ≤ (cs.foldl reportText.step t).length ∧
      (1016 ≤ (cs.foldl reportText.step t).length ∨
        t.length + (cs.map nameWeight).sum ≤ (cs.foldl reportText.step t).length)
  | [], t => by simp
  | c :: cs, t => by
    obtain ⟨h1, h2⟩ := step_length t c
    obtain ⟨h3, h4⟩ := foldl_step_length cs (reportText.step t c)
    simp only [List.foldl_cons, List.map_cons, List.sum_cons]
    omega

/-- The characters a call can add: a comma, dots, or its own name. -/
theorem mem_step {t : List Char} {c : Interface × Int} {ch : Char}
    (h : ch ∈ reportText.step t c) :
    ch ∈ t ∨ (c.2 ≠ 0 ∧ (ch = ',' ∨ ch = '.' ∨ ch ∈ c.1.name)) := by
  rcases List.mem_append.mp h with h | h
  · exact .inl h
  · right
    unfold downText at h
    by_cases h1 : c.2 ≠ 0 ∧ t.length + 8 < loopSize
    · rw [if_pos h1, Option.getD_some] at h
      refine ⟨h1.1, ?_⟩
      rcases List.mem_append.mp h with h | h
      · split_ifs at h <;> simp_all
      · exact .inr (.inr h)
    · rw [if_neg h1] at h
      split_ifs at h with h2
      · simp only [Option.getD_some, List.mem_cons, List.not_mem_nil, or_false, or_self] at h
        exact ⟨by omega, .inr (.inl h)⟩
      · simp at h

/-- A character other than `,` and `.` is written only as part of a name. -/
theorem foldl_step_not_mem {ch : Char} (hch : ch ≠ ',' ∧ ch ≠ '.') :
    ∀ (cs : List (Interface × Int)) (t : List Char), ch ∉ t →
      (∀ c ∈ cs, c.2 = 0 ∨ ch ∉ c.1.name) → ch ∉ cs.foldl reportText.step t
  | [], _, ht, _ => ht
  | c :: cs, t, ht, hcs => by
    refine foldl_step_not_mem hch cs _ (fun h => ?_) fun c' hc' => hcs c' (.tail _ hc')
    rcases mem_step h with h | ⟨hn, h | h | h⟩
    · exact ht h
    · exact hch.1 h
    · exact hch.2 h
    · exact (hcs c (.head _)).elim hn (absurd h)

/-- With fewer than 8 bytes left, `DOWN` writes at most `...`. -/
theorem downText_of_full {x : Interface} {n : Int} {atPos : Nat} (h : loopSize ≤ atPos + 8) :
    ∀ ch ∈ (downText x n atPos).getD [], ch = '.' := by
  unfold downText
  rw [if_neg fun h1 => absurd h1.2 (by omega)]
  split_ifs <;> simp

/-! ### Hooks whose report misses the last sweep -/

/-- `H5ES_term_package` returns 0 until 800 hook calls came before it, and 1 then (its
101st call in the run below); every other hook always returns 1. -/
def lateHooks : Hooks := fun h x => if x = .ES then (if h.length = 800 then 1 else 0) else 1

theorem lateHooks_nonneg : ∀ h x, 0 ≤ lateHooks h x := by
  intro h x
  unfold lateHooks
  split_ifs <;> decide

/-- The calls of a sweep of `lateHooks` while `H5ES_term_package` returns 0: the second
group follows, and each of its hooks returns 1. -/
def lateBlock : List (Interface × Int) :=
  [(.ES, 0), (.L, 1), (.A_top, 1), (.D_top, 1), (.G_top, 1), (.M_top, 1), (.S_top, 1),
    (.T_top, 1)]

theorem lateHooks_sweepCalls {st : Sweep (List (Interface × Int))}
    (hlen : st.world.length ≠ 800) : sweepCalls lateHooks st = lateBlock := by
  rw [sweepCalls_eq lateHooks_nonneg]
  simp [gatedCalls, groupCalls, groups, lateHooks, hlen, lateBlock]

theorem lateHooks_sweepCalls_last {st : Sweep (List (Interface × Int))}
    (hlen : st.world.length = 800) : sweepCalls lateHooks st = [(.ES, 1)] := by
  rw [sweepCalls_eq lateHooks_nonneg]
  simp [gatedCalls, groupCalls, groups, lateHooks, hlen]

theorem length_flatten_lateBlock (j : Nat) : (List.replicate j lateBlock).flatten.length = 8 * j := by
  simp [List.length_flatten, List.map_replicate, List.sum_replicate, lateBlock]
  omega

/-- The first 100 sweeps: each makes the calls of `lateBlock` and ends with `pending = 7`. -/
theorem iterate_late : ∀ j, j ≤ 100 →
    ((sweep lateHooks.call)^[j] (Sweep.start [])).world = (List.replicate j lateBlock).flatten ∧
      (1 ≤ j → ((sweep lateHooks.call)^[j] (Sweep.start [])).pending = 7)
  | 0, _ => ⟨rfl, fun h => absurd h (by decide)⟩
  | j + 1, hj => by
    obtain ⟨hw, -⟩ := iterate_late j (by omega)
    have hcalls : sweepCalls lateHooks ((sweep lateHooks.call)^[j] (Sweep.start [])) = lateBlock :=
      lateHooks_sweepCalls (by rw [hw, length_flatten_lateBlock]; omega)
    rw [Function.iterate_succ_apply', sweep_world lateHooks_nonneg, sweep_pending lateHooks_nonneg,
      hcalls, hw]
    exact ⟨by rw [List.replicate_succ', List.flatten_append, List.flatten_singleton], fun _ => rfl⟩

/-- The calls of the first 100 sweeps fill `loop` to 1016 characters or more. -/
theorem late_text_full : 1016 ≤ (reportText (List.replicate 100 lateBlock).flatten).length := by
  have hw : (((List.replicate 100 lateBlock).flatten).map nameWeight).sum = 3100 := by
    simp [List.map_flatten, List.sum_flatten, List.map_replicate, List.sum_replicate]
    decide
  have := (foldl_step_length (List.replicate 100 lateBlock).flatten []).2
  rw [hw, List.length_nil, Nat.zero_add] at this
  unfold reportText
  omega

/-- None of those calls writes an `E`: `ES` returned 0 in each of them. -/
theorem late_text_no_E : 'E' ∉ reportText (List.replicate 100 lateBlock).flatten := by
  refine foldl_step_not_mem (by decide) _ [] (by simp) fun c hc => ?_
  obtain ⟨l, hl, hcl⟩ := List.mem_flatten.mp hc
  rw [List.eq_of_mem_replicate hl] at hcl
  simp only [lateBlock, List.mem_cons, List.mem_singleton, List.not_mem_nil, or_false] at hcl
  rcases hcl with rfl | rfl | rfl | rfl | rfl | rfl | rfl | rfl <;> decide

/-- The last sweep: `H5ES_term_package` returns 1 and the loop gives up. -/
theorem closeLoop_late :
    (closeLoop lateHooks.call 0 (Sweep.start [])).1 =
      sweep lateHooks.call ((sweep lateHooks.call)^[100] (Sweep.start [])) ∧
    sweepCalls lateHooks ((sweep lateHooks.call)^[100] (Sweep.start [])) = [(.ES, 1)] := by
  have hlast := lateHooks_sweepCalls_last (by
    rw [(iterate_late 100 le_rfl).1, length_flatten_lateBlock] :
    ((sweep lateHooks.call)^[100] (Sweep.start [])).world.length = 800)
  refine ⟨?_, hlast⟩
  obtain ⟨k, hk1, hk, hrun, -, hend⟩ :=
    @closeLoop_iterate _ lateHooks.call 0 (Sweep.start []) (Nat.zero_le _)
  have hp : ((sweep lateHooks.call)^[k] (Sweep.start [])).pending ≠ 0 := by
    rcases Nat.lt_or_ge k 101 with h | h
    · rw [(iterate_late k (by omega)).2 hk1]; decide
    · obtain rfl : k = 101 := by omega
      rw [Function.iterate_succ_apply', sweep_pending lateHooks_nonneg, hlast]
      decide
  rw [hrun, hend hp, Function.iterate_succ_apply']

/-- **The message can miss the hooks of the last sweep.** With `lateHooks` (every result
non-negative), the loop gives up with `pending ≠ 0` after a last sweep in which
`H5ES_term_package` returned 1, yet the `loop` it prints has no `E` in it: the hundred
sweeps before filled it with the names of the second group, so `ES` is not named. -/
theorem closeLoop_report_omits_final_hook :
    (∀ h x, 0 ≤ lateHooks h x) ∧
    (closeLoop lateHooks.call 0 (Sweep.start [])).1 =
      sweep lateHooks.call ((sweep lateHooks.call)^[100] (Sweep.start [])) ∧
    sweepCalls lateHooks ((sweep lateHooks.call)^[100] (Sweep.start [])) = [(.ES, 1)] ∧
    0 < (closeLoop lateHooks.call 0 (Sweep.start [])).1.pending ∧
    'E' ∉ cStr (closeLoop lateHooks.call 0 (Sweep.start [])).1.loop 0 loopSize ∧
    ¬ Interface.ES.name <:+: cStr (closeLoop lateHooks.call 0 (Sweep.start [])).1.loop 0 loopSize := by
  obtain ⟨hrun, hlast⟩ := closeLoop_late
  have hw100 := (iterate_late 100 le_rfl).1
  have hpend : (closeLoop lateHooks.call 0 (Sweep.start [])).1.pending = 1 := by
    rw [hrun, sweep_pending lateHooks_nonneg, hlast]; rfl
  -- the printed text is that of the 800 calls of the first 100 sweeps, then `(ES, 1)`
  have htext : cStr (closeLoop lateHooks.call 0 (Sweep.start [])).1.loop 0 loopSize =
      reportText.step (reportText (List.replicate 100 lateBlock).flatten) (.ES, 1) := by
    rw [closeLoop_printed, hrun, sweep_world lateHooks_nonneg, hlast, hw100]
    simp only [Sweep.start, List.length_nil, List.drop_zero, reportText_append]
  have hnotE : 'E' ∉ cStr (closeLoop lateHooks.call 0 (Sweep.start [])).1.loop 0 loopSize := by
    rw [htext, reportText.step]
    intro h
    rcases List.mem_append.mp h with h | h
    · exact late_text_no_E h
    · exact absurd (downText_of_full (by have := late_text_full; unfold loopSize; omega) _ h)
        (by decide)
  refine ⟨lateHooks_nonneg, hrun, hlast, by rw [hpend]; decide, hnotE, fun h => hnotE ?_⟩
  exact h.subset (by decide)

end H5Lifecycle
