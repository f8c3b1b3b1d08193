import H5Lifecycle.Shutdown.Loop
import Mathlib

/-!
Which hooks a sweep of `H5_term_library` calls, and how the loop ends.

Here the world the hooks act on is the history of hook calls since the
termination started: a hook's result may depend on every call before it
(`Hooks`), and each call appends `(x, n)`. Results are non-negative, as the
`term_package` contract says.

* `gatedCalls` states the gating rule on its own: each group of `groups` is
  called in full when every call before it in the sweep returned 0, and the
  sweep ends after the first group with a non-zero result.
  `sweepCalls_eq` says the source's sweep makes exactly those calls.
* `sweep_calls_gated` — the calls of every sweep follow the fixed order of the
  twenty-six hooks, each at most once, group by group as the rule says; `CX`
  is called only after the other twenty-five returned 0; the loop stops with
  `pending = 0` exactly when its last sweep called all twenty-six and each
  returned 0.
* `closeLoop_quiesces` — with at most `K ≤ 99` positive results over the whole
  loop, it stops with `pending = 0` within `K + 1` sweeps.
* `closeLoop_busy_hooks` — hooks that always return 1 are swept 101 times.
* `closeLoop_hook_calls` — whatever the hooks return, negative results included, the
  loop makes at most 101 sweeps, each a prefix of the order of `groups` that starts
  with `ES`: at most 2626 hook calls.
-/

namespace H5Lifecycle

/-- What each `term_package` hook returns, given every hook call made before it since
the termination started, with its result. -/
def Hooks : Type := List (Interface × Int) → Interface → Int

/-- The hook call of `DOWN` when the world is the history of calls. -/
def Hooks.call (hooks : Hooks) (x : Interface) (h : List (Interface × Int)) :
    Int × List (Interface × Int) :=
  (hooks h x, h ++ [(x, hooks h x)])

/-- The calls one sweep from `st` adds to the history. -/
def sweepCalls (hooks : Hooks) (st : Sweep (List (Interface × Int))) : List (Interface × Int) :=
  (sweep hooks.call st).world.drop st.world.length

/-! ### The gating rule -/

/-- Every hook of a group called in order, from history `h`. -/
def groupCalls (hooks : Hooks) : List Interface → List (Interface × Int) → List (Interface × Int)
  | [], _ => []
  | x :: xs, h => (x, hooks h x) :: groupCalls hooks xs (h ++ [(x, hooks h x)])

/-- The calls of a sweep by the gating rule: a group is called in full when every call
before it in the sweep returned 0, and the sweep ends after a group with a non-zero
result. -/
def gatedCalls (hooks : Hooks) :
    List (List Interface) → List (Interface × Int) → List (Interface × Int)
  | [], _ => []
  | g :: gs, h =>
    if ∀ c ∈ groupCalls hooks g h, c.2 = 0 then
      groupCalls hooks g h ++ gatedCalls hooks gs (h ++ groupCalls hooks g h)
    else groupCalls hooks g h

theorem sum_snd_eq_zero_iff {cs : List (Interface × Int)} (hnn : ∀ c ∈ cs, 0 ≤ c.2) :
    (cs.map Prod.snd).sum = 0 ↔ ∀ c ∈ cs, c.2 = 0 := by
  refine ⟨fun h c hc => List.all_zero_of_le_zero_le_of_sum_eq_zero (List.forall_mem_map.mpr hnn) h
    (List.mem_map_of_mem _ hc), fun h => List.sum_eq_zero (List.forall_mem_map.mpr h)⟩

section Gated

variable (hooks : Hooks)

theorem groupCalls_fst (g : List Interface) (h : List (Interface × Int)) :
    (groupCalls hooks g h).map Prod.fst = g := by
  induction g generalizing h with
  | nil => rfl
  | cons x xs ih => simp [groupCalls, ih]

theorem groupCalls_nonneg (hnn : ∀ h x, 0 ≤ hooks h x) (g : List Interface)
    (h : List (Interface × Int)) : ∀ c ∈ groupCalls hooks g h, 0 ≤ c.2 := by
  induction g generalizing h with
  | nil => exact fun _ hc => absurd hc (List.not_mem_nil _)
  | cons x xs ih => exact List.forall_mem_cons.mpr ⟨hnn h x, ih _⟩

theorem downs_history (xs : List Interface) (st : Sweep (List (Interface × Int))) :
    (downs hooks.call xs st).world = st.world ++ groupCalls hooks xs st.world ∧
    (downs hooks.call xs st).pending =
      st.pending + ((groupCalls hooks xs st.world).map Prod.snd).sum := by
  induction xs generalizing st with
  | nil => simp [downs, groupCalls]
  | cons x xs ih =>
    obtain ⟨h1, h2⟩ := ih (down hooks.call x st)
    rw [downs_cons, h1, h2]
    refine ⟨by simp [down, Hooks.call, groupCalls], ?_⟩
    simp only [down, Hooks.call, groupCalls, List.map_cons, List.sum_cons]
    omega

/-- Under the history world, the gated sweep makes the calls of `gatedCalls`, and
`pending` is the sum of their results. -/
theorem gatedSweep_history (hnn : ∀ h x, 0 ≤ hooks h x) (gs : List (List Interface))
    (st : Sweep (List (Interface × Int))) (h0 : st.pending = 0) :
    (gatedSweep hooks.call gs st).world = st.world ++ gatedCalls hooks gs st.world ∧
    (gatedSweep hooks.call gs st).pending = ((gatedCalls hooks gs st.world).map Prod.snd).sum := by
  induction gs generalizing st with
  | nil => simp [gatedSweep, gatedCalls, h0]
  | cons g gs ih =>
    obtain ⟨hw, hp⟩ := downs_history hooks g st
    have hsum := sum_snd_eq_zero_iff (groupCalls_nonneg hooks hnn g st.world)
    rw [gatedSweep_cons, gate, if_pos h0]
    by_cases hz : ∀ c ∈ groupCalls hooks g st.world, c.2 = 0
    · obtain ⟨ih1, ih2⟩ := ih _ (by rw [hp, h0, hsum.mpr hz]; rfl)
      rw [gatedCalls, if_pos hz, ih1, ih2, hw]
      simp [hsum.mpr hz]
    · have hne : (downs hooks.call g st).pending ≠ 0 := by
        rw [hp, h0, Int.zero_add]; exact fun h => hz (hsum.mp h)
      rw [gatedSweep_of_pending_ne_zero _ _ hne, gatedCalls, if_neg hz, hw, hp, h0, Int.zero_add]
      exact ⟨rfl, rfl⟩

theorem gatedCalls_fst (gs : List (List Interface)) (h : List (Interface × Int)) :
    ∃ k ≤ gs.length, (gatedCalls hooks gs h).map Prod.fst = (gs.take k).flatten := by
  induction gs generalizing h with
  | nil => exact ⟨0, le_refl _, rfl⟩
  | cons g gs ih =>
    by_cases hz : ∀ c ∈ groupCalls hooks g h, c.2 = 0
    · obtain ⟨k, hk, hrest⟩ := ih (h ++ groupCalls hooks g h)
      refine ⟨k + 1, Nat.succ_le_succ hk, ?_⟩
      rw [gatedCalls, if_pos hz, List.map_append, groupCalls_fst, hrest]
      rfl
    · refine ⟨1, Nat.succ_le_succ (Nat.zero_le _), ?_⟩
      rw [gatedCalls, if_neg hz, groupCalls_fst]
      exact (List.append_nil g).symm

theorem mem_flatten_of_gatedCalls {gs : List (List Interface)} {h : List (Interface × Int)}
    {c : Interface × Int} (hc : c ∈ gatedCalls hooks gs h) : c.1 ∈ gs.flatten := by
  obtain ⟨k, -, hk⟩ := gatedCalls_fst hooks gs h
  have : c.1 ∈ (gs.take k).flatten := hk ▸ List.mem_map_of_mem _ hc
  obtain ⟨l, hl, hx⟩ := List.mem_flatten.mp this
  exact List.mem_flatten.mpr ⟨l, List.take_subset _ _ hl, hx⟩

theorem gatedCalls_gate (gs : List (List Interface)) (hne : ∀ g ∈ gs, g ≠ [])
    (hnd : gs.flatten.Nodup) (h : List (Interface × Int)) (j : Nat) (hj : j < gs.length) :
    (∀ x ∈ gs[j], x ∈ (gatedCalls hooks gs h).map Prod.fst) ↔
      ∀ c ∈ gatedCalls hooks gs h, c.1 ∈ (gs.take j).flatten → c.2 = 0 := by
  induction gs generalizing h j with
  | nil => simp at hj
  | cons g gs ih =>
    rw [List.flatten_cons, List.nodup_append] at hnd
    obtain ⟨-, hnd', hdisj⟩ := hnd
    have hcg : ∀ c ∈ groupCalls hooks g h, c.1 ∈ g := fun c hc =>
      groupCalls_fst hooks g h ▸ List.mem_map_of_mem _ hc
    cases j with
    | zero =>
      refine iff_of_true (fun x (hx : x ∈ g) => ?_) fun c _ hc => absurd hc (List.not_mem_nil _)
      have hg : x ∈ (groupCalls hooks g h).map Prod.fst := (groupCalls_fst hooks g h).symm ▸ hx
      rw [gatedCalls]
      split
      · exact List.map_append .. ▸ List.mem_append_left _ hg
      · exact hg
    | succ j =>
      simp only [List.getElem_cons_succ, List.take_succ_cons, List.flatten_cons, List.mem_append]
      have hjs : j < gs.length := by simpa using hj
      have hx : ∀ x ∈ gs[j], x ∉ g := fun x hx hg =>
        List.disjoint_left.mp hdisj hg (List.mem_flatten.mpr ⟨_, List.getElem_mem hjs, hx⟩)
      by_cases hz : ∀ c ∈ groupCalls hooks g h, c.2 = 0
      · rw [gatedCalls, if_pos hz]
        have hrest : ∀ c ∈ gatedCalls hooks gs (h ++ groupCalls hooks g h), c.1 ∉ g :=
          fun c hc hg => List.disjoint_left.mp hdisj hg (mem_flatten_of_gatedCalls hooks hc)
        have ih' := ih (fun g hg => hne g (by simp [hg])) hnd' (h ++ groupCalls hooks g h) j hjs
        constructor
        · intro hall c hc hcj
          rcases List.mem_append.mp hc with hc | hc
          · exact hz c hc
          · refine ih'.mp (fun x hxj => ?_) c hc (hcj.resolve_left (hrest c hc))
            have := hall x hxj
            rw [List.map_append, List.mem_append, groupCalls_fst] at this
            exact this.resolve_left (hx x hxj)
        · intro hall x hxj
          have := ih'.mpr (fun c hc hcj => hall c (List.mem_append_right _ hc) (Or.inr hcj)) x hxj
          exact List.map_append .. ▸ List.mem_append_right _ this
      · rw [gatedCalls, if_neg hz]
        obtain ⟨y, hy⟩ := List.exists_mem_of_ne_nil _ (hne gs[j] (by simp [List.getElem_mem]))
        refine iff_of_false (fun hall => hx y hy ?_)
          (fun hall => hz fun c hc => hall c hc (Or.inl (hcg c hc)))
        exact groupCalls_fst hooks g h ▸ hall y hy

theorem gatedCalls_fst_of_zero (gs : List (List Interface)) (h : List (Interface × Int))
    (hz : ∀ c ∈ gatedCalls hooks gs h, c.2 = 0) :
    (gatedCalls hooks gs h).map Prod.fst = gs.flatten := by
  induction gs generalizing h with
  | nil => rfl
  | cons g gs ih =>
    by_cases hg : ∀ c ∈ groupCalls hooks g h, c.2 = 0
    · rw [gatedCalls, if_pos hg] at hz ⊢
      rw [List.map_append, groupCalls_fst, ih _ (fun c hc => hz c (List.mem_append_right _ hc))]
      rfl
    · rw [gatedCalls, if_neg hg] at hz
      exact absurd hz hg

theorem gatedCalls_nonneg (hnn : ∀ h x, 0 ≤ hooks h x) (gs : List (List Interface))
    (h : List (Interface × Int)) : ∀ c ∈ gatedCalls hooks gs h, 0 ≤ c.2 := by
  induction gs generalizing h with
  | nil => simp [gatedCalls]
  | cons g gs ih =>
    rw [gatedCalls]
    split
    · exact List.forall_mem_append.mpr ⟨groupCalls_nonneg hooks hnn g h, ih _⟩
    · exact groupCalls_nonneg hooks hnn g h

end Gated

/-! ### The sweep of `H5_term_library` -/

theorem groups_ne_nil : ∀ g ∈ groups, g ≠ [] := by decide

theorem groups_nodup : groups.flatten.Nodup := by decide

theorem mem_groups_flatten (x : Interface) : x ∈ groups.flatten := by
  cases x <;> decide

theorem cx_not_mem_take_groups : ∀ j < 12, Interface.CX ∉ (groups.take j).flatten := by decide

theorem not_cx_mem_take_groups (x : Interface) (hx : x ≠ .CX) : x ∈ (groups.take 11).flatten := by
  cases x <;> first | exact absurd rfl hx | decide

section Sweeps

variable {hooks : Hooks}

theorem sweep_history (hnn : ∀ h x, 0 ≤ hooks h x) (st : Sweep (List (Interface × Int))) :
    (sweep hooks.call st).world = st.world ++ gatedCalls hooks groups st.world ∧
    (sweep hooks.call st).pending = ((gatedCalls hooks groups st.world).map Prod.snd).sum := by
  rw [sweep_eq_gatedSweep]
  exact gatedSweep_history hooks hnn groups _ rfl

theorem sweepCalls_eq (hnn : ∀ h x, 0 ≤ hooks h x) (st : Sweep (List (Interface × Int))) :
    sweepCalls hooks st = gatedCalls hooks groups st.world := by
  simp [sweepCalls, (sweep_history hnn st).1]

theorem sweep_world (hnn : ∀ h x, 0 ≤ hooks h x) (st : Sweep (List (Interface × Int))) :
    (sweep hooks.call st).world = st.world ++ sweepCalls hooks st := by
  rw [sweepCalls_eq hnn, (sweep_history hnn st).1]

theorem sweep_pending (hnn : ∀ h x, 0 ≤ hooks h x) (st : Sweep (List (Interface × Int))) :
    (sweep hooks.call st).pending = ((sweepCalls hooks st).map Prod.snd).sum := by
  rw [sweepCalls_eq hnn, (sweep_history hnn st).2]

theorem sweepCalls_nonneg (hnn : ∀ h x, 0 ≤ hooks h x) (st : Sweep (List (Interface × Int))) :
    ∀ c ∈ sweepCalls hooks st, 0 ≤ c.2 := by
  rw [sweepCalls_eq hnn]
  exact gatedCalls_nonneg hooks hnn _ _

end Sweeps

/-- The gating rule as the sweeps and the loop follow it under `hooks`: each sweep
appends its calls to the history; they are the first `k` groups of the fixed
order, no hook twice; a group is called exactly when every call before it in the
sweep returned 0; `CX` only after all other hooks were called and returned 0. The
loop stops with `pending = 0` exactly when its last sweep called every hook and
each returned 0. -/
def GatedSweeps (hooks : Hooks) : Prop :=
  (∀ st : Sweep (List (Interface × Int)),
    (sweep hooks.call st).world = st.world ++ sweepCalls hooks st ∧
    ((sweepCalls hooks st).map Prod.fst).Nodup ∧
    (∃ k ≤ groups.length, (sweepCalls hooks st).map Prod.fst = (groups.take k).flatten) ∧
    (∀ j (hj : j < groups.length), (∀ x ∈ groups[j], x ∈ (sweepCalls hooks st).map Prod.fst) ↔
      ∀ c ∈ sweepCalls hooks st, c.1 ∈ (groups.take j).flatten → c.2 = 0) ∧
    (Interface.CX ∈ (sweepCalls hooks st).map Prod.fst →
      (∀ x, x ∈ (sweepCalls hooks st).map Prod.fst) ∧
      ∀ c ∈ sweepCalls hooks st, c.1 ≠ .CX → c.2 = 0)) ∧
  ∀ h0, ∃ st, (closeLoop hooks.call 0 (Sweep.start h0)).1 = sweep hooks.call st ∧
    ((closeLoop hooks.call 0 (Sweep.start h0)).1.pending = 0 ↔
      (∀ x, x ∈ (sweepCalls hooks st).map Prod.fst) ∧ ∀ c ∈ sweepCalls hooks st, c.2 = 0)

/-- **Sweeps follow the gating rule** whenever every hook result is non-negative. -/
theorem sweep_calls_gated (hooks : Hooks) (hnn : ∀ h x, 0 ≤ hooks h x) : GatedSweeps hooks := by
  refine ⟨fun st => ?_, fun h0 => ?_⟩
  · refine ⟨sweep_world hnn st, ?_⟩
    rw [sweepCalls_eq hnn]
    obtain ⟨k, hk, hfst⟩ := gatedCalls_fst hooks groups st.world
    have hgate := gatedCalls_gate hooks groups groups_ne_nil groups_nodup st.world
    refine ⟨?_, ⟨k, hk, hfst⟩, hgate, fun hcx => ⟨fun x => ?_, ?_⟩⟩
    · rw [hfst]
      refine groups_nodup.sublist ?_
      conv_rhs => rw [← List.take_append_drop k groups, List.flatten_append]
      exact List.sublist_append_left _ _
    · have : k = 12 := by
        by_contra hne
        exact cx_not_mem_take_groups k (by simp [groups] at hk; omega) (hfst ▸ hcx)
      subst this
      exact hfst ▸ mem_groups_flatten x
    · intro c hc hne
      refine (hgate 11 (by decide)).mp (fun x (hx : x ∈ [Interface.CX]) => ?_) c hc
        (not_cx_mem_take_groups _ hne)
      rwa [List.mem_singleton.mp hx]
  · obtain ⟨k, hk1, -, hrun, -, -⟩ :=
      @closeLoop_iterate _ hooks.call 0 (Sweep.start h0) (Nat.zero_le _)
    obtain ⟨i, rfl⟩ : ∃ i, k = i + 1 := ⟨k - 1, by omega⟩
    refine ⟨(sweep hooks.call)^[i] (Sweep.start h0), by rw [hrun, Function.iterate_succ_apply'], ?_⟩
    rw [hrun, Function.iterate_succ_apply', sweep_pending hnn,
      sum_snd_eq_zero_iff (sweepCalls_nonneg hnn _), sweepCalls_eq hnn]
    exact ⟨fun hz => ⟨fun x => gatedCalls_fst_of_zero hooks _ _ hz ▸ mem_groups_flatten x, hz⟩,
      fun h => h.2⟩

/-- `H5L_term_package` reports work on every call, so no sweep gets past its group. -/
theorem sweep_calls_gated_busy_l :
    (∀ h x, 0 ≤ (fun _ x => if x = .L then 1 else 0 : Hooks) h x) ∧
      GatedSweeps fun _ x => if x = .L then 1 else 0 :=
  have hnn : ∀ h x, 0 ≤ (fun _ x => if x = .L then 1 else 0 : Hooks) h x := fun _ x => by
    dsimp only
    split <;> decide
  ⟨hnn, sweep_calls_gated _ hnn⟩

theorem quiet_sweep_calls_twenty_six :
    (sweepCalls (fun _ _ => 0) (Sweep.start [])).length = 26 := by
  rw [@sweepCalls_eq (fun _ _ => 0) (fun _ _ => le_refl 0)]
  decide

/-! ### Progress and the sweep cap -/

section Progress

variable {hooks : Hooks}

/-- A sweep that ends with `pending ≠ 0` had a hook return a positive value. -/
theorem one_le_positives_of_pending (hnn : ∀ h x, 0 ≤ hooks h x)
    {st : Sweep (List (Interface × Int))} (hp : (sweep hooks.call st).pending ≠ 0) :
    1 ≤ ((sweepCalls hooks st).filter (fun c => 0 < c.2)).length := by
  rw [sweep_pending hnn, Ne, sum_snd_eq_zero_iff (sweepCalls_nonneg hnn st)] at hp
  push_neg at hp
  obtain ⟨c, hc, hne⟩ := hp
  exact List.length_pos.mpr (List.ne_nil_of_mem (List.mem_filter.mpr
    ⟨hc, by simpa using lt_of_le_of_ne (sweepCalls_nonneg hnn st c hc) (Ne.symm hne)⟩))

/-- After `j` sweeps that each ended with `pending ≠ 0`, the history grew by calls with
at least `j` positive results. -/
theorem iterate_world (hnn : ∀ h x, 0 ≤ hooks h x) (st : Sweep (List (Interface × Int))) :
    ∀ j, ∃ cs, ((sweep hooks.call)^[j] st).world = st.world ++ cs ∧
      ((∀ i, 1 ≤ i → i ≤ j → ((sweep hooks.call)^[i] st).pending ≠ 0) →
        j ≤ (cs.filter (fun c => 0 < c.2)).length)
  | 0 => ⟨[], by simp, fun _ => Nat.zero_le _⟩
  | j + 1 => by
    obtain ⟨cs, hw, hpos⟩ := iterate_world hnn st j
    refine ⟨cs ++ sweepCalls hooks ((sweep hooks.call)^[j] st), ?_, fun hall => ?_⟩
    · rw [Function.iterate_succ_apply', sweep_world hnn, hw, List.append_assoc]
    · have h1 := hpos fun i hi1 hij => hall i hi1 (by omega)
      have h2 := @one_le_positives_of_pending hooks hnn ((sweep hooks.call)^[j] st)
        (by simpa [Function.iterate_succ_apply'] using hall (j + 1) (by omega) le_rfl)
      simp only [List.filter_append, List.length_append]
      omega

end Progress

/-- **A loop with at most `K ≤ 99` positive results quiesces.** If, over all sweeps,
at most `K` hook calls return a positive value, the loop stops with `pending = 0`
after at most `K + 1` sweeps. -/
theorem closeLoop_quiesces (hooks : Hooks) (hnn : ∀ h x, 0 ≤ hooks h x)
    (h0 : List (Interface × Int)) (K : Nat) (hK : K + 1 ≤ 100)
    (hpos : (((closeLoop hooks.call 0 (Sweep.start h0)).1.world.drop h0.length).filter
      (fun c => 0 < c.2)).length ≤ K) :
    (closeLoop hooks.call 0 (Sweep.start h0)).1.pending = 0 ∧
    ∃ k, 1 ≤ k ∧ k ≤ K + 1 ∧
      (closeLoop hooks.call 0 (Sweep.start h0)).1 = (sweep hooks.call)^[k] (Sweep.start h0) := by
  obtain ⟨k, hk1, -, hrun, hmid, hlast⟩ :=
    @closeLoop_iterate _ hooks.call 0 (Sweep.start h0) (Nat.zero_le _)
  obtain ⟨i, rfl⟩ : ∃ i, k = i + 1 := ⟨k - 1, by omega⟩
  obtain ⟨cs, hw, hcs⟩ := iterate_world hnn (Sweep.start h0) i
  have hi := hcs fun j hj1 hji => hmid j hj1 (by omega)
  rw [hrun, Function.iterate_succ_apply', sweep_world hnn, hw, List.append_assoc] at hpos
  simp only [Sweep.start, List.drop_left, List.filter_append, List.length_append] at hpos
  rw [hrun]
  refine ⟨?_, i + 1, hk1, by omega, rfl⟩
  by_contra hp
  rw [Function.iterate_succ_apply'] at hp
  have := hlast (by rwa [Function.iterate_succ_apply'])
  have := one_le_positives_of_pending hnn hp
  omega

/-- `H5ES_term_package` reports work on its first call only. -/
def Hooks.esOnce : Hooks := fun h x => if x = .ES ∧ h = [] then 1 else 0

/-- With `K = 1`, the loop stops after its second sweep. -/
theorem closeLoop_quiesces_es_once :
    (∀ h x, 0 ≤ Hooks.esOnce h x) ∧ 1 + 1 ≤ 100 ∧
    (((closeLoop Hooks.esOnce.call 0 (Sweep.start [])).1.world.drop 0).filter
      (fun c => 0 < c.2)).length ≤ 1 ∧
    ((closeLoop Hooks.esOnce.call 0 (Sweep.start [])).1.pending = 0 ∧
    ∃ k, 1 ≤ k ∧ k ≤ 1 + 1 ∧ (closeLoop Hooks.esOnce.call 0 (Sweep.start [])).1 =
      (sweep Hooks.esOnce.call)^[k] (Sweep.start [])) := by
  have hnn : ∀ h x, 0 ≤ Hooks.esOnce h x := fun h x => by
    unfold Hooks.esOnce
    split <;> decide
  have hrun : (closeLoop Hooks.esOnce.call 0 (Sweep.start [])).1 =
      sweep Hooks.esOnce.call (sweep Hooks.esOnce.call (Sweep.start [])) := by
    rw [closeLoop, if_pos (by decide), if_pos (by decide), closeLoop, if_neg (by decide)]
  have hpos : (((closeLoop Hooks.esOnce.call 0 (Sweep.start [])).1.world.drop 0).filter
      (fun c => 0 < c.2)).length ≤ 1 := by
    rw [hrun]
    decide
  exact ⟨hnn, by decide, hpos, closeLoop_quiesces Hooks.esOnce hnn [] 1 (by decide) hpos⟩

/-! ### Hooks that never quiesce -/

theorem sweep_busy (st : Sweep (List (Interface × Int))) :
    (sweep (Hooks.call fun _ _ => 1) st).world = st.world ++ [(.ES, 1)] ∧
    (sweep (Hooks.call fun _ _ => 1) st).pending = 1 := by
  have hnn : ∀ h x, 0 ≤ (fun _ _ => 1 : Hooks) h x := fun _ _ => Int.le_of_lt Int.one_pos
  have hcalls : gatedCalls (fun _ _ => 1) groups st.world = [(.ES, 1)] := by
    simp [gatedCalls, groupCalls, groups]
  rw [(sweep_history hnn st).1, (sweep_history hnn st).2, hcalls]
  exact ⟨rfl, rfl⟩

theorem iterate_busy (j : Nat) :
    ((sweep (Hooks.call fun _ _ => 1))^[j + 1] (Sweep.start [])).world =
      List.replicate (j + 1) (.ES, 1) ∧
    ((sweep (Hooks.call fun _ _ => 1))^[j + 1] (Sweep.start [])).pending = 1 := by
  induction j with
  | zero =>
    rw [Function.iterate_succ_apply', Function.iterate_zero_apply]
    exact sweep_busy _
  | succ j ih =>
    rw [Function.iterate_succ_apply', (sweep_busy _).1, (sweep_busy _).2, ih.1]
    exact ⟨by simp [List.replicate_succ'], rfl⟩

/-- **Hooks that never quiesce are swept 101 times.** When every hook call returns 1,
`H5ES_term_package` is called 101 times and the loop stops with `pending = 1`. -/
theorem closeLoop_busy_hooks :
    (closeLoop (Hooks.call fun _ _ => 1) 0 (Sweep.start [])).1.world =
      List.replicate 101 (.ES, 1) ∧
    (closeLoop (Hooks.call fun _ _ => 1) 0 (Sweep.start [])).1.pending = 1 := by
  obtain ⟨k, hk1, hk, hrun, -, hlast⟩ :=
    @closeLoop_iterate _ (Hooks.call fun _ _ => 1) 0 (Sweep.start []) (Nat.zero_le _)
  obtain ⟨i, rfl⟩ : ∃ i, k = i + 1 := ⟨k - 1, by omega⟩
  have h101 : i + 1 = 101 := hlast (by rw [(iterate_busy i).2]; decide)
  rw [hrun, h101]
  exact iterate_busy 100

/-! ### Whatever the hooks return -/

section AnyResults

variable (hooks : Hooks)

/-- Whatever the hooks return, a gated sweep calls the hooks of a prefix of its groups'
order. -/
theorem gatedSweep_prefix : ∀ (gs : List (List Interface)) (st : Sweep (List (Interface × Int))),
    ∃ B, (gatedSweep hooks.call gs st).world = st.world ++ B ∧ B.map Prod.fst <+: gs.flatten
  | [], st => ⟨[], by simp [gatedSweep], List.nil_prefix⟩
  | g :: gs, st => by
    rw [gatedSweep_cons, gate]
    split
    · obtain ⟨B, hB, hpre⟩ := gatedSweep_prefix gs (downs hooks.call g st)
      refine ⟨groupCalls hooks g st.world ++ B, ?_, ?_⟩
      · rw [hB, (downs_history hooks g st).1, List.append_assoc]
      · rw [List.map_append, groupCalls_fst, List.flatten_cons]
        exact (List.prefix_append_right_inj g).mpr hpre
    · rename_i hp
      exact ⟨[], by rw [gatedSweep_of_pending_ne_zero _ _ hp, List.append_nil], List.nil_prefix⟩

/-- Whatever the hooks return, a sweep calls `H5ES_term_package` and then follows the
order of `groups`, each hook at most once. -/
theorem sweep_prefix (st : Sweep (List (Interface × Int))) :
    ∃ B, (sweep hooks.call st).world = st.world ++ B ∧ B ≠ [] ∧ B.map Prod.fst <+: groups.flatten := by
  obtain ⟨B, hB, hpre⟩ :=
    gatedSweep_prefix hooks groups.tail (downs hooks.call [.ES] { st with pending := 0 })
  refine ⟨groupCalls hooks [.ES] st.world ++ B, ?_, by simp [groupCalls], ?_⟩
  · rw [sweep_eq_gatedSweep, show groups = [.ES] :: groups.tail from rfl, gatedSweep_cons, gate,
      if_pos rfl, hB, (downs_history hooks [.ES] _).1, List.append_assoc]
  · rw [List.map_append, groupCalls_fst, show groups = [.ES] :: groups.tail from rfl,
      List.flatten_cons]
    exact (List.prefix_append_right_inj _).mpr hpre

theorem iterate_prefix : ∀ (k : Nat) (st : Sweep (List (Interface × Int))),
    ∃ blocks : List (List (Interface × Int)), blocks.length = k ∧
      ((sweep hooks.call)^[k] st).world = st.world ++ blocks.flatten ∧
      ∀ B ∈ blocks, B ≠ [] ∧ B.map Prod.fst <+: groups.flatten
  | 0, st => ⟨[], rfl, by simp, by simp⟩
  | k + 1, st => by
    obtain ⟨blocks, hlen, hw, hB⟩ := iterate_prefix k st
    obtain ⟨B, hB', hne, hpre⟩ := sweep_prefix hooks ((sweep hooks.call)^[k] st)
    refine ⟨blocks ++ [B], by simp [hlen], ?_, ?_⟩
    · rw [Function.iterate_succ_apply', hB', hw, List.flatten_append, List.flatten_singleton,
        List.append_assoc]
    · intro B' hB''
      rcases List.mem_append.mp hB'' with h | h
      · exact hB B' h
      · rw [List.mem_singleton.mp h]
        exact ⟨hne, hpre⟩

/-- **The shutdown loop's work is bounded, whatever the hooks return.** Negative results
included, the loop makes between 1 and 101 sweeps; each calls `H5ES_term_package` first
and then hooks in the order of `groups`, each at most once; so `H5_term_library` makes at
most 2626 `term_package` calls. -/
theorem closeLoop_hook_calls (h0 : List (Interface × Int)) :
    ∃ blocks : List (List (Interface × Int)), 1 ≤ blocks.length ∧ blocks.length ≤ 101 ∧
      (closeLoop hooks.call 0 (Sweep.start h0)).1.world = h0 ++ blocks.flatten ∧
      (∀ B ∈ blocks, B ≠ [] ∧ B.map Prod.fst <+: groups.flatten) ∧
      (closeLoop hooks.call 0 (Sweep.start h0)).1.world.length ≤ h0.length + 2626 := by
  obtain ⟨k, hk1, hk, hrun, -⟩ := @closeLoop_iterate _ hooks.call 0 (Sweep.start h0) (Nat.zero_le _)
  obtain ⟨blocks, hlen, hw, hB⟩ := iterate_prefix hooks k (Sweep.start h0)
  have hw' : (closeLoop hooks.call 0 (Sweep.start h0)).1.world = h0 ++ blocks.flatten := by
    rw [hrun, hw]; rfl
  -- each sweep makes at most the twenty-six calls of `groups`
  have h26 : ∀ n ∈ blocks.map List.length, n ≤ 26 := by
    intro n hn
    obtain ⟨B, hB'', rfl⟩ := List.mem_map.mp hn
    simpa using (hB B hB'').2.length_le
  have hsum := List.sum_le_card_nsmul _ _ h26
  rw [List.length_map, smul_eq_mul] at hsum
  refine ⟨blocks, by omega, by omega, hw', hB, ?_⟩
  rw [hw', List.length_append, List.length_flatten]
  omega

end AnyResults

end H5Lifecycle
