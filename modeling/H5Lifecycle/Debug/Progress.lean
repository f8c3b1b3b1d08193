import H5Lifecycle.Debug.Mask

/-!
Progress of the `while (s && *s)` loop of `H5__debug_mask` (`src/H5.c`).

`maskPass` is one pass of the loop body: it ends the loop, or moves `s` on with a new
`pkg_name` and state. `debugMaskLoop_eq_maskPass` shows that `debugMaskLoop` is that
body run again and again, and `maskRun` runs it with a bound on the number of passes.

* `maskPass_consumes` — every pass that goes on consumes a non-empty prefix of `s`
  holding no NUL: `s` advances and never past its terminator.
* `debugMask_terminates` — from any string the loop ends within `length + 1` passes,
  with the state `debugMaskLoop` computes; the numeric branch's `strtol` consumes at
  least one digit; the name loop writes `pkg_name` only below index 32 and puts its
  terminator at `min(31, length of the name)`.
-/

namespace H5Lifecycle

/-- What one pass of the loop body leaves: the loop ends (at the end of `s`, at its NUL,
or by the `return` after a failed `H5MM_malloc`), or it goes on from the new `s` with
`pkg_name` and the state. -/
inductive MaskPass where
  | done (st : MaskState)
  | next (s : List Char) (pkgName : Buffer) (st : MaskState)

/-- One pass of the body of `while (s && *s)` in `H5__debug_mask`. -/
def maskPass (io : DebugIo) : List Char → Buffer → MaskState → MaskPass
  | [], _, st => .done st
  | c :: cs, pkgName, st =>
    if c = '\x00' then .done st
    else if c.isAlpha ∨ c = '-' ∨ c = '+' then
      let r := nameLoop (if c = '-' ∨ c = '+' then cs else c :: cs) 0 pkgName
      let buf := writeAt r.2.1 (min 31 r.1) '\x00'
      .next r.2.2 buf (applyName (cStr buf 0 32) (c = '-') st)
    else if c.isDigit then
      let r := strtol0 (c :: cs)
      let o := openFd io r.1 st
      if o.2 then .next r.2 pkgName o.1 else .done o.1
    else .next cs pkgName st

/-- At most `n` passes of the loop: the state it ends in, or `none` if it is still running. -/
def maskRun (io : DebugIo) : Nat → List Char → Buffer → MaskState → Option MaskState
  | 0, _, _, _ => none
  | n + 1, s, buf, st =>
    match maskPass io s buf st with
    | .done st' => some st'
    | .next s' buf' st' => maskRun io n s' buf' st'

/-- The loop is its body, run until a pass ends it. -/
theorem debugMaskLoop_eq_maskPass (io : DebugIo) (s : List Char) (buf : Buffer)
    (st : MaskState) :
    debugMaskLoop io s buf st =
      match maskPass io s buf st with
      | .done st' => st'
      | .next s' buf' st' => debugMaskLoop io s' buf' st' := by
  cases s with
  | nil => rw [debugMaskLoop]; rfl
  | cons c cs =>
    rw [debugMaskLoop]
    simp only [maskPass]
    split_ifs <;> rfl

/-! ### The name loop -/

theorem nameLoop_above (s : List Char) (buf : Buffer) {j : Nat} (hj : 32 ≤ j) :
    (nameLoop s 0 buf).2.1 j = buf j := by
  rw [(nameLoop_eq s 0 buf).2.2, dif_neg (by omega)]

/-- The name branch: `pkg_name` changes only below index 32, and holds a NUL at
`min(31, i)`, where `i` is the length of the name. -/
theorem maskPass_name (io : DebugIo) {c : Char} (cs : List Char) (buf : Buffer) (st : MaskState)
    (hc : c.isAlpha ∨ c = '-' ∨ c = '+') :
    ∃ buf' st', maskPass io (c :: cs) buf st =
        .next ((if c = '-' ∨ c = '+' then cs else c :: cs).dropWhile Char.isAlpha) buf' st' ∧
      (∀ j, 32 ≤ j → buf' j = buf j) ∧
      buf' (min 31 ((if c = '-' ∨ c = '+' then cs else c :: cs).takeWhile Char.isAlpha).length) =
        some '\x00' := by
  have h0 : c ≠ '\x00' := by rintro rfl; revert hc; decide
  set x := if c = '-' ∨ c = '+' then cs else c :: cs with hx
  obtain ⟨h1, h2, -⟩ := nameLoop_eq x 0 buf
  refine ⟨writeAt (nameLoop x 0 buf).2.1 (min 31 (nameLoop x 0 buf).1) '\x00',
    applyName (cStr (writeAt (nameLoop x 0 buf).2.1 (min 31 (nameLoop x 0 buf).1) '\x00') 0 32)
      (decide (c = '-')) st, ?_, fun j hj => ?_, ?_⟩
  · simp only [maskPass, if_neg h0, if_pos hc, ← hx, h2]
  · rw [writeAt, if_neg (show j ≠ min 31 (nameLoop x 0 buf).1 by omega)]
    exact nameLoop_above _ buf hj
  · simp [writeAt, h1]

/-! ### What a pass consumes -/

theorem digitVal_nul (b : Nat) : digitVal b '\x00' = none := by
  simp [digitVal, show ¬ '\x00'.isDigit by decide, show ¬ '\x00'.isLower by decide,
    show ¬ '\x00'.isUpper by decide]

/-- `strtol` stops at the first character that is not a digit of its base. -/
theorem readDigits_consumes (b : Nat) : ∀ (s : List Char) (v : Nat),
    ∃ p, s = p ++ (readDigits b s v).2 ∧ '\x00' ∉ p
  | [], _ => ⟨[], rfl, by simp⟩
  | c :: cs, v => by
    unfold readDigits
    split
    · rename_i d hd
      obtain ⟨p, hp, hnul⟩ := readDigits_consumes b cs (v * b + d)
      refine ⟨c :: p, by rw [List.cons_append, ← hp], ?_⟩
      rintro (_ | ⟨_, h⟩)
      · rw [digitVal_nul] at hd; cases hd
      · exact hnul h
    · exact ⟨[], rfl, by simp⟩

/-- **`strtol` consumes at least one digit**: from a digit, the numeric branch moves `s`
past a non-empty prefix with no NUL. -/
theorem strtol0_consumes {c : Char} (hc : c.isDigit = true) (cs : List Char) :
    ∃ p, p ≠ [] ∧ '\x00' ∉ p ∧ c :: cs = p ++ (strtol0 (c :: cs)).2 := by
  have hlt := strtol0_length_lt hc cs
  suffices ∃ p, c :: cs = p ++ (strtol0 (c :: cs)).2 ∧ '\x00' ∉ p by
    obtain ⟨p, hp, hnul⟩ := this
    refine ⟨p, fun h => ?_, hnul, hp⟩
    rw [h, List.nil_append] at hp
    rw [← hp] at hlt
    exact lt_irrefl _ hlt
  unfold strtol0
  split
  · rename_i x d ds heq
    obtain ⟨rfl, rfl⟩ := List.cons.inj heq
    split
    · rename_i hx
      obtain ⟨p, hp, hnul⟩ := readDigits_consumes 16 (d :: ds) 0
      refine ⟨'0' :: x :: p, congrArg (fun l => '0' :: x :: l) hp, ?_⟩
      have hxn : x ≠ '\x00' := by rcases hx.1 with rfl | rfl <;> decide
      simp only [List.mem_cons, not_or]
      exact ⟨by decide, Ne.symm hxn, hnul⟩
    · exact readDigits_consumes 8 _ 0
  · exact readDigits_consumes _ _ 0

theorem takeWhile_isAlpha_nul (s : List Char) : '\x00' ∉ s.takeWhile Char.isAlpha := fun h =>
  absurd (List.mem_takeWhile_imp h) (by decide)

/-- **Every pass that goes on consumes a non-empty prefix of `s` with no NUL in it**: `s`
advances by at least one character and never past its terminator. -/
theorem maskPass_consumes {io : DebugIo} {s : List Char} {buf : Buffer} {st : MaskState}
    {s' : List Char} {buf' : Buffer} {st' : MaskState}
    (h : maskPass io s buf st = .next s' buf' st') :
    ∃ p, p ≠ [] ∧ '\x00' ∉ p ∧ s = p ++ s' := by
  match s with
  | [] => cases h
  | c :: cs =>
    have h0 : c ≠ '\x00' := by rintro rfl; simp [maskPass] at h
    by_cases hn : c.isAlpha ∨ c = '-' ∨ c = '+'
    · obtain ⟨_, _, hname, -⟩ := maskPass_name io cs buf st hn
      rw [hname] at h
      cases h
      by_cases hs : c = '-' ∨ c = '+'
      · -- a sign, then the name
        rw [if_pos hs]
        refine ⟨c :: cs.takeWhile Char.isAlpha, List.cons_ne_nil _ _, ?_, ?_⟩
        · rintro (_ | ⟨_, h⟩)
          · exact h0 rfl
          · exact takeWhile_isAlpha_nul cs h
        · rw [List.cons_append, List.takeWhile_append_dropWhile]
      · -- a letter starts the name
        rw [if_neg hs]
        have ha : c.isAlpha = true := by tauto
        refine ⟨(c :: cs).takeWhile Char.isAlpha, by simp [List.takeWhile_cons, ha],
          takeWhile_isAlpha_nul _, (List.takeWhile_append_dropWhile _ _).symm⟩
    simp only [maskPass, if_neg h0, if_neg hn] at h
    by_cases hd : c.isDigit
    · -- a numeral
      rw [if_pos hd] at h
      split at h
      · cases h
        exact strtol0_consumes hd cs
      · cases h
    · -- any other character is skipped
      rw [if_neg hd] at h
      cases h
      exact ⟨[c], List.cons_ne_nil _ _, by simpa using Ne.symm h0, rfl⟩

/-! ### Termination -/

/-- Enough passes: from `s`, any bound above its length lets the loop finish, with the
state `debugMaskLoop` computes. -/
theorem maskRun_of_length_lt (io : DebugIo) :
    ∀ (n : Nat) (s : List Char) (buf : Buffer) (st : MaskState), s.length < n →
      maskRun io n s buf st = some (debugMaskLoop io s buf st)
  | 0, _, _, _, h => absurd h (Nat.not_lt_zero _)
  | n + 1, s, buf, st, h => by
    rw [maskRun, debugMaskLoop_eq_maskPass]
    split
    · rfl
    · rename_i s' buf' st' hp
      obtain ⟨p, hp0, -, rfl⟩ := maskPass_consumes hp
      have : p.length ≠ 0 := fun h => hp0 (List.eq_nil_of_length_eq_zero h)
      simp only [List.length_append] at h
      exact maskRun_of_length_lt io n s' buf' st' (by omega)

/-- **`H5__debug_mask` terminates.** Every pass of its loop that goes on consumes a
non-empty prefix of `s` with no NUL, so from any string the loop ends within
`length + 1` passes with the state `debugMaskLoop` computes. The numeric branch's
`strtol` consumes at least one digit; the name loop writes `pkg_name` only at indices
below 32 and puts the terminator at `min(31, length of the name)`. -/
theorem debugMask_terminates (io : DebugIo) :
    (∀ s buf st s' buf' st', maskPass io s buf st = .next s' buf' st' →
      ∃ p, p ≠ [] ∧ '\x00' ∉ p ∧ s = p ++ s') ∧
    (∀ s buf st, maskRun io (s.length + 1) s buf st = some (debugMaskLoop io s buf st)) ∧
    (∀ c cs, c.isDigit = true →
      ∃ p, p ≠ [] ∧ '\x00' ∉ p ∧ c :: cs = p ++ (strtol0 (c :: cs)).2) ∧
    (∀ s buf j, 32 ≤ j → (nameLoop s 0 buf).2.1 j = buf j) ∧
    (∀ c cs buf st, c.isAlpha ∨ c = '-' ∨ c = '+' →
      ∃ buf' st', maskPass io (c :: cs) buf st =
          .next ((if c = '-' ∨ c = '+' then cs else c :: cs).dropWhile Char.isAlpha) buf' st' ∧
        (∀ j, 32 ≤ j → buf' j = buf j) ∧
        buf' (min 31 ((if c = '-' ∨ c = '+' then cs else c :: cs).takeWhile Char.isAlpha).length) =
          some '\x00') :=
  ⟨fun _ _ _ _ _ _ h => maskPass_consumes h,
    fun s buf st => maskRun_of_length_lt io _ s buf st (Nat.lt_succ_self _),
    fun _ cs hc => strtol0_consumes hc cs,
    fun s buf _ hj => nameLoop_above s buf hj,
    fun _ cs buf st hc => maskPass_name io cs buf st hc⟩

end H5Lifecycle
