import H5Lifecycle.Debug.Mask

/-!
What `H5__debug_mask` does, token by token.

`tokens` cuts a flag string as the loop of `H5__debug_mask` consumes it, and
`debugMaskLoop_eq_runTokens` shows that the loop is `runTokens`, one action per
token; the name buffer and `strcmp` drop out there (`pkgName_eq`).

* `debugMask_last_word` — when every `HDfdopen` and every `H5MM_malloc` succeeds,
  each package stream and each trace setting is decided by the last token that
  names it, with the stream current at that token.
* `debugMask_failed_open_disables` — a descriptor that fails to open leaves the
  current stream `NULL`: the package named after it gets no output.
* `debugMask_recorded` — every stream the mask leaves in `H5_debug_g` is `stderr` or
  one it recorded in `open_stream`, whichever `HDfdopen` or `H5MM_malloc` fails.
-/

namespace H5Lifecycle

/-! ### Tokens -/

/-- A token of the flag string: a name with its sign, or a numeral. -/
inductive Token where
  | word (clear : Bool) (name : List Char)
  | number (fd : Int)

/-- The tokens of a flag string, up to its NUL, as the loop of `H5__debug_mask` reads them. -/
def tokens : List Char → List Token
  | [] => []
  | c :: cs =>
    if c = '\x00' then []
    else if h : c.isAlpha ∨ c = '-' ∨ c = '+' then
      let s := if c = '-' ∨ c = '+' then cs else c :: cs
      have := @dropWhile_rest_length c cs h
      .word (c = '-') (s.takeWhile Char.isAlpha) :: tokens (s.dropWhile Char.isAlpha)
    else if hd : c.isDigit then
      have := strtol0_length_lt hd cs
      .number (strtol0 (c :: cs)).1 :: tokens (strtol0 (c :: cs)).2
    else tokens cs
termination_by s => s.length

/-- The loop's effect, one token at a time. -/
def runTokens (io : DebugIo) : List Token → MaskState → MaskState
  | [], st => st
  | .word clear name :: ts, st => runTokens io ts (applyName (name.take 31) clear st)
  | .number fd :: ts, st => if (openFd io fd st).2 then runTokens io ts (openFd io fd st).1
      else (openFd io fd st).1

theorem debugMaskLoop_eq_runTokens (io : DebugIo) (s : List Char) (buf : Buffer) (st : MaskState) :
    debugMaskLoop io s buf st = runTokens io (tokens s) st := by
  induction s, buf, st using debugMaskLoop.induct io with
  | case1 => simp [debugMaskLoop, tokens, runTokens]
  | case2 => simp [debugMaskLoop, tokens, runTokens]
  | case3 c cs buf st h0 h r _ buf' ih =>
    rw [debugMaskLoop, tokens, if_neg h0, if_neg h0, dif_pos h, dif_pos h]
    simp only [runTokens]
    rw [← pkgName_eq, ← (nameLoop_eq _ 0 buf).2.1]
    exact ih
  | case4 c cs buf st h0 h hd r _ o ho ih =>
    rw [debugMaskLoop, tokens, if_neg h0, if_neg h0, dif_neg h, dif_neg h, dif_pos hd, dif_pos hd]
    simp only [runTokens]
    rw [if_pos ho, if_pos ho]
    exact ih
  | case5 c cs buf st h0 h hd r _ o ho =>
    rw [debugMaskLoop, tokens, if_neg h0, if_neg h0, dif_neg h, dif_neg h, dif_pos hd, dif_pos hd]
    simp only [runTokens]
    rw [if_neg ho, if_neg ho]
  | case6 c cs buf st h0 h hd ih =>
    rw [debugMaskLoop, tokens, if_neg h0, if_neg h0, dif_neg h, dif_neg h, dif_neg hd, dif_neg hd]
    exact ih

/-! ### What one name does -/

theorem Pkg.mem_all (p : Pkg) : p ∈ Pkg.all := by cases p <;> decide

theorem Pkg.name_inj {p q : Pkg} (h : p.name = q.name) : p = q :=
  List.inj_on_of_nodup_map (by decide : (Pkg.all.map Pkg.name).Nodup) p.mem_all q.mem_all h

theorem Pkg.name_ne (p : Pkg) :
    p.name ≠ "trace".toList ∧ p.name ≠ "ttop".toList ∧ p.name ≠ "ttimes".toList ∧
      p.name ≠ "all".toList := by
  cases p <;> decide

theorem Pkg.name_length_lt (p : Pkg) : p.name.length < 31 := by cases p <;> decide

/-- A name compared after truncation to 31 letters equals a short name only when it is it. -/
theorem take_eq_iff {n t : List Char} (ht : t.length < 31) : n.take 31 = t ↔ n = t := by
  refine ⟨fun h => ?_, fun h => by subst h; exact List.take_of_length_le (by omega)⟩
  by_cases hn : n.length ≤ 31
  · rwa [List.take_of_length_le hn] at h
  · have := congrArg List.length h
    rw [List.length_take] at this
    omega

theorem applyName_stream (name : List Char) (clear : Bool) (st : MaskState) :
    (applyName name clear st).stream = st.stream ∧ (applyName name clear st).calls = st.calls := by
  unfold applyName
  dsimp only
  split_ifs <;> try exact ⟨rfl, rfl⟩
  all_goals split <;> exact ⟨rfl, rfl⟩

theorem find_pkg_some {n : List Char} {q : Pkg}
    (h : Pkg.all.find? (fun p => p.name = n) = some q) : q.name = n := by
  simpa using List.find?_some h

theorem find_pkg_none {n : List Char} (h : Pkg.all.find? (fun p => p.name = n) = none)
    (p : Pkg) : p.name ≠ n := by
  simpa using List.find?_eq_none.mp h p p.mem_all

theorem applyName_pkg (n : List Char) (clear : Bool) (st : MaskState) (p : Pkg) :
    (applyName n clear st).dbg.pkg p =
      if n = p.name ∨ n = "all".toList then (if clear then none else st.stream)
      else st.dbg.pkg p := by
  obtain ⟨h1, h2, h3, h4⟩ := p.name_ne
  have hne : ∀ t : List Char, t ≠ "all".toList → t ≠ p.name → ¬ (t = p.name ∨ t = "all".toList) :=
    fun t ha hp h => h.elim hp ha
  unfold applyName
  dsimp only
  by_cases ht : n = "trace".toList
  · rw [if_pos ht, if_neg (hne _ (ht ▸ by decide) (ht ▸ Ne.symm h1))]
  rw [if_neg ht]
  by_cases ht : n = "ttop".toList
  · rw [if_pos ht, if_neg (hne _ (ht ▸ by decide) (ht ▸ Ne.symm h2))]
  rw [if_neg ht]
  by_cases ht : n = "ttimes".toList
  · rw [if_pos ht, if_neg (hne _ (ht ▸ by decide) (ht ▸ Ne.symm h3))]
  rw [if_neg ht]
  by_cases ha : n = "all".toList
  · rw [if_pos ha, if_pos (Or.inr ha)]
  rw [if_neg ha]
  split
  · rename_i q hq
    have hq' := find_pkg_some hq
    by_cases hpq : p = q
    · subst hpq
      simp [hq']
    · dsimp only
      rw [Function.update_noteq hpq, if_neg (hne _ ha fun h => hpq (Pkg.name_inj (h ▸ hq').symm))]
  · rename_i hq
    rw [if_neg (hne _ ha fun h => find_pkg_none hq p h.symm)]

theorem applyName_flags (n : List Char) (clear : Bool) (st : MaskState) :
    (applyName n clear st).dbg.trace =
      (if n = "trace".toList then (if clear then none else st.stream)
       else if n = "ttop".toList ∨ n = "ttimes".toList then st.stream else st.dbg.trace) ∧
    (applyName n clear st).dbg.ttop = (if n = "ttop".toList then !clear else st.dbg.ttop) ∧
    (applyName n clear st).dbg.ttimes =
      (if n = "ttimes".toList then !clear else st.dbg.ttimes) := by
  unfold applyName
  dsimp only
  by_cases ht : n = "trace".toList
  · subst ht; simp
  by_cases ht' : n = "ttop".toList
  · subst ht'; simp
  by_cases ht'' : n = "ttimes".toList
  · subst ht''; simp
  simp only [ht, ht', ht'', or_self, if_false]
  split_ifs <;> try exact ⟨rfl, rfl, rfl⟩
  all_goals split <;> exact ⟨rfl, rfl, rfl⟩

/-- Opening a stream touches no package stream and no trace setting. -/
theorem openFd_dbg (io : DebugIo) (fd : Int) (st : MaskState) :
    (openFd io fd st).1.dbg.pkg = st.dbg.pkg ∧ (openFd io fd st).1.dbg.trace = st.dbg.trace ∧
    (openFd io fd st).1.dbg.ttop = st.dbg.ttop ∧
    (openFd io fd st).1.dbg.ttimes = st.dbg.ttimes := by
  unfold openFd
  split <;> (try split) <;> exact ⟨rfl, rfl, rfl, rfl⟩

theorem openFd_spec (io : DebugIo) (fd : Int) (st : MaskState)
    (hm : (io.fdopen st.calls fd).isSome → io.malloc st.calls = true) :
    (openFd io fd st).2 = true ∧ (openFd io fd st).1.stream = io.fdopen st.calls fd ∧
    (openFd io fd st).1.calls = st.calls + 1 ∧ (openFd io fd st).1.out = st.out ∧
    (openFd io fd st).1.dbg = { st.dbg with openStream := (openFd io fd st).1.dbg.openStream } := by
  unfold openFd
  split
  · exact ⟨rfl, rfl, rfl, rfl, rfl⟩
  · rename_i f hf
    rw [if_pos (hm (by simp [hf]))]
    exact ⟨rfl, rfl, rfl, rfl, rfl⟩

/-! ### The last word wins -/

/-- The descriptors of the numeric tokens, in order. -/
def numerals : List Token → List Int
  | [] => []
  | .word _ _ :: ts => numerals ts
  | .number fd :: ts => fd :: numerals ts

/-- Each word token with its sign, its name and the stream current when the loop
reaches it, from call number `k` and current stream `cur` on. -/
def streamed (io : DebugIo) : List Token → Nat → Option Stream → List (Bool × List Char × Option Stream)
  | [], _, _ => []
  | .word clear name :: ts, k, cur => (clear, name, cur) :: streamed io ts k cur
  | .number fd :: ts, k, _ => streamed io ts (k + 1) (io.fdopen k fd)

/-- No `H5MM_malloc` after a successful `HDfdopen` fails, so the loop reads all tokens. -/
def NoReturn (io : DebugIo) : List Token → Nat → Prop
  | [], _ => True
  | .word _ _ :: ts, k => NoReturn io ts k
  | .number fd :: ts, k => ((io.fdopen k fd).isSome → io.malloc k = true) ∧ NoReturn io ts (k + 1)

section LastWord

variable (io : DebugIo) {α : Type} (get : MaskState → α) (r : List Char → Prop) [DecidablePred r]
  (val : Bool → List Char → Option Stream → α)

/-- **The last word wins.** A setting that each name token either overwrites from the
current stream or leaves alone ends with the value the last token that touches it wrote. -/
theorem runTokens_last
    (hw : ∀ n clear st, get (applyName (n.take 31) clear st) =
      if r n then val clear n st.stream else get st)
    (hn : ∀ fd st, get (openFd io fd st).1 = get st) :
    ∀ (ts : List Token) (st : MaskState), NoReturn io ts st.calls →
      get (runTokens io ts st) =
        match (streamed io ts st.calls st.stream).reverse.find? (fun w => r w.2.1) with
        | none => get st
        | some (clear, n, cur) => val clear n cur
  | [], st, _ => rfl
  | .word clear n :: ts, st, hts => by
    have ⟨hs, hc⟩ := applyName_stream (n.take 31) clear st
    have ih := runTokens_last hw hn ts (applyName (n.take 31) clear st) (hc ▸ hts)
    simp only [runTokens, streamed, ih, hs, hc, List.reverse_cons, List.find?_append]
    cases (streamed io ts st.calls st.stream).reverse.find? (fun w => r w.2.1) with
    | some w => rfl
    | none => by_cases hr : r n <;> simp [hw, hr]
  | .number fd :: ts, st, hts => by
    obtain ⟨hm, hts⟩ := hts
    obtain ⟨h2, hs, hc, -, -⟩ := openFd_spec io fd st hm
    have ih := runTokens_last hw hn ts (openFd io fd st).1 (hc ▸ hts)
    simp only [runTokens, streamed, h2, if_true, ih, hs, hc, hn]

end LastWord

theorem noReturn_of_opens (io : DebugIo) : ∀ (ts : List Token) (k0 : Nat),
    (∀ k (h : k < (numerals ts).length),
      (io.fdopen (k0 + k) (numerals ts)[k]).isSome ∧ io.malloc (k0 + k) = true) →
    NoReturn io ts k0 ∧
      ∀ cur : Option Stream, cur.isSome → ∀ w ∈ streamed io ts k0 cur, w.2.2.isSome
  | [], _, _ => ⟨trivial, by simp [streamed]⟩
  | .word _ _ :: ts, k0, h => by
    have ih := noReturn_of_opens io ts k0 h
    refine ⟨ih.1, fun cur hc w hw => ?_⟩
    rcases List.mem_cons.mp hw with rfl | hw
    exacts [hc, ih.2 cur hc w hw]
  | .number fd :: ts, k0, h => by
    have h0 := h 0 (by simp [numerals])
    have ih := noReturn_of_opens io ts (k0 + 1) fun k hk => by
      simpa [numerals, Nat.add_assoc, Nat.add_comm 1] using h (k + 1) (by simpa [numerals])
    exact ⟨⟨fun _ => h0.2, ih.1⟩, fun _ _ => ih.2 _ h0.1⟩

/-- The word tokens of `s`, each with its sign and the stream current when
`H5__debug_mask` reaches it. -/
def words (io : DebugIo) (s : List Char) : List (Bool × List Char × Option Stream) :=
  streamed io (tokens s) 0 (some .stderr)

/-- The last word token of `s` whose name satisfies `r`. -/
def lastWord (io : DebugIo) (s : List Char) (r : List Char → Prop) [DecidablePred r] :
    Option (Bool × List Char × Option Stream) :=
  (words io s).reverse.find? fun w => r w.2.1

theorem debugMask_some (io : DebugIo) (s : List Char) (dbg : Debug) :
    (debugMask io (some s) dbg).1 = (runTokens io (tokens s) ⟨some .stderr, dbg, 0, []⟩).dbg := by
  simp only [debugMask, debugMaskLoop_eq_runTokens]

section Fields

variable (io : DebugIo) {ts : List Token} {st : MaskState}

theorem runTokens_pkg (p : Pkg) (h : NoReturn io ts st.calls) :
    (runTokens io ts st).dbg.pkg p =
      match (streamed io ts st.calls st.stream).reverse.find?
        fun w => w.2.1 = p.name ∨ w.2.1 = "all".toList with
      | none => st.dbg.pkg p
      | some (clear, _, cur) => if clear then none else cur :=
  runTokens_last io (fun st => st.dbg.pkg p) (fun n => n = p.name ∨ n = "all".toList)
    (fun c _ cur => if c then none else cur)
    (fun n clear st => by
      simp only [applyName_pkg, take_eq_iff p.name_length_lt,
        take_eq_iff (by decide : "all".toList.length < 31)])
    (fun fd st => congrFun (openFd_dbg io fd st).1 p) ts st h

theorem runTokens_trace (h : NoReturn io ts st.calls) :
    (runTokens io ts st).dbg.trace =
      match (streamed io ts st.calls st.stream).reverse.find?
        fun w => w.2.1 = "trace".toList ∨ w.2.1 = "ttop".toList ∨ w.2.1 = "ttimes".toList with
      | none => st.dbg.trace
      | some (clear, n, cur) => if clear ∧ n = "trace".toList then none else cur :=
  runTokens_last io (fun st => st.dbg.trace)
    (fun n => n = "trace".toList ∨ n = "ttop".toList ∨ n = "ttimes".toList)
    (fun c n cur => if c ∧ n = "trace".toList then none else cur)
    (fun n clear st => by
      simp only [(applyName_flags _ clear st).1,
        take_eq_iff (by decide : "trace".toList.length < 31),
        take_eq_iff (by decide : "ttop".toList.length < 31),
        take_eq_iff (by decide : "ttimes".toList.length < 31)]
      split_ifs <;> simp_all)
    (fun fd st => (openFd_dbg io fd st).2.1) ts st h

theorem runTokens_ttop (h : NoReturn io ts st.calls) :
    (runTokens io ts st).dbg.ttop =
      match (streamed io ts st.calls st.stream).reverse.find? fun w => w.2.1 = "ttop".toList with
      | none => st.dbg.ttop
      | some (clear, _, _) => !clear :=
  runTokens_last io (fun st => st.dbg.ttop) (fun n => n = "ttop".toList) (fun c _ _ => !c)
    (fun n clear st => by
      simp only [(applyName_flags _ clear st).2.1,
        take_eq_iff (by decide : "ttop".toList.length < 31)])
    (fun fd st => (openFd_dbg io fd st).2.2.1) ts st h

theorem runTokens_ttimes (h : NoReturn io ts st.calls) :
    (runTokens io ts st).dbg.ttimes =
      match (streamed io ts st.calls st.stream).reverse.find? fun w => w.2.1 = "ttimes".toList with
      | none => st.dbg.ttimes
      | some (clear, _, _) => !clear :=
  runTokens_last io (fun st => st.dbg.ttimes) (fun n => n = "ttimes".toList) (fun c _ _ => !c)
    (fun n clear st => by
      simp only [(applyName_flags _ clear st).2.2,
        take_eq_iff (by decide : "ttimes".toList.length < 31)])
    (fun fd st => (openFd_dbg io fd st).2.2.2) ts st h

end Fields

/-- **`H5__debug_mask` when every descriptor opens.** Every word meets a non-`NULL`
stream; a package's stream is set by the last token naming it or `all` (`NULL` after
`-`), `trace` by the last `trace`, `ttop` or `ttimes` (`NULL` only after `-trace`),
and `ttop`, `ttimes` by the last token of their name. -/
theorem debugMask_last_word (io : DebugIo) (s : List Char) (dbg : Debug)
    (hio : ∀ k (h : k < (numerals (tokens s)).length),
      (io.fdopen k (numerals (tokens s))[k]).isSome ∧ io.malloc k = true) :
    (∀ w ∈ words io s, w.2.2.isSome) ∧
    (∀ p, (debugMask io (some s) dbg).1.pkg p =
      match lastWord io s fun n => n = p.name ∨ n = "all".toList with
      | none => dbg.pkg p
      | some (clear, _, cur) => if clear then none else cur) ∧
    (debugMask io (some s) dbg).1.trace =
      (match lastWord io s fun n => n = "trace".toList ∨ n = "ttop".toList ∨ n = "ttimes".toList with
      | none => dbg.trace
      | some (clear, n, cur) => if clear ∧ n = "trace".toList then none else cur) ∧
    (debugMask io (some s) dbg).1.ttop =
      (match lastWord io s fun n => n = "ttop".toList with
      | none => dbg.ttop
      | some (clear, _, _) => !clear) ∧
    (debugMask io (some s) dbg).1.ttimes =
      (match lastWord io s fun n => n = "ttimes".toList with
      | none => dbg.ttimes
      | some (clear, _, _) => !clear) := by
  obtain ⟨hnr, hsome⟩ := noReturn_of_opens io (tokens s) 0 (by simpa using hio)
  rw [debugMask_some]
  exact ⟨hsome _ rfl, fun p => runTokens_pkg io p hnr, runTokens_trace io hnr,
    runTokens_ttop io hnr, runTokens_ttimes io hnr⟩

theorem tokens_fd_then_word : tokens "3 d".toList = [.number 3, .word false ['d']] := by
  simp [tokens, strtol0, readDigits, digitVal, toInt32, longMax]

theorem debugMask_last_word_fd_three :
    (∀ k (h : k < (numerals (tokens "3 d".toList)).length),
      (DebugIo.opensAll.fdopen k (numerals (tokens "3 d".toList))[k]).isSome ∧
        DebugIo.opensAll.malloc k = true) ∧
    (debugMask .opensAll (some "3 d".toList) Debug.zero).1.pkg .D = some (.opened 3) := by
  refine ⟨fun _ _ => ⟨rfl, rfl⟩, ?_⟩
  rw [(debugMask_last_word .opensAll _ Debug.zero fun _ _ => ⟨rfl, rfl⟩).2.1 .D]
  unfold lastWord words
  rw [tokens_fd_then_word]
  rfl

/-- A descriptor that fails to open makes the current stream `NULL`: `d` after `3`
gets no output, where the stream before the numeral was `stderr`. -/
theorem debugMask_failed_open_disables (dbg : Debug) :
    (debugMask ⟨fun _ _ => none, fun _ => true⟩ (some "3 d".toList) dbg).1.pkg .D = none := by
  rw [debugMask_some, tokens_fd_then_word]
  rfl


/-! ### Every stream is recorded -/

/-- Every stream `H5_debug_g` points a package or the trace at is `stderr` or one of
`open_stream`, the list `H5_term_library` closes. -/
def Debug.Recorded (d : Debug) : Prop :=
  (∀ p f, d.pkg p = some f → f = .stderr ∨ f ∈ d.openStream) ∧
    ∀ f, d.trace = some f → f = .stderr ∨ f ∈ d.openStream

/-- The loop's invariant: `H5_debug_g` and the current `stream` are recorded. -/
def MaskState.Recorded (st : MaskState) : Prop :=
  st.dbg.Recorded ∧ ∀ f, st.stream = some f → f = .stderr ∨ f ∈ st.dbg.openStream

theorem applyName_openStream (n : List Char) (clear : Bool) (st : MaskState) :
    (applyName n clear st).dbg.openStream = st.dbg.openStream := by
  unfold applyName
  dsimp only
  split_ifs <;> try rfl
  all_goals split <;> rfl

theorem applyName_recorded {st : MaskState} (h : st.Recorded) (n : List Char) (clear : Bool) :
    (applyName n clear st).Recorded := by
  have hv : ∀ f, (if clear then none else st.stream) = some f →
      f = .stderr ∨ f ∈ st.dbg.openStream := by
    intro f hf
    split at hf
    · cases hf
    · exact h.2 f hf
  rw [MaskState.Recorded, Debug.Recorded, applyName_openStream, (applyName_stream n clear st).1]
  refine ⟨⟨fun p f hf => ?_, fun f hf => ?_⟩, h.2⟩
  · rw [applyName_pkg] at hf
    split at hf
    · exact hv f hf
    · exact h.1.1 p f hf
  · rw [(applyName_flags n clear st).1] at hf
    split at hf
    · exact hv f hf
    · split at hf
      · exact h.2 f hf
      · exact h.1.2 f hf

/-- Pushing a stream on `open_stream` keeps `H5_debug_g` recorded. -/
theorem Debug.Recorded.push {d : Debug} (h : d.Recorded) (f : Stream) :
    Debug.Recorded { d with openStream := f :: d.openStream } :=
  ⟨fun p g hg => (h.1 p g hg).imp_right (List.mem_cons_of_mem _),
    fun g hg => (h.2 g hg).imp_right (List.mem_cons_of_mem _)⟩

/-- A numeral leaves `H5_debug_g` recorded, and when the loop goes on, the new stream too:
a stream that opened is pushed on `open_stream` unless `H5MM_malloc` fails, and then the
loop returns. -/
theorem openFd_recorded (io : DebugIo) (fd : Int) {st : MaskState} (h : st.Recorded) :
    (openFd io fd st).1.dbg.Recorded ∧
      ((openFd io fd st).2 = true → (openFd io fd st).1.Recorded) := by
  unfold openFd
  split
  · rename_i hf
    exact ⟨h.1, fun _ => ⟨h.1, fun f h' => by simp [hf] at h'⟩⟩
  · rename_i g hg
    split
    · refine ⟨h.1.push g, fun _ => ⟨h.1.push g, fun f hf => .inr ?_⟩⟩
      simp only [hg, Option.some.injEq] at hf
      exact hf ▸ List.mem_cons_self _ _
    · exact ⟨h.1, fun h' => by cases h'⟩

theorem runTokens_recorded (io : DebugIo) :
    ∀ (ts : List Token) (st : MaskState), st.Recorded → (runTokens io ts st).dbg.Recorded
  | [], _, h => h.1
  | .word clear name :: ts, _, h => runTokens_recorded io ts _ (applyName_recorded h _ _)
  | .number fd :: ts, st, h => by
    simp only [runTokens]
    split
    · exact runTokens_recorded io ts _ ((openFd_recorded io fd h).2 ‹_›)
    · exact (openFd_recorded io fd h).1

/-- **`H5__debug_mask` points `H5_debug_g` only at recorded streams.** Whatever the string
and whichever `HDfdopen` or `H5MM_malloc` fails, if every stream of `H5_debug_g` was
`stderr` or on `open_stream` before the call, it still is after: `H5_term_library`,
which closes `open_stream`, closes every stream the mask opened and handed out. -/
theorem debugMask_recorded (io : DebugIo) (s : Option (List Char)) {dbg : Debug}
    (h : dbg.Recorded) : (debugMask io s dbg).1.Recorded := by
  cases s with
  | none => exact h
  | some s =>
    simp only [debugMask]
    rw [debugMaskLoop_eq_runTokens]
    exact runTokens_recorded io _ _ ⟨h, fun f hf => .inl (Option.some.inj hf).symm⟩

/-- `H5_init_library` starts from the cleared `H5_debug_g`. -/
theorem debugMask_recorded_zero :
    Debug.zero.Recorded ∧ (debugMask .opensAll (some "-all".toList) Debug.zero).1.Recorded :=
  have hz : Debug.zero.Recorded := And.intro (fun _ _ h => by cases h) fun _ h => by cases h
  ⟨hz, debugMask_recorded .opensAll (some "-all".toList) hz⟩

end H5Lifecycle
