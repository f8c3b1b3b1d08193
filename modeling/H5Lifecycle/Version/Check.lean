import H5Lifecycle.Debug.Mask

/-!
`H5_check_version` (`src/H5.c`): the check that the headers an application was compiled
with match the library it runs with.

The check keeps two statics, `checked` and `disable_version_check`. The first call that
returns sets `checked`, and every later call returns at once. `disable_version_check`
is `(unsigned int)strtol(s, NULL, 0)` of `HDF5_DISABLE_VERSION_CHECK` when the
variable starts with a digit. A major or minor mismatch, or a release mismatch whose
release is in `VERS_RELEASE_EXCEPTIONS`, calls `abort()` at level 0, warns at level 1 and
says nothing from level 2 on. `H5check_version` is `FUNC_ENTER_API_NOINIT_NOERR` and a
call of `H5_check_version`; `H5_init_library` calls it with the library's own version.

A write to `stderr` is a `VersionOut` carrying what its format string prints.

* `checkVersion_of_checked` — once a call has returned, a call changes nothing and
  prints nothing.
* `checkVersion_first_aborted_iff` — the first call aborts exactly when the level it
  reads is 0 and the versions are `Incompatible`.
* `checkVersion_own_version` — a call with the library's own version never aborts.
* `checkVersion_decimal_override` — a decimal value without a leading zero below
  `2^32` is the level: from 1 on no abort, from 2 on no output.
-/

namespace H5Lifecycle

/-- The version the library was built with: `H5_VERS_MAJOR`, `H5_VERS_MINOR`,
`H5_VERS_RELEASE`, `H5_VERS_SUBRELEASE`, the table `VERS_RELEASE_EXCEPTIONS`, and the
string in `H5_lib_vers_info_g`. -/
structure LibVersion where
  major : Nat
  minor : Nat
  release : Nat
  subrelease : List Char
  exceptions : List Nat
  info : List Char
  deriving DecidableEq, Repr

/-- A call `H5_check_version(majnum, minnum, relnum)` and the value of
`HDF5_DISABLE_VERSION_CHECK` when it is made (`none` when unset). -/
structure CheckCall where
  env : Option (List Char)
  major : Nat
  minor : Nat
  release : Nat
  deriving DecidableEq, Repr

/-- A write of `H5_check_version` to `stderr`: a mismatch warning with its advice, or with
the level and "application will continue"; the "Headers are ..." line; the build
settings; "Bye..."; and the two lines on `H5_lib_vers_info_g`. -/
inductive VersionOut where
  | versionWarning
  | versionContinue (level : Nat)
  | releaseWarning
  | releaseContinue (level : Nat)
  | headers (major minor release libMajor libMinor libRelease : Nat)
  | buildSettings
  | bye
  | infoError
  | infoValues
  deriving DecidableEq, Repr

/-- The statics of `H5_check_version`, what the process wrote to `stderr`, and whether
it called `abort()`. -/
structure VersionState where
  checked : Bool
  disable : Nat
  out : List VersionOut
  aborted : Bool
  deriving DecidableEq, Repr

def VersionState.init : VersionState := ⟨false, 0, [], false⟩

/-! ### The level -/

/-- `strtol(s, NULL, 0)` on a string that starts with a digit, as the `long` it returns:
the digits `strtol0` reads, saturated at `LONG_MAX`. -/
def strtolLong (s : List Char) : Nat :=
  min (match s with
    | '0' :: x :: c :: cs =>
      if (x = 'x' ∨ x = 'X') ∧ (digitVal 16 c).isSome then readDigits 16 (c :: cs) 0
      else readDigits 8 s 0
    | _ => readDigits (if s.head? = some '0' then 8 else 10) s 0).1 longMax

theorem strtol0_fst (s : List Char) : (strtol0 s).1 = toInt32 (strtolLong s) := rfl

/-- `if (s && isdigit(*s)) disable_version_check = (unsigned int)strtol(s, NULL, 0);`
from the old value `d` of the static. -/
def readDisable (env : Option (List Char)) (d : Nat) : Nat :=
  match env with
  | some (c :: cs) => if c.isDigit then strtolLong (c :: cs) % 2 ^ 32 else d
  | _ => d

/-! ### The check -/

/-- `switch (disable_version_check)`: print `stop` and `abort()` at 0, print `warn` at 1,
nothing from 2 on. -/
def versionSwitch (stop warn : List VersionOut) (st : VersionState) : VersionState :=
  match st.disable with
  | 0 => { st with out := st.out ++ stop, aborted := true }
  | 1 => { st with out := st.out ++ warn }
  | _ => st

def headersOut (lib : LibVersion) (c : CheckCall) : VersionOut :=
  .headers c.major c.minor c.release lib.major lib.minor lib.release

def versionMismatch (lib : LibVersion) (c : CheckCall) (st : VersionState) : VersionState :=
  versionSwitch [.versionWarning, headersOut lib c, .buildSettings, .bye]
    [.versionContinue st.disable, headersOut lib c, .buildSettings] st

/-- The `switch` of the release check, which does not print the build settings. -/
def releaseMismatch (lib : LibVersion) (c : CheckCall) (st : VersionState) : VersionState :=
  versionSwitch [.releaseWarning, headersOut lib c, .bye]
    [.releaseContinue st.disable, headersOut lib c] st

/-- `for (i = 0; i < VERS_RELEASE_EXCEPTIONS_SIZE; i++)`: the `switch` for every entry
equal to `relnum` or to `H5_VERS_RELEASE`. -/
def releaseLoop (lib : LibVersion) (c : CheckCall) : List Nat → VersionState → VersionState
  | [], st => st
  | e :: es, st =>
    if e = c.release ∨ e = lib.release then
      let st := releaseMismatch lib c st
      if st.aborted then st else releaseLoop lib c es st
    else releaseLoop lib c es st

/-- `lib_str`: `snprintf` of "HDF5 library version: %d.%d.%d%s%s" into 256 bytes. -/
def libStr (lib : LibVersion) : List Char :=
  ("HDF5 library version: ".toList ++ (toString lib.major).toList ++ ['.'] ++
    (toString lib.minor).toList ++ ['.'] ++ (toString lib.release).toList ++
    (if lib.subrelease = [] then [] else ['-']) ++ lib.subrelease).take 255

def majorCheck (lib : LibVersion) (c : CheckCall) (st : VersionState) : VersionState :=
  if lib.major ≠ c.major ∨ lib.minor ≠ c.minor then versionMismatch lib c st else st

def releaseCheck (lib : LibVersion) (c : CheckCall) (st : VersionState) : VersionState :=
  if lib.release ≠ c.release then releaseLoop lib c lib.exceptions st else st

/-- `checked = true`, then at level 0 the comparison of `lib_str` with
`H5_lib_vers_info_g`, which only warns. -/
def infoCheck (lib : LibVersion) (st : VersionState) : VersionState :=
  let st := { st with checked := true }
  if st.disable = 0 ∧ libStr lib ≠ lib.info then
    { st with out := st.out ++ [.infoError, .infoValues] }
  else st

/-- `H5_check_version(majnum, minnum, relnum)`. -/
def checkVersion (lib : LibVersion) (c : CheckCall) (st : VersionState) : VersionState :=
  if st.checked then st
  else
    let st := majorCheck lib c { st with disable := readDisable c.env st.disable }
    if st.aborted then st
    else
      let st := releaseCheck lib c st
      if st.aborted then st else infoCheck lib st

/-- The calls of `H5_check_version` a process makes, in order, until one aborts. -/
def runChecks (lib : LibVersion) : List CheckCall → VersionState → VersionState
  | [], st => st
  | c :: cs, st => if st.aborted then st else runChecks lib cs (checkVersion lib c st)

/-- The versions the check refuses: another major or minor version, or another release
when the caller's or the library's release is an exception. -/
def Incompatible (lib : LibVersion) (c : CheckCall) : Prop :=
  (c.major, c.minor) ≠ (lib.major, lib.minor) ∨
    (c.release ≠ lib.release ∧ (c.release ∈ lib.exceptions ∨ lib.release ∈ lib.exceptions))

instance (lib : LibVersion) (c : CheckCall) : Decidable (Incompatible lib c) :=
  inferInstanceAs (Decidable (_ ∨ _))

/-! ### The switches -/

section Switch

variable {stop warn : List VersionOut} {st : VersionState}

theorem versionSwitch_aborted :
    (versionSwitch stop warn st).aborted = true ↔ st.disable = 0 ∨ st.aborted = true := by
  unfold versionSwitch
  split <;> simp_all

theorem versionSwitch_of_two_le (h : 2 ≤ st.disable) : versionSwitch stop warn st = st := by
  unfold versionSwitch
  split <;> simp_all

@[simp] theorem versionSwitch_disable : (versionSwitch stop warn st).disable = st.disable := by
  unfold versionSwitch
  split <;> rfl

@[simp] theorem versionSwitch_checked : (versionSwitch stop warn st).checked = st.checked := by
  unfold versionSwitch
  split <;> rfl

end Switch

section Release

variable {lib : LibVersion} {c : CheckCall}

/-- What every `switch` of the exception loop keeps, the loop keeps. -/
theorem releaseLoop_induct (P : VersionState → Prop)
    (hstep : ∀ st, P st → P (releaseMismatch lib c st)) :
    ∀ (es : List Nat) (st : VersionState), P st → P (releaseLoop lib c es st)
  | [], _, h => h
  | e :: es, st, h => by
    unfold releaseLoop
    split
    · dsimp only
      split
      · exact hstep st h
      · exact releaseLoop_induct P hstep es _ (hstep st h)
    · exact releaseLoop_induct P hstep es st h

@[simp] theorem releaseLoop_disable (es : List Nat) (st : VersionState) :
    (releaseLoop lib c es st).disable = st.disable :=
  releaseLoop_induct (·.disable = st.disable) (fun _ h => versionSwitch_disable.trans h) es st rfl

@[simp] theorem releaseLoop_checked (es : List Nat) (st : VersionState) :
    (releaseLoop lib c es st).checked = st.checked :=
  releaseLoop_induct (·.checked = st.checked) (fun _ h => versionSwitch_checked.trans h) es st rfl

/-- The exception loop aborts exactly when the level is 0 and some entry is the caller's
or the library's release. -/
theorem releaseLoop_aborted_iff : ∀ (es : List Nat) (st : VersionState),
    (releaseLoop lib c es st).aborted = true ↔
      st.aborted = true ∨ (st.disable = 0 ∧ ∃ e ∈ es, e = c.release ∨ e = lib.release)
  | [], st => by simp [releaseLoop]
  | e :: es, st => by
    have hs : (releaseMismatch lib c st).aborted = true ↔ st.disable = 0 ∨ st.aborted = true :=
      versionSwitch_aborted
    have hd : (releaseMismatch lib c st).disable = st.disable := versionSwitch_disable
    by_cases he : e = c.release ∨ e = lib.release
    · rw [releaseLoop, if_pos he]
      dsimp only
      split
      · rename_i ha
        simp only [ha, true_iff]
        rcases hs.mp ha with h | h
        · exact .inr ⟨h, e, List.mem_cons_self _ _, he⟩
        · exact .inl h
      · rename_i ha
        rw [releaseLoop_aborted_iff es, hd]
        have : ¬ (st.disable = 0 ∨ st.aborted = true) := fun h => ha (hs.mpr h)
        push_neg at this
        simp [ha, this.1, this.2]
    · rw [releaseLoop, if_neg he, releaseLoop_aborted_iff es]
      simp [he]

/-- From level 2 on the exception loop changes nothing. -/
theorem releaseLoop_of_two_le (es : List Nat) {st : VersionState} (h : 2 ≤ st.disable) :
    releaseLoop lib c es st = st :=
  releaseLoop_induct (· = st) (fun _ hs => by subst hs; exact versionSwitch_of_two_le h) es st rfl

end Release

/-! ### A call -/

section Call

variable (lib : LibVersion) (c : CheckCall) {st : VersionState}

theorem majorCheck_aborted : (majorCheck lib c st).aborted = true ↔
    st.aborted = true ∨ (st.disable = 0 ∧ (lib.major ≠ c.major ∨ lib.minor ≠ c.minor)) := by
  unfold majorCheck
  split
  · rw [versionMismatch, versionSwitch_aborted]; tauto
  · tauto

@[simp] theorem majorCheck_disable : (majorCheck lib c st).disable = st.disable := by
  unfold majorCheck; split <;> simp [versionMismatch]

@[simp] theorem majorCheck_checked : (majorCheck lib c st).checked = st.checked := by
  unfold majorCheck; split <;> simp [versionMismatch]

theorem releaseCheck_aborted : (releaseCheck lib c st).aborted = true ↔
    st.aborted = true ∨ (st.disable = 0 ∧ lib.release ≠ c.release ∧
      ∃ e ∈ lib.exceptions, e = c.release ∨ e = lib.release) := by
  unfold releaseCheck
  split
  · rename_i h; rw [releaseLoop_aborted_iff]; simp [h]
  · rename_i h; simp [not_not.mp h]

@[simp] theorem releaseCheck_checked : (releaseCheck lib c st).checked = st.checked := by
  unfold releaseCheck; split <;> simp

@[simp] theorem infoCheck_aborted : (infoCheck lib st).aborted = st.aborted := by
  simp only [infoCheck]; split <;> rfl

@[simp] theorem infoCheck_checked : (infoCheck lib st).checked = true := by
  simp only [infoCheck]; split <;> rfl

/-- **Once a call has returned, the check is a no-op**: no output, no abort, no change. -/
theorem checkVersion_of_checked (h : st.checked = true) : checkVersion lib c st = st := by
  simp [checkVersion, h]

/-- On an unchecked process a call aborts exactly when one of the two checks does. -/
theorem checkVersion_aborted (hc : st.checked = false) :
    (checkVersion lib c st).aborted =
      (releaseCheck lib c (majorCheck lib c { st with disable := readDisable c.env st.disable })).aborted := by
  unfold checkVersion
  simp only [hc, Bool.false_eq_true, if_false]
  split
  · rename_i ha
    exact ha.trans ((releaseCheck_aborted lib c).mpr (.inl ha)).symm
  · split
    · rfl
    · exact infoCheck_aborted lib

/-- A call that does not abort leaves the check done. -/
theorem checkVersion_checked (h : (checkVersion lib c st).aborted = false) :
    (checkVersion lib c st).checked = true := by
  unfold checkVersion at h ⊢
  split
  · assumption
  · simp only at h ⊢
    split
    · simp_all
    · split
      · simp_all
      · exact infoCheck_checked lib

theorem incompatible_iff :
    Incompatible lib c ↔ (lib.major ≠ c.major ∨ lib.minor ≠ c.minor) ∨
      (lib.release ≠ c.release ∧ ∃ e ∈ lib.exceptions, e = c.release ∨ e = lib.release) := by
  have hv : (c.major, c.minor) ≠ (lib.major, lib.minor) ↔
      lib.major ≠ c.major ∨ lib.minor ≠ c.minor := by
    rw [Ne, Prod.mk.injEq]
    constructor <;> intro h <;> omega
  have hne : c.release ≠ lib.release ↔ lib.release ≠ c.release := ne_comm
  have hmem : (c.release ∈ lib.exceptions ∨ lib.release ∈ lib.exceptions) ↔
      ∃ e ∈ lib.exceptions, e = c.release ∨ e = lib.release := by
    simp only [and_or_left, exists_or, exists_eq_right]
  rw [Incompatible, hv, hne, hmem]

/-- **The first call.** On a process that has not yet completed a check, a call aborts
exactly when the level it reads is 0 and the versions are incompatible. -/
theorem checkVersion_first_aborted_iff (hc : st.checked = false) (ha : st.aborted = false) :
    (checkVersion lib c st).aborted = true ↔
      readDisable c.env st.disable = 0 ∧ Incompatible lib c := by
  rw [checkVersion_aborted lib c hc, releaseCheck_aborted, majorCheck_aborted, majorCheck_disable,
    incompatible_iff]
  simp only [ha, Bool.false_eq_true, false_or]
  exact and_or_left.symm

/-- **The library's own version never aborts**, as `H5_init_library` calls the check;
the only output it can give is the warning on `H5_lib_vers_info_g`. -/
theorem checkVersion_own_version (env : Option (List Char)) (st : VersionState) :
    (checkVersion lib ⟨env, lib.major, lib.minor, lib.release⟩ st).aborted = st.aborted ∧
    ((checkVersion lib ⟨env, lib.major, lib.minor, lib.release⟩ st).out = st.out ∨
      (checkVersion lib ⟨env, lib.major, lib.minor, lib.release⟩ st).out =
        st.out ++ [.infoError, .infoValues]) := by
  simp only [checkVersion, majorCheck, releaseCheck, infoCheck, ne_eq, not_true_eq_false,
    or_self, if_false]
  split
  · exact ⟨rfl, .inl rfl⟩
  · split
    · exact ⟨rfl, .inl rfl⟩
    · split <;> simp_all

end Call

/-! ### A process's checks -/

theorem runChecks_aborted (lib : LibVersion) :
    ∀ (cs : List CheckCall) {st : VersionState}, (runChecks lib cs st).aborted = false →
      st.aborted = false
  | [], _, h => h
  | c :: cs, st, h => by
    unfold runChecks at h
    split at h
    · exact h
    · rename_i ha; simpa using ha

/-- After calls that did not abort, the check is done exactly when there was a call. -/
theorem runChecks_checked (lib : LibVersion) :
    ∀ (cs : List CheckCall) {st : VersionState}, (runChecks lib cs st).aborted = false →
      (runChecks lib cs st).checked = (st.checked || !cs.isEmpty)
  | [], st, _ => by simp [runChecks]
  | c :: cs, st, h => by
    have ha : st.aborted = false := runChecks_aborted lib _ h
    rw [runChecks, if_neg (by simp [ha])] at h ⊢
    rw [runChecks_checked lib cs h]
    simp [checkVersion_checked lib c (runChecks_aborted lib cs h)]

/-- **`H5_check_version` over a process.** Whatever calls came before without aborting,
the next call aborts exactly when it is the first call, the level it reads is 0 and the
versions are incompatible; after the first call it changes nothing and prints nothing. -/
theorem checkVersion_aborts_iff (lib : LibVersion) (hist : List CheckCall) (c : CheckCall)
    (h : (runChecks lib hist VersionState.init).aborted = false) :
    ((checkVersion lib c (runChecks lib hist VersionState.init)).aborted = true ↔
      hist = [] ∧ readDisable c.env 0 = 0 ∧ Incompatible lib c) ∧
    (hist ≠ [] →
      checkVersion lib c (runChecks lib hist VersionState.init) =
        runChecks lib hist VersionState.init) := by
  have hchk := runChecks_checked lib hist h
  cases hist with
  | nil =>
    exact ⟨by simpa using @checkVersion_first_aborted_iff lib c VersionState.init rfl rfl,
      fun h => absurd rfl h⟩
  | cons c' cs =>
    have hdone : (runChecks lib (c' :: cs) VersionState.init).checked = true := by
      simpa [VersionState.init] using hchk
    rw [checkVersion_of_checked lib c hdone]
    simp [h]

/-- After a matching call, a call with another minor version neither aborts nor prints. -/
theorem checkVersion_aborts_iff_second :
    (runChecks ⟨1, 14, 4, [], [0], []⟩ [⟨none, 1, 14, 4⟩] VersionState.init).aborted = false ∧
    ((checkVersion ⟨1, 14, 4, [], [0], []⟩ ⟨none, 1, 12, 0⟩
        (runChecks ⟨1, 14, 4, [], [0], []⟩ [⟨none, 1, 14, 4⟩] VersionState.init)).aborted = true ↔
      [⟨none, 1, 14, 4⟩] = ([] : List CheckCall) ∧
        readDisable (⟨none, 1, 12, 0⟩ : CheckCall).env 0 = 0 ∧
        Incompatible ⟨1, 14, 4, [], [0], []⟩ ⟨none, 1, 12, 0⟩) ∧
    (([⟨none, 1, 14, 4⟩] : List CheckCall) ≠ [] →
      checkVersion ⟨1, 14, 4, [], [0], []⟩ ⟨none, 1, 12, 0⟩
          (runChecks ⟨1, 14, 4, [], [0], []⟩ [⟨none, 1, 14, 4⟩] VersionState.init) =
        runChecks ⟨1, 14, 4, [], [0], []⟩ [⟨none, 1, 14, 4⟩] VersionState.init) :=
  ⟨by decide,
    checkVersion_aborts_iff ⟨1, 14, 4, [], [0], []⟩ [⟨none, 1, 14, 4⟩] ⟨none, 1, 12, 0⟩ (by decide)⟩

/-! ### The level `HDF5_DISABLE_VERSION_CHECK` gives -/

/-- The number a string of decimal digits denotes, leading zeros allowed. -/
def decimalValue (ds : List Char) : Nat :=
  ds.foldl (fun v c => v * 10 + (c.toNat - '0'.toNat)) 0

theorem readDigits_decimal : ∀ (ds : List Char) (v : Nat), (∀ x ∈ ds, x.isDigit = true) →
    readDigits 10 ds v = (ds.foldl (fun v c => v * 10 + (c.toNat - '0'.toNat)) v, [])
  | [], _, _ => rfl
  | c :: cs, v, hd => by
    rw [readDigits, digitVal_ten (hd c (List.mem_cons_self _ _)), List.foldl_cons]
    exact readDigits_decimal cs _ fun x hx => hd x (List.mem_cons_of_mem _ hx)

/-- Without a leading zero, `strtol` reads a decimal numeral in base 10. -/
theorem strtolLong_decimal {c : Char} {cs : List Char} (hc : c ≠ '0')
    (hd : ∀ x ∈ c :: cs, x.isDigit = true) :
    strtolLong (c :: cs) = min (decimalValue (c :: cs)) longMax := by
  unfold strtolLong
  split
  · rename_i heq
    exact absurd (List.cons.inj heq).1 hc
  · simp [hc, readDigits_decimal _ 0 hd, decimalValue]

/-- A decimal value without a leading zero and below `2^32` is the level itself. -/
theorem readDisable_decimal {ds : List Char} (hd : ∀ x ∈ ds, x.isDigit = true)
    (h0 : ds.head? ≠ some '0') (hlt : decimalValue ds < 2 ^ 32) (hn : 1 ≤ decimalValue ds)
    (d : Nat) : readDisable (some ds) d = decimalValue ds := by
  match ds, hd, h0 with
  | [], _, _ => simp [decimalValue] at hn
  | c :: cs, hd, h0 =>
    have hc : c ≠ '0' := fun h => h0 (by rw [h]; rfl)
    have hmax : decimalValue (c :: cs) ≤ longMax := by unfold longMax; omega
    simp only [readDisable, hd c (List.mem_cons_self _ _), if_true, strtolLong_decimal hc hd,
      min_eq_left hmax]
    exact Nat.mod_eq_of_lt hlt

theorem majorCheck_of_two_le {lib : LibVersion} {c : CheckCall} {st : VersionState}
    (h : 2 ≤ st.disable) : majorCheck lib c st = st := by
  unfold majorCheck versionMismatch
  split
  · exact versionSwitch_of_two_le h
  · rfl

theorem releaseCheck_of_two_le {lib : LibVersion} {c : CheckCall} {st : VersionState}
    (h : 2 ≤ st.disable) : releaseCheck lib c st = st := by
  unfold releaseCheck
  split
  · exact releaseLoop_of_two_le _ h
  · rfl

theorem infoCheck_out {lib : LibVersion} {st : VersionState} (h : st.disable ≠ 0) :
    (infoCheck lib st).out = st.out := by
  simp only [infoCheck]
  split
  · simp_all
  · rfl

/-- **A decimal level from 1 on.** When `HDF5_DISABLE_VERSION_CHECK` is a decimal numeral
without a leading zero whose value `n` satisfies `1 ≤ n < 2^32`, the first call does not
abort, and from `n = 2` on it writes nothing. -/
theorem checkVersion_decimal_override (lib : LibVersion) {c : CheckCall} {ds : List Char}
    (henv : c.env = some ds) (hd : ∀ x ∈ ds, x.isDigit = true) (h0 : ds.head? ≠ some '0')
    (hn : 1 ≤ decimalValue ds) (hlt : decimalValue ds < 2 ^ 32) {st : VersionState}
    (hc : st.checked = false) (ha : st.aborted = false) :
    (checkVersion lib c st).aborted = false ∧
    (2 ≤ decimalValue ds → (checkVersion lib c st).out = st.out) := by
  have hlev : readDisable c.env st.disable = decimalValue ds := by
    rw [henv]; exact readDisable_decimal hd h0 hlt hn _
  refine ⟨?_, fun h2 => ?_⟩
  · have := checkVersion_first_aborted_iff lib c hc ha
    rw [hlev] at this
    cases h : (checkVersion lib c st).aborted
    · rfl
    · exact absurd (this.mp h).1 (by omega)
  · have h2' : 2 ≤ readDisable c.env st.disable := hlev ▸ h2
    have hm := @majorCheck_of_two_le lib c { st with disable := readDisable c.env st.disable } h2'
    have hr := @releaseCheck_of_two_le lib c { st with disable := readDisable c.env st.disable } h2'
    unfold checkVersion
    rw [if_neg (by simp [hc])]
    dsimp only
    rw [hm, hr]
    simp only [ha, Bool.false_eq_true, if_false]
    exact infoCheck_out (show readDisable c.env st.disable ≠ 0 by omega)

/-- `HDF5_DISABLE_VERSION_CHECK=2` silences a minor mismatch. -/
theorem checkVersion_decimal_override_two :
    (⟨some "2".toList, 1, 12, 0⟩ : CheckCall).env = some "2".toList ∧
    (∀ x ∈ "2".toList, x.isDigit = true) ∧ "2".toList.head? ≠ some '0' ∧
    1 ≤ decimalValue "2".toList ∧ decimalValue "2".toList < 2 ^ 32 ∧
    VersionState.init.checked = false ∧ VersionState.init.aborted = false ∧
    (checkVersion ⟨1, 14, 4, [], [0], []⟩ ⟨some "2".toList, 1, 12, 0⟩ VersionState.init).aborted =
      false ∧
    (2 ≤ decimalValue "2".toList →
      (checkVersion ⟨1, 14, 4, [], [0], []⟩ ⟨some "2".toList, 1, 12, 0⟩ VersionState.init).out =
        VersionState.init.out) :=
  ⟨rfl, by decide, by decide, by decide, by decide, rfl, rfl,
    checkVersion_decimal_override ⟨1, 14, 4, [], [0], []⟩ rfl (by decide) (by decide) (by decide)
      (by decide) rfl rfl⟩

/-- **`strtol(s, NULL, 0)` reads a leading zero as octal, and the cast wraps at `2^32`.**
`"08"` and `"4294967296"` are decimal numerals of 8 and `2^32`, yet both give level 0:
`"08"` reads as octal `0` and `2^32` wraps to 0. The first call with another major
version then aborts. -/
theorem checkVersion_octal_or_wrapped_level_aborts (lib : LibVersion) (m r : Nat) :
    decimalValue "08".toList = 8 ∧ decimalValue "4294967296".toList = 2 ^ 32 ∧
    (checkVersion lib ⟨some "08".toList, lib.major + 1, m, r⟩ VersionState.init).aborted = true ∧
    (checkVersion lib ⟨some "4294967296".toList, lib.major + 1, m, r⟩
      VersionState.init).aborted = true := by
  have hinc : ∀ env : Option (List Char), Incompatible lib ⟨env, lib.major + 1, m, r⟩ :=
    fun _ => .inl fun h => by simp at h
  refine ⟨by decide, by decide, ?_, ?_⟩
  · exact (checkVersion_first_aborted_iff lib _ rfl rfl).mpr
      ⟨(by decide : readDisable (some "08".toList) 0 = 0), hinc _⟩
  · exact (checkVersion_first_aborted_iff lib _ rfl rfl).mpr
      ⟨(by decide : readDisable (some "4294967296".toList) 0 = 0), hinc _⟩

end H5Lifecycle
