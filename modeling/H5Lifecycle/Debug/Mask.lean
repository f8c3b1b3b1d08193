import H5Lifecycle.Shutdown.Down
import Mathlib

/-!
`H5__debug_mask` (`src/H5.c`): the parser of the `HDF5_DEBUG` flag string.

`H5_init_library` calls it on `"-all"` and then on the environment variable. The
loop walks the string: a run of letters, after an optional `+` or `-`, names a
package (or `all`, `trace`, `ttop`, `ttimes`) and points it at the current
stream (or at `NULL` after `-`); a numeral, read by `strtol(s, &rest, 0)`, makes
`HDfdopen` of that descriptor the current stream and records it in
`H5_debug_g.open_stream`; any other character is skipped.

The C library is reached through `DebugIo`: `HDfdopen` and `H5MM_malloc` are
answered by their call number, so a run may make any of them fail.
`debugMaskLoop` follows the `while` loop byte for byte, with the name copied
into `pkg_name[32]` by `nameLoop` and read back by `strcmp` as `cStr`.
-/

namespace H5Lifecycle

/-- The packages of `H5_debug_g.pkg`, in the order of `H5_pkg_t`. -/
inductive Pkg where
  | A | AC | B | D | E | F | G | HG | HL | I | M | MF | MM | O | P | S | T | V | VL | Z
  deriving DecidableEq, Repr

/-- `H5_debug_g.pkg[p].name`, as `H5_init_library` sets it. -/
def Pkg.name (p : Pkg) : List Char :=
  String.toList <| match p with
  | .A => "a" | .AC => "ac" | .B => "b" | .D => "d" | .E => "e" | .F => "f" | .G => "g"
  | .HG => "hg" | .HL => "hl" | .I => "i" | .M => "m" | .MF => "mf" | .MM => "mm"
  | .O => "o" | .P => "p" | .S => "s" | .T => "t" | .V => "v" | .VL => "vl" | .Z => "z"

def Pkg.all : List Pkg :=
  [.A, .AC, .B, .D, .E, .F, .G, .HG, .HL, .I, .M, .MF, .MM, .O, .P, .S, .T, .V, .VL, .Z]

/-- A `FILE *` the debug output can go to. -/
inductive Stream where
  | stderr
  | opened (id : Nat)
  deriving DecidableEq, Repr

/-- `H5_debug_g`: a stream per package (`NULL` is `none`), the API trace settings,
and the list of streams `H5__debug_mask` opened. -/
structure Debug where
  pkg : Pkg → Option Stream
  trace : Option Stream
  ttop : Bool
  ttimes : Bool
  openStream : List Stream

/-- `H5_debug_g` after `memset(&H5_debug_g, 0, sizeof H5_debug_g)`. -/
def Debug.zero : Debug := ⟨fun _ => none, none, false, false, []⟩

/-- The answers of `HDfdopen(fd, "w")` and `H5MM_malloc`, by the number of the
numeric token the loop is at. -/
structure DebugIo where
  fdopen : Nat → Int → Option Stream
  malloc : Nat → Bool

/-- Every descriptor opens, as the stream of that number, and every allocation succeeds. -/
def DebugIo.opensAll : DebugIo := ⟨fun _ fd => some (.opened fd.toNat), fun _ => true⟩

/-! ### `strtol` -/

/-- The value of digit `c` in base `b`, as `strtol` reads digits and letters. -/
def digitVal (b : Nat) (c : Char) : Option Nat :=
  let v := if c.isDigit then c.toNat - '0'.toNat
    else if c.isLower then c.toNat - 'a'.toNat + 10
    else if c.isUpper then c.toNat - 'A'.toNat + 10 else b
  if v < b then some v else none

def readDigits (b : Nat) : List Char → Nat → Nat × List Char
  | [], v => (v, [])
  | c :: cs, v =>
    match digitVal b c with
    | some d => readDigits b cs (v * b + d)
    | none => (v, c :: cs)

/-- `LONG_MAX` of an LP64 `long`. -/
def longMax : Nat := 2 ^ 63 - 1

/-- The `(int)` conversion of a non-negative `long`: modulo `2^32`, into two's complement. -/
def toInt32 (v : Nat) : Int :=
  if v % 2 ^ 32 < 2 ^ 31 then (v % 2 ^ 32 : Nat) else (v % 2 ^ 32 : Nat) - 2 ^ 32

/-- `(int)strtol(s, &rest, 0)` on a string starting with a digit: the value and `rest`.
Base 16 after `0x` or `0X` followed by a hex digit, base 8 after a leading `0`, else 10;
an overflow saturates at `LONG_MAX`. -/
def strtol0 (s : List Char) : Int × List Char :=
  let r := match s with
    | '0' :: x :: c :: cs =>
      if (x = 'x' ∨ x = 'X') ∧ (digitVal 16 c).isSome then readDigits 16 (c :: cs) 0
      else readDigits 8 s 0
    | _ => readDigits (if s.head? = some '0' then 8 else 10) s 0
  (toInt32 (min r.1 longMax), r.2)

theorem readDigits_length_le (b : Nat) (s : List Char) (v : Nat) :
    (readDigits b s v).2.length ≤ s.length := by
  induction s generalizing v with
  | nil => simp [readDigits]
  | cons c cs ih =>
    unfold readDigits
    split
    · exact Nat.le_succ_of_le (ih _)
    · exact le_refl _

theorem readDigits_length_lt {b : Nat} {c : Char} {d : Nat} (hc : digitVal b c = some d)
    (cs : List Char) (v : Nat) : (readDigits b (c :: cs) v).2.length < (c :: cs).length := by
  simp only [readDigits, hc]
  exact Nat.lt_succ_of_le (readDigits_length_le b cs _)

theorem digitVal_ten {c : Char} (hc : c.isDigit = true) :
    digitVal 10 c = some (c.toNat - '0'.toNat) := by
  have hlt : c.toNat - 48 < 10 := by
    simp only [Char.isDigit, Bool.and_eq_true, decide_eq_true_eq] at hc
    have : c.val.toNat ≤ 57 := hc.2
    simp only [Char.toNat]
    omega
  simp [digitVal, hc, hlt]

theorem strtol0_length_lt {c : Char} (hc : c.isDigit = true) (cs : List Char) :
    (strtol0 (c :: cs)).2.length < (c :: cs).length := by
  have h8 : digitVal 8 '0' = some 0 := rfl
  unfold strtol0
  split
  · rename_i x d ds heq
    obtain ⟨rfl, rfl⟩ := List.cons.inj heq
    split
    · have := readDigits_length_le 16 (d :: ds) 0
      simp only [List.length_cons] at this ⊢
      omega
    · exact readDigits_length_lt h8 _ _
  · by_cases h0 : c = '0'
    · subst h0
      exact readDigits_length_lt h8 _ _
    · simp only [List.head?_cons, Option.some.injEq, h0, if_false]
      exact readDigits_length_lt (digitVal_ten hc) _ _

/-! ### The name loop -/

/-- `buf[i] = c`. -/
def writeAt (buf : Buffer) (i : Nat) (c : Char) : Buffer := fun j => if j = i then some c else buf j

/-- `for (i = 0; isalpha(*s); i++, s++) if (i < sizeof pkg_name) pkg_name[i] = *s;`:
the final `i`, `pkg_name` and `s`. -/
def nameLoop : List Char → Nat → Buffer → Nat × Buffer × List Char
  | c :: cs, i, buf =>
    if c.isAlpha then nameLoop cs (i + 1) (if i < 32 then writeAt buf i c else buf)
    else (i, buf, c :: cs)
  | [], i, buf => (i, buf, [])

/-- The C string at `buf + i` that `strcmp` reads, looking at no more than `n` bytes. -/
def cStr (buf : Buffer) : Nat → Nat → List Char
  | _, 0 => []
  | i, n + 1 =>
    match buf i with
    | some c => if c = '\x00' then [] else c :: cStr buf (i + 1) n
    | none => []

theorem nameLoop_eq (s : List Char) (i : Nat) (buf : Buffer) :
    (nameLoop s i buf).1 = i + (s.takeWhile Char.isAlpha).length ∧
    (nameLoop s i buf).2.2 = s.dropWhile Char.isAlpha ∧
    ∀ j, (nameLoop s i buf).2.1 j =
      if h : i ≤ j ∧ j < 32 ∧ j - i < (s.takeWhile Char.isAlpha).length
      then some (s.takeWhile Char.isAlpha)[j - i] else buf j := by
  induction s generalizing i buf with
  | nil => simp [nameLoop]
  | cons c cs ih =>
    by_cases hc : c.isAlpha
    · obtain ⟨h1, h2, h3⟩ := ih (i + 1) (if i < 32 then writeAt buf i c else buf)
      simp only [nameLoop, hc, if_true, List.takeWhile_cons_of_pos hc,
        List.dropWhile_cons_of_pos hc, List.length_cons]
      refine ⟨by omega, h2, fun j => ?_⟩
      have hw : ∀ j, (if i < 32 then writeAt buf i c else buf) j =
          if j = i ∧ i < 32 then some c else buf j := by
        intro j; by_cases hi : i < 32 <;> simp [writeAt, hi]
      rw [h3, hw]
      rcases lt_trichotomy j i with hj | rfl | hj
      · simp [show ¬ i + 1 ≤ j by omega, show ¬ i ≤ j by omega, show j ≠ i by omega]
      · by_cases hi : j < 32 <;> simp [hi]
      · obtain ⟨k, rfl⟩ : ∃ k, j = i + 1 + k := ⟨j - (i + 1), by omega⟩
        have hk : i + 1 + k - i = k + 1 := by omega
        simp [hk, show i + 1 + k ≠ i by omega, show i ≤ i + 1 + k by omega]
    · simp [nameLoop, hc]

theorem cStr_eq {B : Buffer} {w : List Char} {i n : Nat}
    (hw : ∀ j (h : j < w.length), B (i + j) = some w[j]) (hnul : B (i + w.length) = some '\x00')
    (hne : '\x00' ∉ w) (hn : w.length < n) : cStr B i n = w := by
  induction w generalizing i n with
  | nil =>
    obtain ⟨n, rfl⟩ : ∃ m, n = m + 1 := ⟨n - 1, by simp at hn; omega⟩
    simp only [List.length_nil, Nat.add_zero] at hnul
    simp [cStr, hnul]
  | cons c w ih =>
    obtain ⟨n, rfl⟩ : ∃ m, n = m + 1 := ⟨n - 1, by simp at hn; omega⟩
    have hc : B i = some c := by simpa using hw 0 (by simp)
    have hcne : c ≠ '\x00' := fun h => hne (h ▸ List.mem_cons_self _ _)
    simp only [cStr, hc, hcne, if_false]
    refine congrArg _ (ih (fun j hj => ?_) ?_ (fun h => hne (List.mem_cons_of_mem _ h))
      (by simp at hn; omega))
    · simpa [Nat.add_assoc, Nat.add_comm 1] using hw (j + 1) (by simp; omega)
    · simpa [Nat.add_assoc, Nat.add_comm 1] using hnul

/-- The name `strcmp` sees after the name loop: the first 31 letters. -/
theorem pkgName_eq (s : List Char) (buf : Buffer) :
    cStr (writeAt (nameLoop s 0 buf).2.1 (min 31 (nameLoop s 0 buf).1) '\x00') 0 32 =
      (s.takeWhile Char.isAlpha).take 31 := by
  obtain ⟨h1, -, h3⟩ := nameLoop_eq s 0 buf
  rw [h1, Nat.zero_add]
  have hlen : ((s.takeWhile Char.isAlpha).take 31).length =
      min 31 (s.takeWhile Char.isAlpha).length := by
    simp [List.length_take, Nat.min_comm]
  apply cStr_eq
  · intro j hj
    rw [hlen] at hj
    simp only [writeAt, h3, Nat.zero_add, Nat.sub_zero,
      show j ≠ min 31 (s.takeWhile Char.isAlpha).length by omega, if_false]
    rw [dif_pos ⟨Nat.zero_le _, by omega, by omega⟩, List.getElem_take]
  · simp [writeAt, hlen]
  · intro h
    have := List.mem_takeWhile_imp (List.mem_of_mem_take h)
    revert this; decide
  · rw [hlen]; omega

/-! ### The loop -/

/-- The locals of `H5__debug_mask` that outlive one token, with `H5_debug_g`, the
number of `HDfdopen` calls so far and the lines printed to `stderr`. -/
structure MaskState where
  stream : Option Stream
  dbg : Debug
  calls : Nat
  out : List (List Char)

/-- The `strcmp` cascade on `pkg_name`: `trace`, `ttop`, `ttimes`, `all`, a package,
or the `ignored` message. -/
def applyName (name : List Char) (clear : Bool) (st : MaskState) : MaskState :=
  let v := if clear then none else st.stream
  if name = "trace".toList then { st with dbg := { st.dbg with trace := v } }
  else if name = "ttop".toList then { st with dbg := { st.dbg with trace := st.stream, ttop := !clear } }
  else if name = "ttimes".toList then
    { st with dbg := { st.dbg with trace := st.stream, ttimes := !clear } }
  else if name = "all".toList then { st with dbg := { st.dbg with pkg := fun _ => v } }
  else match Pkg.all.find? (fun p => p.name = name) with
    | some p => { st with dbg := { st.dbg with pkg := Function.update st.dbg.pkg p v } }
    | none => { st with out := st.out ++ ["HDF5_DEBUG: ignored ".toList ++ name ++ ['\n']] }

/-- The numeric branch after `strtol`: `stream = HDfdopen(fd, "w")`, then, when a stream
opened, a record for it; `false` is the `return` after a failed `H5MM_malloc`. -/
def openFd (io : DebugIo) (fd : Int) (st : MaskState) : MaskState × Bool :=
  let st' := { st with stream := io.fdopen st.calls fd, calls := st.calls + 1 }
  match io.fdopen st.calls fd with
  | none => (st', true)
  | some f =>
    if io.malloc st.calls then ({ st' with dbg := { st.dbg with openStream := f :: st.dbg.openStream } }, true)
    else (st', false)

/-- A name token consumes at least the character it starts at: the measure that ends
`debugMaskLoop` and `tokens`. -/
theorem dropWhile_rest_length {c : Char} {cs : List Char} (hc : c.isAlpha ∨ c = '-' ∨ c = '+') :
    ((if c = '-' ∨ c = '+' then cs else c :: cs).dropWhile Char.isAlpha).length <
      (c :: cs).length := by
  split
  · exact Nat.lt_succ_of_le (List.dropWhile_suffix _).length_le
  · rename_i hs
    have ha : c.isAlpha = true := by tauto
    rw [List.dropWhile_cons_of_pos ha]
    exact Nat.lt_succ_of_le (List.dropWhile_suffix _).length_le

/-- The `while (s && *s)` loop of `H5__debug_mask`. -/
def debugMaskLoop (io : DebugIo) : List Char → Buffer → MaskState → MaskState
  | [], _, st => st
  | c :: cs, pkgName, st =>
    if c = '\x00' then st
    else if h : c.isAlpha ∨ c = '-' ∨ c = '+' then
      let r := nameLoop (if c = '-' ∨ c = '+' then cs else c :: cs) 0 pkgName
      have : r.2.2.length < (c :: cs).length := by
        rw [(nameLoop_eq _ 0 pkgName).2.1]; exact dropWhile_rest_length h
      let buf := writeAt r.2.1 (min 31 r.1) '\x00'
      debugMaskLoop io r.2.2 buf (applyName (cStr buf 0 32) (c = '-') st)
    else if hd : c.isDigit then
      let r := strtol0 (c :: cs)
      have := strtol0_length_lt hd cs
      let o := openFd io r.1 st
      if o.2 then debugMaskLoop io r.2 pkgName o.1 else o.1
    else debugMaskLoop io cs pkgName st
termination_by s => s.length

/-- `H5__debug_mask(s)` on `H5_debug_g = dbg`: the new `H5_debug_g` and what it
printed. `none` is a `NULL` string. -/
def debugMask (io : DebugIo) (s : Option (List Char)) (dbg : Debug) : Debug × List (List Char) :=
  match s with
  | none => (dbg, [])
  | some s =>
    let st := debugMaskLoop io s (fun _ => none) ⟨some .stderr, dbg, 0, []⟩
    (st.dbg, st.out)

end H5Lifecycle
