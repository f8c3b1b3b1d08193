import Mathlib.Data.List.Basic

/-!
The `DOWN` macro of `H5_term_library` (`src/H5.c`).

`H5_term_library` shuts the library down by calling the `term_package` hook of
each interface through `DOWN(F)`. Besides returning the hook's result `n`, the
macro appends the interface's name to the local array `char loop[1024]` at
offset `at` (comma separated, or `...` once room runs short); that text is
what the library prints when the shutdown does not converge.

A buffer is `Nat → Option Char`: `none` is a byte nothing ever wrote (`loop`
is not initialised), and an index from `sizeof loop` on lies outside the
array, so a write there would be a write out of bounds. `strlen(loop + at)`
right after a `sprintf` is the length of the text just written, since no text
`DOWN` writes holds a NUL.

* `downText_fits` — every `sprintf` of `DOWN` puts its NUL at an index of at
  most 1021, whatever the hook returned and wherever `at` stood.
* `Written` — `loop` holds a NUL-terminated string of length `at`, written by
  `DOWN`, ending by index 1021; `downBuf_written` says `DOWN` keeps it.
-/

namespace H5Lifecycle

/-- The interfaces whose hook `H5<F>_term_package` `H5_term_library` calls. -/
inductive Interface where
  | ES | L | A_top | D_top | G_top | M_top | S_top | T_top | F | P
  | A | D | G | M | S | T | AC | Z | FD | VL | PL | E | I | SL | FL | CX
  deriving DecidableEq, Repr

/-- `#F`: the name `DOWN(F)` writes into `loop`. -/
def Interface.name (x : Interface) : List Char :=
  String.toList <| match x with
  | .ES => "ES" | .L => "L" | .A_top => "A_top" | .D_top => "D_top" | .G_top => "G_top"
  | .M_top => "M_top" | .S_top => "S_top" | .T_top => "T_top" | .F => "F" | .P => "P"
  | .A => "A" | .D => "D" | .G => "G" | .M => "M" | .S => "S" | .T => "T" | .AC => "AC"
  | .Z => "Z" | .FD => "FD" | .VL => "VL" | .PL => "PL" | .E => "E" | .I => "I"
  | .SL => "SL" | .FL => "FL" | .CX => "CX"

theorem Interface.name_length_le (x : Interface) : x.name.length ≤ 5 := by
  cases x <;> decide

theorem Interface.nul_not_mem_name (x : Interface) : '\x00' ∉ x.name := by
  cases x <;> decide

theorem Interface.name_ne_nil (x : Interface) : x.name ≠ [] := by
  cases x <;> decide

/-- The bytes of a `char` array; `none` where nothing was written. -/
def Buffer : Type := Nat → Option Char

/-- `sizeof loop`. -/
def loopSize : Nat := 1024

/-- The buffer holding the C string `text` as `DOWN` leaves `loop`: the text, its
NUL once anything was written, and unwritten bytes after. -/
def render (text : List Char) : Buffer := fun i =>
  if h : i < text.length then some text[i]
  else if i = text.length ∧ text ≠ [] then some '\x00' else none

/-- `sprintf(loop + at, ...)` printing `text`: its characters from `at` on, then a NUL. -/
def sprintfAt (loop : Buffer) (atPos : Nat) (text : List Char) : Buffer := fun i =>
  if i < atPos then loop i
  else if h : i - atPos < text.length then some text[i - atPos]
  else if i = atPos + text.length then some '\x00'
  else loop i

/-- What `DOWN(F)` prints at `loop + at` when the hook returned `n`: the name, after
a comma unless `at` is 0, while `at + 8 < sizeof loop`; else `...` for a positive
`n` while `at + 5 < sizeof loop`; else nothing. -/
def downText (x : Interface) (n : Int) (atPos : Nat) : Option (List Char) :=
  if n ≠ 0 ∧ atPos + 8 < loopSize then
    some ((if atPos ≠ 0 then [','] else []) ++ x.name)
  else if 0 < n ∧ atPos + 5 < loopSize then some ['.', '.', '.']
  else none

/-- `at` and `loop` after `DOWN(F)`: the `sprintf`, then `at += strlen(loop + at)`. -/
def downBuf (x : Interface) (n : Int) (atPos : Nat) (loop : Buffer) : Nat × Buffer :=
  match downText x n atPos with
  | some text => (atPos + text.length, sprintfAt loop atPos text)
  | none => (atPos, loop)

/-! ### Every write stays inside `loop` -/

theorem downText_spec {x : Interface} {n : Int} {atPos : Nat} {text : List Char}
    (h : downText x n atPos = some text) :
    text ≠ [] ∧ '\x00' ∉ text ∧ atPos + text.length ≤ 1021 := by
  have := x.name_length_le
  have := x.nul_not_mem_name
  have := x.name_ne_nil
  unfold downText loopSize at h
  split_ifs at h with h1 h2 h3 <;> cases h <;> simp_all <;> omega

/-- **Every `sprintf` of `DOWN` ends inside `loop`**: its NUL lands at index
`at + strlen` of at most 1021, for every hook result and every `at`. -/
theorem downText_fits {x : Interface} {n : Int} {atPos : Nat} {text : List Char}
    (h : downText x n atPos = some text) : atPos + text.length ≤ 1021 :=
  (downText_spec h).2.2

theorem downText_of_ne_zero {x : Interface} {n : Int} {atPos : Nat} (hn : n ≠ 0)
    (hat : atPos + 8 < loopSize) :
    downText x n atPos = some ((if atPos ≠ 0 then [','] else []) ++ x.name) := by
  simp [downText, hn, hat]

/-! ### The string in `loop` -/

theorem sprintfAt_render (text t : List Char) (ht : t ≠ []) :
    sprintfAt (render text) text.length t = render (text ++ t) := by
  funext i
  simp only [sprintfAt, render, List.length_append]
  by_cases h1 : i < text.length
  · simp [h1, List.getElem_append_left, show i < text.length + t.length by omega]
  · by_cases h2 : i - text.length < t.length
    · simp [h1, h2, show i < text.length + t.length by omega, List.getElem_append_right,
        Nat.not_lt.mp h1]
    · by_cases h3 : i = text.length + t.length
      · simp [h1, h2, h3, ht]
      · simp [h1, h2, h3, show ¬ i < text.length + t.length by omega,
          show i ≠ text.length by omega]

/-- `loop` holds a NUL-terminated string of length `at` that `DOWN` wrote, ending by
index 1021; bytes after its NUL were never written. -/
def Written (atPos : Nat) (loop : Buffer) : Prop :=
  ∃ text : List Char, loop = render text ∧ text.length = atPos ∧ '\x00' ∉ text ∧ atPos ≤ 1021

theorem written_empty : Written 0 (render []) := ⟨[], rfl, rfl, by simp, by omega⟩

theorem downBuf_written {x : Interface} {n : Int} {atPos : Nat} {loop : Buffer}
    (h : Written atPos loop) : Written (downBuf x n atPos loop).1 (downBuf x n atPos loop).2 := by
  obtain ⟨text, rfl, rfl, hnul, _⟩ := h
  unfold downBuf
  split
  · rename_i t ht
    obtain ⟨hne, htnul, hfit⟩ := downText_spec ht
    exact ⟨text ++ t, sprintfAt_render text t hne, by simp, by simp [hnul, htnul], hfit⟩
  · exact ⟨text, rfl, rfl, hnul, by assumption⟩

theorem le_downBuf (x : Interface) (n : Int) (atPos : Nat) (loop : Buffer) :
    atPos ≤ (downBuf x n atPos loop).1 := by
  unfold downBuf
  split <;> simp

/-- A hook that returns non-zero leaves `at` positive: either `DOWN` prints its name, or
`at + 8` already reached `sizeof loop`. -/
theorem downBuf_pos {x : Interface} {n : Int} (hn : n ≠ 0) (atPos : Nat) (loop : Buffer) :
    0 < (downBuf x n atPos loop).1 := by
  by_cases hat : atPos + 8 < loopSize
  · have hne : ((if atPos ≠ 0 then [','] else []) ++ x.name).length ≠ 0 := by
      cases x <;> split_ifs <;> decide
    simp only [downBuf, downText_of_ne_zero hn hat]
    omega
  · have := le_downBuf x n atPos loop
    unfold loopSize at hat
    omega

end H5Lifecycle
