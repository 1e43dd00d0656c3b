/-
**Cutting text into lines and lines into fields: `bufio.Scanner` and `regexp`.**

Every parser of the package has the same shape: a `bufio.Scanner` with the default `ScanLines`
split cuts the output of `VBoxManage` into lines, and a regular expression of `vbmgt.go` picks
each line apart with `FindStringSubmatch`.  What a parser returns for a given text is therefore
decided by two pieces of library behaviour that tests rarely reach: the scanner gives up on a
line of 64 KiB or more, and Go's `regexp` resolves an ambiguous pattern by *leftmost-first*
matching — the match a backtracking search meets first, greedy repetitions trying their longest
extent first.

This module models both.  The scanner is modelled on the lines of the text; a regular
expression is a small syntax tree, and matching is the backtracking search itself, written in
continuation-passing style, so that the order in which alternatives and repetition counts are
tried is the order the Go documentation prescribes.

Main definitions:

* `Virtualbox.scanLines` — the lines a `Scanner` yields, and whether it stopped on `ErrTooLong`;
* `Virtualbox.Regexp`, `Virtualbox.Regexp.bt` — patterns and their backtracking matcher;
* `Virtualbox.Regexp.findStringSubmatch` — `FindStringSubmatch`;
* `Virtualbox.Regexp.findLineSubmatch`, `Virtualbox.Regexp.findWholeSubmatch` — the same for a
  pattern anchored `(?m)^…$` to a line, and `^…$` to the whole text.

Main results:

* `Virtualbox.scanLines_lines`, `Virtualbox.scanLines_dropLast` — a text made of short lines
  scans to exactly those lines, with or without a newline after the last one;
* `Virtualbox.greedy_drop_append` — a greedy repetition settles on the last place where the rest
  of the pattern can match;
* `Virtualbox.Regexp.findStringSubmatch_of_matchAt` — a match from the first character is the leftmost;
* `Virtualbox.Regexp.findLineSubmatch_of_bt` — and so is a match of the first line.
-/

import Mathlib

set_option relaxedAutoImplicit false
set_option autoImplicit false

namespace Virtualbox

/-! ### `bufio.Scanner` with `ScanLines` -/

/-- `bufio.MaxScanTokenSize`: the size of the largest buffer a default `Scanner` grows to. -/
def maxScanTokenSize : Nat := 64 * 1024

/-- The length of a text in bytes, in its UTF-8 encoding. -/
def byteLength (l : List Char) : Nat := (l.map Char.utf8Size).sum

/-- `dropCR`: drop one carriage return that ends a line. -/
def dropCR (l : List Char) : List Char :=
  if l.getLast? = some '\r' then l.dropLast else l

/-- The scanner over the pieces of a text between its newlines.  Every piece but the last ended
with a newline; the last one is a line only when it is not empty.  A line must fit in the
64 KiB buffer together with its newline (or, for the last one, alone, before the end of input
is seen), so the scanner stops with `ErrTooLong` at the first line of 64 KiB or more, after
having yielded the lines before it. -/
def scanPieces : List (List Char) → List (List Char) × Bool
  | [] => ([], false)
  | [last] =>
    if last = [] then ([], false)
    else if byteLength last < maxScanTokenSize then ([dropCR last], false) else ([], true)
  | l :: l' :: rest =>
    if byteLength l < maxScanTokenSize then
      let r := scanPieces (l' :: rest)
      (dropCR l :: r.1, r.2)
    else ([], true)

/-- The lines a `bufio.Scanner` with the default `ScanLines` yields from `text`, and whether
`Err()` is `ErrTooLong` afterwards. -/
def scanLines (text : List Char) : List (List Char) × Bool :=
  scanPieces (text.splitOn '\n')

/-- A line the scanner accepts: no newline, and shorter than 64 KiB. -/
def ShortLine (l : List Char) : Prop := '\n' ∉ l ∧ byteLength l < maxScanTokenSize

theorem splitOn_newline_terminated (ls : List (List Char)) (last : List Char)
    (h : ∀ l ∈ ls, '\n' ∉ l) (hlast : '\n' ∉ last) :
    ((ls.map (· ++ ['\n'])).flatten ++ last).splitOn '\n' = ls ++ [last] := by
  induction ls with
  | nil =>
    rw [List.splitOn, List.splitOnP_eq_single]
    · rfl
    · intro x hx hxs
      exact hlast (by simpa using (beq_iff_eq.1 hxs) ▸ hx)
  | cons l ls ih =>
    have hl := h l (List.mem_cons_self _ _)
    simp only [List.map_cons, List.flatten_cons, List.append_assoc, List.cons_append]
    rw [List.splitOn, List.splitOnP_first]
    · exact congrArg (l :: ·) (ih fun l' hl' => h l' (List.mem_cons_of_mem _ hl'))
    · intro x hx hxs
      exact hl (by simpa using (beq_iff_eq.1 hxs) ▸ hx)
    · simp

theorem scanPieces_append_last (ls : List (List Char)) (last : List Char)
    (h : ∀ l ∈ ls, byteLength l < maxScanTokenSize) (hlast : byteLength last < maxScanTokenSize) :
    scanPieces (ls ++ [last]) =
      (ls.map dropCR ++ if last = [] then [] else [dropCR last], false) := by
  induction ls with
  | nil =>
    by_cases he : last = [] <;> simp [scanPieces, he, hlast]
  | cons l ls ih =>
    have hl := h l (List.mem_cons_self _ _)
    have ih := ih fun l' hl' => h l' (List.mem_cons_of_mem _ hl')
    cases ls with
    | nil => by_cases he : last = [] <;> simp [scanPieces, hl, he, hlast]
    | cons l' ls => simp only [List.cons_append, scanPieces, hl, if_true] at ih ⊢; simp [ih]

/-- **A text of short lines scans to its lines**: each line followed by a newline, then possibly
one more line without one, yields exactly these lines (with a final carriage return dropped), and
no error. -/
theorem scanLines_lines (ls : List (List Char)) (last : List Char)
    (h : ∀ l ∈ ls, ShortLine l) (hlast : ShortLine last) :
    scanLines ((ls.map (· ++ ['\n'])).flatten ++ last) =
      (ls.map dropCR ++ if last = [] then [] else [dropCR last], false) := by
  rw [scanLines, splitOn_newline_terminated ls last (fun l hl => (h l hl).1) hlast.1,
    scanPieces_append_last ls last (fun l hl => (h l hl).2) hlast.2]

/-- **Without its final newline, a text of short lines scans to the same lines**, but for a last
empty line, which is then no line at all. -/
theorem scanLines_dropLast (ls : List (List Char)) (x : List Char) (h : ∀ l ∈ ls, ShortLine l)
    (hx : ShortLine x) :
    scanLines (((ls ++ [x]).map (· ++ ['\n'])).flatten.dropLast) =
      (ls.map dropCR ++ if x = [] then [] else [dropCR x], false) := by
  rw [List.map_append, List.flatten_append, List.map_singleton, List.flatten_singleton,
    ← List.append_assoc, List.dropLast_concat, scanLines_lines ls x h hx]

theorem dropCR_of_getLast (l : List Char) (h : l.getLast? ≠ some '\r') : dropCR l = l := by
  simp [dropCR, h]

/-! ### Regular expressions -/

/-- The single-character classes the package's patterns use: a literal, `.` (any character but
a newline), `\s` (RE2's `[\t\n\f\r ]`) and a bracket class of ranges, such as `[0-9a-f-]`. -/
inductive CharClass where
  | lit (c : Char)
  | dot
  | space
  | ranges (rs : List (Char × Char))
  deriving DecidableEq, Repr

/-- Whether a character belongs to a class. -/
def CharClass.test : CharClass → Char → Bool
  | lit c, x => x == c
  | dot, x => x != '\n'
  | space, x => x == '\t' || x == '\n' || x == '\x0c' || x == '\r' || x == ' '
  | ranges rs, x => rs.any fun r => decide (r.1 ≤ x ∧ x ≤ r.2)

/-- Regular expressions in RE2 syntax, restricted to what the patterns of `vbmgt.go` use:
one character of a class, a greedy repetition of a class (`c*` for `min = 0`, `c+` for
`min = 1`), concatenation, alternation tried left first, and numbered capturing groups. -/
inductive Regexp where
  | one (c : CharClass)
  | rep (c : CharClass) (min : Nat)
  | cat (r s : Regexp)
  | alt (r s : Regexp)
  | group (i : Nat) (r : Regexp)
  deriving Repr

/-- The texts the capturing groups hold, by group number. -/
abbrev Caps := Nat → Option (List Char)

/-- A greedy repetition's choices: try to stop after `n` characters, then `n - 1`, …, down to the
minimum `m`, and keep the first choice for which the rest of the match succeeds. -/
def greedy {α : Type} (m : Nat) (f : Nat → Option α) : Nat → Option α
  | 0 => if m = 0 then f 0 else none
  | n + 1 => if n + 1 < m then none else (f (n + 1)).orElse fun _ => greedy m f n

/-- The backtracking matcher: match `r` at the front of `xs`, then hand the captures and the rest
of the text to the continuation `k`; the first success, in the order alternatives and repetition
counts are tried, wins.  This is what Go's leftmost-first semantics is defined by. -/
def Regexp.bt : Regexp → Caps → List Char → (Caps → List Char → Option Caps) → Option Caps
  | .one c, caps, x :: xs, k => if c.test x then k caps xs else none
  | .one _, _, [], _ => none
  | .rep c m, caps, xs, k =>
    greedy m (fun j => k caps (xs.drop j)) (xs.takeWhile c.test).length
  | .cat r s, caps, xs, k => r.bt caps xs fun caps' ys => s.bt caps' ys k
  | .alt r s, caps, xs, k => (r.bt caps xs k).orElse fun _ => s.bt caps xs k
  | .group i r, caps, xs, k =>
    r.bt caps xs fun caps' ys =>
      k (Function.update caps' i (some (xs.take (xs.length - ys.length)))) ys

/-- A match of `r` starting at the front of `xs`, with no capture set beforehand. -/
def Regexp.matchAt (r : Regexp) (xs : List Char) : Option Caps :=
  r.bt (fun _ => none) xs fun caps _ => some caps

/-- `FindStringSubmatch`: the groups of the leftmost match — start positions are tried from the
left, and at each the backtracking search decides — with `""` for a group that took no part;
`none` when nothing matches. -/
def Regexp.findStringSubmatch (r : Regexp) (s : List Char) : Option (Nat → List Char) :=
  ((List.range (s.length + 1)).findSome? fun p => r.matchAt (s.drop p)).map
    fun caps i => (caps i).getD []

/-- The continuation of a pattern that ends with `$` in multi-line mode: the match must end at the
end of a line, before a newline or at the end of the text. -/
def endOfLine (caps : Caps) (ys : List Char) : Option Caps :=
  if ys = [] ∨ ys.head? = some '\n' then some caps else none

/-- `FindStringSubmatch` of a pattern `(?m)^r$`: the leftmost match of `r` that starts at the
beginning of a line (the start of the text, or after a newline) and ends at the end of one. -/
def Regexp.findLineSubmatch (r : Regexp) (s : List Char) : Option (Nat → List Char) :=
  ((List.range (s.length + 1)).findSome? fun p =>
    if p = 0 ∨ s[p - 1]? = some '\n' then r.bt (fun _ => none) (s.drop p) endOfLine
    else none).map fun caps i => (caps i).getD []

/-- `FindStringSubmatch` of a pattern `^r$` without flags: a match of `r` on the whole text. -/
def Regexp.findWholeSubmatch (r : Regexp) (s : List Char) : Option (Nat → List Char) :=
  (r.bt (fun _ => none) s fun caps ys => if ys = [] then some caps else none).map
    fun caps i => (caps i).getD []

/-- A match at the start of the text, up to the end of a line, is the leftmost line match. -/
theorem Regexp.findLineSubmatch_of_bt (r : Regexp) (s : List Char) (caps : Caps)
    (h : r.bt (fun _ => none) s endOfLine = some caps) :
    r.findLineSubmatch s = some fun i => (caps i).getD [] := by
  simp [Regexp.findLineSubmatch, List.range_succ_eq_map, h]

@[simp] theorem Regexp.bt_one_cons (c : CharClass) (caps : Caps) (x : Char) (xs : List Char)
    (k : Caps → List Char → Option Caps) :
    (Regexp.one c).bt caps (x :: xs) k = if c.test x then k caps xs else none := rfl

@[simp] theorem Regexp.bt_one_nil (c : CharClass) (caps : Caps)
    (k : Caps → List Char → Option Caps) : (Regexp.one c).bt caps [] k = none := rfl

@[simp] theorem Regexp.bt_cat (r s : Regexp) (caps : Caps) (xs : List Char)
    (k : Caps → List Char → Option Caps) :
    (Regexp.cat r s).bt caps xs k = r.bt caps xs fun caps' ys => s.bt caps' ys k := rfl

@[simp] theorem Regexp.bt_alt (r s : Regexp) (caps : Caps) (xs : List Char)
    (k : Caps → List Char → Option Caps) :
    (Regexp.alt r s).bt caps xs k = (r.bt caps xs k).orElse fun _ => s.bt caps xs k := rfl

theorem Regexp.bt_group (i : Nat) (r : Regexp) (caps : Caps) (xs : List Char)
    (k : Caps → List Char → Option Caps) :
    (Regexp.group i r).bt caps xs k = r.bt caps xs fun caps' ys =>
      k (Function.update caps' i (some (xs.take (xs.length - ys.length)))) ys := rfl

theorem Regexp.bt_rep (c : CharClass) (m : Nat) (caps : Caps) (xs : List Char)
    (k : Caps → List Char → Option Caps) :
    (Regexp.rep c m).bt caps xs k =
      greedy m (fun j => k caps (xs.drop j)) (xs.takeWhile c.test).length := rfl

/-- A character that is not the class's fails a one-character pattern. -/
theorem Regexp.bt_one_of_not {c : CharClass} {caps : Caps} {xs : List Char}
    {k : Caps → List Char → Option Caps} (h : ∀ x t, xs = x :: t → c.test x = false) :
    (Regexp.one c).bt caps xs k = none := by
  cases xs with
  | nil => rfl
  | cons x t => simp [h x t rfl]

/-! ### Greedy repetition -/

/-- A greedy repetition takes the largest count, between `m` and `n`, for which the rest
succeeds. -/
theorem greedy_eq_of_top {α : Type} (m : Nat) (f : Nat → Option α) (a : Nat) (r : α)
    (hm : m ≤ a) (ha : f a = some r) :
    ∀ n, a ≤ n → (∀ j, a < j → j ≤ n → f j = none) → greedy m f n = some r := by
  intro n
  induction n with
  | zero =>
    intro han _
    have : a = 0 := by omega
    subst this
    simp [greedy, show m = 0 by omega, ha]
  | succ n ih =>
    intro han h
    simp only [greedy, show ¬ n + 1 < m by omega, if_false]
    by_cases hn : a = n + 1
    · subst hn; simp [ha]
    · rw [h (n + 1) (by omega) le_rfl]
      exact ih (by omega) fun j hj hjn => h j hj (by omega)

/-- **A greedy repetition settles on the last place the rest can match**: over `pre ++ post`, a
repetition that may stop after `pre` stops there when the rest of the pattern matches `post`
and fails on every shorter suffix of `post`. -/
theorem greedy_drop_append {α : Type} (m : Nat) (g : List Char → Option α)
    (pre post : List Char) (r : α) (hm : m ≤ pre.length) (hpost : g post = some r)
    (hlater : ∀ i, 0 < i → i ≤ post.length → g (post.drop i) = none) :
    greedy m (fun j => g ((pre ++ post).drop j)) (pre ++ post).length = some r := by
  refine greedy_eq_of_top m _ pre.length r hm (by simpa using hpost) _ (by simp) ?_
  intro j hj hjn
  have : (pre ++ post).drop j = post.drop (j - pre.length) := by
    rw [List.drop_append_eq_append_drop, List.drop_eq_nil_of_le (by omega), List.nil_append]
  rw [this]
  exact hlater _ (by omega) (by simp at hjn; omega)

/-- `.` runs over a whole text that holds no newline. -/
theorem takeWhile_dot {xs : List Char} (h : '\n' ∉ xs) :
    (xs.takeWhile CharClass.dot.test).length = xs.length := by
  rw [List.takeWhile_eq_self_iff.2]
  intro x hx
  simp only [CharClass.test, bne_iff_ne, ne_eq]
  exact fun e => h (e ▸ hx)

/-! ### Leftmost matches -/

/-- **A match from the first character is the leftmost one.** -/
theorem Regexp.findStringSubmatch_of_matchAt (r : Regexp) (s : List Char) (caps : Caps)
    (h : r.matchAt s = some caps) :
    r.findStringSubmatch s = some fun i => (caps i).getD [] := by
  simp [Regexp.findStringSubmatch, List.range_succ_eq_map, h]

end Virtualbox
