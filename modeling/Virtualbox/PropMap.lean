/-
**The machine-readable dump: `vminfoAsPropMap` and `reVMInfoLine`.**

`VBoxManage showvminfo --machinereadable` prints one setting a line, as `key=value`, where the
tool quotes some keys (`"SATA-0-0"="…"`) and most values.  `vminfoAsPropMap` (in the machine file
of the package) reads the text with a `bufio.Scanner` and matches each line against
`reVMInfoLine` of `vbmgt.go`,

    (?:"(.+)"|(.+))=(?:"(.*)"|(.*))

taking the first non-empty of groups 1 and 2 as the key and of groups 3 and 4 as the value; a
later line overwrites an earlier one with the same key.

Both key alternatives are greedy, and the pattern is matched leftmost-first.  When the key is
bare, group 2 therefore runs to the *last* `=` of the line, and when it is quoted, group 1 runs to
the last `"=`.  This module proves what that means for every listing: a line whose value holds no
such later separator is read as written, and a line whose quoted value does hold one is not.

Main definitions:

* `Virtualbox.reVMInfoLine` — the pattern;
* `Virtualbox.vminfoLine`, `Virtualbox.vminfoAsPropMap` — one line, and the whole text;
* `Virtualbox.InfoEntry` — an entry of a listing, and the line that writes it.

Main results:

* `Virtualbox.reVMInfoLine_bareKey`, `Virtualbox.reVMInfoLine_quotedKey` — how the pattern
  splits a line, for each form of the key;
* `Virtualbox.vminfoLine_line` — a well-separated entry's line reads back as the entry;
* `Virtualbox.vminfoAsPropMap_infoText` — **a listing of well-separated entries parses to the map
  that inserts them in order**;
* `Virtualbox.vminfoAsPropMap_quotedValueEq` — a bare key's quoted value that holds `=` is cut
  at that `=`.
-/

import Virtualbox.Go
import Virtualbox.Text

set_option relaxedAutoImplicit false
set_option autoImplicit false

namespace Virtualbox

/-! ### The pattern -/

/-- `"(.+)"`: a quoted key, captured by group 1. -/
def quotedKeyRe : Regexp :=
  .cat (.one (.lit '"')) (.cat (.group 1 (.rep .dot 1)) (.one (.lit '"')))

/-- `(.+)`: a bare key, captured by group 2. -/
def bareKeyRe : Regexp := .group 2 (.rep .dot 1)

/-- `"(.*)"`: a quoted value, captured by group 3. -/
def quotedValueRe : Regexp :=
  .cat (.one (.lit '"')) (.cat (.group 3 (.rep .dot 0)) (.one (.lit '"')))

/-- `(.*)`: a bare value, captured by group 4. -/
def bareValueRe : Regexp := .group 4 (.rep .dot 0)

/-- `(?:"(.*)"|(.*))`: the value part. -/
def valueRe : Regexp := .alt quotedValueRe bareValueRe

/-- `reVMInfoLine` of `vbmgt.go`: `(?:"(.+)"|(.+))=(?:"(.*)"|(.*))`. -/
def reVMInfoLine : Regexp :=
  .cat (.alt quotedKeyRe bareKeyRe) (.cat (.one (.lit '=')) valueRe)

/-- The continuation that ends a match: whatever follows is left unmatched. -/
def done : Caps → List Char → Option Caps := fun caps _ => some caps

/-! ### How the pattern splits a line -/

theorem valueRe_quoted (caps : Caps) (v : List Char) (hn : '\n' ∉ v) :
    valueRe.bt caps ('"' :: (v ++ ['"'])) done = some (Function.update caps 3 (some v)) := by
  have hrun : ((v ++ ['"']).takeWhile CharClass.dot.test).length = (v ++ ['"']).length :=
    takeWhile_dot (by simpa using hn)
  simp only [valueRe, quotedValueRe, Regexp.bt_alt, Regexp.bt_cat, Regexp.bt_one_cons,
    CharClass.test, beq_self_eq_true, if_true, Regexp.bt_group, Regexp.bt_rep, hrun]
  rw [greedy_drop_append 0 (fun ys => (Regexp.one (.lit '"')).bt
      (Function.update caps 3 (some ((v ++ ['"']).take ((v ++ ['"']).length - ys.length)))) ys
      done) v ['"'] _ (Nat.zero_le _)]
  · rfl
  · simp [CharClass.test, done]
  · intro i hi hil
    simp at hil
    simp [show i = 1 by omega, Regexp.bt_one_nil]

theorem valueRe_bare (caps : Caps) (v : List Char) (hq : v.head? ≠ some '"') (hn : '\n' ∉ v) :
    valueRe.bt caps v done = some (Function.update caps 4 (some v)) := by
  have hfail : quotedValueRe.bt caps v done = none := by
    simp only [quotedValueRe, Regexp.bt_cat]
    refine Regexp.bt_one_of_not fun x t hv => ?_
    simp only [CharClass.test, beq_eq_false_iff_ne, ne_eq]
    rintro rfl
    simp [hv] at hq
  simp only [valueRe, Regexp.bt_alt, hfail, Option.orElse, bareValueRe, Regexp.bt_group,
    Regexp.bt_rep, takeWhile_dot hn]
  have := greedy_drop_append 0 (fun ys => done
    (Function.update caps 4 (some (v.take (v.length - ys.length)))) ys) v [] _ (Nat.zero_le _)
    rfl (fun i hi hil => by simp at hil; omega)
  simpa using this

/-- Whether `"=` occurs in a text. -/
def hasQuoteEq : List Char → Bool
  | '"' :: '=' :: _ => true
  | _ :: t => hasQuoteEq t
  | [] => false

theorem hasQuoteEq_drop {l : List Char} (h : hasQuoteEq l = false) :
    ∀ (i : Nat) (u : List Char), l.drop i ≠ '"' :: '=' :: u := by
  induction l with
  | nil => intro i u; simp
  | cons x t ih =>
    intro i u hd
    have ht : hasQuoteEq t = false := by
      cases t with
      | nil => rfl
      | cons y t' => by_cases hx : x = '"' <;> by_cases hy : y = '=' <;> simp_all [hasQuoteEq]
    cases i with
    | zero =>
      simp only [List.drop_zero, List.cons.injEq] at hd
      obtain ⟨rfl, rfl⟩ := hd
      simp [hasQuoteEq] at h
    | succ i => exact ih ht i u hd

theorem hasQuoteEq_append_quote {l : List Char} (hq : '"' ∉ l) :
    hasQuoteEq (l ++ ['"']) = false := by
  induction l with
  | nil => rfl
  | cons x t ih =>
    have hx : x ≠ '"' := fun e => hq (e ▸ List.mem_cons_self _ _)
    have ih := ih fun e => hq (List.mem_cons_of_mem _ e)
    cases t with
    | nil => simp [hasQuoteEq, hx]
    | cons y t' => simp only [List.cons_append] at ih ⊢; simp [hasQuoteEq, hx, ih]

theorem hasQuoteEq_of_not_mem {l : List Char} (hq : '"' ∉ l) : hasQuoteEq l = false := by
  induction l with
  | nil => rfl
  | cons x t ih =>
    have hx : x ≠ '"' := fun e => hq (e ▸ List.mem_cons_self _ _)
    have ih := ih fun e => hq (List.mem_cons_of_mem _ e)
    cases t with
    | nil => simp [hasQuoteEq, hx]
    | cons y t' => simp [hasQuoteEq, hx, ih]

/-- What follows the key: `=` and the value part, up to the end of the match. -/
def sepValue : Caps → List Char → Option Caps :=
  fun caps ys => (Regexp.cat (.one (.lit '=')) valueRe).bt caps ys done

theorem reVMInfoLine_matchAt (xs : List Char) :
    reVMInfoLine.matchAt xs = (quotedKeyRe.bt (fun _ => none) xs sepValue).orElse
      fun _ => bareKeyRe.bt (fun _ => none) xs sepValue := rfl

theorem sepValue_eq (caps : Caps) (rest : List Char) :
    sepValue caps ('=' :: rest) = valueRe.bt caps rest done := by
  simp [sepValue, CharClass.test]

/-- Past the separator, no later `=` can start the value part. -/
theorem sepValue_drop_none (caps : Caps) {l : List Char} (h : '=' ∉ l) (i : Nat) :
    sepValue caps (l.drop i) = none := by
  simp only [sepValue, Regexp.bt_cat]
  refine Regexp.bt_one_of_not fun x t hxt => ?_
  have hx : x ∈ l := List.mem_of_mem_drop (by rw [hxt]; exact List.mem_cons_self _ _)
  simp only [CharClass.test, beq_eq_false_iff_ne, ne_eq]
  rintro rfl
  exact h hx

theorem take_length_sub_cons (k rest : List Char) (c : Char) :
    (k ++ c :: rest).take ((k ++ c :: rest).length - (c :: rest).length) = k := by
  simp

/-- **A bare key runs to the last `=`**: when no `=` follows the separator, the key is what comes
before it, and the value part matches the rest. -/
theorem reVMInfoLine_bareKey (k rest : List Char) (hk : k ≠ []) (hkq : k.head? ≠ some '"')
    (hkn : '\n' ∉ k) (hrn : '\n' ∉ rest) (hre : '=' ∉ rest) (r : Caps)
    (hr : valueRe.bt (Function.update (fun _ => none) 2 (some k)) rest done = some r) :
    reVMInfoLine.matchAt (k ++ '=' :: rest) = some r := by
  have hline : '\n' ∉ k ++ '=' :: rest := by simp [hkn, hrn]
  have hfail : quotedKeyRe.bt (fun _ => none) (k ++ '=' :: rest) sepValue = none := by
    simp only [quotedKeyRe, Regexp.bt_cat]
    refine Regexp.bt_one_of_not fun x t hxt => ?_
    cases k with
    | nil => exact absurd rfl hk
    | cons y ys =>
      simp only [List.cons_append, List.cons.injEq] at hxt
      simp only [CharClass.test, beq_eq_false_iff_ne, ne_eq]
      rintro rfl
      simp [hxt.1] at hkq
  rw [reVMInfoLine_matchAt, hfail, Option.orElse, bareKeyRe, Regexp.bt_group, Regexp.bt_rep,
    takeWhile_dot hline]
  refine greedy_drop_append 1 (fun ys => sepValue (Function.update (fun _ => none) 2
    (some ((k ++ '=' :: rest).take ((k ++ '=' :: rest).length - ys.length)))) ys) k ('=' :: rest)
    r (List.length_pos.2 hk) ?_ ?_
  · simpa only [take_length_sub_cons, sepValue_eq] using hr
  · intro i hi _
    obtain ⟨i, rfl⟩ : ∃ i', i = i' + 1 := ⟨i - 1, by omega⟩
    exact sepValue_drop_none _ hre i

/-- After a quoted key, no later place starts the separator `"=`, when no `"=` follows it. -/
theorem quoteSep_drop_none (caps : Caps) {rest : List Char} (hqe : hasQuoteEq rest = false) :
    ∀ i, (Regexp.one (.lit '"')).bt caps (('"' :: '=' :: rest).drop (i + 1)) sepValue = none
  | 0 => by simp [CharClass.test]
  | i + 1 => by
    simp only [List.drop_succ_cons]
    cases hd : rest.drop i with
    | nil => rfl
    | cons x t =>
      by_cases hx : x = '"'
      · subst hx
        cases t with
        | nil => rfl
        | cons y u =>
          have hy : y ≠ '=' := by
            rintro rfl
            exact hasQuoteEq_drop hqe i u hd
          simp [sepValue, CharClass.test, hy]
      · simp [CharClass.test, hx]

/-- **A quoted key runs to the last `"=`**: when no `"=` follows the separator, the key is what
stands between the first quote and the separator, and the value part matches the rest. -/
theorem reVMInfoLine_quotedKey (k rest : List Char) (hk : k ≠ []) (hkn : '\n' ∉ k)
    (hrn : '\n' ∉ rest) (hqe : hasQuoteEq rest = false) (r : Caps)
    (hr : valueRe.bt (Function.update (fun _ => none) 1 (some k)) rest done = some r) :
    reVMInfoLine.matchAt ('"' :: (k ++ '"' :: '=' :: rest)) = some r := by
  have hline : '\n' ∉ k ++ '"' :: '=' :: rest := by simp [hkn, hrn]
  have hkey : quotedKeyRe.bt (fun _ => none) ('"' :: (k ++ '"' :: '=' :: rest)) sepValue =
      some r := by
    simp only [quotedKeyRe, Regexp.bt_cat, Regexp.bt_one_cons, CharClass.test, beq_self_eq_true,
      if_true, Regexp.bt_group, Regexp.bt_rep, takeWhile_dot hline]
    refine greedy_drop_append 1 (fun ys => (Regexp.one (.lit '"')).bt (Function.update
      (fun _ => none) 1 (some ((k ++ '"' :: '=' :: rest).take
        ((k ++ '"' :: '=' :: rest).length - ys.length)))) ys sepValue) k ('"' :: '=' :: rest)
      r (List.length_pos.2 hk) ?_ ?_
    · simpa only [take_length_sub_cons, Regexp.bt_one_cons, CharClass.test, beq_self_eq_true,
        if_true, sepValue_eq] using hr
    · intro i hi _
      obtain ⟨i, rfl⟩ : ∃ i', i = i' + 1 := ⟨i - 1, by omega⟩
      exact quoteSep_drop_none _ hqe i
  rw [reVMInfoLine_matchAt, hkey]
  rfl

/-! ### A line, and a listing -/

/-- The key and the value `vminfoAsPropMap` takes from a line that matches: the first non-empty
of groups 1 and 2, and the first non-empty of groups 3 and 4. -/
def vminfoLine (line : List Char) : Option (String × String) :=
  (reVMInfoLine.findStringSubmatch line).map fun res =>
    (⟨if res 1 = [] then res 2 else res 1⟩, ⟨if res 3 = [] then res 4 else res 3⟩)

/-- A Go `map[string]string`, as its lookup. -/
abbrev PropMap := String → Option String

/-- The body of the loop of `vminfoAsPropMap`: a matching line stores its value under its key. -/
def propMapStep (propMap : PropMap) (line : List Char) : PropMap :=
  match vminfoLine line with
  | some (key, val) => Function.update propMap key (some val)
  | none => propMap

/-- `vminfoAsPropMap`: store the key and value of each matching line, a later line overwriting an
earlier one; lines that do not match are skipped, and a scan error is returned wrapped. -/
def vminfoAsPropMap (vmInfo : String) : Except Failure PropMap :=
  let (lines, tooLong) := scanLines vmInfo.data
  if tooLong then
    .error ((Failure.error "bufio.Scanner: token too long").wrap "error parsing vminfo into map")
  else .ok (lines.foldl propMapStep fun _ => none)

/-- An entry of a listing: a key and a value, each written bare or in quotes. -/
structure InfoEntry where
  key : String
  value : String
  quotedKey : Bool
  quotedValue : Bool

/-- The line that writes an entry: `key=value`, with the quotes the entry asks for. -/
def InfoEntry.line (e : InfoEntry) : List Char :=
  (if e.quotedKey then '"' :: (e.key.data ++ ['"']) else e.key.data) ++ '=' ::
    if e.quotedValue then '"' :: (e.value.data ++ ['"']) else e.value.data

/-- The entries of the listing format: a non-empty key, no quote and no line break in key or
value, no `=` in a bare key or a bare value, and a line shorter than 64 KiB. -/
structure InfoEntry.WellFormed (e : InfoEntry) : Prop where
  key_ne : e.key.data ≠ []
  key_quote : '"' ∉ e.key.data
  key_nl : '\n' ∉ e.key.data
  key_cr : '\r' ∉ e.key.data
  bareKey_eq : e.quotedKey = false → '=' ∉ e.key.data
  value_quote : '"' ∉ e.value.data
  value_nl : '\n' ∉ e.value.data
  value_cr : '\r' ∉ e.value.data
  bareValue_eq : e.quotedValue = false → '=' ∉ e.value.data
  short : byteLength e.line < maxScanTokenSize

/-- No separator of the pattern follows the entry's own: a quoted value under a bare key holds
no `=`, and a quoted value under a quoted key does not start with one. -/
def InfoEntry.Separated (e : InfoEntry) : Prop :=
  e.quotedValue = true →
    if e.quotedKey then e.value.data.head? ≠ some '=' else '=' ∉ e.value.data

/-- The map obtained by inserting the entries in order, a later one overwriting an earlier one
with the same key. -/
def insertEntries (es : List InfoEntry) : PropMap :=
  es.foldl (fun (m : PropMap) e => Function.update m e.key (some e.value)) fun _ => none

theorem InfoEntry.WellFormed.head_ne_quote {e : InfoEntry} (h : e.WellFormed) :
    e.key.data.head? ≠ some '"' := by
  intro hh
  exact h.key_quote (List.mem_of_mem_head? hh)

theorem vminfoLine_of_matchAt {line : List Char} {r : Caps}
    (h : reVMInfoLine.matchAt line = some r) :
    vminfoLine line = some (⟨if (r 1).getD [] = [] then (r 2).getD [] else (r 1).getD []⟩,
      ⟨if (r 3).getD [] = [] then (r 4).getD [] else (r 3).getD []⟩) := by
  simp [vminfoLine, Regexp.findStringSubmatch_of_matchAt _ _ _ h]

/-- **A well-separated entry's line reads back as the entry.** -/
theorem vminfoLine_line (e : InfoEntry) (h : e.WellFormed) (hs : e.Separated) :
    vminfoLine e.line = some (e.key, e.value) := by
  obtain ⟨⟨k⟩, ⟨v⟩, qk, qv⟩ := e
  have hvq : v.head? ≠ some '"' := fun hh => h.value_quote (List.mem_of_mem_head? hh)
  cases qk <;> cases qv
  · have hr := valueRe_bare (Function.update (fun _ => none) 2 (some k)) v hvq h.value_nl
    have hm := reVMInfoLine_bareKey k v h.key_ne h.head_ne_quote h.key_nl h.value_nl
      (h.bareValue_eq rfl) _ hr
    simp [InfoEntry.line, vminfoLine_of_matchAt hm, Function.update_apply]
  · have hr := valueRe_quoted (Function.update (fun _ => none) 2 (some k)) v h.value_nl
    have hm := reVMInfoLine_bareKey k ('"' :: (v ++ ['"'])) h.key_ne h.head_ne_quote h.key_nl
      (by simpa using h.value_nl) (by simpa [InfoEntry.Separated] using hs) _ hr
    simp [InfoEntry.line, vminfoLine_of_matchAt hm, Function.update_apply]
    split <;> simp_all
  · have hr := valueRe_bare (Function.update (fun _ => none) 1 (some k)) v hvq h.value_nl
    have hm := reVMInfoLine_quotedKey k v h.key_ne h.key_nl h.value_nl
      (hasQuoteEq_of_not_mem h.value_quote) _ hr
    simp [InfoEntry.line, vminfoLine_of_matchAt hm, Function.update_apply, h.key_ne]
  · have hr := valueRe_quoted (Function.update (fun _ => none) 1 (some k)) v h.value_nl
    have hqe : hasQuoteEq ('"' :: (v ++ ['"'])) = false := by
      have hv : v.head? ≠ some '=' := by simpa [InfoEntry.Separated] using hs
      cases v with
      | nil => rfl
      | cons x t =>
        have hx : x ≠ '=' := by simpa using hv
        have := hasQuoteEq_append_quote h.value_quote
        simp only [List.cons_append] at this
        simp [hasQuoteEq, hx, this]
    have hm := reVMInfoLine_quotedKey k ('"' :: (v ++ ['"'])) h.key_ne h.key_nl
      (by simpa using h.value_nl) hqe _ hr
    simp [InfoEntry.line, vminfoLine_of_matchAt hm, Function.update_apply, h.key_ne]
    split <;> simp_all

theorem InfoEntry.WellFormed.not_mem_line {e : InfoEntry} (h : e.WellFormed) {c : Char}
    (hc : c = '\n' ∨ c = '\r') : c ∉ e.line := by
  have hk : c ∉ e.key.data := by rcases hc with rfl | rfl; exacts [h.key_nl, h.key_cr]
  have hv : c ∉ e.value.data := by rcases hc with rfl | rfl; exacts [h.value_nl, h.value_cr]
  have hq : c ≠ '"' ∧ c ≠ '=' := by rcases hc with rfl | rfl <;> decide
  simp only [InfoEntry.line]
  split <;> split <;> simp_all

theorem InfoEntry.WellFormed.shortLine {e : InfoEntry} (h : e.WellFormed) : ShortLine e.line :=
  ⟨h.not_mem_line (.inl rfl), h.short⟩

theorem InfoEntry.WellFormed.dropCR_line {e : InfoEntry} (h : e.WellFormed) :
    dropCR e.line = e.line :=
  dropCR_of_getLast _ fun hl => h.not_mem_line (.inr rfl) (List.mem_of_getLast?_eq_some hl)

theorem InfoEntry.line_ne_nil (e : InfoEntry) : e.line ≠ [] := by
  simp [InfoEntry.line]

theorem foldl_propMapStep (es : List InfoEntry)
    (h : ∀ e ∈ es, vminfoLine e.line = some (e.key, e.value)) (m : PropMap) :
    (es.map InfoEntry.line).foldl propMapStep m =
      es.foldl (fun (m : PropMap) e => Function.update m e.key (some e.value)) m := by
  induction es generalizing m with
  | nil => rfl
  | cons e es ih =>
    simp only [List.map_cons, List.foldl_cons]
    rw [propMapStep, h e (List.mem_cons_self _ _)]
    exact ih (fun e' he' => h e' (List.mem_cons_of_mem _ he')) _

/-- **A listing of well-separated entries parses to the map that inserts them in order**: each
entry on a line of its own, the last one possibly without a final newline. -/
theorem vminfoAsPropMap_infoText (pre : List InfoEntry) (last : Option InfoEntry)
    (h : ∀ e ∈ pre ++ last.toList, e.WellFormed ∧ e.Separated) :
    vminfoAsPropMap ⟨(pre.map (·.line ++ ['\n'])).flatten ++ (last.map InfoEntry.line).getD []⟩ =
      .ok (insertEntries (pre ++ last.toList)) := by
  have hpre : ∀ e ∈ pre, e.WellFormed := fun e he => (h e (List.mem_append_left _ he)).1
  have hlast : ∀ e ∈ last, e.WellFormed := fun e he =>
    (h e (List.mem_append_right _ (Option.mem_toList.2 he))).1
  have hflat : (pre.map (·.line ++ ['\n'])).flatten = ((pre.map InfoEntry.line).map
      (· ++ ['\n'])).flatten := by simp [Function.comp_def]
  have hscan := scanLines_lines (pre.map InfoEntry.line) ((last.map InfoEntry.line).getD [])
    (by simpa using fun e he => (hpre e he).shortLine)
    (by cases last with
        | none => exact ⟨List.not_mem_nil _, by decide⟩
        | some e => exact (hlast e rfl).shortLine)
  have hlines : (pre.map InfoEntry.line).map dropCR ++
      (if (last.map InfoEntry.line).getD [] = [] then []
        else [dropCR ((last.map InfoEntry.line).getD [])]) =
      (pre ++ last.toList).map InfoEntry.line := by
    have hmap : (pre.map InfoEntry.line).map dropCR = pre.map InfoEntry.line := by
      simpa using fun e he => (hpre e he).dropCR_line
    cases last with
    | none => simp [hmap]
    | some e => simp [hmap, (hlast e rfl).dropCR_line, InfoEntry.line_ne_nil]
  simp only [vminfoAsPropMap, hflat, hscan, hlines]
  rw [foldl_propMapStep _ (fun e he => vminfoLine_line e (h e he).1 (h e he).2)]
  rfl

theorem vminfoAsPropMap_infoText_cpus :
    (∀ e ∈ [(⟨"cpus", "4", false, true⟩ : InfoEntry)] ++ (some ⟨"SATA-0-0", "none", true, true⟩ :
        Option InfoEntry).toList, e.WellFormed ∧ e.Separated) ∧
    vminfoAsPropMap ⟨([(⟨"cpus", "4", false, true⟩ : InfoEntry)].map (·.line ++ ['\n'])).flatten ++
        ((some ⟨"SATA-0-0", "none", true, true⟩ : Option InfoEntry).map InfoEntry.line).getD []⟩ =
      .ok (insertEntries ([⟨"cpus", "4", false, true⟩] ++
        (some ⟨"SATA-0-0", "none", true, true⟩ : Option InfoEntry).toList)) := by
  have h : ∀ e ∈ [(⟨"cpus", "4", false, true⟩ : InfoEntry)] ++
      (some ⟨"SATA-0-0", "none", true, true⟩ : Option InfoEntry).toList,
      e.WellFormed ∧ e.Separated := by
    intro e he
    simp only [Option.toList_some, List.singleton_append, List.mem_cons, List.mem_singleton,
      List.not_mem_nil, or_false] at he
    rcases he with rfl | rfl <;>
      exact ⟨⟨by decide, by decide, by decide, by decide, by decide, by decide, by decide,
        by decide, by decide, by decide⟩, by unfold InfoEntry.Separated; decide⟩
  exact ⟨h, vminfoAsPropMap_infoText _ _ h⟩

/-- A bare key whose quoted value holds `=`: the greedy key runs to that `=`, so the line
`k="a=b"` stores `b"` under the key `k="a`, and nothing under `k`. -/
theorem vminfoAsPropMap_quotedValueEq :
    (vminfoAsPropMap "k=\"a=b\"\n").map (fun m => (m "k", m "k=\"a")) = .ok (none, some "b\"") := by
  rfl

end Virtualbox
