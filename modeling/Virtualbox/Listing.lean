/-
**Colon listings: the lines of `list dhcpservers` and `list natnets`.**

`VBoxManage list dhcpservers` and `VBoxManage list natnets` print one record per server or
network, a line `Key:   value` per field and an empty line between two records.  `DHCPs` and
`NATNets` scan the text into lines and pick each line apart with `reColonLine`, `(.+):\s+(.*)`.
The key group is greedy: it runs to the *last* colon that a blank follows, so a line is cut
where its writer meant only when its value holds no colon followed by a blank.

This module models the pattern, the lines a well-formed listing is made of, and the text of a
listing, and proves that the scanner and the pattern give back exactly those lines, keys and
values.  It also collects what the two parsers call that is not part of the sources here: the
library functions `strings.ToLower` (outside ASCII), `net.ParseIP`, `IP.To4` and `net.ParseCIDR`,
and the package's `ParseIPv4Mask` and `stringYes`.

Main definitions:

* `Virtualbox.reColonLine`, `Virtualbox.colonLine` — the pattern and what a parser takes from a
  line;
* `Virtualbox.ColonLine` — a well-formed data line, carrying its invariants;
* `Virtualbox.listingLines`, `Virtualbox.listingText`, `Virtualbox.listingTextNoEOL` — the lines
  and the text of a listing, with and without a newline after its last line;
* `Virtualbox.Externals`, `Virtualbox.goToLower` — the functions the parsers call.

Main results:

* `Virtualbox.colonLine_line` — **a data line is cut at its own colon**;
* `Virtualbox.scanLines_listingText`, `Virtualbox.scanLines_listingTextNoEOL` — the scanner gives
  back the lines of a listing, whether its last line ends with a newline or not.
-/

import Virtualbox.PropMap

set_option relaxedAutoImplicit false
set_option autoImplicit false

namespace Virtualbox

/-! ### The pattern -/

/-- `reColonLine` of `vbmgt.go`: `(.+):\s+(.*)`. -/
def reColonLine : Regexp :=
  .cat (.group 1 (.rep .dot 1))
    (.cat (.one (.lit ':')) (.cat (.rep .space 1) (.group 2 (.rep .dot 0))))

/-- The key and the value a listing parser takes from a line that matches: groups 1 and 2. -/
def colonLine (line : List Char) : Option (String × String) :=
  (reColonLine.findStringSubmatch line).map fun res => (⟨res 1⟩, ⟨res 2⟩)

/-- What follows the key group: `:\s+(.*)`, up to the end of the match. -/
def colonRest : Caps → List Char → Option Caps :=
  fun caps ys =>
    (Regexp.cat (.one (.lit ':')) (.cat (.rep .space 1) (.group 2 (.rep .dot 0)))).bt caps ys done

/-- Whether a text holds no `:` followed by a blank (a character of `\s`). -/
def colonSpaceFree : List Char → Bool
  | ':' :: y :: t => !CharClass.space.test y && colonSpaceFree (y :: t)
  | _ :: t => colonSpaceFree t
  | [] => true

/-! ### How the pattern cuts a line -/

theorem matchAt_reColonLine (xs : List Char) :
    reColonLine.matchAt xs = (Regexp.group 1 (.rep .dot 1)).bt (fun _ => none) xs colonRest :=
  rfl

/-- `(.*)` takes a whole text with no line break. -/
theorem dotStar_group (i : Nat) (caps : Caps) (t : List Char) (hn : '\n' ∉ t) :
    (Regexp.group i (.rep .dot 0)).bt caps t done = some (Function.update caps i (some t)) := by
  rw [Regexp.bt_group, Regexp.bt_rep, takeWhile_dot hn]
  refine greedy_eq_of_top 0 _ t.length _ (Nat.zero_le _) ?_ _ le_rfl fun j hj hjn => by omega
  simp [done]

/-- After the key, a colon, blanks and a value that starts with no blank match to the end. -/
theorem colonRest_eq (caps : Caps) (ws v : List Char) (hws : ws ≠ [])
    (hblank : ∀ c ∈ ws, c = ' ' ∨ c = '\t')
    (hv : ∀ c, v.head? = some c → CharClass.space.test c = false) (hvn : '\n' ∉ v) :
    colonRest caps (':' :: (ws ++ v)) = some (Function.update caps 2 (some v)) := by
  have hrun : (ws ++ v).takeWhile CharClass.space.test = ws := by
    rw [List.takeWhile_append_of_pos fun c hc => by
      rcases hblank c hc with rfl | rfl <;> rfl]
    cases v with
    | nil => simp
    | cons c t => simp [List.takeWhile_cons, hv c rfl]
  simp only [colonRest, Regexp.bt_cat, Regexp.bt_one_cons, CharClass.test, beq_self_eq_true,
    if_true, Regexp.bt_rep, hrun]
  refine greedy_eq_of_top 1 _ ws.length _ (List.length_pos.2 hws) ?_ _ le_rfl
    fun j hj hjn => by omega
  simpa using dotStar_group 2 caps v hvn

/-- A colon that no blank follows cannot start the rest of the pattern. -/
theorem colonRest_colon_none (caps : Caps) (t : List Char)
    (ht : ∀ c, t.head? = some c → CharClass.space.test c = false) :
    colonRest caps (':' :: t) = none := by
  have hrun : (t.takeWhile CharClass.space.test).length = 0 := by
    cases t with
    | nil => rfl
    | cons c u => simp [List.takeWhile_cons, ht c rfl]
  simp only [colonRest, Regexp.bt_cat, Regexp.bt_one_cons, CharClass.test, beq_self_eq_true,
    if_true, Regexp.bt_rep, hrun]
  rfl

/-- In a text with no colon followed by a blank, the rest of the pattern starts nowhere. -/
theorem colonRest_drop_none (caps : Caps) {l : List Char} (h : colonSpaceFree l = true) :
    ∀ j, colonRest caps (l.drop j) = none := by
  induction l with
  | nil => intro j; simp [colonRest, Regexp.bt_one_nil]
  | cons x t ih =>
    have ht : colonSpaceFree t = true := by
      cases t with
      | nil => rfl
      | cons y u => by_cases hx : x = ':' <;> simp_all [colonSpaceFree]
    intro j
    cases j with
    | succ j => exact ih ht j
    | zero =>
      by_cases hx : x = ':'
      · subst hx
        refine colonRest_colon_none caps t fun c hc => ?_
        cases t with
        | nil => simp at hc
        | cons y u =>
          simp only [List.head?_cons, Option.some.injEq] at hc
          subst hc
          simp only [colonSpaceFree, Bool.and_eq_true, Bool.not_eq_true'] at h
          exact h.1
      · simp [colonRest, CharClass.test, hx]

theorem colonSpaceFree_blanks_append {ws : List Char} (hblank : ∀ c ∈ ws, c = ' ' ∨ c = '\t')
    (v : List Char) : colonSpaceFree (ws ++ v) = colonSpaceFree v := by
  induction ws with
  | nil => rfl
  | cons c ws ih =>
    have hc : c ≠ ':' := by rcases hblank c (List.mem_cons_self _ _) with rfl | rfl <;> decide
    rw [List.cons_append, ← ih fun d hd => hblank d (List.mem_cons_of_mem _ hd)]
    cases ws ++ v with
    | nil => simp [colonSpaceFree, hc]
    | cons y u => simp [colonSpaceFree, hc]

/-- **The key runs to the last colon a blank follows**: a line `key:<blanks>value` whose value
starts with no blank and holds no colon followed by a blank matches with the key in group 1 and
the value in group 2. -/
theorem reColonLine_matchAt (k ws v : List Char) (hk : k ≠ []) (hkn : '\n' ∉ k) (hws : ws ≠ [])
    (hblank : ∀ c ∈ ws, c = ' ' ∨ c = '\t')
    (hv : ∀ c, v.head? = some c → CharClass.space.test c = false) (hvn : '\n' ∉ v)
    (hfree : colonSpaceFree v = true) :
    reColonLine.matchAt (k ++ ':' :: (ws ++ v)) =
      some (Function.update (Function.update (fun _ => none) 1 (some k)) 2 (some v)) := by
  have hwsn : '\n' ∉ ws := fun h => by rcases hblank _ h with h | h <;> cases h
  have hline : '\n' ∉ k ++ ':' :: (ws ++ v) := by simp [hkn, hwsn, hvn]
  rw [matchAt_reColonLine, Regexp.bt_group, Regexp.bt_rep, takeWhile_dot hline]
  refine greedy_drop_append 1 (fun ys => colonRest (Function.update (fun _ => none) 1
    (some ((k ++ ':' :: (ws ++ v)).take ((k ++ ':' :: (ws ++ v)).length - ys.length)))) ys)
    k (':' :: (ws ++ v)) _ (List.length_pos.2 hk) ?_ ?_
  · simpa only [take_length_sub_cons] using colonRest_eq _ ws v hws hblank hv hvn
  · intro i hi _
    obtain ⟨i, rfl⟩ : ∃ i', i = i' + 1 := ⟨i - 1, by omega⟩
    exact colonRest_drop_none _ ((colonSpaceFree_blanks_append hblank v).trans hfree) i

/-! ### Data lines -/

/-- A data line of a colon listing, `key:<blanks>value`: a non-empty key, at least one blank
(space or tab), and a value that starts with no blank, holds no colon followed by a blank (where
the pattern would cut the line instead) and ends with no carriage return (which the scanner would
drop); no line break anywhere, and shorter than 64 KiB. -/
structure ColonLine where
  key : String
  blanks : List Char
  value : String
  key_ne : key.data ≠ []
  key_nl : '\n' ∉ key.data
  blanks_ne : blanks ≠ []
  blanks_blank : ∀ c ∈ blanks, c = ' ' ∨ c = '\t'
  value_head : value.data.head?.map CharClass.space.test ≠ some true
  value_nl : '\n' ∉ value.data
  value_cr : value.data.getLast? ≠ some '\r'
  value_free : colonSpaceFree value.data = true
  short : byteLength (key.data ++ ':' :: (blanks ++ value.data)) < maxScanTokenSize

/-- The text of a data line. -/
def ColonLine.line (l : ColonLine) : List Char := l.key.data ++ ':' :: (l.blanks ++ l.value.data)

/-- **A data line is cut at its own colon.** -/
theorem colonLine_line (l : ColonLine) : colonLine l.line = some (l.key, l.value) := by
  have hhead : ∀ c, l.value.data.head? = some c → CharClass.space.test c = false := fun c hc => by
    simpa [hc] using l.value_head
  have h := reColonLine_matchAt _ _ _ l.key_ne l.key_nl l.blanks_ne l.blanks_blank hhead
    l.value_nl l.value_free
  rw [colonLine, ColonLine.line, Regexp.findStringSubmatch_of_matchAt _ _ _ h]
  simp [Function.update_noteq]

theorem ColonLine.line_ne_nil (l : ColonLine) : l.line ≠ [] := by
  simp [ColonLine.line]

theorem ColonLine.shortLine (l : ColonLine) : ShortLine l.line := by
  have hwsn : '\n' ∉ l.blanks := fun h => by rcases l.blanks_blank _ h with h | h <;> cases h
  exact ⟨by simp [ColonLine.line, l.key_nl, hwsn, l.value_nl], l.short⟩

theorem ColonLine.dropCR_line (l : ColonLine) : dropCR l.line = l.line := by
  refine dropCR_of_getLast _ ?_
  rcases List.eq_nil_or_concat l.value.data with hv | ⟨vs, x, hv⟩
  · obtain ⟨bs, b, hb⟩ := (List.eq_nil_or_concat l.blanks).resolve_left l.blanks_ne
    have hline : l.line = (l.key.data ++ ':' :: bs) ++ [b] := by simp [ColonLine.line, hv, hb]
    rw [hline, List.getLast?_concat]
    rcases l.blanks_blank b (by simp [hb]) with rfl | rfl <;> decide
  · have hline : l.line = (l.key.data ++ ':' :: (l.blanks ++ vs)) ++ [x] := by
      simp [ColonLine.line, hv]
    rw [hline, List.getLast?_concat]
    simpa [hv] using l.value_cr

/-! ### Listings -/

/-- The lines of a listing: the records' data lines, with an empty line between two records. -/
def listingLines : List (List ColonLine) → List (List Char)
  | [] => []
  | [r] => r.map ColonLine.line
  | r :: rs => r.map ColonLine.line ++ [] :: listingLines rs

/-- The text of a listing: each of its lines followed by a newline. -/
def listingText (records : List (List ColonLine)) : String :=
  ⟨((listingLines records).map (· ++ ['\n'])).flatten⟩

theorem mem_listingLines {records : List (List ColonLine)} {line : List Char}
    (h : line ∈ listingLines records) : line = [] ∨ ∃ r ∈ records, ∃ l ∈ r, line = l.line := by
  induction records with
  | nil => simp [listingLines] at h
  | cons r rs ih =>
    cases rs with
    | nil =>
      simp only [listingLines, List.mem_map] at h
      obtain ⟨l, hl, rfl⟩ := h
      exact .inr ⟨r, List.mem_cons_self _ _, l, hl, rfl⟩
    | cons r' rs =>
      simp only [listingLines, List.mem_append, List.mem_map, List.mem_cons] at h
      rcases h with ⟨l, hl, rfl⟩ | rfl | h
      · exact .inr ⟨r, List.mem_cons_self _ _, l, hl, rfl⟩
      · exact .inl rfl
      · rcases ih (by simpa [listingLines] using h) with h | ⟨r'', hr, l, hl, rfl⟩
        · exact .inl h
        · exact .inr ⟨r'', List.mem_cons_of_mem _ hr, l, hl, rfl⟩

/-- The text of a listing with no newline after its last line. -/
def listingTextNoEOL (records : List (List ColonLine)) : String :=
  ⟨(listingText records).data.dropLast⟩

theorem listingLines_concat (rs : List (List ColonLine)) (r : List ColonLine) :
    listingLines (rs ++ [r]) =
      listingLines rs ++ (if rs.isEmpty then [] else [[]]) ++ r.map ColonLine.line := by
  induction rs with
  | nil => simp [listingLines]
  | cons r' rs ih =>
    cases rs with
    | nil => simp [listingLines]
    | cons r'' rs =>
      have hcons : ∀ a b l, listingLines (a :: b :: l) =
          a.map ColonLine.line ++ [] :: listingLines (b :: l) := fun _ _ _ => rfl
      rw [List.cons_append, List.cons_append, hcons, ← List.cons_append r'' rs, ih, hcons]
      simp

/-- Every line of a listing is one the scanner reads whole and gives back as it is. -/
theorem listingLines_short (records : List (List ColonLine)) :
    ∀ line ∈ listingLines records, ShortLine line ∧ dropCR line = line := by
  intro line hline
  rcases mem_listingLines hline with rfl | ⟨r, -, l, -, rfl⟩
  · exact ⟨⟨by simp, by decide⟩, rfl⟩
  · exact ⟨l.shortLine, l.dropCR_line⟩

/-- **The scanner gives back the lines of a listing**, and no error. -/
theorem scanLines_listingText (records : List (List ColonLine)) :
    scanLines (listingText records).data = (listingLines records, false) := by
  have hshort := listingLines_short records
  have h := scanLines_lines (listingLines records) [] (fun l hl => (hshort l hl).1)
    ⟨by simp, by decide⟩
  rw [List.append_nil, if_pos rfl, List.append_nil, List.map_congr_left fun l hl => (hshort l hl).2,
    List.map_id'] at h
  exact h

theorem scanLines_dropLast_of_fixed {ls : List (List Char)} {x : List Char}
    (h : ∀ line ∈ ls ++ [x], ShortLine line ∧ dropCR line = line) :
    scanLines (((ls ++ [x]).map (· ++ ['\n'])).flatten.dropLast) =
      (ls ++ if x = [] then [] else [x], false) := by
  have hx := h x (by simp)
  rw [scanLines_dropLast ls x (fun l hl => (h l (by simp [hl])).1) hx.1, hx.2,
    List.map_congr_left fun l hl => (h l (by simp [hl])).2, List.map_id']

/-- **Without the newline after its last line, a listing scans to the lines of the same
records**, but for an empty last record, whose empty line before it is then the text's last. -/
theorem scanLines_listingTextNoEOL (records : List (List ColonLine)) :
    ∃ records', scanLines (listingTextNoEOL records).data = (listingLines records', false) ∧
      (records' = records ∨ records = records' ++ [[]]) := by
  induction records using List.reverseRecOn with
  | nil => exact ⟨[], rfl, .inl rfl⟩
  | append_singleton rs r _ =>
    have hshort := listingLines_short (rs ++ [r])
    rw [listingLines_concat] at hshort
    simp only [listingTextNoEOL, listingText, listingLines_concat]
    induction r using List.reverseRecOn with
    | nil =>
      cases rs with
      | nil => exact ⟨[[]], rfl, .inl rfl⟩
      | cons r' rs =>
        refine ⟨r' :: rs, ?_, .inr rfl⟩
        simp only [List.isEmpty_cons, Bool.false_eq_true, if_false, List.map_nil,
          List.append_nil] at hshort ⊢
        rw [scanLines_dropLast_of_fixed hshort, if_pos rfl, List.append_nil]
    | append_singleton ys l _ =>
      refine ⟨rs ++ [ys ++ [l]], ?_, .inl rfl⟩
      rw [List.map_append ColonLine.line ys [l], List.map_singleton, ← List.append_assoc]
        at hshort ⊢
      rw [scanLines_dropLast_of_fixed hshort, if_neg l.line_ne_nil, listingLines_concat,
        List.map_append ColonLine.line ys [l], List.map_singleton, ← List.append_assoc]

/-- The last value a record gives under one of `keys`, the keys of its lines compared after
`norm`. -/
def lastValue (norm : String → String) (r : List ColonLine) (keys : List String) : Option String :=
  (r.reverse.find? fun l => keys.contains (norm l.key)).map ColonLine.value

theorem lastValue_concat (norm : String → String) (r : List ColonLine) (l : ColonLine)
    (keys : List String) :
    lastValue norm (r ++ [l]) keys =
      if keys.contains (norm l.key) then some l.value else lastValue norm r keys := by
  simp only [lastValue, List.reverse_append, List.reverse_cons, List.reverse_nil, List.nil_append,
    List.singleton_append, List.find?_cons]
  cases keys.contains (norm l.key) <;> rfl

/-! ### What the parsers call -/

/-- `net.IP` and `net.IPMask`: byte slices, `nil` being the empty one. -/
abbrev IP := List UInt8

/-- `net.IPNet`: an address and a mask. -/
structure IPNet where
  ip : IP
  mask : IP
  deriving DecidableEq, Repr

/-- The zero `net.IPNet`. -/
def IPNet.empty : IPNet := ⟨[], []⟩

/-- What the listing parsers call that is not part of the sources here: `unicode.ToLower` on a
character outside ASCII (`strings.ToLower` lowers ASCII letters itself), `net.ParseIP`, `IP.To4`,
`net.ParseCIDR` (the address and the network, or the error), and the package's `ParseIPv4Mask`
and `stringYes`. -/
structure Externals where
  unicodeToLower : Char → Char
  parseIP : String → IP
  to4 : IP → IP
  parseCIDR : String → Except Failure (IP × IPNet)
  parseIPv4Mask : String → IP
  stringYes : String

/-- Library functions that return zero values, and `stringYes` as the listings print it: enough for
listings that call none of them on a value that matters. -/
def stubExternals : Externals :=
  ⟨id, fun _ => [], id, fun _ => .ok ([], IPNet.empty), fun _ => [], "Yes"⟩

/-- `strings.ToLower`: ASCII letters are lowered, other characters go through
`unicode.ToLower`. -/
def goToLower (ex : Externals) (s : String) : String :=
  ⟨s.data.map fun c => if c.val < 128 then c.toLower else ex.unicodeToLower c⟩

end Virtualbox
