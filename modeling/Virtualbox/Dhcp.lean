/-
**DHCP servers: `DHCPs` and the records of `list dhcpservers`.**

`DHCPs` reads the listing a line at a time, with a pointer `dhcp` to the record being filled.  An
empty line points it to a fresh record.  A `NetworkName` line names the record and enters it in
the map `m` under that name at once, so that a last record with no empty line after it is not
lost; a name already in the map is an error.  Every other known key (compared after
`strings.ToLower`) sets a field of the record, which the map sees through the pointer.

The model keeps the pointers: a heap of records, the address `dhcp` holds and the map from names
to addresses (`DHCPsState`, `dhcpsStep`, `dhcps`).  Above it, `Registry` forgets the heap: the
entries of the finished records, and the names and the fields of the current one.  The heap model
refines the registry line by line, and the registry over a listing returns what the listing says
record by record: under each name of a record, the record, each of its fields holding the last
value the record gives for it (`recordDHCP`).  Two names in one record therefore share it, and
the first name's entry carries the second name.

Main definitions:

* `Virtualbox.DHCP`, `Virtualbox.DHCPsState`, `Virtualbox.dhcpsStep`, `Virtualbox.dhcps`;
* `Virtualbox.Registry`, `Virtualbox.registryStep` — the same loop without pointers;
* `Virtualbox.recordNames`, `Virtualbox.recordDHCP` — what a record says.

Main results:

* `Virtualbox.dhcpsStep_refines`, `Virtualbox.foldlM_dhcpsStep` — the heap model refines the
  registry;
* `Virtualbox.registry_record`, `Virtualbox.registry_listing` — the registry over a record and
  over a listing;
* `Virtualbox.dhcps_listing` — **what `DHCPs` returns for a listing**, with or without a newline
  after its last line;
* `Virtualbox.dhcps_cutAtLastColon` — a value holding a colon and a blank is cut in the wrong
  place, and two names in one record share the record.
-/

import Virtualbox.Listing

set_option relaxedAutoImplicit false
set_option autoImplicit false

namespace Virtualbox

/-! ### `DHCPs` -/

/-- `DHCP`: a DHCP server. -/
structure DHCP where
  networkName : String
  ipv4 : IPNet
  lowerIP : IP
  upperIP : IP
  enabled : Bool
  deriving DecidableEq, Repr

/-- `DHCP{}`. -/
def DHCP.empty : DHCP := ⟨"", IPNet.empty, [], [], false⟩

/-- The assignment the `switch` of `DHCPs` makes for a lower-cased key other than
`networkname`, if the key is one it knows. -/
def dhcpField (ex : Externals) (key val : String) : Option (DHCP → DHCP) :=
  if key = "ip" ∨ key = "dhcpd ip" then
    some fun d => { d with ipv4 := { d.ipv4 with ip := ex.to4 (ex.parseIP val) } }
  else if key = "upperipaddress" then some fun d => { d with upperIP := ex.to4 (ex.parseIP val) }
  else if key = "loweripaddress" then some fun d => { d with lowerIP := ex.to4 (ex.parseIP val) }
  else if key = "networkmask" then
    some fun d => { d with ipv4 := { d.ipv4 with mask := ex.parseIPv4Mask val } }
  else if key = "enabled" then some fun d => { d with enabled := decide (val = ex.stringYes) }
  else none

/-- The state of the loop of `DHCPs`: the records allocated so far, by address; the address the
pointer `dhcp` holds; and the map `m`, each name with the address it points to, in the order of
insertion. -/
structure DHCPsState where
  heap : Nat → DHCP
  dhcp : Nat
  m : List (String × Nat)

namespace DHCPsState

/-- Before the first line: `dhcp := &DHCP{}` at address 0, and an empty map. -/
def init : DHCPsState := ⟨fun _ => DHCP.empty, 0, []⟩

/-- `dhcp = &DHCP{}`: a fresh record. -/
def alloc (s : DHCPsState) : DHCPsState :=
  ⟨Function.update s.heap (s.dhcp + 1) DHCP.empty, s.dhcp + 1, s.m⟩

/-- An assignment to the record `dhcp` points to. -/
def set (s : DHCPsState) (f : DHCP → DHCP) : DHCPsState :=
  ⟨Function.update s.heap s.dhcp (f (s.heap s.dhcp)), s.dhcp, s.m⟩

/-- The map `DHCPs` returns, its pointers followed. -/
def result (s : DHCPsState) : List (String × DHCP) := s.m.map fun p => (p.1, s.heap p.2)

end DHCPsState

/-- The error for a name already in the map.  It lists the names parsed so far, `maps.Keys(m)`
printed by `%s` as `[k1 k2 …]`; Go's map order is unspecified, and the order here is the order of
insertion. -/
def dhcpAlreadyParsed (name : String) (names : List String) (out : String) : String :=
  "DHCPs -- illegal state, dhcp server already parse: " ++ "\n\tnetworkname=" ++ name ++
    " \n\talready-parsed=[" ++ " ".intercalate names ++ "] \n\tout=" ++ out

/-- The body of the loop of `DHCPs`, on one line of the output `out`. -/
def dhcpsStep (ex : Externals) (out : String) (s : DHCPsState) (line : List Char) :
    Except Failure DHCPsState :=
  if line = [] then .ok s.alloc
  else
    match colonLine line with
    | none => .ok s
    | some (key, val) =>
      let key := goToLower ex key
      if key = "networkname" then
        let s := s.set fun d => { d with networkName := val }
        if (s.m.lookup val).isSome then
          .error (.error (dhcpAlreadyParsed val (s.m.map Prod.fst) out))
        else .ok { s with m := s.m ++ [(val, s.dhcp)] }
      else
        match dhcpField ex key val with
        | some f => .ok (s.set f)
        | none => .ok s

/-- `DHCPs` on the output `out` of `list dhcpservers`: the map, its pointers followed, or the
first error. -/
def dhcps (ex : Externals) (out : String) : Except Failure (List (String × DHCP)) := do
  let (lines, tooLong) := scanLines out.data
  let s ← lines.foldlM (dhcpsStep ex out) DHCPsState.init
  if tooLong then throw (.error "bufio.Scanner: token too long")
  pure s.result

/-! ### The registry: the same loop without pointers -/

/-- The loop's state as the map sees it: the entries of the finished records, and the names and
the fields of the current record. -/
structure Registry where
  done : List (String × DHCP)
  names : List String
  cur : DHCP

namespace Registry

/-- Before the first line. -/
def init : Registry := ⟨[], [], DHCP.empty⟩

/-- The map: the finished entries, then the current record under each of its names. -/
def result (r : Registry) : List (String × DHCP) := r.done ++ r.names.map fun k => (k, r.cur)

/-- The names in the map. -/
def keys (r : Registry) : List String := r.done.map Prod.fst ++ r.names

end Registry

/-- The loop of `DHCPs` on the registry. -/
def registryStep (ex : Externals) (out : String) (r : Registry) (line : List Char) :
    Except Failure Registry :=
  if line = [] then .ok ⟨r.result, [], DHCP.empty⟩
  else
    match colonLine line with
    | none => .ok r
    | some (key, val) =>
      let key := goToLower ex key
      if key = "networkname" then
        if val ∈ r.keys then .error (.error (dhcpAlreadyParsed val r.keys out))
        else .ok ⟨r.done, r.names ++ [val], { r.cur with networkName := val }⟩
      else
        match dhcpField ex key val with
        | some f => .ok { r with cur := f r.cur }
        | none => .ok r

/-! ### The heap model refines the registry -/

/-- A heap state that the registry `r` describes: `dhcp` points to the current record, the map
holds the finished entries at lower addresses, then the current record's names. -/
structure DHCPsState.Refines (s : DHCPsState) (r : Registry) : Prop where
  cur : s.heap s.dhcp = r.cur
  split : ∃ mDone : List (String × Nat), s.m = mDone ++ r.names.map (fun k => (k, s.dhcp)) ∧
    (∀ p ∈ mDone, p.2 < s.dhcp) ∧ mDone.map (fun p => (p.1, s.heap p.2)) = r.done

namespace DHCPsState.Refines

variable {s : DHCPsState} {r : Registry}

theorem init : DHCPsState.init.Refines Registry.init :=
  ⟨rfl, ⟨[], rfl, by simp, rfl⟩⟩

theorem result_eq (h : s.Refines r) : s.result = r.result := by
  obtain ⟨mDone, hm, -, hdone⟩ := h.split
  simp [DHCPsState.result, Registry.result, hm, hdone, h.cur]

theorem keys_eq (h : s.Refines r) : s.m.map Prod.fst = r.keys := by
  obtain ⟨mDone, hm, -, hdone⟩ := h.split
  rw [hm, Registry.keys, ← hdone]
  simp [Function.comp_def]

theorem alloc (h : s.Refines r) : s.alloc.Refines ⟨r.result, [], DHCP.empty⟩ := by
  obtain ⟨mDone, hm, hlt, hdone⟩ := h.split
  refine ⟨by simp [DHCPsState.alloc], s.m, by simp [DHCPsState.alloc], ?_, ?_⟩
  · intro p hp
    rw [hm, List.mem_append, List.mem_map] at hp
    rcases hp with hp | ⟨k, -, rfl⟩
    · exact Nat.lt_succ_of_lt (hlt p hp)
    · exact Nat.lt_succ_self _
  · rw [← h.result_eq, DHCPsState.result]
    refine List.map_congr_left fun p hp => ?_
    have : p.2 ≠ s.dhcp + 1 := by
      rw [hm, List.mem_append, List.mem_map] at hp
      rcases hp with hp | ⟨k, -, rfl⟩
      · exact Nat.ne_of_lt (Nat.lt_succ_of_lt (hlt p hp))
      · exact Nat.ne_of_lt (Nat.lt_succ_self _)
    simp [DHCPsState.alloc, Function.update_noteq this]

theorem set (h : s.Refines r) (f : DHCP → DHCP) : (s.set f).Refines { r with cur := f r.cur } := by
  obtain ⟨mDone, hm, hlt, hdone⟩ := h.split
  refine ⟨by simp [DHCPsState.set, h.cur], mDone, hm, hlt, ?_⟩
  rw [← hdone]
  exact List.map_congr_left fun p hp => by
    simp [DHCPsState.set, Function.update_noteq (Nat.ne_of_lt (hlt p hp))]

theorem insert (h : s.Refines r) (val : String) :
    { s with m := s.m ++ [(val, s.dhcp)] }.Refines ⟨r.done, r.names ++ [val], r.cur⟩ := by
  obtain ⟨mDone, hm, hlt, hdone⟩ := h.split
  exact ⟨h.cur, mDone, by simp [hm], hlt, hdone⟩

end DHCPsState.Refines

/-- Two outcomes that agree: the same error, or results related by `R`. -/
def OutcomeRel {ε α β : Type} (R : α → β → Prop) : Except ε α → Except ε β → Prop
  | .ok a, .ok b => R a b
  | .error e, .error e' => e = e'
  | _, _ => False

/-- Loops whose bodies agree on related states agree. -/
theorem foldlM_outcomeRel {ε α β γ : Type} (R : α → β → Prop) (f : α → γ → Except ε α)
    (g : β → γ → Except ε β) (hstep : ∀ a b x, R a b → OutcomeRel R (f a x) (g b x)) :
    ∀ (l : List γ) (a : α) (b : β), R a b → OutcomeRel R (l.foldlM f a) (l.foldlM g b)
  | [], _, _, h => h
  | x :: l, a, b, h => by
    have hx := hstep a b x h
    rw [List.foldlM_cons, List.foldlM_cons]
    cases hf : f a x <;> cases hg : g b x <;> rw [hf, hg] at hx <;> simp only [OutcomeRel] at hx
    · exact hx ▸ rfl
    · exact foldlM_outcomeRel R f g hstep l _ _ hx

theorem lookup_isSome_iff {β : Type} (l : List (String × β)) (k : String) :
    (l.lookup k).isSome ↔ k ∈ l.map Prod.fst := by
  induction l with
  | nil => simp
  | cons p l ih =>
    obtain ⟨a, b⟩ := p
    by_cases h : k = a
    · subst h; simp [List.lookup]
    · simp [List.lookup, beq_eq_false_iff_ne.2 h, h, ih]

/-- **One line of the heap model is one line of the registry.** -/
theorem dhcpsStep_refines (ex : Externals) (out : String) (s : DHCPsState) (r : Registry)
    (line : List Char) (h : s.Refines r) :
    OutcomeRel DHCPsState.Refines (dhcpsStep ex out s line) (registryStep ex out r line) := by
  unfold dhcpsStep registryStep
  split
  · exact h.alloc
  · split
    · exact h
    · next key val _ =>
      dsimp only
      split
      · have hmem : ((s.set fun d => { d with networkName := val }).m.lookup val).isSome = true ↔
            val ∈ r.keys := by
          rw [lookup_isSome_iff, ← h.keys_eq]
          rfl
        simp only [hmem]
        split
        · exact congrArg _ (congrArg (dhcpAlreadyParsed val · out) h.keys_eq)
        · exact (h.set _).insert val
      · split
        · exact h.set _
        · exact h

theorem foldlM_dhcpsStep (ex : Externals) (out : String) (lines : List (List Char)) :
    OutcomeRel DHCPsState.Refines (lines.foldlM (dhcpsStep ex out) DHCPsState.init)
      (lines.foldlM (registryStep ex out) Registry.init) :=
  foldlM_outcomeRel _ _ _ (dhcpsStep_refines ex out) lines _ _ DHCPsState.Refines.init

/-! ### What a record says -/

/-- The names a record gives on its `NetworkName` lines (compared after `strings.ToLower`), in
order. -/
def recordNames (ex : Externals) (r : List ColonLine) : List String :=
  (r.filter fun l => goToLower ex l.key = "networkname").map ColonLine.value

/-- The DHCP server a record describes: each field holds the last value the record gives for it
(under `networkname`; `ip` or `dhcpd ip`; `networkmask`; `loweripaddress`; `upperipaddress`;
`enabled`), read as `DHCPs` reads it, and its zero value when the record gives none. -/
def recordDHCP (ex : Externals) (r : List ColonLine) : DHCP where
  networkName := (lastValue (goToLower ex) r ["networkname"]).getD ""
  ipv4 :=
    { ip := ((lastValue (goToLower ex) r ["ip", "dhcpd ip"]).map
        fun v => ex.to4 (ex.parseIP v)).getD []
      mask := ((lastValue (goToLower ex) r ["networkmask"]).map ex.parseIPv4Mask).getD [] }
  lowerIP := ((lastValue (goToLower ex) r ["loweripaddress"]).map
    fun v => ex.to4 (ex.parseIP v)).getD []
  upperIP := ((lastValue (goToLower ex) r ["upperipaddress"]).map
    fun v => ex.to4 (ex.parseIP v)).getD []
  enabled := ((lastValue (goToLower ex) r ["enabled"]).map
    fun v => decide (v = ex.stringYes)).getD false

/-- What a data line does to the current record in the loop of `DHCPs`. -/
def recordStep (ex : Externals) (d : DHCP) (l : ColonLine) : DHCP :=
  if goToLower ex l.key = "networkname" then { d with networkName := l.value }
  else ((dhcpField ex (goToLower ex l.key) l.value).getD id) d

/-- **A record's lines, applied in order, give what the record says**: the loop keeps, for each
field, the last value written to it. -/
theorem foldl_recordStep (ex : Externals) (r : List ColonLine) :
    r.foldl (recordStep ex) DHCP.empty = recordDHCP ex r := by
  induction r using List.reverseRecOn with
  | nil => rfl
  | append_singleton r l ih =>
    rw [List.foldl_append, List.foldl_cons, List.foldl_nil, ih]
    simp only [recordDHCP, lastValue_concat, recordStep, dhcpField]
    generalize goToLower ex l.key = k
    by_cases hk : k ∈ ["networkname", "ip", "dhcpd ip", "upperipaddress", "loweripaddress",
      "networkmask", "enabled"]
    · simp only [List.mem_cons, List.mem_singleton, List.not_mem_nil, or_false] at hk
      rcases hk with rfl | rfl | rfl | rfl | rfl | rfl | rfl <;> simp
    · simp only [List.mem_cons, List.not_mem_nil, or_false, not_or] at hk
      simp [hk, eq_comm]

/-! ### The registry over a listing -/

/-- The registry's step on a line of a well-formed record: a `NetworkName` line adds the name
unless the map has it, any other line applies its field to the current record. -/
theorem registryStep_line (ex : Externals) (out : String) (r : Registry) (l : ColonLine) :
    registryStep ex out r l.line =
      if goToLower ex l.key = "networkname" then
        if l.value ∈ r.keys then .error (.error (dhcpAlreadyParsed l.value r.keys out))
        else .ok ⟨r.done, r.names ++ [l.value], { r.cur with networkName := l.value }⟩
      else .ok { r with cur := recordStep ex r.cur l } := by
  rw [registryStep, if_neg l.line_ne_nil, colonLine_line]
  dsimp only
  split
  · rfl
  · simp only [recordStep, if_neg ‹_›]
    cases dhcpField ex (goToLower ex l.key) l.value <;> rfl

/-- **The registry over one record**: from a state with distinct names, the record's lines add
its names and apply its fields, unless one of its names is already in the map. -/
theorem registry_record (ex : Externals) (out : String) (done : List (String × DHCP)) :
    ∀ (ls : List ColonLine) (names : List String) (cur : DHCP),
      ((done.map Prod.fst ++ names ++ recordNames ex ls).Nodup →
        (ls.map ColonLine.line).foldlM (registryStep ex out) ⟨done, names, cur⟩ =
          .ok ⟨done, names ++ recordNames ex ls, ls.foldl (recordStep ex) cur⟩) ∧
      (¬(done.map Prod.fst ++ names ++ recordNames ex ls).Nodup →
        (done.map Prod.fst ++ names).Nodup →
        ∃ e, (ls.map ColonLine.line).foldlM (registryStep ex out) ⟨done, names, cur⟩ = .error e)
  | [], names, cur => by
    refine ⟨fun _ => by simp [recordNames]; rfl,
      fun h h' => absurd (by simpa [recordNames] using h') h⟩
  | l :: ls, names, cur => by
    have hline := registryStep_line ex out ⟨done, names, cur⟩ l
    dsimp only [Registry.keys] at hline
    by_cases hname : goToLower ex l.key = "networkname"
    · have hnames : recordNames ex (l :: ls) = l.value :: recordNames ex ls := by
        simp [recordNames, List.filter_cons, hname]
      have hstep : recordStep ex cur l = { cur with networkName := l.value } := if_pos hname
      have ih := registry_record ex out done ls (names ++ [l.value])
        { cur with networkName := l.value }
      have e1 : done.map Prod.fst ++ (names ++ [l.value]) ++ recordNames ex ls =
          done.map Prod.fst ++ names ++ l.value :: recordNames ex ls := by simp
      have e2 :
          names ++ [l.value] ++ recordNames ex ls = names ++ l.value :: recordNames ex ls := by
        simp
      rw [e1, e2] at ih
      rw [List.map_cons, List.foldlM_cons, hline, if_pos hname, hnames, List.foldl_cons, hstep]
      by_cases hmem : l.value ∈ done.map Prod.fst ++ names
      · rw [if_pos hmem]
        refine ⟨fun hnd => absurd hnd ?_, fun _ _ => ⟨_, rfl⟩⟩
        rw [List.nodup_append]
        exact fun h => h.2.2 hmem (List.mem_cons_self _ _)
      · rw [if_neg hmem]
        refine ⟨ih.1, fun hnd hnd' => ih.2 hnd ?_⟩
        rw [← List.append_assoc, List.nodup_append]
        exact ⟨hnd', List.nodup_singleton _, by simpa using hmem⟩
    · have hnames : recordNames ex (l :: ls) = recordNames ex ls := by
        simp [recordNames, List.filter_cons, hname]
      have ih := registry_record ex out done ls names (recordStep ex cur l)
      rw [List.map_cons, List.foldlM_cons, hline, if_neg hname, hnames]
      exact ih

/-- The entries a listing describes: each record under each of its names. -/
def listingEntries (ex : Externals) (records : List (List ColonLine)) : List (String × DHCP) :=
  records.flatMap fun r => (recordNames ex r).map fun k => (k, recordDHCP ex r)

/-- **The registry over a listing**: from the end of a record, the rest of the listing adds its
entries when all names are distinct, and fails otherwise. -/
theorem registry_listing (ex : Externals) (out : String) :
    ∀ (records : List (List ColonLine)) (done : List (String × DHCP)),
      (done.map Prod.fst).Nodup →
      ((done.map Prod.fst ++ records.flatMap (recordNames ex)).Nodup →
        ∃ r, (listingLines records).foldlM (registryStep ex out) ⟨done, [], DHCP.empty⟩ = .ok r ∧
          r.result = done ++ listingEntries ex records) ∧
      (¬(done.map Prod.fst ++ records.flatMap (recordNames ex)).Nodup →
        ∃ e, (listingLines records).foldlM (registryStep ex out) ⟨done, [], DHCP.empty⟩ = .error e)
  | [], done, hdone => ⟨fun _ => ⟨_, rfl, by simp [Registry.result, listingEntries]⟩,
      fun h => absurd (by simpa using hdone) h⟩
  | [rec], done, hdone => by
    have hr := registry_record ex out done rec [] DHCP.empty
    simp only [List.append_nil, List.nil_append] at hr
    refine ⟨fun hnd => ⟨_, hr.1 (by simpa using hnd), ?_⟩,
      fun hnd => hr.2 (by simpa using hnd) hdone⟩
    simp [Registry.result, listingEntries, foldl_recordStep]
  | rec :: rec' :: recs, done, hdone => by
    have hr := registry_record ex out done rec [] DHCP.empty
    simp only [List.append_nil, List.nil_append] at hr
    have hlines : listingLines (rec :: rec' :: recs) =
        rec.map ColonLine.line ++ [] :: listingLines (rec' :: recs) := rfl
    rw [hlines, List.foldlM_append]
    by_cases hfirst : (done.map Prod.fst ++ recordNames ex rec).Nodup
    · rw [hr.1 hfirst]
      have hblank : registryStep ex out
          ⟨done, recordNames ex rec, rec.foldl (recordStep ex) DHCP.empty⟩ [] =
          .ok ⟨done ++ listingEntries ex [rec], [], DHCP.empty⟩ := by
        simp [registryStep, Registry.result, listingEntries, foldl_recordStep]
      have hkeys : (done ++ listingEntries ex [rec]).map Prod.fst =
          done.map Prod.fst ++ recordNames ex rec := by
        simp [listingEntries, Function.comp_def]
      have ih := registry_listing ex out (rec' :: recs) (done ++ listingEntries ex [rec])
        (hkeys ▸ hfirst)
      rw [hkeys] at ih
      simp only [bind, Except.bind, List.foldlM_cons, hblank, List.flatMap_cons,
        ← List.append_assoc] at ih ⊢
      refine ⟨fun hnd => ?_, fun hnd => ih.2 hnd⟩
      obtain ⟨r, hrun, hres⟩ := ih.1 hnd
      exact ⟨r, hrun, by simp [hres, listingEntries]⟩
    · obtain ⟨e, he⟩ := hr.2 hfirst hdone
      rw [he]
      refine ⟨fun hnd => absurd (hnd.sublist ?_) hfirst, fun _ => ⟨e, rfl⟩⟩
      simp only [List.flatMap_cons, ← List.append_assoc]
      exact (List.sublist_append_left _ _).trans (List.sublist_append_left _ _)

/-! ### `DHCPs` on a listing -/

/-- `DHCPs` on a text that scans to the lines of a listing. -/
theorem dhcps_of_scanLines (ex : Externals) (records : List (List ColonLine)) {out : String}
    (hscan : scanLines out.data = (listingLines records, false)) :
    ((records.flatMap (recordNames ex)).Nodup → dhcps ex out = .ok (listingEntries ex records)) ∧
    (¬(records.flatMap (recordNames ex)).Nodup → ∃ e, dhcps ex out = .error e) := by
  have hrun := foldlM_dhcpsStep ex out (listingLines records)
  have hreg := registry_listing ex out records [] List.nodup_nil
  simp only [List.map_nil, List.nil_append] at hreg
  have hdhcps : dhcps ex out =
      (listingLines records).foldlM (dhcpsStep ex out) DHCPsState.init >>=
        fun s => pure s.result := by
    simp [dhcps, hscan]
  rw [hdhcps]
  revert hrun
  generalize (listingLines records).foldlM (dhcpsStep ex out) DHCPsState.init = cs
  intro hrun
  refine ⟨fun hnd => ?_, fun hnd => ?_⟩
  · obtain ⟨r, hr, hres⟩ := hreg.1 hnd
    rw [Registry.init, hr] at hrun
    cases cs with
    | error e => exact absurd hrun id
    | ok s => exact congrArg Except.ok (hrun.result_eq.trans hres)
  · obtain ⟨e, he⟩ := hreg.2 hnd
    rw [Registry.init, he] at hrun
    cases cs with
    | error e' => exact ⟨e', rfl⟩
    | ok s => exact absurd hrun id

/-- **What `DHCPs` returns for a listing.**  On the text of a listing of well-formed records, its
last line followed by a newline or not, it fails exactly when a name is given on two
`NetworkName` lines; otherwise its map holds, in the order of the listing, each record under each
of the names it gives, each field of the record holding the last value the record gives for it. -/
theorem dhcps_listing (ex : Externals) (records : List (List ColonLine)) (eol : Bool) :
    let out := if eol then listingText records else listingTextNoEOL records
    ((records.flatMap (recordNames ex)).Nodup → dhcps ex out = .ok (listingEntries ex records)) ∧
    (¬(records.flatMap (recordNames ex)).Nodup → ∃ e, dhcps ex out = .error e) := by
  cases eol with
  | true => exact dhcps_of_scanLines ex records (scanLines_listingText records)
  | false =>
    obtain ⟨records', hscan, rfl | rfl⟩ := scanLines_listingTextNoEOL records
    · exact dhcps_of_scanLines ex records' hscan
    · simpa [listingEntries, recordNames] using dhcps_of_scanLines ex records' hscan

/-- The last record needs no newline after it. -/
example : dhcps stubExternals "NetworkName: a\nEnabled: Yes" =
    .ok [("a", { DHCP.empty with networkName := "a", enabled := true })] := rfl

/-- Two listings.  A value holding a colon and a blank, `NetworkName: a: b`, is cut after `a`: the
line is read under the key `networkname: a` and the server is lost.  Two names in one record share
it: both entries carry the second name. -/
theorem dhcps_cutAtLastColon :
    dhcps stubExternals "NetworkName: a: b\n" = .ok [] ∧
    dhcps stubExternals "NetworkName: a\nNetworkName: b\n" =
      .ok [("a", { DHCP.empty with networkName := "b" }),
        ("b", { DHCP.empty with networkName := "b" })] :=
  ⟨rfl, rfl⟩

end Virtualbox
