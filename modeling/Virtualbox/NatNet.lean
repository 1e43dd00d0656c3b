/-
**NAT networks: `NATNets` and the records of `list natnets`.**

`NATNets` reads the listing a line at a time into a record `n`, a value, not a pointer.  Only an
empty line enters `n` in the map, under its name, and starts a new record: a record with no empty
line after it, the last one of a listing that does not end with an empty line in particular, is
never entered.  The keys are compared as they are written, in both layouts the code's comment
shows (`NetworkName`, `IP`, `DHCP Enabled` for VirtualBox 6; `Name`, `Gateway` for VirtualBox 7,
whose `DHCP Server` line no case reads), a later record replaces an earlier one of the same name,
and an empty record is entered under the empty name.

Main definitions:

* `Virtualbox.NATNet`, `Virtualbox.natNetField`, `Virtualbox.natNetsStep`, `Virtualbox.natNets`;
* `Virtualbox.natNetOfRecord` — what a record says.

Main results:

* `Virtualbox.foldl_natRecordStep` — a record's lines give what the record says;
* `Virtualbox.natNets_listing` — **what `NATNets` returns for a listing**: the records followed by
  an empty line, in order, each replacing the entry of its name;
* `Virtualbox.natNets_lastRecord` — a listing's last record is lost.
-/

import Virtualbox.Listing

set_option relaxedAutoImplicit false
set_option autoImplicit false

namespace Virtualbox

/-! ### `NATNets` -/

/-- `NATNet`: a NAT network. -/
structure NATNet where
  name : String
  ipv4 : IPNet
  ipv6 : IPNet
  dhcp : Bool
  enabled : Bool
  deriving DecidableEq, Repr

/-- `NATNet{}`. -/
def NATNet.empty : NATNet := ⟨"", IPNet.empty, IPNet.empty, false, false⟩

/-- The assignment the `switch` of `NATNets` makes for a key, if the key is one it knows; the
`Network` and `IPv6 Prefix` cases return the error of `net.ParseCIDR`. -/
def natNetField (ex : Externals) (key val : String) : Option (NATNet → Except Failure NATNet) :=
  if key = "Name" ∨ key = "NetworkName" then some fun n => .ok { n with name := val }
  else if key = "IP" ∨ key = "Gateway" then
    some fun n => .ok { n with ipv4 := { n.ipv4 with ip := ex.parseIP val } }
  else if key = "Network" then
    some fun n => do
      let (_, ipnet) ← ex.parseCIDR val
      pure { n with ipv4 := { n.ipv4 with mask := ipnet.mask } }
  else if key = "IPv6 Prefix" then
    some fun n => do
      let (_, ipnet) ← ex.parseCIDR val
      pure { n with ipv6 := { n.ipv6 with mask := ipnet.mask } }
  else if key = "DHCP Enabled" then some fun n => .ok { n with dhcp := decide (val = ex.stringYes) }
  else if key = "Enabled" then some fun n => .ok { n with enabled := decide (val = ex.stringYes) }
  else none

/-- The state of the loop of `NATNets`: the map (a Go `map[string]NATNet`, as its lookup) and the
record being read. -/
structure NATNetsState where
  m : String → Option NATNet
  n : NATNet

/-- The body of the loop of `NATNets`, on one line. -/
def natNetsStep (ex : Externals) (st : NATNetsState) (line : List Char) :
    Except Failure NATNetsState :=
  if line = [] then .ok ⟨Function.update st.m st.n.name (some st.n), NATNet.empty⟩
  else
    match colonLine line with
    | none => .ok st
    | some (key, val) =>
      match natNetField ex key val with
      | some f => do
        let n ← f st.n
        pure { st with n := n }
      | none => .ok st

/-- `NATNets` on the output `out` of `list natnets`: the map, or the first error. -/
def natNets (ex : Externals) (out : String) : Except Failure (String → Option NATNet) := do
  let (lines, tooLong) := scanLines out.data
  let st ← lines.foldlM (natNetsStep ex) ⟨fun _ => none, NATNet.empty⟩
  if tooLong then throw (.error "bufio.Scanner: token too long")
  pure st.m

/-! ### What a record says -/

/-- The mask of the network `net.ParseCIDR` reads from a text, the empty one if it fails. -/
def cidrMask (ex : Externals) (v : String) : IP :=
  match ex.parseCIDR v with
  | .ok (_, ipnet) => ipnet.mask
  | .error _ => []

/-- The NAT network a record describes: each field holds the last value the record gives for it
(under `Name` or `NetworkName`; `IP` or `Gateway`; `Network`; `IPv6 Prefix`; `DHCP Enabled`;
`Enabled`), read as `NATNets` reads it, and its zero value when the record gives none. -/
def natNetOfRecord (ex : Externals) (r : List ColonLine) : NATNet where
  name := (lastValue id r ["Name", "NetworkName"]).getD ""
  ipv4 :=
    { ip := ((lastValue id r ["IP", "Gateway"]).map ex.parseIP).getD []
      mask := ((lastValue id r ["Network"]).map (cidrMask ex)).getD [] }
  ipv6 := { ip := [], mask := ((lastValue id r ["IPv6 Prefix"]).map (cidrMask ex)).getD [] }
  dhcp := ((lastValue id r ["DHCP Enabled"]).map fun v => decide (v = ex.stringYes)).getD false
  enabled := ((lastValue id r ["Enabled"]).map fun v => decide (v = ex.stringYes)).getD false

/-- What a data line does to the record in the loop of `NATNets`, when it does not fail. -/
def natRecordStep (ex : Externals) (n : NATNet) (l : ColonLine) : NATNet :=
  match natNetField ex l.key l.value with
  | some f => (f n).toOption.getD n
  | none => n

/-- The `Network` and `IPv6 Prefix` values of a line are networks `net.ParseCIDR` reads. -/
def CIDRsParse (ex : Externals) (l : ColonLine) : Prop :=
  l.key = "Network" ∨ l.key = "IPv6 Prefix" → ∃ a, ex.parseCIDR l.value = .ok a

/-- A data line whose networks parse takes the loop one step, as `natRecordStep` says. -/
theorem natNetsStep_line (ex : Externals) (st : NATNetsState) (l : ColonLine)
    (hl : CIDRsParse ex l) :
    natNetsStep ex st l.line = .ok { st with n := natRecordStep ex st.n l } := by
  rw [natNetsStep, if_neg l.line_ne_nil, colonLine_line]
  dsimp only
  unfold natRecordStep natNetField
  by_cases h1 : l.key = "Network"
  · obtain ⟨⟨ip, ipnet⟩, ha⟩ := hl (.inl h1)
    simp [h1, ha, bind, Except.bind, pure, Except.pure, Except.toOption]
  by_cases h2 : l.key = "IPv6 Prefix"
  · obtain ⟨⟨ip, ipnet⟩, ha⟩ := hl (.inr h2)
    simp [h1, h2, ha, bind, Except.bind, pure, Except.pure, Except.toOption]
  simp only [h1, h2, if_false]
  split_ifs <;> rfl

/-- **A record's lines, applied in order, give what the record says.** -/
theorem foldl_natRecordStep (ex : Externals) (r : List ColonLine) (hr : ∀ l ∈ r, CIDRsParse ex l) :
    r.foldl (natRecordStep ex) NATNet.empty = natNetOfRecord ex r := by
  induction r using List.reverseRecOn with
  | nil => rfl
  | append_singleton r l ih =>
    rw [List.foldl_append, List.foldl_cons, List.foldl_nil,
      ih fun l' hl' => hr l' (List.mem_append_left _ hl')]
    have hl := hr l (List.mem_append_right _ (List.mem_singleton_self _))
    simp only [natNetOfRecord, lastValue_concat, natRecordStep, natNetField, id]
    by_cases hcidr : l.key = "Network" ∨ l.key = "IPv6 Prefix"
    · obtain ⟨⟨ip, ipnet⟩, ha⟩ := hl hcidr
      rcases hcidr with h | h <;>
        simp [h, ha, cidrMask, bind, Except.bind, pure, Except.pure, Except.toOption]
    rw [not_or] at hcidr
    generalize l.key = k at hcidr
    by_cases hk : k ∈ ["Name", "NetworkName", "IP", "Gateway", "DHCP Enabled", "Enabled"]
    · simp only [List.mem_cons, List.not_mem_nil, or_false] at hk
      rcases hk with rfl | rfl | rfl | rfl | rfl | rfl <;> simp [Except.toOption]
    · simp only [List.mem_cons, List.not_mem_nil, or_false, not_or] at hk
      simp [hcidr, hk, eq_comm]

/-! ### `NATNets` on a listing -/

/-- The loop over a record's lines keeps the map and applies the lines to the record. -/
theorem foldlM_natNetsStep_record (ex : Externals) :
    ∀ (r : List ColonLine) (st : NATNetsState), (∀ l ∈ r, CIDRsParse ex l) →
      (r.map ColonLine.line).foldlM (natNetsStep ex) st =
        .ok { st with n := r.foldl (natRecordStep ex) st.n }
  | [], _, _ => rfl
  | l :: r, st, hr => by
    rw [List.map_cons, List.foldlM_cons, natNetsStep_line ex st l (hr l (List.mem_cons_self _ _))]
    exact foldlM_natNetsStep_record ex r _ fun l' hl' => hr l' (List.mem_cons_of_mem _ hl')

/-- Entering a record in the map under its name, as an empty line after it does. -/
def enterNATNet (ex : Externals) (m : String → Option NATNet) (r : List ColonLine) :
    String → Option NATNet :=
  Function.update m (natNetOfRecord ex r).name (some (natNetOfRecord ex r))

theorem foldlM_natNetsStep_listing (ex : Externals) :
    ∀ (records : List (List ColonLine)) (m : String → Option NATNet),
      (∀ r ∈ records, ∀ l ∈ r, CIDRsParse ex l) →
      ((listingLines records).foldlM (natNetsStep ex) ⟨m, NATNet.empty⟩).map NATNetsState.m =
        .ok (records.dropLast.foldl (enterNATNet ex) m)
  | [], _, _ => rfl
  | [r], m, hr => by
    rw [listingLines, foldlM_natNetsStep_record ex r _ (hr r (List.mem_singleton_self _))]
    rfl
  | r :: r' :: rs, m, hr => by
    have hlines : listingLines (r :: r' :: rs) =
        r.map ColonLine.line ++ [] :: listingLines (r' :: rs) := rfl
    rw [hlines, List.foldlM_append,
      foldlM_natNetsStep_record ex r _ (hr r (List.mem_cons_self _ _))]
    have ih := foldlM_natNetsStep_listing ex (r' :: rs) (enterNATNet ex m r)
      fun r'' hr'' => hr r'' (List.mem_cons_of_mem _ hr'')
    rw [enterNATNet, ← foldl_natRecordStep ex r (hr r (List.mem_cons_self _ _))] at ih
    simpa [bind, Except.bind, List.foldlM_cons, natNetsStep, enterNATNet,
      foldl_natRecordStep ex r (hr r (List.mem_cons_self _ _))] using ih

/-- **What `NATNets` returns for a listing.**  On the text of a listing of well-formed records
whose networks parse, it returns the map in which each record but the last, in order, replaced
the entry of its name: the last record is entered only if it is empty, that is, only if the
listing ends with an empty line. -/
theorem natNets_listing (ex : Externals) (records : List (List ColonLine))
    (hr : ∀ r ∈ records, ∀ l ∈ r, CIDRsParse ex l) :
    natNets ex (listingText records) =
      .ok (records.dropLast.foldl (enterNATNet ex) fun _ => none) := by
  have h := foldlM_natNetsStep_listing ex records (fun _ => none) hr
  simp only [natNets, scanLines_listingText]
  revert h
  cases (listingLines records).foldlM (natNetsStep ex) ⟨fun _ => none, NATNet.empty⟩ with
  | error e => intro h; cases h
  | ok st =>
    intro h
    change Except.ok st.m = _ at h
    rw [← Except.ok.inj h]
    rfl

/-- The line `NetworkName:   sayanat` of a VirtualBox 6 listing. -/
def sayanatLine : ColonLine :=
  ⟨"NetworkName", [' ', ' ', ' '], "sayanat", by decide, by decide, by decide, by decide, by decide,
    by decide, by decide, by decide, by decide⟩

theorem natNets_listing_sayanat :
    (∀ r ∈ [[sayanatLine], []], ∀ l ∈ r, CIDRsParse stubExternals l) ∧
    natNets stubExternals (listingText [[sayanatLine], []]) =
      .ok ([[sayanatLine], []].dropLast.foldl (enterNATNet stubExternals) fun _ => none) := by
  have hr : ∀ r ∈ [[sayanatLine], []], ∀ l ∈ r, CIDRsParse stubExternals l :=
    fun _ _ _ _ _ => ⟨_, rfl⟩
  exact ⟨hr, natNets_listing stubExternals _ hr⟩

/-- `NATNets` on three listings.  The last record of `Name: a`, with no empty line after it, is
lost: the map is empty.  The VirtualBox 7 line `DHCP Server: Yes` is not read: the DHCP flag of `b`
stays off.  Two records named `c` give no error: the later one replaces the earlier. -/
theorem natNets_lastRecord :
    natNets stubExternals "Name: a\n" = .ok (fun _ => none) ∧
    (natNets stubExternals "Name: b\nDHCP Server: Yes\n\n").map (· "b") =
      .ok (some { NATNet.empty with name := "b" }) ∧
    (natNets stubExternals "Name: c\nIP: 10.0.2.1\n\nName: c\n\n").map (· "c") =
      .ok (some { NATNet.empty with name := "c" }) :=
  ⟨rfl, rfl, rfl⟩

end Virtualbox
