/-
**Network adapters: what `Modify` writes and what `GetMachine` reads back.**

`appendNicParams` writes an adapter as `modifyvm` arguments,

    --nic<N> <mode> --nictype<N> <hw> --cableconnected<N> on [--macaddress<N> <mac>]
    [--hostonlyadapter<N> | --bridgeadapter<N> | --natnet<N> | --nat-network<N> | --intnet<N> <id>]

and `showvminfo --machinereadable` reports each such argument as the line `nic<N>="<mode>"`,
`nictype<N>="<hw>"`, and so on.  The adapter loop of `GetMachine` reads the adapters back from
index 1 and stops at the first index with no `nic<N>` or with `none`; a missing hardware type or
MAC address is an error; and the identifier is read from the key of the adapter's mode — for the
host-only and bridged modes, NAT and NAT network, but not for the internal network, whose
`intnet<N>` line is never read.

The adapter record and the mode constants are not part of the repository's sources here; they are
modelled from the specification (the modes are the ones `appendNicParams` tests, with the
`modifyvm` spellings of their values).

Main definitions:

* `Virtualbox.NIC`, `Virtualbox.NICNetwork`;
* `Virtualbox.nicParams`, `Virtualbox.appendNicParams`, `Virtualbox.readNIC`, `Virtualbox.nicLoop`,
  `Virtualbox.getNICs`;
* `Virtualbox.ReportsCmdArgs` — a listing that reports a list of arguments, and
  `Virtualbox.reportMap`, the listing of a list of arguments.

Main results:

* `Virtualbox.readNIC_reported` — one reported adapter read back;
* `Virtualbox.getNICs_reported` — **the adapters read back**: every list of at most four
  adapters, written by `appendNicParams` and reported by the listing, is read back as it was, but
  for the network names of adapters on internal networks (`Virtualbox.NIC.readBack`);
* `Virtualbox.getNICs_intnet` — an adapter on an internal network loses its network name.
-/

import Virtualbox.CmdArgs
import Virtualbox.PropMap

set_option relaxedAutoImplicit false
set_option autoImplicit false

namespace Virtualbox

/-! ### Adapters -/

/-- Modelled from the spec: `NICNetwork`, the attachment mode of an adapter, a string in Go. -/
structure NICNetwork where
  val : String
  deriving DecidableEq, Repr

namespace NICNetwork

/-- Modelled from the spec: `NICNetHostonly`. -/
def hostonly : NICNetwork := ⟨"hostonly"⟩
/-- Modelled from the spec: `NICNetBridged`. -/
def bridged : NICNetwork := ⟨"bridged"⟩
/-- Modelled from the spec: `NICNetNAT`. -/
def nat : NICNetwork := ⟨"nat"⟩
/-- Modelled from the spec: `NICNetNATNetwork`. -/
def natNetwork : NICNetwork := ⟨"natnetwork"⟩
/-- Modelled from the spec: `NICNetInternal`. -/
def internal : NICNetwork := ⟨"intnet"⟩

end NICNetwork

/-- Modelled from the spec: `NICHardware`, the emulated adapter, a string in Go. -/
structure NICHardware where
  val : String
  deriving DecidableEq, Repr

/-- Modelled from the spec: `NIC`, a network adapter: its mode, its hardware, the host interface
of the host-only and bridged modes, its MAC address, and the network name of the NAT, NAT network
and internal modes. -/
structure NIC where
  network : NICNetwork
  hardware : NICHardware
  hostInterface : String
  macAddr : String
  networkName : String
  deriving DecidableEq, Repr

/-! ### Writing an adapter -/

/-- The `Append` calls of `appendNicParams`, in order, each as the name of its argument without
the dashes and the index, and the value: mode, hardware and cable always, the MAC address when there
is one, then the identifier of the mode (`default` for a NAT adapter without a network name). -/
def nicParams (nic : NIC) : List (String × String) :=
  [("nic", nic.network.val), ("nictype", nic.hardware.val), ("cableconnected", "on")] ++
  (if nic.macAddr ≠ "" then [("macaddress", nic.macAddr)] else []) ++
  (if nic.network = .hostonly then [("hostonlyadapter", nic.hostInterface)]
  else if nic.network = .bridged then [("bridgeadapter", nic.hostInterface)]
  else if nic.network = .nat then
    if nic.networkName ≠ "" then [("natnet", nic.networkName)] else [("natnet", "default")]
  else if nic.network = .natNetwork then
    if nic.networkName ≠ "" then [("nat-network", nic.networkName)] else []
  else if nic.network = .internal then
    if nic.networkName ≠ "" then [("intnet", nic.networkName)] else []
  else [])

/-- `appendNicParams`: the calls `cmdArgs.Append(fmt.Sprintf("--<name>%d", n), value)` of
`nicParams`, in order (the Go function also returns an error, always `nil`). -/
def appendNicParams (n : Nat) (nic : NIC) (cmdArgs : CmdArgs) : CmdArgs :=
  (nicParams nic).foldl (fun c p => c.append ("--" ++ p.1 ++ fmtUint 10 n) p.2) cmdArgs

/-- The key under which `showvminfo` reports the argument `--<key>`: the key without its two
leading dashes. -/
def reportKey (k : String) : String := ⟨k.data.drop 2⟩

/-- A listing that reports every argument of `args` with a value as the line `key="value"`. -/
def ReportsCmdArgs (args : List CmdArg) (vmPropMap : PropMap) : Prop :=
  ∀ a ∈ args, ∀ v, a.v = some v → vmPropMap (reportKey a.k) = some v

/-- A loop of `Append` calls appends one argument per call to the base arguments. -/
theorem foldl_append {α : Type} (l : List α) (key val : α → String) (c : CmdArgs) :
    l.foldl (fun c p => c.append (key p) (val p)) c =
      ⟨c.args ++ l.map fun p => newCmdArg (key p) (val p), c.overrides⟩ := by
  induction l generalizing c with
  | nil => simp
  | cons p l ih =>
    rw [List.foldl_cons, ih]
    simp [CmdArgs.append]

theorem appendNicParams_eq (n : Nat) (nic : NIC) (c : CmdArgs) :
    appendNicParams n nic c =
      ⟨c.args ++ (nicParams nic).map fun p => newCmdArg ("--" ++ p.1 ++ fmtUint 10 n) p.2,
        c.overrides⟩ :=
  foldl_append _ _ _ c

/-- The names of the arguments `appendNicParams` can write, in the order it writes them. -/
def nicParamNames : List String :=
  ["nic", "nictype", "cableconnected", "macaddress", "hostonlyadapter", "bridgeadapter", "natnet",
    "nat-network", "intnet"]

/-- An adapter's arguments are named after `nicParamNames`, each at most once and in its order. -/
theorem nicParams_names_sublist (nic : NIC) :
    ((nicParams nic).map Prod.fst).Sublist nicParamNames := by
  unfold nicParams
  simp only [List.map_append, List.map_cons, List.map_nil, apply_ite (List.map Prod.fst)]
  split_ifs <;> decide

/-! ### Reading the adapters back -/

/-- The body of the adapter loop of `GetMachine` at index `i`, for the mode `nicType` that
`nic<i>` reports. -/
def readNIC (propMap : PropMap) (i : Nat) (nicType : String) : Except Failure NIC := do
  let network : NICNetwork := ⟨nicType⟩
  let hardware : NICHardware := ⟨(propMap ("nictype" ++ fmtUint 10 i)).getD ""⟩
  if hardware.val = "" then
    throw (.error ("could not find corresponding 'nictype" ++ fmtUint 10 i ++ "'"))
  let macAddr := (propMap ("macaddress" ++ fmtUint 10 i)).getD ""
  if macAddr = "" then
    throw (.error ("could not find corresponding 'macaddress" ++ fmtUint 10 i ++ "'"))
  let nic : NIC := ⟨network, hardware, "", macAddr, ""⟩
  if network = .hostonly then
    pure { nic with hostInterface := (propMap ("hostonlyadapter" ++ fmtUint 10 i)).getD "" }
  else if network = .bridged then
    pure { nic with hostInterface := (propMap ("bridgeadapter" ++ fmtUint 10 i)).getD "" }
  else if network = .nat then
    pure { nic with networkName := (propMap ("natnet" ++ fmtUint 10 i)).getD "" }
  else if network = .natNetwork then
    pure { nic with networkName := (propMap ("nat-network" ++ fmtUint 10 i)).getD "" }
  else pure nic

/-- The adapter loop of `GetMachine` from index `i`, with `fuel` indices left: it stops at an
absent or `none` mode. -/
def nicLoop (propMap : PropMap) : Nat → Nat → List NIC → Except Failure (List NIC)
  | 0, _, nics => .ok nics
  | fuel + 1, i, nics =>
    match propMap ("nic" ++ fmtUint 10 i) with
    | none => .ok nics
    | some nicType =>
      if nicType = "none" then .ok nics
      else do
        let nic ← readNIC propMap i nicType
        nicLoop propMap fuel (i + 1) (nics ++ [nic])

/-- The adapters `GetMachine` reads: indices 1 to 4. -/
def getNICs (propMap : PropMap) : Except Failure (List NIC) :=
  nicLoop propMap 4 1 []

/-! ### Reading back a written adapter -/

/-- An adapter the listing can report: a mode other than `none`, a hardware type and a MAC
address, the host interface set only for host-only and bridged adapters, and a network name set
exactly for NAT, NAT network and internal adapters. -/
structure NIC.Reportable (nic : NIC) : Prop where
  network : nic.network.val ≠ "none"
  hardware : nic.hardware.val ≠ ""
  macAddr : nic.macAddr ≠ ""
  hostInterface : nic.network ≠ .hostonly → nic.network ≠ .bridged → nic.hostInterface = ""
  networkName : (nic.network = .nat ∨ nic.network = .natNetwork ∨ nic.network = .internal) ↔
    nic.networkName ≠ ""

/-- A listing that reports the arguments of adapter `n` reports each call of `nicParams` under
its name followed by `n`. -/
theorem reports_nicParams {vmPropMap : PropMap} {n : Nat} {nic : NIC}
    (hrep : ReportsCmdArgs (appendNicParams n nic CmdArgs.empty).args vmPropMap) :
    ∀ p ∈ nicParams nic, vmPropMap (p.1 ++ fmtUint 10 n) = some p.2 := by
  intro p hp
  refine hrep (newCmdArg ("--" ++ p.1 ++ fmtUint 10 n) p.2) ?_ p.2 rfl
  rw [appendNicParams_eq]
  exact List.mem_append_right _ (List.mem_map_of_mem _ hp)

/-- What a listing reporting the arguments of adapter `n` says of it. -/
theorem reports_appendNicParams {vmPropMap : PropMap} {n : Nat} {nic : NIC}
    (hrep : ReportsCmdArgs (appendNicParams n nic CmdArgs.empty).args vmPropMap)
    (hmac : nic.macAddr ≠ "") :
    vmPropMap ("nic" ++ fmtUint 10 n) = some nic.network.val ∧
    vmPropMap ("nictype" ++ fmtUint 10 n) = some nic.hardware.val ∧
    vmPropMap ("macaddress" ++ fmtUint 10 n) = some nic.macAddr ∧
    (nic.network = .hostonly →
      vmPropMap ("hostonlyadapter" ++ fmtUint 10 n) = some nic.hostInterface) ∧
    (nic.network = .bridged →
      vmPropMap ("bridgeadapter" ++ fmtUint 10 n) = some nic.hostInterface) ∧
    (nic.network = .nat → nic.networkName ≠ "" →
      vmPropMap ("natnet" ++ fmtUint 10 n) = some nic.networkName) ∧
    (nic.network = .natNetwork → nic.networkName ≠ "" →
      vmPropMap ("nat-network" ++ fmtUint 10 n) = some nic.networkName) := by
  have get := reports_nicParams hrep
  refine ⟨get ("nic", _) ?_, get ("nictype", _) ?_, get ("macaddress", _) ?_,
    fun h => get ("hostonlyadapter", _) ?_, fun h => get ("bridgeadapter", _) ?_,
    fun h hn => get ("natnet", _) ?_, fun h hn => get ("nat-network", _) ?_⟩
  all_goals simp [nicParams, NICNetwork.hostonly, NICNetwork.bridged, NICNetwork.nat,
    NICNetwork.natNetwork, *]

/-- What `GetMachine` keeps of a reported adapter: all of it, but the network name of an adapter
on an internal network, whose `intnet<N>` line it never reads. -/
def NIC.readBack (nic : NIC) : NIC :=
  if nic.network = .internal then { nic with networkName := "" } else nic

/-- **An adapter read back**: the listing's report of a written adapter reads back as the adapter,
without the network name if it is on an internal network. -/
theorem readNIC_reported {vmPropMap : PropMap} {n : Nat} {nic : NIC} (hnic : nic.Reportable)
    (hrep : ReportsCmdArgs (appendNicParams n nic CmdArgs.empty).args vmPropMap) :
    readNIC vmPropMap n nic.network.val = .ok nic.readBack := by
  obtain ⟨-, h2, h3, hho, hbr, hnat, hnatnet⟩ := reports_appendNicParams hrep hnic.macAddr
  obtain ⟨hnone, hhw, hmac, hhost, hname⟩ := hnic
  obtain ⟨network, hardware, hostInterface, macAddr, networkName⟩ := nic
  simp only at *
  simp only [readNIC, NIC.readBack, h2, h3, Option.getD_some, hhw, hmac, if_false, bind,
    Except.bind, pure, Except.pure]
  by_cases hh : network = .hostonly
  · subst hh
    simp_all [NICNetwork.hostonly, NICNetwork.nat, NICNetwork.natNetwork, NICNetwork.internal]
  by_cases hb : network = .bridged
  · subst hb
    simp_all [NICNetwork.bridged, NICNetwork.nat, NICNetwork.natNetwork, NICNetwork.internal]
  by_cases hn : network = .nat
  · subst hn
    simp_all [NICNetwork.nat, NICNetwork.hostonly, NICNetwork.bridged, NICNetwork.internal]
  by_cases hnn : network = .natNetwork
  · subst hnn
    simp_all [NICNetwork.natNetwork, NICNetwork.hostonly, NICNetwork.bridged, NICNetwork.nat,
      NICNetwork.internal]
  by_cases hi : network = .internal
  · subst hi
    simp_all
  simp_all

/-- The adapter loop over reported adapters, from index `i`: it reads each adapter back and stops
at the index after the last. -/
theorem nicLoop_reported (vmPropMap : PropMap) :
    ∀ (nics : List NIC) (i fuel : Nat) (acc : List NIC), nics.length ≤ fuel →
      (∀ nic ∈ nics, nic.Reportable) →
      (∀ p ∈ nics.enumFrom i,
        ReportsCmdArgs (appendNicParams p.1 p.2 CmdArgs.empty).args vmPropMap) →
      (nics.length < fuel → vmPropMap ("nic" ++ fmtUint 10 (i + nics.length)) = none) →
      nicLoop vmPropMap fuel i acc = .ok (acc ++ nics.map NIC.readBack)
  | [], i, fuel, acc, _, _, _, hend => by
    cases fuel with
    | zero => simp [nicLoop]
    | succ fuel =>
      have hnone := hend (by simp)
      simp only [List.length_nil, Nat.add_zero] at hnone
      simp [nicLoop, hnone]
  | nic :: nics, i, fuel, acc, hlen, hnics, hrep, hend => by
    obtain ⟨fuel, rfl⟩ : ∃ f, fuel = f + 1 := ⟨fuel - 1, by simp at hlen; omega⟩
    have hnic := hnics nic (List.mem_cons_self _ _)
    have hrepi := hrep (i, nic) (by simp [List.enumFrom])
    have hnet := (reports_appendNicParams hrepi hnic.macAddr).1
    rw [nicLoop, hnet]
    simp only [hnic.network, if_false, readNIC_reported hnic hrepi, bind, Except.bind]
    rw [nicLoop_reported vmPropMap nics (i + 1) fuel (acc ++ [nic.readBack])
      (by simp at hlen; omega)
      (fun n hn => hnics n (List.mem_cons_of_mem _ hn))
      (fun p hp => hrep p (by simp [List.enumFrom, hp]))
      (fun h => by simpa [Nat.add_assoc, Nat.add_comm 1] using hend (by simp; omega))]
    simp

/-- **The adapters read back.**  Every list of at most four reportable adapters whose
`appendNicParams` arguments the listing reports for indices 1, 2, …, and which reports no adapter
after them, is read back as it was, but for the network names of adapters on internal networks. -/
theorem getNICs_reported (nics : List NIC) (vmPropMap : PropMap) (hlen : nics.length ≤ 4)
    (hnics : ∀ nic ∈ nics, nic.Reportable)
    (hrep : ∀ p ∈ nics.enumFrom 1,
      ReportsCmdArgs (appendNicParams p.1 p.2 CmdArgs.empty).args vmPropMap)
    (hend : vmPropMap ("nic" ++ fmtUint 10 (nics.length + 1)) = none) :
    getNICs vmPropMap = .ok (nics.map NIC.readBack) := by
  simpa using nicLoop_reported vmPropMap nics 1 4 [] hlen hnics hrep
    (fun _ => by rw [Nat.add_comm]; exact hend)

/-! ### Listings -/

/-- The listing that reports a list of arguments: under each key, the value of the first argument
reported under it. -/
def reportMap (args : List CmdArg) : PropMap := fun k =>
  (args.find? fun a => reportKey a.k = k).bind CmdArg.v

/-- A list of arguments with distinct report keys is reported by its listing. -/
theorem reportsCmdArgs_reportMap (args : List CmdArg)
    (h : (args.map fun a => reportKey a.k).Nodup) :
    ReportsCmdArgs args (reportMap args) := by
  induction args with
  | nil => simp [ReportsCmdArgs]
  | cons b args ih =>
    rw [List.map_cons, List.nodup_cons] at h
    intro a ha v hv
    rcases List.mem_cons.1 ha with rfl | ha
    · simp [reportMap, hv]
    · have hne : reportKey b.k ≠ reportKey a.k := fun e => h.1 (e ▸ List.mem_map_of_mem _ ha)
      simpa [reportMap, List.find?_cons, hne] using ih h.2 a ha v hv

/-- A bridged adapter on the host interface `en0`. -/
def bridgedNIC : NIC := ⟨.bridged, ⟨"82540EM"⟩, "en0", "080027AABBCC", ""⟩

theorem getNICs_reported_bridged :
    [bridgedNIC].length ≤ 4 ∧ (∀ nic ∈ [bridgedNIC], nic.Reportable) ∧
    (∀ p ∈ [bridgedNIC].enumFrom 1, ReportsCmdArgs (appendNicParams p.1 p.2 CmdArgs.empty).args
      (reportMap (appendNicParams 1 bridgedNIC CmdArgs.empty).args)) ∧
    reportMap (appendNicParams 1 bridgedNIC CmdArgs.empty).args
      ("nic" ++ fmtUint 10 ([bridgedNIC].length + 1)) = none ∧
    getNICs (reportMap (appendNicParams 1 bridgedNIC CmdArgs.empty).args) =
      .ok ([bridgedNIC].map NIC.readBack) := by
  have hnic : ∀ nic ∈ [bridgedNIC], nic.Reportable := by
    intro nic hn
    rw [List.mem_singleton.1 hn]
    exact ⟨by decide, by decide, by decide, fun _ h => absurd rfl h, by decide⟩
  have hrep : ∀ p ∈ [bridgedNIC].enumFrom 1, ReportsCmdArgs
      (appendNicParams p.1 p.2 CmdArgs.empty).args
      (reportMap (appendNicParams 1 bridgedNIC CmdArgs.empty).args) := by
    intro p hp
    rw [List.mem_singleton.1 hp]
    exact reportsCmdArgs_reportMap _ (by decide)
  exact ⟨by decide, hnic, hrep, by decide,
    getNICs_reported _ _ (by decide) hnic hrep (by decide)⟩

/-- An adapter on the internal network `intnet1`. -/
def intnetNIC : NIC := ⟨.internal, ⟨"82540EM"⟩, "", "080027000001", "intnet1"⟩

/-- The adapter loop reads an adapter on an internal network back without its network name,
though the listing reports it as `intnet1="intnet1"`. -/
theorem getNICs_intnet :
    intnetNIC.Reportable ∧
    ReportsCmdArgs (appendNicParams 1 intnetNIC CmdArgs.empty).args
      (reportMap (appendNicParams 1 intnetNIC CmdArgs.empty).args) ∧
    reportMap (appendNicParams 1 intnetNIC CmdArgs.empty).args "intnet1" = some "intnet1" ∧
    reportMap (appendNicParams 1 intnetNIC CmdArgs.empty).args "nic2" = none ∧
    getNICs (reportMap (appendNicParams 1 intnetNIC CmdArgs.empty).args) =
      .ok [{ intnetNIC with networkName := "" }] :=
  ⟨⟨by decide, by decide, by decide, fun _ _ => rfl, by decide⟩,
    reportsCmdArgs_reportMap _ (by decide), by decide, by decide, rfl⟩

end Virtualbox
