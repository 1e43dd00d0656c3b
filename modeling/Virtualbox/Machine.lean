/-
**The machine: `Modify`, `GetMachine`, and the settings that survive the round trip.**

`Modify` writes a machine's whole configuration as one `VBoxManage modifyvm` command: fixed BIOS
settings, the OS type, the CPU count, memory and video memory, one `on|off` argument per feature
flag, up to four boot devices, the adapters, the serial ports and the caller's overrides, all
through the `CmdArgs` builder.  It ends with `Refresh`, which is `GetMachine`: run
`showvminfo --machinereadable`, read the output into a property map, and assemble a new `Machine`
from it.

`GetMachine` reads the name, UUID and state, parses memory, CPU count and video memory with
`strconv.ParseUint`, reads the configuration file, the adapters, the serial ports and the storage
controllers — and nothing else.  The OS type, the flags and the boot order that `Modify` writes are
never read back: after `Modify`, a machine holds the empty OS type, no flag and no boot device,
whatever the listing says.  The sizes and the adapters come back, the adapters because their keys,
`--<name><index>`, are distinct from each other and from every other key of the command.

Running `VBoxManage` is outside the package's logic; here a command is the list of its arguments,
and the output of `showvminfo` is a property map (or, for `getMachine`, the text itself).
`ModifyVMCmdArgs`, which turns the serial ports into arguments, is not part of the sources here
and is a parameter of `Modify`.

Main definitions:

* `Virtualbox.Flag`, `Virtualbox.Machine`, `Virtualbox.Machine.new`;
* `Virtualbox.Machine.settings`, `Virtualbox.Machine.modifyCmdArgs`, `Virtualbox.Machine.modify`
  — the `modifyvm` command;
* `Virtualbox.getMachineFromProps`, `Virtualbox.getMachine` — `GetMachine` from the output;
* `Virtualbox.CmdArgs.carried` — the arguments a command carries, one per key.

Main results:

* `Virtualbox.Machine.modifyCmdArgs_eq`, `Virtualbox.Machine.settings_carried` — what `Modify`'s
  command is made of, and that it carries each of its settings;
* `Virtualbox.getMachineFromProps_fields` — what a successful `GetMachine` holds;
* `Virtualbox.getMachineFromProps_modify` — **the settings that survive `Modify` then `Refresh`**:
  CPU count, memory and video memory come back; the OS type, the flags and the boot order come back
  empty;
* `Virtualbox.getMachineFromProps_modify_osType` — a machine with an OS type, flags and a boot
  device loses all three;
* `Virtualbox.reportsCmdArgs_carried`, `Virtualbox.Machine.reportMap_reports` — a listing that
  reports `Modify`'s command exists;
* `Virtualbox.append_fmtUint_inj`, `Virtualbox.Machine.nicArgs_carried` — the adapters' keys are
  distinct, and `Modify`'s command carries each adapter argument;
* `Virtualbox.getMachineFromProps_modify_nics` — **the adapters survive `Modify` then
  `Refresh`**, but for the network names of adapters on internal networks.
-/

import Virtualbox.Nic
import Virtualbox.Storage
import Virtualbox.UartDecode

set_option relaxedAutoImplicit false
set_option autoImplicit false

namespace Virtualbox

/-! ### Machines -/

/-- `MachineState`, a string in Go. -/
structure MachineState where
  val : String
  deriving DecidableEq, Repr

/-- `Flag`: a bit set of feature toggles, a Go `int`, here as its 64 bits. -/
structure Flag where
  bits : UInt64
  deriving DecidableEq, Repr

namespace Flag

/-- `ACPI`. -/
def acpi : Flag := ⟨(1 : UInt64) <<< 0⟩
/-- `IOAPIC`. -/
def ioapic : Flag := ⟨(1 : UInt64) <<< 1⟩
/-- `RTCUSEUTC`. -/
def rtcuseutc : Flag := ⟨(1 : UInt64) <<< 2⟩
/-- `CPUHOTPLUG`. -/
def cpuhotplug : Flag := ⟨(1 : UInt64) <<< 3⟩
/-- `PAE`. -/
def pae : Flag := ⟨(1 : UInt64) <<< 4⟩
/-- `LONGMODE`. -/
def longmode : Flag := ⟨(1 : UInt64) <<< 5⟩
/-- `SYNTHCPU`. -/
def synthcpu : Flag := ⟨(1 : UInt64) <<< 6⟩
/-- `HPET`. -/
def hpet : Flag := ⟨(1 : UInt64) <<< 7⟩
/-- `HWVIRTEX`. -/
def hwvirtex : Flag := ⟨(1 : UInt64) <<< 8⟩
/-- `TRIPLEFAULTRESET`. -/
def triplefaultreset : Flag := ⟨(1 : UInt64) <<< 9⟩
/-- `NESTEDPAGING`. -/
def nestedpaging : Flag := ⟨(1 : UInt64) <<< 10⟩
/-- `LARGEPAGES`. -/
def largepages : Flag := ⟨(1 : UInt64) <<< 11⟩
/-- `VTXVPID`. -/
def vtxvpid : Flag := ⟨(1 : UInt64) <<< 12⟩
/-- `VTXUX`. -/
def vtxux : Flag := ⟨(1 : UInt64) <<< 13⟩
/-- `ACCELERATE3D`. -/
def accelerate3d : Flag := ⟨(1 : UInt64) <<< 14⟩
/-- `NESTED_HW_VIRT`. -/
def nestedHwVirt : Flag := ⟨(1 : UInt64) <<< 15⟩
/-- `X2APIC`. -/
def x2apic : Flag := ⟨(1 : UInt64) <<< 16⟩

end Flag

/-- `bool2string`. -/
def bool2string (b : Bool) : String := if b then "on" else "off"

/-- `Get`: `on` when every bit of `o` is set in `f`. -/
def Flag.get (f o : Flag) : String := bool2string (f.bits &&& o.bits == o.bits)

/-- `Machine`, without `BaseFolder`, which `GetMachine` computes with `filepath.Dir` from the
configuration file and nothing here reads. -/
structure Machine where
  name : String
  uuid : String
  state : MachineState
  cpus : UInt64
  memory : UInt64
  vram : UInt64
  cfgFile : String
  osType : String
  flag : Flag
  bootOrder : List String
  nics : List NIC
  uarts : UARTs
  storageControllers : List StorageController

/-- `New`: the zero machine, with no boot device, no adapter and the four serial ports off. -/
def Machine.new : Machine :=
  ⟨"", "", ⟨""⟩, 0, 0, 0, "", "", ⟨0⟩, [], [], newUARTsAllOff, []⟩

/-! ### `Modify` -/

/-- The `cmdArgs.Append(key, value)` calls of `Modify` before its boot loop, in order: the fixed
BIOS settings, the OS type, the sizes, and fifteen of the seventeen flags (not `SYNTHCPU`, not
`X2APIC`). -/
def Machine.settings (m : Machine) : List (String × String) :=
  [("--firmware", "bios"),
   ("--bioslogofadein", "off"),
   ("--bioslogofadeout", "off"),
   ("--bioslogodisplaytime", "0"),
   ("--biosbootmenu", "disabled"),
   ("--ostype", m.osType),
   ("--cpus", fmtUint 10 m.cpus.toNat),
   ("--memory", fmtUint 10 m.memory.toNat),
   ("--vram", fmtUint 10 m.vram.toNat),
   ("--acpi", m.flag.get .acpi),
   ("--ioapic", m.flag.get .ioapic),
   ("--rtcuseutc", m.flag.get .rtcuseutc),
   ("--cpuhotplug", m.flag.get .cpuhotplug),
   ("--pae", m.flag.get .pae),
   ("--longmode", m.flag.get .longmode),
   ("--hpet", m.flag.get .hpet),
   ("--hwvirtex", m.flag.get .hwvirtex),
   ("--triplefaultreset", m.flag.get .triplefaultreset),
   ("--nestedpaging", m.flag.get .nestedpaging),
   ("--largepages", m.flag.get .largepages),
   ("--vtxvpid", m.flag.get .vtxvpid),
   ("--vtxux", m.flag.get .vtxux),
   ("--accelerate3d", m.flag.get .accelerate3d),
   ("--nested-hw-virt", m.flag.get .nestedHwVirt)]

/-- The builder `Modify` fills before running `modifyvm`: its settings, the first four boot
devices, the adapters, the serial ports' arguments and the overrides. -/
def Machine.modifyCmdArgs (m : Machine) (uartsCmdArgs override : List CmdArg) : CmdArgs :=
  let cmdArgs := m.settings.foldl (fun c p => c.append p.1 p.2) CmdArgs.empty
  let cmdArgs := (m.bootOrder.take 4).enum.foldl
    (fun c (p : Nat × String) => c.append ("--boot" ++ fmtUint 10 (p.1 + 1)) p.2) cmdArgs
  let cmdArgs := m.nics.enum.foldl
    (fun c (p : Nat × NIC) => appendNicParams (p.1 + 1) p.2 c) cmdArgs
  (cmdArgs.appendCmdArgs uartsCmdArgs).appendOverride override

/-- `Modify`: the arguments of the `modifyvm` command, the serial ports' arguments coming from
`modifyVMCmdArgs`. -/
def Machine.modify (m : Machine) (modifyVMCmdArgs : UARTs → Except Failure (List CmdArg))
    (override : List CmdArg) : Except Failure (List String) := do
  let uartsCmdArgs ← errorsWrap (modifyVMCmdArgs m.uarts)
    "Error getting UARTs Modify VM Command Parameters"
  pure (["modifyvm", m.name] ++ (m.modifyCmdArgs uartsCmdArgs override).Args)

/-- The arguments a command built with `c` carries: for each key, in order of first occurrence,
its last argument, unless that one is deleted. -/
def CmdArgs.carried (c : CmdArgs) : List CmdArg :=
  ((firstKeys (c.args ++ c.overrides)).filterMap (lastWithKey (c.args ++ c.overrides))).filter
    (!·.del)

/-! ### `GetMachine` -/

/-- `strconv.ParseUint(s, 10, 32)` as `GetMachine` uses it: the value, or the error as it is. -/
def parseUint32 (s : String) : Except Failure Nat :=
  match parseUint s 10 32 with
  | (n, none) => .ok n
  | (_, some err) => .error err

/-- `GetMachine` after `vminfoAsPropMap`: assemble a machine from the property map. -/
def getMachineFromProps (propMap : PropMap) : Except Failure Machine := do
  let m := Machine.new
  let m := { m with name := (propMap "name").getD "", uuid := (propMap "UUID").getD "",
                    state := ⟨(propMap "VMState").getD ""⟩ }
  let n ← parseUint32 ((propMap "memory").getD "")
  let m := { m with memory := UInt64.ofNat n }
  let n ← parseUint32 ((propMap "cpus").getD "")
  let m := { m with cpus := UInt64.ofNat n }
  let n ← parseUint32 ((propMap "vram").getD "")
  let m := { m with vram := UInt64.ofNat n, cfgFile := (propMap "CfgFile").getD "" }
  let nics ← getNICs propMap
  let m := { m with nics := m.nics ++ nics }
  let pUARTs ← errorsWrap (newUARTs propMap) "Error reading UARTs data vfrom vm info"
  let m := { m with uarts := pUARTs }
  let scs ← errorsWrap (newStorageControllersFromProps propMap) "failed to read storage controllers"
  pure { m with storageControllers := scs }

/-- `GetMachine` on the output of `showvminfo --machinereadable`. -/
def getMachine (stdout : String) : Except Failure Machine := do
  let propMap ← vminfoAsPropMap stdout
  getMachineFromProps propMap

/-! ### The command `Modify` runs -/

/-- An argument that no later argument overrides, and that is not deleted, is carried. -/
theorem CmdArgs.mem_carried {c : CmdArgs} {pre post : List CmdArg} {a : CmdArg}
    (h : c.args ++ c.overrides = pre ++ a :: post) (hpost : ∀ b ∈ post, b.k ≠ a.k)
    (hdel : a.del = false) : a ∈ c.carried := by
  have hlast : lastWithKey (c.args ++ c.overrides) a.k = some a := by
    have hnone : post.reverse.find? (·.k = a.k) = none :=
      List.find?_eq_none.2 fun b hb => by simpa using hpost b (List.mem_reverse.1 hb)
    simp [h, lastWithKey, List.find?_append, hnone]
  simp only [CmdArgs.carried, List.mem_filter, List.mem_filterMap, hdel]
  exact ⟨⟨a.k, mem_firstKeys.2 (List.mem_map_of_mem _ (h ▸ by simp)), hlast⟩, rfl⟩

/-- The keys a command carries come in the order of their first occurrence, each once. -/
theorem CmdArgs.carried_keys_sublist (c : CmdArgs) :
    (c.carried.map CmdArg.k).Sublist (firstKeys (c.args ++ c.overrides)) := by
  rw [CmdArgs.carried]
  refine (List.Sublist.map _ (List.filter_sublist _)).trans ?_
  induction firstKeys (c.args ++ c.overrides) with
  | nil => simp
  | cons k ks ih =>
    cases h : lastWithKey (c.args ++ c.overrides) k with
    | none => simpa [List.filterMap_cons, h] using ih.cons k
    | some a =>
      simpa [List.filterMap_cons, h, lastWithKey_key h] using ih.cons₂ k

/-- A key that starts with two dashes, as every key `Modify` writes does. -/
def DashKey (k : String) : Prop := k.data.take 2 = ['-', '-']

instance : DecidablePred DashKey := fun k => inferInstanceAs (Decidable (k.data.take 2 = _))

theorem reportKey_inj {k k' : String} (hk : DashKey k) (hk' : DashKey k')
    (h : reportKey k = reportKey k') : k = k' := by
  apply String.ext
  rw [← List.take_append_drop 2 k.data, ← List.take_append_drop 2 k'.data, hk, hk']
  exact congrArg _ (congrArg String.data h)

/-- **A command is reported by its listing**, when all its keys start with two dashes: the
listing `reportMap` of the arguments it carries exists. -/
theorem reportsCmdArgs_carried (c : CmdArgs) (h : ∀ a ∈ c.args ++ c.overrides, DashKey a.k) :
    ReportsCmdArgs c.carried (reportMap c.carried) := by
  refine reportsCmdArgs_reportMap _ ?_
  rw [show (c.carried.map fun a => reportKey a.k) = (c.carried.map CmdArg.k).map reportKey by
    rw [List.map_map]; rfl]
  refine ((firstKeys_nodup _).sublist c.carried_keys_sublist).map_on fun k hk k' hk' e => ?_
  have dash : ∀ k ∈ c.carried.map CmdArg.k, DashKey k := fun k hk => by
    obtain ⟨a, ha, rfl⟩ := List.mem_map.1 (mem_firstKeys.1 (c.carried_keys_sublist.subset hk))
    exact h a ha
  exact reportKey_inj (dash k hk) (dash k' hk') e

/-- The boot-device arguments of `Modify`: `--boot<i>` for the first four devices. -/
def Machine.bootArgs (m : Machine) : List CmdArg :=
  (m.bootOrder.take 4).enum.map fun p => newCmdArg ("--boot" ++ fmtUint 10 (p.1 + 1)) p.2

/-- The adapter arguments of `Modify`: those of `appendNicParams` for adapters 1, 2, … -/
def Machine.nicArgs (m : Machine) : List CmdArg :=
  m.nics.enum.flatMap fun p =>
    (nicParams p.2).map fun q => newCmdArg ("--" ++ q.1 ++ fmtUint 10 (p.1 + 1)) q.2

theorem foldl_appendNicParams (l : List (Nat × NIC)) (c : CmdArgs) :
    l.foldl (fun c p => appendNicParams (p.1 + 1) p.2 c) c =
      ⟨c.args ++ l.flatMap fun p =>
        (nicParams p.2).map fun q => newCmdArg ("--" ++ q.1 ++ fmtUint 10 (p.1 + 1)) q.2,
        c.overrides⟩ := by
  induction l generalizing c with
  | nil => simp
  | cons p l ih =>
    rw [List.foldl_cons, ih, appendNicParams_eq]
    simp

/-- **`Modify`'s builder**: its settings, its boot devices, its adapters and the serial ports'
arguments, in this order, then the overrides. -/
theorem Machine.modifyCmdArgs_eq (m : Machine) (uartsCmdArgs override : List CmdArg) :
    m.modifyCmdArgs uartsCmdArgs override =
      ⟨m.settings.map (fun p => newCmdArg p.1 p.2) ++ m.bootArgs ++ m.nicArgs ++ uartsCmdArgs,
        override⟩ := by
  have hrun : ∀ c : CmdArgs, (c.appendCmdArgs uartsCmdArgs).appendOverride override =
      CmdArgs.Call.run (CmdArgs.Call.run c (.appendCmdArgs uartsCmdArgs))
        (.appendOverride override) :=
    fun _ => rfl
  rw [Machine.modifyCmdArgs, foldl_append m.settings Prod.fst Prod.snd, foldl_append,
    foldl_appendNicParams, hrun, CmdArgs.Call.run_eq, CmdArgs.Call.run_eq]
  simp [CmdArgs.empty, CmdArgs.Call.base, CmdArgs.Call.override, Machine.bootArgs, Machine.nicArgs]

/-- The keys of `Modify`'s settings. -/
theorem Machine.settings_keys (m : Machine) : m.settings.map Prod.fst =
    ["--firmware", "--bioslogofadein", "--bioslogofadeout", "--bioslogodisplaytime",
      "--biosbootmenu", "--ostype", "--cpus", "--memory", "--vram", "--acpi", "--ioapic",
      "--rtcuseutc", "--cpuhotplug", "--pae", "--longmode", "--hpet", "--hwvirtex",
      "--triplefaultreset", "--nestedpaging", "--largepages", "--vtxvpid", "--vtxux",
      "--accelerate3d", "--nested-hw-virt"] := rfl

/-- What the keys of `Modify`'s settings have in common: no digit at the end, and no `--u` at the
start. -/
theorem Machine.settings_keys_shape (m : Machine) : ∀ k ∈ m.settings.map Prod.fst,
    (∀ d, d < 10 → k.data.getLast? ≠ some (Nat.digitChar d)) ∧ k.data.take 3 ≠ "--u".data := by
  rw [Machine.settings_keys]
  decide

/-- Every key `Modify` writes starts with two dashes, when the serial ports' keys do. -/
theorem Machine.modifyCmdArgs_dashKeys (m : Machine) (uartsCmdArgs : List CmdArg)
    (huarts : ∀ a ∈ uartsCmdArgs, DashKey a.k) :
    ∀ a ∈ (m.modifyCmdArgs uartsCmdArgs []).args ++ (m.modifyCmdArgs uartsCmdArgs []).overrides,
      DashKey a.k := by
  have hsettings : ∀ k ∈ m.settings.map Prod.fst, DashKey k := by
    rw [Machine.settings_keys]; decide
  rw [Machine.modifyCmdArgs_eq]
  intro a ha
  simp only [List.append_nil, List.mem_append] at ha
  rcases ha with ((ha | ha) | ha) | ha
  · obtain ⟨p, hp, rfl⟩ := List.mem_map.1 ha
    exact hsettings p.1 (List.mem_map_of_mem _ hp)
  · obtain ⟨p, -, rfl⟩ := List.mem_map.1 ha
    rfl
  · obtain ⟨p, -, hp⟩ := List.mem_flatMap.1 ha
    obtain ⟨q, -, rfl⟩ := List.mem_map.1 hp
    rfl
  · exact huarts a ha

/-- The listing of `Modify`'s command reports it. -/
theorem Machine.reportMap_reports (m : Machine) (uartsCmdArgs : List CmdArg)
    (huarts : ∀ a ∈ uartsCmdArgs, DashKey a.k) :
    ReportsCmdArgs (m.modifyCmdArgs uartsCmdArgs []).carried
      (reportMap (m.modifyCmdArgs uartsCmdArgs []).carried) :=
  reportsCmdArgs_carried _ (m.modifyCmdArgs_dashKeys uartsCmdArgs huarts)

/-- An indexed key, such as `--boot2` or `--nictype1`, ends with a decimal digit. -/
theorem getLast?_append_fmtUint (x : String) (n : Nat) :
    ∃ d, d < 10 ∧ (x ++ fmtUint 10 n).data.getLast? = some (Nat.digitChar d) := by
  obtain ⟨c, hc⟩ := Option.isSome_iff_exists.1 (List.getLast?_isSome.2 (fmtUint_ne_nil 10 n))
  obtain ⟨d, hd, rfl⟩ := List.mem_map.1 (fmtUint_data 10 n ▸ List.mem_of_getLast?_eq_some hc)
  refine ⟨d, digitsRev_lt 10 (by decide) _ _ d (List.mem_reverse.1 hd), ?_⟩
  rw [String.data_append, List.getLast?_append, hc]
  rfl

/-- A key that ends with no decimal digit is no indexed key. -/
theorem append_fmtUint_ne {k : String} (hk : ∀ d, d < 10 → k.data.getLast? ≠ some (Nat.digitChar d))
    (x : String) (n : Nat) : x ++ fmtUint 10 n ≠ k := by
  rintro rfl
  obtain ⟨d, hd, h⟩ := getLast?_append_fmtUint x n
  exact hk d hd h

/-- **Each setting of `Modify` is carried** by its command, unless a serial port's argument has its
key: the settings' keys are distinct, and the boot devices' and adapters' keys end with their
index. -/
theorem Machine.settings_carried (m : Machine) (uartsCmdArgs : List CmdArg) {p : String × String}
    (hp : p ∈ m.settings) (huarts : ∀ a ∈ uartsCmdArgs, a.k ≠ p.1) :
    newCmdArg p.1 p.2 ∈ (m.modifyCmdArgs uartsCmdArgs []).carried := by
  obtain ⟨pre, post, hsplit⟩ := List.append_of_mem hp
  have hkeys : (m.settings.map Prod.fst).Nodup := by rw [Machine.settings_keys]; decide
  rw [hsplit, List.map_append, List.map_cons] at hkeys
  have hpost : p.1 ∉ post.map Prod.fst :=
    (List.nodup_cons.1 (hkeys.sublist (List.sublist_append_right _ _))).1
  have hunindexed := (m.settings_keys_shape p.1 (List.mem_map_of_mem Prod.fst hp)).1
  refine @CmdArgs.mem_carried _ (pre.map fun p => newCmdArg p.1 p.2)
    (post.map (fun p => newCmdArg p.1 p.2) ++ m.bootArgs ++ m.nicArgs ++ uartsCmdArgs) _
    (by rw [Machine.modifyCmdArgs_eq, hsplit]; simp) ?_ rfl
  intro b hb
  simp only [List.mem_append] at hb
  rcases hb with ((hb | hb) | hb) | hb
  · obtain ⟨q, hq, rfl⟩ := List.mem_map.1 hb
    exact fun e => hpost ((show q.1 = p.1 from e) ▸ List.mem_map_of_mem _ hq)
  · obtain ⟨q, -, rfl⟩ := List.mem_map.1 hb
    exact append_fmtUint_ne hunindexed _ _
  · obtain ⟨q, -, hb⟩ := List.mem_flatMap.1 hb
    obtain ⟨r, -, rfl⟩ := List.mem_map.1 hb
    exact append_fmtUint_ne hunindexed _ _
  · exact huarts b hb

/-! ### What `GetMachine` reads -/

theorem parseUint32_fmtUint {n : Nat} (h : n < 2 ^ 32) : parseUint32 (fmtUint 10 n) = .ok n := by
  simp [parseUint32, parseUint_fmtUint 10 32 n (by decide) (by decide) h]

/-- **What a successful `GetMachine` holds**: the sizes it parsed, the adapters, serial ports and
storage controllers it read, and no OS type, no flag and no boot device. -/
theorem getMachineFromProps_fields {vmPropMap : PropMap} {m : Machine}
    (h : getMachineFromProps vmPropMap = .ok m) :
    (∃ n, parseUint32 ((vmPropMap "memory").getD "") = .ok n ∧ m.memory = UInt64.ofNat n) ∧
    (∃ n, parseUint32 ((vmPropMap "cpus").getD "") = .ok n ∧ m.cpus = UInt64.ofNat n) ∧
    (∃ n, parseUint32 ((vmPropMap "vram").getD "") = .ok n ∧ m.vram = UInt64.ofNat n) ∧
    m.osType = "" ∧ m.flag = ⟨0⟩ ∧ m.bootOrder = [] ∧
    getNICs vmPropMap = .ok m.nics ∧ newUARTs vmPropMap = .ok m.uarts ∧
    newStorageControllersFromProps vmPropMap = .ok m.storageControllers := by
  simp only [getMachineFromProps, bind_eq_ok, errorsWrap_eq_ok] at h
  obtain ⟨mem, hmem, cpus, hcpus, vram, hvram, nics, hnics, uarts, huarts, scs, hscs, h⟩ := h
  cases h
  exact ⟨⟨mem, hmem, rfl⟩, ⟨cpus, hcpus, rfl⟩, ⟨vram, hvram, rfl⟩, rfl, rfl, rfl,
    by simpa using hnics,
    huarts, hscs⟩

/-- A size reported as its decimal text, and below `2^32`, is read back as itself. -/
theorem readBack_size {vmPropMap : PropMap} {key : String} {x y : UInt64} (hx : x.toNat < 2 ^ 32)
    (hmap : vmPropMap key = some (fmtUint 10 x.toNat))
    (hy : ∃ n, parseUint32 ((vmPropMap key).getD "") = .ok n ∧ y = UInt64.ofNat n) : y = x := by
  obtain ⟨n, hn, rfl⟩ := hy
  rw [hmap, Option.getD_some, parseUint32_fmtUint hx] at hn
  cases hn
  exact UInt64.toNat.inj (UInt64.toNat_ofNat_of_lt x.toNat_lt_size)

/-! ### `Modify`, then `Refresh` -/

/-- **The settings that survive `Modify` then `Refresh`.**  Take a listing that reports every
argument `Modify`'s command carries, and a machine `GetMachine` assembles from it.  Its CPU count,
memory and video memory are the ones `Modify` wrote, when they are below `2^32`; its OS type, its
flags and its boot order are empty, whatever `Modify` wrote. -/
theorem getMachineFromProps_modify (m : Machine) (uartsCmdArgs : List CmdArg)
    (vmPropMap : PropMap) (m' : Machine)
    (hsizes : m.cpus.toNat < 2 ^ 32 ∧ m.memory.toNat < 2 ^ 32 ∧ m.vram.toNat < 2 ^ 32)
    (huarts : ∀ a ∈ uartsCmdArgs, a.k ≠ "--cpus" ∧ a.k ≠ "--memory" ∧ a.k ≠ "--vram")
    (hreport : ReportsCmdArgs (m.modifyCmdArgs uartsCmdArgs []).carried vmPropMap)
    (hget : getMachineFromProps vmPropMap = .ok m') :
    m'.cpus = m.cpus ∧ m'.memory = m.memory ∧ m'.vram = m.vram ∧
      m'.osType = "" ∧ m'.flag = ⟨0⟩ ∧ m'.bootOrder = [] := by
  obtain ⟨hmem, hcpus, hvram, hos, hflag, hboot, -⟩ := getMachineFromProps_fields hget
  have reported : ∀ p ∈ m.settings, (∀ a ∈ uartsCmdArgs, a.k ≠ p.1) →
      vmPropMap (reportKey p.1) = some p.2 :=
    fun p hp hu => hreport _ (m.settings_carried uartsCmdArgs hp hu) p.2 rfl
  refine ⟨readBack_size hsizes.1 (reported ("--cpus", fmtUint 10 m.cpus.toNat) ?_
      fun a ha => (huarts a ha).1) hcpus,
    readBack_size hsizes.2.1 (reported ("--memory", fmtUint 10 m.memory.toNat) ?_
      fun a ha => (huarts a ha).2.1) hmem,
    readBack_size hsizes.2.2 (reported ("--vram", fmtUint 10 m.vram.toNat) ?_
      fun a ha => (huarts a ha).2.2) hvram,
    hos, hflag, hboot⟩
  all_goals simp only [Machine.settings, List.mem_cons, true_or, or_true]

/-- A machine with an OS type, two flags and a boot device: 2 CPUs, 1024 MB of memory and 16 MB of
video memory, ACPI and IOAPIC on, booting from the disk. -/
def ubuntuMachine : Machine :=
  ⟨"ubuntu", "", ⟨""⟩, 2, 1024, 16, "", "Ubuntu_64", ⟨3⟩, ["disk"], [], newUARTsAllOff, []⟩

/-- The listing of `ubuntuMachine` after `Modify`: every argument its command carries. -/
def ubuntuListing : PropMap := reportMap (ubuntuMachine.modifyCmdArgs [] []).carried

/-- What `GetMachine` makes of `ubuntuListing`. -/
def ubuntuRefreshed : Machine :=
  ⟨"", "", ⟨""⟩, 2, 1024, 16, "", "", ⟨0⟩, [], [], newUARTsAllOff, []⟩

theorem ubuntuListing_reports :
    ReportsCmdArgs (ubuntuMachine.modifyCmdArgs [] []).carried ubuntuListing :=
  ubuntuMachine.reportMap_reports [] fun _ h => absurd h (List.not_mem_nil _)

theorem getMachineFromProps_ubuntuListing :
    getMachineFromProps ubuntuListing = .ok ubuntuRefreshed := rfl

theorem getMachineFromProps_modify_ubuntu :
    (ubuntuMachine.cpus.toNat < 2 ^ 32 ∧ ubuntuMachine.memory.toNat < 2 ^ 32 ∧
      ubuntuMachine.vram.toNat < 2 ^ 32) ∧
    (∀ a ∈ ([] : List CmdArg), a.k ≠ "--cpus" ∧ a.k ≠ "--memory" ∧ a.k ≠ "--vram") ∧
    ReportsCmdArgs (ubuntuMachine.modifyCmdArgs [] []).carried ubuntuListing ∧
    getMachineFromProps ubuntuListing = .ok ubuntuRefreshed ∧
    (ubuntuRefreshed.cpus = ubuntuMachine.cpus ∧ ubuntuRefreshed.memory = ubuntuMachine.memory ∧
      ubuntuRefreshed.vram = ubuntuMachine.vram ∧ ubuntuRefreshed.osType = "" ∧
      ubuntuRefreshed.flag = ⟨0⟩ ∧ ubuntuRefreshed.bootOrder = []) :=
  ⟨by decide, by simp, ubuntuListing_reports, getMachineFromProps_ubuntuListing,
    getMachineFromProps_modify ubuntuMachine [] ubuntuListing ubuntuRefreshed (by decide) (by simp)
      ubuntuListing_reports getMachineFromProps_ubuntuListing⟩

/-- `ubuntuMachine` after `Modify` then `Refresh`, from a listing that reports every argument of the
command: the OS type, the flags and the boot device are gone, and a second `Modify` writes the
empty OS type, ACPI and IOAPIC off and no boot device. -/
theorem getMachineFromProps_modify_osType :
    ReportsCmdArgs (ubuntuMachine.modifyCmdArgs [] []).carried ubuntuListing ∧
    getMachineFromProps ubuntuListing = .ok ubuntuRefreshed ∧
    ubuntuMachine.osType = "Ubuntu_64" ∧ ubuntuRefreshed.osType = "" ∧
    ubuntuMachine.flag.get .acpi = "on" ∧ ubuntuRefreshed.flag.get .acpi = "off" ∧
    ubuntuMachine.bootOrder = ["disk"] ∧ ubuntuRefreshed.bootOrder = [] :=
  ⟨ubuntuListing_reports, getMachineFromProps_ubuntuListing, rfl, rfl, by decide, by decide, rfl,
    rfl⟩

/-! ### The adapters after `Modify`, then `Refresh` -/

/-- The decimal digits that end a text: the index of an indexed key. -/
def indexDigits (s : List Char) : List Char := (s.reverse.takeWhile Char.isDigit).reverse

theorem isDigit_of_mem_fmtUint (n : Nat) : ∀ c ∈ (fmtUint 10 n).data, c.isDigit = true := by
  have hdigit : ∀ d, d < 10 → (Nat.digitChar d).isDigit = true := by decide
  intro c hc
  rw [fmtUint_data] at hc
  obtain ⟨d, hd, rfl⟩ := List.mem_map.1 hc
  exact hdigit d (digitsRev_lt 10 (by decide) _ _ d (List.mem_reverse.1 hd))

theorem indexDigits_append_fmtUint {x : List Char} (hx : x.getLast?.map Char.isDigit ≠ some true)
    (n : Nat) : indexDigits (x ++ (fmtUint 10 n).data) = (fmtUint 10 n).data := by
  have hnil : x.reverse.takeWhile Char.isDigit = [] := by
    cases h : x.reverse with
    | nil => rfl
    | cons c t =>
      rw [← List.head?_reverse, h] at hx
      simpa [List.takeWhile_cons] using hx
  rw [indexDigits, List.reverse_append, List.takeWhile_append_of_pos
    fun c hc => isDigit_of_mem_fmtUint n c (List.mem_reverse.1 hc), hnil, List.append_nil,
    List.reverse_reverse]

/-- **Indexed keys decompose uniquely**: a prefix that ends with no digit, then a printed index. -/
theorem append_fmtUint_inj {x y : List Char} (hx : x.getLast?.map Char.isDigit ≠ some true)
    (hy : y.getLast?.map Char.isDigit ≠ some true) {a b : Nat}
    (h : x ++ (fmtUint 10 a).data = y ++ (fmtUint 10 b).data) : x = y ∧ a = b := by
  have hab : fmtUint 10 a = fmtUint 10 b := String.ext (by
    rw [← indexDigits_append_fmtUint hx a, h, indexDigits_append_fmtUint hy b])
  rw [hab] at h
  exact ⟨List.append_cancel_right h, fmtUint_injective (by decide) (by decide) hab⟩

/-- What the keys of the adapters' arguments have in common: `--`, then a name that does not
start with `u`, and no digit before the index. -/
theorem nicParamNames_keys : ∀ name ∈ nicParamNames,
    3 ≤ ("--" ++ name).data.length ∧ ("--" ++ name).data.take 3 ≠ "--u".data ∧
      ("--" ++ name).data.getLast?.map Char.isDigit ≠ some true := by
  decide

theorem nicKey_inj {name name' : String} (hn : name ∈ nicParamNames) (hn' : name' ∈ nicParamNames)
    {a b : Nat} (h : "--" ++ name ++ fmtUint 10 a = "--" ++ name' ++ fmtUint 10 b) :
    name = name' ∧ a = b := by
  obtain ⟨h1, h2⟩ := append_fmtUint_inj (nicParamNames_keys name hn).2.2
    (nicParamNames_keys name' hn').2.2
    (by simpa only [String.data_append] using congrArg String.data h)
  exact ⟨String.ext (List.append_cancel_left (by simpa only [String.data_append] using h1)), h2⟩

/-- The keys of one adapter's arguments are distinct. -/
theorem nicParams_keys_nodup (nic : NIC) (n : Nat) :
    ((nicParams nic).map fun q => "--" ++ q.1 ++ fmtUint 10 n).Nodup := by
  have hmap : (nicParams nic).map (fun q => "--" ++ q.1 ++ fmtUint 10 n) =
      ((nicParams nic).map Prod.fst).map fun name => "--" ++ name ++ fmtUint 10 n := by
    rw [List.map_map]; rfl
  rw [hmap]
  refine ((nicParams_names_sublist nic).nodup (by decide)).map_on fun x hx y hy hxy => ?_
  exact (nicKey_inj ((nicParams_names_sublist nic).subset hx)
    ((nicParams_names_sublist nic).subset hy) hxy).1

/-- The keys of the adapters' arguments from index `k + 1` on are distinct. -/
theorem nicKeys_nodup : ∀ (nics : List NIC) (k : Nat),
    ((nics.enumFrom k).flatMap fun p =>
      (nicParams p.2).map fun q => "--" ++ q.1 ++ fmtUint 10 (p.1 + 1)).Nodup
  | [], _ => List.nodup_nil
  | nic :: nics, k => by
    have hname : ∀ q ∈ nicParams nic, q.1 ∈ nicParamNames := fun q hq =>
      (nicParams_names_sublist nic).subset (List.mem_map_of_mem _ hq)
    rw [List.enumFrom_cons, List.flatMap_cons, List.nodup_append]
    refine ⟨nicParams_keys_nodup nic (k + 1), nicKeys_nodup nics (k + 1), ?_⟩
    · intro key hkey hkey'
      obtain ⟨q, hq, rfl⟩ := List.mem_map.1 hkey
      obtain ⟨p, hp, hq'⟩ := List.mem_flatMap.1 hkey'
      obtain ⟨q', hq'', he⟩ := List.mem_map.1 hq'
      have hidx := (nicKey_inj (hname q hq) ((nicParams_names_sublist p.2).subset
        (List.mem_map_of_mem _ hq'')) he.symm).2
      have hle := (List.mem_enumFrom hp).1
      omega

/-- **Each adapter argument of `Modify` is carried** by its command when the serial ports'
arguments are `--uart…` ones: the adapters' keys are distinct, and come after the settings and
the boot devices. -/
theorem Machine.nicArgs_carried (m : Machine) (uartsCmdArgs : List CmdArg)
    (huarts : ∀ a ∈ uartsCmdArgs, ∃ rest, a.k = "--uart" ++ rest) {a : CmdArg}
    (ha : a ∈ m.nicArgs) : a ∈ (m.modifyCmdArgs uartsCmdArgs []).carried := by
  have hnodup : (m.nicArgs.map CmdArg.k).Nodup := by
    simpa [Machine.nicArgs, List.map_flatMap, List.enum_eq_enumFrom, newCmdArg] using
      nicKeys_nodup m.nics 0
  obtain ⟨pre, post, hsplit⟩ := List.append_of_mem ha
  rw [hsplit, List.map_append, List.map_cons] at hnodup
  have hpost : a.k ∉ post.map CmdArg.k :=
    (List.nodup_cons.1 (hnodup.sublist (List.sublist_append_right _ _))).1
  obtain ⟨p, -, hp⟩ := List.mem_flatMap.1 ha
  obtain ⟨q, hq, rfl⟩ := List.mem_map.1 hp
  have hkey := nicParamNames_keys q.1
    ((nicParams_names_sublist p.2).subset (List.mem_map_of_mem _ hq))
  refine @CmdArgs.mem_carried _ (m.settings.map (fun p => newCmdArg p.1 p.2) ++ m.bootArgs ++ pre)
    (post ++ uartsCmdArgs) _ (by rw [Machine.modifyCmdArgs_eq, hsplit]; simp) ?_ rfl
  intro b hb
  rcases List.mem_append.1 hb with hb | hb
  · exact fun e => hpost (e ▸ List.mem_map_of_mem _ hb)
  · obtain ⟨rest, hrest⟩ := huarts b hb
    intro e
    have h3 : ("--uart" ++ rest).data.take 3 = ("--" ++ q.1 ++ fmtUint 10 (p.1 + 1)).data.take 3 :=
      congrArg (fun s : String => s.data.take 3) (hrest.symm.trans e)
    rw [String.data_append, List.take_append_of_le_length (by decide), String.data_append,
      List.take_append_of_le_length hkey.1] at h3
    exact hkey.2.1 h3.symm

/-- **The adapters after `Modify`, then `Refresh`.**  Take a machine with at most four reportable
adapters, serial-port arguments that are all `--uart…` ones, and a listing that reports every
argument `Modify`'s command carries and no adapter after the machine's last.  The machine
`GetMachine` assembles from it has the machine's adapters, in order, but for the network names of
the adapters on internal networks. -/
theorem getMachineFromProps_modify_nics (m : Machine) (uartsCmdArgs : List CmdArg)
    (vmPropMap : PropMap) (m' : Machine) (hlen : m.nics.length ≤ 4)
    (hnics : ∀ nic ∈ m.nics, nic.Reportable)
    (huarts : ∀ a ∈ uartsCmdArgs, ∃ rest, a.k = "--uart" ++ rest)
    (hreport : ReportsCmdArgs (m.modifyCmdArgs uartsCmdArgs []).carried vmPropMap)
    (hend : vmPropMap ("nic" ++ fmtUint 10 (m.nics.length + 1)) = none)
    (hget : getMachineFromProps vmPropMap = .ok m') :
    m'.nics = m.nics.map NIC.readBack := by
  have hread := (getMachineFromProps_fields hget).2.2.2.2.2.2.1
  have hrep : ∀ p ∈ m.nics.enumFrom 1,
      ReportsCmdArgs (appendNicParams p.1 p.2 CmdArgs.empty).args vmPropMap := by
    intro p hp a ha v hv
    rw [List.enumFrom_eq_map_enum] at hp
    obtain ⟨⟨i, nic⟩, hi, rfl⟩ := List.mem_map.1 hp
    refine hreport a (m.nicArgs_carried uartsCmdArgs huarts ?_) v hv
    rw [appendNicParams_eq] at ha
    exact List.mem_flatMap.2 ⟨(i, nic), hi, by simpa [CmdArgs.empty] using ha⟩
  have hloop := nicLoop_reported vmPropMap m.nics 1 4 [] hlen hnics hrep
    fun _ => by rwa [Nat.add_comm]
  rw [← getNICs, hread, List.nil_append] at hloop
  exact Except.ok.inj hloop

/-- A machine with the one adapter `bridgedNIC`. -/
def bridgedMachine : Machine :=
  ⟨"bridged", "", ⟨""⟩, 1, 512, 16, "", "", ⟨0⟩, [], [bridgedNIC], newUARTsAllOff, []⟩

/-- The listing of `bridgedMachine` after `Modify`: every argument its command carries. -/
def bridgedMachineListing : PropMap := reportMap (bridgedMachine.modifyCmdArgs [] []).carried

/-- What `GetMachine` makes of `bridgedMachineListing`. -/
def bridgedMachineRefreshed : Machine :=
  ⟨"", "", ⟨""⟩, 1, 512, 16, "", "", ⟨0⟩, [], [bridgedNIC], newUARTsAllOff, []⟩

theorem getMachineFromProps_modify_nics_bridged :
    bridgedMachine.nics.length ≤ 4 ∧ (∀ nic ∈ bridgedMachine.nics, nic.Reportable) ∧
    (∀ a ∈ ([] : List CmdArg), ∃ rest, a.k = "--uart" ++ rest) ∧
    ReportsCmdArgs (bridgedMachine.modifyCmdArgs [] []).carried bridgedMachineListing ∧
    bridgedMachineListing ("nic" ++ fmtUint 10 (bridgedMachine.nics.length + 1)) = none ∧
    getMachineFromProps bridgedMachineListing = .ok bridgedMachineRefreshed ∧
    bridgedMachineRefreshed.nics = bridgedMachine.nics.map NIC.readBack := by
  have hnic : ∀ nic ∈ bridgedMachine.nics, nic.Reportable := by
    intro nic hn
    rw [List.mem_singleton.1 (show nic ∈ [bridgedNIC] from hn)]
    exact ⟨by decide, by decide, by decide, fun _ h => absurd rfl h, by decide⟩
  have hrep : ReportsCmdArgs (bridgedMachine.modifyCmdArgs [] []).carried bridgedMachineListing :=
    bridgedMachine.reportMap_reports [] fun _ h => absurd h (List.not_mem_nil _)
  have hget : getMachineFromProps bridgedMachineListing = .ok bridgedMachineRefreshed := rfl
  exact ⟨by decide, hnic, by simp, hrep, by decide, hget,
    getMachineFromProps_modify_nics bridgedMachine [] bridgedMachineListing bridgedMachineRefreshed
      (by decide) hnic (by simp) hrep (by decide) hget⟩

end Virtualbox
