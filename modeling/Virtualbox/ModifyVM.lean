/-
**The `modifyvm` command lines of `Modify` and `SetNIC`.**

`Modify` and `SetNIC` lay their arguments down with `CmdArgs`, whose `Args` keeps one argument per
key: a key written twice would be emitted once, at its first place, with its last value.  Neither
function writes a key twice.  The settings' keys are distinct and end with no digit; the boot
devices' keys are `--boot<i>` for distinct `i`; the adapters' keys are `--<name><n>`, and a name
followed by an index decomposes uniquely; and the serial ports' keys start with `--uart`, which no
other key does.  So the command line holds every argument, once, in the order it was appended.

Main definitions:

* `Virtualbox.Machine.setNIC` — `SetNIC`.

Main results:

* `Virtualbox.Machine.modifyCmdArgs_keys_nodup` — the keys `Modify` writes are distinct;
* `Virtualbox.Machine.modify_args` — **`Modify`'s command line holds every argument, in order**;
* `Virtualbox.Machine.setNIC_args` — **and so does `SetNIC`'s**.
-/

import Virtualbox.Machine

set_option relaxedAutoImplicit false
set_option autoImplicit false

namespace Virtualbox

/-! ### The kinds of keys -/

theorem take3_append {x : String} (hx : 3 ≤ x.data.length) (y : String) :
    (x ++ y).data.take 3 = x.data.take 3 := by
  rw [String.data_append, List.take_append_of_le_length hx]

/-- A key that does not start with `--u` is no serial port's key. -/
theorem ne_uart_of_take {k : String} (hk : k.data.take 3 ≠ "--u".data) (rest : String) :
    k ≠ "--uart" ++ rest := by
  rintro rfl
  exact hk ((take3_append (by decide) rest).trans (by decide))

theorem Machine.bootArgs_keys (m : Machine) :
    m.bootArgs.map CmdArg.k =
      (List.range (m.bootOrder.take 4).length).map fun i => "--boot" ++ fmtUint 10 (i + 1) := by
  rw [Machine.bootArgs, List.map_map, ← List.enum_map_fst, List.map_map]
  rfl

theorem bootKey_inj {i j : Nat} (h : "--boot" ++ fmtUint 10 i = "--boot" ++ fmtUint 10 j) :
    i = j := by
  have hdata : "--boot".data ++ (fmtUint 10 i).data = "--boot".data ++ (fmtUint 10 j).data := by
    simpa only [String.data_append] using congrArg String.data h
  exact fmtUint_injective (by decide) (by decide) (String.ext (List.append_cancel_left hdata))

/-- No boot device's key is an adapter's: `boot` is no adapter argument's name. -/
theorem bootKey_ne_nicKey {name : String} (hn : name ∈ nicParamNames) (i j : Nat) :
    "--boot" ++ fmtUint 10 i ≠ "--" ++ name ++ fmtUint 10 j := by
  intro h
  have hpre := (@append_fmtUint_inj "--boot".data ("--" ++ name).data (by decide)
    (nicParamNames_keys name hn).2.2 i j
    (by simpa only [String.data_append] using congrArg String.data h)).1
  have hname : name = "boot" := by
    have hdata : "--".data ++ name.data = "--".data ++ "boot".data := by
      rw [← String.data_append, ← hpre]
      decide
    exact String.ext (List.append_cancel_left hdata)
  exact absurd (hname ▸ hn) (by decide)

/-! ### `Modify` -/

/-- **The keys `Modify` writes are distinct**, when the serial ports' keys are distinct `--uart…`
keys. -/
theorem Machine.modifyCmdArgs_keys_nodup (m : Machine) (uartsCmdArgs : List CmdArg)
    (huarts : ∀ a ∈ uartsCmdArgs, ∃ rest, a.k = "--uart" ++ rest)
    (hnodup : (uartsCmdArgs.map CmdArg.k).Nodup) :
    ((m.settings.map (fun p => newCmdArg p.1 p.2) ++ m.bootArgs ++ m.nicArgs ++
      uartsCmdArgs).map CmdArg.k).Nodup := by
  have hS : (m.settings.map fun p => newCmdArg p.1 p.2).map CmdArg.k = m.settings.map Prod.fst := by
    simp [newCmdArg, Function.comp_def]
  have hN : m.nicArgs.map CmdArg.k = m.nics.enum.flatMap fun p =>
      (nicParams p.2).map fun q => "--" ++ q.1 ++ fmtUint 10 (p.1 + 1) := by
    simp [Machine.nicArgs, List.map_flatMap, newCmdArg, Function.comp_def]
  have hname : ∀ nic, ∀ q ∈ nicParams nic, q.1 ∈ nicParamNames := fun nic q hq =>
    (nicParams_names_sublist nic).subset (List.mem_map_of_mem _ hq)
  have hSn : (m.settings.map Prod.fst).Nodup := by rw [Machine.settings_keys]; decide
  have hBn : ((List.range (m.bootOrder.take 4).length).map fun i =>
      "--boot" ++ fmtUint 10 (i + 1)).Nodup :=
    (List.nodup_range _).map_on fun i _ j _ h => by simpa using bootKey_inj h
  rw [List.map_append, List.map_append, List.map_append, hS, Machine.bootArgs_keys, hN]
  refine List.nodup_append.2 ⟨List.nodup_append.2 ⟨List.nodup_append.2 ⟨hSn, hBn, ?_⟩,
    by simpa [List.enum_eq_enumFrom] using nicKeys_nodup m.nics 0, ?_⟩, hnodup, ?_⟩
  · -- settings and boot devices: only the latter end with a digit
    intro k hkS hkB
    obtain ⟨i, -, rfl⟩ := List.mem_map.1 hkB
    exact append_fmtUint_ne (m.settings_keys_shape _ hkS).1 _ _ rfl
  · -- settings or boot devices, and adapters
    intro k hk hkN
    obtain ⟨p, -, hp⟩ := List.mem_flatMap.1 hkN
    obtain ⟨q, hq, rfl⟩ := List.mem_map.1 hp
    rcases List.mem_append.1 hk with hkS | hkB
    · exact append_fmtUint_ne (m.settings_keys_shape _ hkS).1 _ _ rfl
    · obtain ⟨i, -, hi⟩ := List.mem_map.1 hkB
      exact bootKey_ne_nicKey (hname p.2 q hq) _ _ hi
  · -- everything else, and the serial ports: only the latter start with `--u`
    intro k hk hkU
    obtain ⟨a, ha, rfl⟩ := List.mem_map.1 hkU
    obtain ⟨rest, hrest⟩ := huarts a ha
    refine ne_uart_of_take ?_ rest hrest
    rcases List.mem_append.1 hk with hk | hkN
    · rcases List.mem_append.1 hk with hkS | hkB
      · exact (m.settings_keys_shape _ hkS).2
      · obtain ⟨i, -, hi⟩ := List.mem_map.1 hkB
        rw [← hi, take3_append (by decide)]
        decide
    · obtain ⟨p, -, hp⟩ := List.mem_flatMap.1 hkN
      obtain ⟨q, hq, hk⟩ := List.mem_map.1 hp
      have hkey := nicParamNames_keys q.1 (hname p.2 q hq)
      rw [← hk, take3_append (by simpa using hkey.1)]
      exact hkey.2.1

/-- **`Modify`'s command line holds every argument, in order**: each setting's key and value, then
`--boot<i> <device>` for the first four boot devices, then `--<param><i> <value>` for each
parameter of adapter `i`, then the serial ports' arguments as the reference gives them, none
dropped and none moved, when the serial ports' arguments have distinct `--uart…` keys and no
override is given. -/
theorem Machine.modify_args (m : Machine) (modifyVMCmdArgs : UARTs → Except Failure (List CmdArg))
    (uartsCmdArgs : List CmdArg) (hok : modifyVMCmdArgs m.uarts = .ok uartsCmdArgs)
    (huarts : ∀ a ∈ uartsCmdArgs, ∃ rest, a.k = "--uart" ++ rest)
    (hnodup : (uartsCmdArgs.map CmdArg.k).Nodup) :
    m.modify modifyVMCmdArgs [] = .ok (["modifyvm", m.name] ++
      m.settings.flatMap (fun p => [p.1, p.2]) ++
      (m.bootOrder.take 4).enum.flatMap (fun p => ["--boot" ++ fmtUint 10 (p.1 + 1), p.2]) ++
      m.nics.enum.flatMap (fun p =>
        (nicParams p.2).flatMap fun q => ["--" ++ q.1 ++ fmtUint 10 (p.1 + 1), q.2]) ++
      argsSpec uartsCmdArgs) := by
  simp only [Machine.modify, hok, errorsWrap_ok, bind, Except.bind, pure, Except.pure]
  rw [CmdArgs.args_eq_argsSpec, Machine.modifyCmdArgs_eq, List.append_nil,
    argsSpec_of_nodup (m.modifyCmdArgs_keys_nodup uartsCmdArgs huarts hnodup),
    argsSpec_of_nodup hnodup]
  simp only [List.flatMap_append, List.flatMap_map, Machine.bootArgs, Machine.nicArgs,
    List.flatMap_assoc, List.append_assoc]
  rfl

theorem Machine.modify_args_ubuntu :
    (fun _ : UARTs => (Except.ok [] : Except Failure (List CmdArg))) ubuntuMachine.uarts =
      .ok [] ∧
    (∀ a ∈ ([] : List CmdArg), ∃ rest, a.k = "--uart" ++ rest) ∧
    (([] : List CmdArg).map CmdArg.k).Nodup ∧
    ubuntuMachine.modify (fun _ => .ok []) [] = .ok (["modifyvm", ubuntuMachine.name] ++
      ubuntuMachine.settings.flatMap (fun p => [p.1, p.2]) ++
      (ubuntuMachine.bootOrder.take 4).enum.flatMap
        (fun p => ["--boot" ++ fmtUint 10 (p.1 + 1), p.2]) ++
      ubuntuMachine.nics.enum.flatMap (fun p =>
        (nicParams p.2).flatMap fun q => ["--" ++ q.1 ++ fmtUint 10 (p.1 + 1), q.2]) ++
      argsSpec []) :=
  ⟨rfl, by simp, List.nodup_nil,
    Machine.modify_args ubuntuMachine (fun _ => .ok []) [] rfl (by simp) List.nodup_nil⟩

/-! ### `SetNIC` -/

/-- `SetNIC`: the command line that sets the adapter of rank `rank` (a natural number here; Go's
`int` may be negative). -/
def Machine.setNIC (m : Machine) (rank : Nat) (nic : NIC) : List String :=
  ["modifyvm", m.name] ++ (appendNicParams rank nic CmdArgs.empty).Args

/-- **`SetNIC`'s command line holds every argument `appendNicParams` appends, in order.** -/
theorem Machine.setNIC_args (m : Machine) (rank : Nat) (nic : NIC) :
    m.setNIC rank nic = ["modifyvm", m.name] ++
      (nicParams nic).flatMap fun p => ["--" ++ p.1 ++ fmtUint 10 rank, p.2] := by
  have hkeys : (((nicParams nic).map fun p =>
      newCmdArg ("--" ++ p.1 ++ fmtUint 10 rank) p.2).map CmdArg.k).Nodup := by
    rw [List.map_map]
    exact nicParams_keys_nodup nic rank
  rw [Machine.setNIC, CmdArgs.args_eq_argsSpec, appendNicParams_eq]
  simp only [CmdArgs.empty, List.nil_append, List.append_nil]
  rw [argsSpec_of_nodup hkeys, List.flatMap_map]
  rfl

end Virtualbox
