/-
**The life cycle of a machine: `Start`, `Save`, `Pause`, `Stop`, `Poweroff`, `Restart`, `Reset`,
`Delete` and `Unregister`.**

A `Machine` value caches the state `showvminfo` reported when it was read, and every operation of
part_002 picks the command it runs from that cached state alone:

    Start     paused → controlvm resume;  poweroff, saved, aborted → startvm --type headless
    Save      paused → Start, then controlvm savestate;  running → controlvm savestate
    Pause     running → controlvm pause
    Poweroff  running, paused → controlvm poweroff
    Stop      paused → Start; then, until the machine reports poweroff, controlvm acpipowerbutton
              and Refresh
    Restart   paused, saved → Start; then Stop; then Start
    Reset     paused, saved → Start; then controlvm reset

Only `Stop` reloads the machine (through `Refresh`), so `Restart` and `Reset` go on with the state
they were called with after their first `Start` has changed it.

The operations are modelled over any world that answers `Control`'s calls; what they do is then
said of `vbox`, the VM as VirtualBox keeps it (`Virtualbox/VBoxManage.lean`).

Main definitions:

* `Virtualbox.Machine.refresh`, `Virtualbox.Machine.start`, `Virtualbox.Machine.save`,
  `Virtualbox.Machine.pause`, `Virtualbox.Machine.poweroff`, `Virtualbox.Machine.stop`,
  `Virtualbox.Machine.restart`, `Virtualbox.Machine.reset`, `Virtualbox.Machine.delete`,
  `Virtualbox.Machine.unregister`.

Main result:

* `Virtualbox.Machine.stop_restart_knows` — `Stop` returns once the guest has powered off, one
  round after the presses it ignores, and busy-waits forever on a guest that never powers off;
  **`Restart` restarts a running or stopped VM, but fails on a paused or saved one and leaves it
  running**, and after a restart the machine value says `poweroff` while the VM runs.
-/

import Virtualbox.VBoxManage

set_option relaxedAutoImplicit false
set_option autoImplicit false

namespace Virtualbox

section Operations

variable {σ : Type} (vb : Control σ)

/-- `Refresh`: the machine reloaded by its name, or by its UUID when it has no name. -/
def Machine.refresh (m : Machine) (w : σ) : Except Failure Machine :=
  vb.getMachine w (if m.name = "" then m.uuid else m.name)

/-- `Start`. -/
def Machine.start (m : Machine) (w : σ) : σ × Option Failure :=
  if m.state = .paused then vb.run w ["controlvm", m.name, "resume"]
  else if m.state = .poweroff ∨ m.state = .saved ∨ m.state = .aborted then
    vb.run w ["startvm", m.name, "--type", "headless"]
  else (w, none)

/-- `Save`: a paused machine is started first. -/
def Machine.save (m : Machine) (w : σ) : σ × Option Failure :=
  if m.state = .paused then
    match m.start vb w with
    | (w, some err) => (w, some err)
    | (w, none) => vb.run w ["controlvm", m.name, "savestate"]
  else if m.state = .poweroff ∨ m.state = .aborted ∨ m.state = .saved then (w, none)
  else vb.run w ["controlvm", m.name, "savestate"]

/-- `Pause`. -/
def Machine.pause (m : Machine) (w : σ) : σ × Option Failure :=
  if m.state = .paused ∨ m.state = .poweroff ∨ m.state = .aborted ∨ m.state = .saved then (w, none)
  else vb.run w ["controlvm", m.name, "pause"]

/-- `Poweroff`. -/
def Machine.poweroff (m : Machine) (w : σ) : σ × Option Failure :=
  if m.state = .poweroff ∨ m.state = .aborted ∨ m.state = .saved then (w, none)
  else vb.run w ["controlvm", m.name, "poweroff"]

/-- The busy wait of `Stop`: while the machine does not report `poweroff`, press its power button
and reload it (`*m = *mm`).  It runs `fuel` rounds at most, and is `none` while still waiting. -/
def Machine.stopLoop : Nat → Machine → σ → Option (σ × Machine × Option Failure)
  | 0, m, w => if m.state = .poweroff then some (w, m, none) else none
  | fuel + 1, m, w =>
    if m.state = .poweroff then some (w, m, none)
    else
      match vb.run w ["controlvm", m.name, "acpipowerbutton"] with
      | (w, some err) => some (w, m, some err)
      | (w, none) =>
        match m.refresh vb w with
        | .error err => some (w, m, some err)
        | .ok mm => Machine.stopLoop fuel mm w

/-- `Stop`: nothing for a machine that is off or saved, a `Start` for a paused one, then the busy
wait; the machine it ends with is the last one `Refresh` read. -/
def Machine.stop (fuel : Nat) (m : Machine) (w : σ) : Option (σ × Machine × Option Failure) :=
  if m.state = .poweroff ∨ m.state = .aborted ∨ m.state = .saved then some (w, m, none)
  else if m.state = .paused then
    match m.start vb w with
    | (w, some err) => some (w, m, some err)
    | (w, none) => m.stopLoop vb fuel w
  else m.stopLoop vb fuel w

/-- `Restart`: a paused or saved machine is started first; then `Stop` and `Start`. -/
def Machine.restart (fuel : Nat) (m : Machine) (w : σ) : Option (σ × Machine × Option Failure) :=
  match (if m.state = .paused ∨ m.state = .saved then m.start vb w else (w, none)) with
  | (w, some err) => some (w, m, some err)
  | (w, none) =>
    match m.stop vb fuel w with
    | none => none
    | some (w, m, some err) => some (w, m, some err)
    | some (w, m, none) => let (w, err) := m.start vb w; some (w, m, err)

/-- `Reset`: a paused or saved machine is started first. -/
def Machine.reset (m : Machine) (w : σ) : σ × Option Failure :=
  if m.state = .paused ∨ m.state = .saved then
    match m.start vb w with
    | (w, some err) => (w, some err)
    | (w, none) => vb.run w ["controlvm", m.name, "reset"]
  else vb.run w ["controlvm", m.name, "reset"]

/-- `Delete`: `Poweroff`, then `unregistervm --delete`. -/
def Machine.delete (m : Machine) (w : σ) : σ × Option Failure :=
  match m.poweroff vb w with
  | (w, some err) => (w, some err)
  | (w, none) => vb.run w ["unregistervm", m.name, "--delete"]

/-- `Unregister`: `Poweroff`, then `unregistervm`. -/
def Machine.unregister (m : Machine) (w : σ) : σ × Option Failure :=
  match m.poweroff vb w with
  | (w, some err) => (w, some err)
  | (w, none) => vb.run w ["unregistervm", m.name]

end Operations

/-! ### The operations on a VM the cache knows -/

section Knows

variable {w : VBoxVM} {m : Machine}

/-- `Refresh` reads the VM back, by its name or by its UUID. -/
theorem Machine.refresh_names (hk : w.Names m) : m.refresh vbox w = .ok w.machine := by
  by_cases hn : m.name = "" <;> simp [Machine.refresh, vbox, hk.registered, ← hk.name, hk.uuid, hn]

/-- `Start` of a VM in one of the five states leaves it running. -/
theorem Machine.start_knows (hk : w.Knows m) (hs : w.machine.state ∈ MachineState.constants) :
    m.start vbox w = (w.setState .running, none) := by
  rcases MachineState.mem_constants.1 hs with h | h | h | h | h <;>
    simp +decide [Machine.start, hk.state, h, vbox_run_startvm hk.toNames,
      vbox_run_controlvm hk.toNames, VBoxVM.controlvm, VBoxVM.Stopped, VBoxVM.setState_of_eq h]

/-! ### `Stop` and `Restart` -/

theorem Machine.stopLoop_poweroff {σ : Type} (vb : Control σ) {m : Machine} {w : σ}
    (h : m.state = .poweroff) (fuel : Nat) : m.stopLoop vb fuel w = some (w, m, none) := by
  cases fuel <;> simp [Machine.stopLoop, h]

/-- One round of the busy wait on a running VM: a press of the power button, then the machine
reloaded from the VM the press leaves. -/
theorem Machine.stopLoop_succ_running (hn : w.Names m) (hm : m.state ≠ .poweroff)
    (hrun : w.machine.state = .running) (fuel : Nat) :
    m.stopLoop vbox (fuel + 1) w =
      w.pressPowerButton.machine.stopLoop vbox fuel w.pressPowerButton := by
  have hpress : vbox.run w ["controlvm", m.name, "acpipowerbutton"] = (w.pressPowerButton, none) := by
    simp [vbox_run_controlvm hn, VBoxVM.controlvm, hrun]
  simp only [Machine.stopLoop, hm, if_false, hpress, Machine.refresh_names hn.pressPowerButton]

/-- The busy wait on a running VM whose guest ignores `k` presses of the power button: it returns
after `k + 1` rounds, with the VM powered off and the machine reloaded. -/
theorem Machine.stopLoop_acpiOff :
    ∀ {fuel k : Nat} {w : VBoxVM} {m : Machine}, w.Names m → m.state ≠ .poweroff →
      w.machine.state = .running → w.acpiOff = some k →
      m.stopLoop vbox fuel w =
        if k < fuel then some (w.poweredOff, w.poweredOff.machine, none) else none
  | 0, _, _, _, _, hm, _, _ => by simp [Machine.stopLoop, hm]
  | f + 1, 0, w, _, hn, hm, hrun, hk => by
    rw [Machine.stopLoop_succ_running hn hm hrun f]
    simp [VBoxVM.pressPowerButton, hk,
      Machine.stopLoop_poweroff vbox (rfl : w.poweredOff.machine.state = .poweroff)]
  | f + 1, n + 1, w, _, hn, hm, hrun, hk => by
    have hpress : w.pressPowerButton = { w with acpiOff := some n } := by
      simp [VBoxVM.pressPowerButton, hk]
    rw [Machine.stopLoop_succ_running hn hm hrun f, hpress,
      Machine.stopLoop_acpiOff (w := { w with acpiOff := some n }) ⟨hn.registered, rfl, rfl⟩
        (by rw [hrun]; decide) hrun rfl]
    simp only [Nat.add_lt_add_iff_right]
    rfl

/-- The busy wait on a running VM whose guest never powers off never returns. -/
theorem Machine.stopLoop_acpiNever :
    ∀ {fuel : Nat} {w : VBoxVM} {m : Machine}, w.Names m → m.state ≠ .poweroff →
      w.machine.state = .running → w.acpiOff = none → m.stopLoop vbox fuel w = none
  | 0, _, _, _, hm, _, _ => by simp [Machine.stopLoop, hm]
  | f + 1, w, _, hn, hm, hrun, hk => by
    have hpress : w.pressPowerButton = w := by simp [VBoxVM.pressPowerButton, hk]
    rw [Machine.stopLoop_succ_running hn hm hrun f, hpress]
    exact Machine.stopLoop_acpiNever (VBoxVM.knows_machine hn.registered).toNames
      (by rw [hrun]; decide) hrun hk

/-- The busy wait on a VM brought to `running`, whatever its guest does. -/
theorem Machine.stopLoop_running (hn : w.Names m) (hm : m.state ≠ .poweroff) (fuel : Nat) :
    m.stopLoop vbox fuel (w.setState .running) =
      match w.acpiOff with
      | some k => if k < fuel then some (w.poweredOff, w.poweredOff.machine, none) else none
      | none => none := by
  cases ha : w.acpiOff with
  | none => exact Machine.stopLoop_acpiNever (hn.setState _) hm rfl ha
  | some k => exact Machine.stopLoop_acpiOff (hn.setState _) hm rfl ha

theorem Machine.stop_knows (hk : w.Knows m) (hs : w.machine.state ∈ MachineState.constants)
    (fuel : Nat) :
    m.stop vbox fuel w =
      if w.Stopped then some (w, m, none)
      else
        match w.acpiOff with
        | some k => if k < fuel then some (w.poweredOff, w.poweredOff.machine, none) else none
        | none => none := by
  have hloop := Machine.stopLoop_running hk.toNames
  rcases MachineState.mem_constants.1 hs with h | h | h | h | h
  · simp +decide [Machine.stop, hk.state, h, VBoxVM.Stopped]
  · have hl := hloop (by rw [hk.state, h]; decide) fuel
    rw [VBoxVM.setState_of_eq h] at hl
    simp +decide [Machine.stop, hk.state, h, VBoxVM.Stopped, hl]
  · simp +decide [Machine.stop, hk.state, h, VBoxVM.Stopped, Machine.start_knows hk hs,
      hloop (by rw [hk.state, h]; decide)]
  · simp +decide [Machine.stop, hk.state, h, VBoxVM.Stopped]
  · simp +decide [Machine.stop, hk.state, h, VBoxVM.Stopped]

theorem Machine.restart_knows (hk : w.Knows m) (hs : w.machine.state ∈ MachineState.constants)
    (fuel : Nat) :
    m.restart vbox fuel w =
      if w.machine.state = .paused ∨ w.machine.state = .saved then
        some (w.setState .running, m, some exitStatus1)
      else if w.machine.state = .running then
        match w.acpiOff with
        | some k =>
          if k < fuel then some (w.poweredOff.setState .running, w.poweredOff.machine, none)
          else none
        | none => none
      else some (w.setState .running, m, none) := by
  have hstop := Machine.stop_knows hk hs fuel
  have hstart := Machine.start_knows hk hs
  have hnames := hk.toNames.setState .running
  rcases MachineState.mem_constants.1 hs with h | h | h | h | h
  · simp +decide [Machine.restart, hk.state, h, hstop, hstart, VBoxVM.Stopped]
  · have hoff : w.poweredOff.Knows w.poweredOff.machine :=
      VBoxVM.knows_machine (w := w.poweredOff) hk.registered
    have hrestart := Machine.start_knows hoff
      (by simp [VBoxVM.poweredOff, VBoxVM.setState_machine, MachineState.constants])
    cases ha : w.acpiOff with
    | none => simp +decide [Machine.restart, hk.state, h, hstop, VBoxVM.Stopped, ha]
    | some k =>
      by_cases hf : k < fuel <;>
        simp +decide [Machine.restart, hk.state, h, hstop, VBoxVM.Stopped, ha, hf, hrestart]
  · have hagain : m.start vbox (w.setState .running) = (w.setState .running, some exitStatus1) := by
      simp +decide [Machine.start, hk.state, h, vbox_run_controlvm hnames, VBoxVM.controlvm,
        VBoxVM.setState_machine]
    simp +decide [Machine.restart, Machine.stop, hk.state, h, hstart, hagain]
  · have hagain : m.start vbox (w.setState .running) = (w.setState .running, some exitStatus1) := by
      simp +decide [Machine.start, hk.state, h, vbox_run_startvm hnames, VBoxVM.Stopped,
        VBoxVM.setState_machine]
    simp +decide [Machine.restart, Machine.stop, hk.state, h, hstart, hagain]
  · simp +decide [Machine.restart, hk.state, h, hstop, hstart, VBoxVM.Stopped]

end Knows

/-! ### The life cycle -/

/-- A paused VM named `MyVM`, with no extra data or guest properties, whose guest ignores two
presses of the power button. -/
def pausedVM : VBoxVM :=
  ⟨{ Machine.new with name := "MyVM", state := .paused }, true, some 2, [], []⟩

/-- **`Stop` and `Restart` of a VM the cache knows.**  `Stop` leaves a powered-off, saved or
aborted VM as it is.  On a running or paused one (a paused one is resumed first) it presses the
power button until the guest powers off, and returns one round after the last press the guest
ignores, with the VM powered off and the machine reloaded; with less fuel it is still waiting,
and on a guest that never powers off it waits forever.  `Restart` starts a powered-off or aborted
VM, and stops and starts a running one, leaving a machine value that says `poweroff` while the VM
runs; but on a paused or saved VM its first `Start` is followed by a second one (from `Stop`, or
its own) with the state it was called with, which VirtualBox rejects: `Restart` fails and leaves
the VM running, never stopped. -/
theorem Machine.stop_restart_knows {w : VBoxVM} {m : Machine} (hk : w.Knows m)
    (hs : w.machine.state ∈ MachineState.constants) (fuel : Nat) :
    m.stop vbox fuel w =
      (if w.Stopped then some (w, m, none)
      else
        match w.acpiOff with
        | some k => if k < fuel then some (w.poweredOff, w.poweredOff.machine, none) else none
        | none => none) ∧
    m.restart vbox fuel w =
      if w.machine.state = .paused ∨ w.machine.state = .saved then
        some (w.setState .running, m, some exitStatus1)
      else if w.machine.state = .running then
        match w.acpiOff with
        | some k =>
          if k < fuel then some (w.poweredOff.setState .running, w.poweredOff.machine, none)
          else none
        | none => none
      else some (w.setState .running, m, none) :=
  ⟨Machine.stop_knows hk hs fuel, Machine.restart_knows hk hs fuel⟩

theorem Machine.stop_restart_knows_paused :
    pausedVM.Knows pausedVM.machine ∧ pausedVM.machine.state ∈ MachineState.constants ∧
    pausedVM.machine.stop vbox 3 pausedVM =
      (if pausedVM.Stopped then some (pausedVM, pausedVM.machine, none)
      else
        match pausedVM.acpiOff with
        | some k => if k < 3 then some (pausedVM.poweredOff, pausedVM.poweredOff.machine, none)
          else none
        | none => none) ∧
    pausedVM.machine.restart vbox 3 pausedVM =
      if pausedVM.machine.state = .paused ∨ pausedVM.machine.state = .saved then
        some (pausedVM.setState .running, pausedVM.machine, some exitStatus1)
      else if pausedVM.machine.state = .running then
        match pausedVM.acpiOff with
        | some k =>
          if k < 3 then some (pausedVM.poweredOff.setState .running, pausedVM.poweredOff.machine,
            none)
          else none
        | none => none
      else some (pausedVM.setState .running, pausedVM.machine, none) :=
  have hk : pausedVM.Knows pausedVM.machine := VBoxVM.knows_machine rfl
  have hs : pausedVM.machine.state ∈ MachineState.constants := by decide
  ⟨hk, hs, Machine.stop_restart_knows hk hs 3⟩

end Virtualbox
