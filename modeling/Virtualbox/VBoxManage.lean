/-
**`VBoxManage` acting on a VM: the world the machine operations run in.**

The operations of part_002 reach VirtualBox only through `Manage().run`, `Manage().runOut` and
`GetMachine`; `Control` names these three calls, and the operations are modelled over any world
that answers them.  To say what the operations do, this module takes that world to be the VM as
VirtualBox keeps it (`VBoxVM`):

* its machine, as `showvminfo` reports it, and whether it is registered;
* its life cycle: a `controlvm` command needs a running or paused VM, `startvm` and
  `unregistervm` one that is stopped, and each command moves the VM along;
* how its guest answers the ACPI power button: by powering off at some press, or never;
* its extra data, a map from keys to non-empty values that VirtualBox keeps in key order:
  `setextradata` sets a key, or removes it when the value is missing or empty, and
  `getextradata` prints `Value: <v>` or `No value set!`, or lists every entry for the key
  `enumerate`;
* its guest properties: `guestproperty set` and `delete` set and remove one, and
  `guestproperty get` prints `Value: <v>`, or `No value set!` for one that is missing or empty.

A command VirtualBox rejects leaves the VM as it is and makes `VBoxManage` exit with status 1.

Main definitions:

* `Virtualbox.Control` — the three calls the operations make;
* `Virtualbox.VBoxVM`, `Virtualbox.VBoxVM.exec`, `Virtualbox.vbox` — the VM, and `VBoxManage`
  acting on it;
* `Virtualbox.insertEntry`, `Virtualbox.eraseEntry` — a store after a key is set or removed;
* `Virtualbox.VBoxVM.Names`, `Virtualbox.VBoxVM.Knows` — a machine value that names the VM, and one
  that also holds its current state.

Main results: one equation per command on a VM the machine value names (`vbox_run_startvm`,
`vbox_run_controlvm`, `vbox_run_unregistervm`, `vbox_run_setextradata`,
`vbox_runOut_getextradata`, ...), the map laws of the stores (`lookup_insertEntry`,
`lookup_eraseEntry`), and the `Value: <v>` line trimmed (`trimSpace_value_line`).
-/

import Virtualbox.MachineList

set_option relaxedAutoImplicit false
set_option autoImplicit false

namespace Virtualbox

/-! ### States and calls -/

namespace MachineState

/-- `Poweroff`. -/
def poweroff : MachineState := ⟨"poweroff"⟩
/-- `Running`. -/
def running : MachineState := ⟨"running"⟩
/-- `Paused`. -/
def paused : MachineState := ⟨"paused"⟩
/-- `Saved`. -/
def saved : MachineState := ⟨"saved"⟩
/-- `Aborted`. -/
def aborted : MachineState := ⟨"aborted"⟩

/-- The five states of part_002. -/
def constants : List MachineState := [poweroff, running, paused, saved, aborted]

end MachineState

/-- What the machine operations ask of the world of type `σ` they run in: `run` is
`Manage().run(args…)`, with the world it leaves and its error; `runOut` is `Manage().runOut(args…)`,
the standard output of a command that reads the world, or its error; `getMachine` is
`GetMachine(id)`. -/
structure Control (σ : Type) where
  run : σ → List String → σ × Option Failure
  runOut : σ → List String → Except Failure String
  getMachine : σ → String → Except Failure Machine

/-! ### Key-value stores -/

/-- The entries with `key` removed. -/
def eraseEntry (key : String) (d : List (String × String)) : List (String × String) :=
  d.filter fun e => e.1 != key

/-- The entries with `key` set to `val`: the entry replaces the one of `key`, or goes before the
first key above it, so that entries kept in key order stay so. -/
def insertEntry (key val : String) : List (String × String) → List (String × String)
  | [] => [(key, val)]
  | (k, v) :: d =>
    if key = k then (key, val) :: d
    else if key < k then (key, val) :: (k, v) :: d
    else (k, v) :: insertEntry key val d

theorem lookup_cons_ite (a k b : String) (d : List (String × String)) :
    ((k, b) :: d).lookup a = if a = k then some b else d.lookup a := by
  by_cases h : a = k <;> simp [List.lookup_cons, h, beq_false_of_ne]

/-- Setting a key changes what that key, and only that key, reads. -/
theorem lookup_insertEntry (key val key' : String) (d : List (String × String)) :
    (insertEntry key val d).lookup key' = if key' = key then some val else d.lookup key' := by
  induction d with
  | nil => simp [insertEntry, lookup_cons_ite]
  | cons e d ih =>
    obtain ⟨k, v⟩ := e
    by_cases hk : key = k
    · subst hk
      by_cases h : key' = key <;> simp [insertEntry, lookup_cons_ite, h]
    · by_cases hlt : key < k
      · simp [insertEntry, lookup_cons_ite, hk, hlt]
      · by_cases h : key' = k
        · subst h
          simp [insertEntry, lookup_cons_ite, hk, hlt, Ne.symm hk]
        · simp [insertEntry, lookup_cons_ite, hk, hlt, h, ih]

/-- Removing a key empties it and leaves every other key as it was. -/
theorem lookup_eraseEntry (key key' : String) (d : List (String × String)) :
    (eraseEntry key d).lookup key' = if key' = key then none else d.lookup key' := by
  induction d with
  | nil => simp [eraseEntry]
  | cons e d ih =>
    obtain ⟨k, v⟩ := e
    rw [eraseEntry] at ih ⊢
    by_cases hk : k = key
    · subst hk
      by_cases h : key' = k
      · subst h
        simpa [List.filter_cons] using ih
      · simp [List.filter_cons, lookup_cons_ite, h, ih]
    · by_cases h : key' = k
      · subst h
        simp [List.filter_cons, lookup_cons_ite, hk]
      · simp [List.filter_cons, lookup_cons_ite, hk, h, ih]

/-- The trimmed `Value: <v>` line: `v` loses its trailing white space, and the blank after the
colon goes with it when nothing of `v` is left. -/
theorem trimSpace_value_line (v : String) :
    trimSpace ("Value: " ++ v ++ "\n") =
      if v.data.rdropWhile unicodeIsSpace = [] then "Value:"
      else ⟨"Value: ".data ++ v.data.rdropWhile unicodeIsSpace⟩ := by
  have hhead : ∀ c ∈ ("Value: ".data ++ v.data ++ ['\n']).head?, unicodeIsSpace c = false := by
    simp +decide [show "Value: ".data = 'V' :: "alue: ".data from rfl]
  rw [show "Value: " ++ v ++ "\n" = ⟨("Value: ".data ++ v.data) ++ ['\n']⟩ from rfl,
    trimSpace_of_head hhead, List.rdropWhile_concat_pos _ _ _ (by decide), rdropWhile_append]
  split_ifs <;> rfl

/-! ### The VM as VirtualBox keeps it -/

/-- The error `exec.Cmd.Run` returns when `VBoxManage` exits with status 1, as it does on a
command it rejects. -/
def exitStatus1 : Failure := .error "exit status 1"

/-- A VM as VirtualBox keeps it: the machine `showvminfo` reports (its state included), whether it
is registered, how its guest answers the ACPI power button: it ignores `n` more presses and powers
off at the next one (`acpiOff = some n`), or never powers off (`none`); its extra data, in key
order; and its guest properties. -/
structure VBoxVM where
  machine : Machine
  registered : Bool
  acpiOff : Option Nat
  extraData : List (String × String)
  guestProperties : List (String × String)

namespace VBoxVM

/-- The VM in the state `s`. -/
def setState (w : VBoxVM) (s : MachineState) : VBoxVM :=
  { w with machine := { w.machine with state := s } }

/-- The VM once its guest has powered off. -/
def poweredOff (w : VBoxVM) : VBoxVM := { w.setState .poweroff with acpiOff := none }

/-- A press of the power button of the running VM. -/
def pressPowerButton (w : VBoxVM) : VBoxVM :=
  match w.acpiOff with
  | some 0 => w.poweredOff
  | some (n + 1) => { w with acpiOff := some n }
  | none => w

/-- `controlvm <vm> <cmd>`: the VM it leaves, or `none` when VirtualBox rejects the command in the
VM's state (every one of them needs a running or paused VM). -/
def controlvm (w : VBoxVM) (cmd : String) : Option VBoxVM :=
  let s := w.machine.state
  if cmd = "resume" then (if s = .paused then some (w.setState .running) else none)
  else if cmd = "pause" then (if s = .running then some (w.setState .paused) else none)
  else if cmd = "savestate" then
    (if s = .running ∨ s = .paused then some (w.setState .saved) else none)
  else if cmd = "poweroff" then
    (if s = .running ∨ s = .paused then some (w.setState .poweroff) else none)
  else if cmd = "reset" then (if s = .running then some w else none)
  else if cmd = "acpipowerbutton" then (if s = .running then some w.pressPowerButton else none)
  else none

/-- Whether the VM is stopped: `startvm` and `unregistervm` need it so. -/
def Stopped (w : VBoxVM) : Prop :=
  w.machine.state = .poweroff ∨ w.machine.state = .saved ∨ w.machine.state = .aborted

instance (w : VBoxVM) : Decidable w.Stopped := inferInstanceAs (Decidable (_ ∨ _))

/-- `setextradata <vm> <key> <val>`: VirtualBox removes the key when the value is empty. -/
def setExtraData (w : VBoxVM) (key val : String) : VBoxVM :=
  { w with extraData :=
      if val = "" then eraseEntry key w.extraData else insertEntry key val w.extraData }

/-- What `getextradata <vm> <key>` prints: for the key `enumerate`, a line per entry; else the
value of the key, or `No value set!` when it has none (VirtualBox reads a missing key as empty). -/
def getExtraData (w : VBoxVM) (key : String) : String :=
  if key = "enumerate" then
    String.join (w.extraData.map fun e => "Key: " ++ e.1 ++ ", Value: " ++ e.2 ++ "\n")
  else
    let v := (w.extraData.lookup key).getD ""
    if v = "" then "No value set!\n" else "Value: " ++ v ++ "\n"

/-- What `guestproperty get <vm> <prop>` prints: `Value: <v>`, or `No value set!` for a property
that is missing or empty. -/
def getGuestProperty (w : VBoxVM) (prop : String) : String :=
  let v := (w.guestProperties.lookup prop).getD ""
  if v = "" then "No value set!\n" else "Value: " ++ v ++ "\n"

/-- What VirtualBox does with the commands the operations run, on the VM they name: the VM it
leaves, or `none` when it rejects the command.  `setextradata` without a value removes the key. -/
def exec (w : VBoxVM) : List String → Option VBoxVM
  | ["startvm", n, "--type", "headless"] =>
    if w.registered ∧ n = w.machine.name ∧ w.Stopped then some (w.setState .running) else none
  | ["controlvm", n, cmd] => if w.registered ∧ n = w.machine.name then w.controlvm cmd else none
  | ["unregistervm", n] | ["unregistervm", n, "--delete"] =>
    if w.registered ∧ n = w.machine.name ∧ w.Stopped then some { w with registered := false }
    else none
  | ["setextradata", n, key, val] =>
    if w.registered ∧ n = w.machine.name then some (w.setExtraData key val) else none
  | ["setextradata", n, key] =>
    if w.registered ∧ n = w.machine.name then some (w.setExtraData key "") else none
  | ["guestproperty", "set", n, prop, val] =>
    if w.registered ∧ n = w.machine.name then
      some { w with guestProperties := insertEntry prop val w.guestProperties }
    else none
  | ["guestproperty", "delete", n, prop] =>
    if w.registered ∧ n = w.machine.name then
      some { w with guestProperties := eraseEntry prop w.guestProperties }
    else none
  | _ => none

end VBoxVM

/-- `VBoxManage` acting on the VM: a command VirtualBox rejects leaves the VM as it is and exits
with status 1; `getextradata` and `guestproperty get` print to the standard output; `showvminfo`
reports the machine of a registered VM by its name or its UUID. -/
def vbox : Control VBoxVM where
  run w args :=
    match w.exec args with
    | some w' => (w', none)
    | none => (w, some exitStatus1)
  runOut w
    | ["getextradata", n, key] =>
      if w.registered ∧ n = w.machine.name then .ok (w.getExtraData key) else .error exitStatus1
    | ["guestproperty", "get", n, prop] =>
      if w.registered ∧ n = w.machine.name then .ok (w.getGuestProperty prop) else .error exitStatus1
    | _ => .error exitStatus1
  getMachine w id :=
    if w.registered ∧ (id = w.machine.name ∨ id = w.machine.uuid) then .ok w.machine
    else .error errMachineNotExist

/-- The machine value `m` names the registered VM `w`, by its name and its UUID. -/
structure VBoxVM.Names (w : VBoxVM) (m : Machine) : Prop where
  registered : w.registered = true
  name : m.name = w.machine.name
  uuid : m.uuid = w.machine.uuid

/-- The machine value `m` names the registered VM `w` and holds its current state. -/
structure VBoxVM.Knows (w : VBoxVM) (m : Machine) extends w.Names m : Prop where
  state : m.state = w.machine.state

@[simp] theorem VBoxVM.setState_machine (w : VBoxVM) (s : MachineState) :
    (w.setState s).machine = { w.machine with state := s } := rfl

theorem VBoxVM.setState_of_eq {w : VBoxVM} {s : MachineState} (h : w.machine.state = s) :
    w.setState s = w := h ▸ rfl

theorem MachineState.mem_constants {s : MachineState} :
    s ∈ MachineState.constants ↔
      s = .poweroff ∨ s = .running ∨ s = .paused ∨ s = .saved ∨ s = .aborted := by
  simp [MachineState.constants]

theorem VBoxVM.knows_machine {w : VBoxVM} (h : w.registered = true) : w.Knows w.machine :=
  ⟨⟨h, rfl, rfl⟩, rfl⟩

theorem VBoxVM.Names.setState {w : VBoxVM} {m : Machine} (h : w.Names m) (s : MachineState) :
    (w.setState s).Names m :=
  ⟨h.registered, h.name, h.uuid⟩

theorem VBoxVM.Names.pressPowerButton {w : VBoxVM} {m : Machine} (h : w.Names m) :
    w.pressPowerButton.Names m := by
  unfold VBoxVM.pressPowerButton
  split <;> exact ⟨h.registered, h.name, h.uuid⟩

theorem VBoxVM.Names.setExtraData {w : VBoxVM} {m : Machine} (h : w.Names m) (key val : String) :
    (w.setExtraData key val).Names m :=
  ⟨h.registered, h.name, h.uuid⟩

/-- `setextradata` changes the value of its key, and only of that key. -/
theorem VBoxVM.lookup_setExtraData (w : VBoxVM) (key val key' : String) :
    (w.setExtraData key val).extraData.lookup key' =
      if key' = key then (if val = "" then none else some val) else w.extraData.lookup key' := by
  by_cases hv : val = "" <;>
    simp [VBoxVM.setExtraData, hv, lookup_eraseEntry, lookup_insertEntry]

/-! ### Each command on a VM the machine value names -/

section Names

variable {w : VBoxVM} {m : Machine}

theorem vbox_run_startvm (hk : w.Names m) :
    vbox.run w ["startvm", m.name, "--type", "headless"] =
      if w.Stopped then (w.setState .running, none) else (w, some exitStatus1) := by
  have hexec : w.exec ["startvm", m.name, "--type", "headless"] =
      if w.registered ∧ m.name = w.machine.name ∧ w.Stopped then some (w.setState .running)
      else none := rfl
  simp only [vbox, hexec]
  by_cases hs : w.Stopped <;> simp [hk.registered, hk.name, hs]

theorem vbox_run_controlvm (hk : w.Names m) (cmd : String) :
    vbox.run w ["controlvm", m.name, cmd] =
      match w.controlvm cmd with
      | some w' => (w', none)
      | none => (w, some exitStatus1) := by
  have hexec : w.exec ["controlvm", m.name, cmd] =
      if w.registered ∧ m.name = w.machine.name then w.controlvm cmd else none := rfl
  simp only [vbox, hexec]
  simp [hk.registered, hk.name]

/-- `setextradata` with a value, and without one, which removes the key as an empty value does. -/
theorem vbox_run_setextradata (hk : w.Names m) (key val : String) :
    vbox.run w ["setextradata", m.name, key, val] = (w.setExtraData key val, none) ∧
    vbox.run w ["setextradata", m.name, key] = (w.setExtraData key "", none) := by
  have hval : w.exec ["setextradata", m.name, key, val] =
      if w.registered ∧ m.name = w.machine.name then some (w.setExtraData key val) else none := rfl
  have hnoval : w.exec ["setextradata", m.name, key] =
      if w.registered ∧ m.name = w.machine.name then some (w.setExtraData key "") else none := rfl
  simp only [vbox, hval, hnoval]
  simp [hk.registered, hk.name]

theorem vbox_runOut_getextradata (hk : w.Names m) (key : String) :
    vbox.runOut w ["getextradata", m.name, key] = .ok (w.getExtraData key) := by
  simp [vbox, hk.registered, hk.name]

/-- `guestproperty set` and `guestproperty delete` on the VM they name. -/
theorem vbox_run_guestproperty (hreg : w.registered = true) {vm : String}
    (hvm : w.machine.name = vm) (prop val : String) :
    vbox.run w ["guestproperty", "set", vm, prop, val] =
      ({ w with guestProperties := insertEntry prop val w.guestProperties }, none) ∧
    vbox.run w ["guestproperty", "delete", vm, prop] =
      ({ w with guestProperties := eraseEntry prop w.guestProperties }, none) := by
  have hset : w.exec ["guestproperty", "set", vm, prop, val] =
      if w.registered ∧ vm = w.machine.name then
        some { w with guestProperties := insertEntry prop val w.guestProperties }
      else none := rfl
  have hdelete : w.exec ["guestproperty", "delete", vm, prop] =
      if w.registered ∧ vm = w.machine.name then
        some { w with guestProperties := eraseEntry prop w.guestProperties }
      else none := rfl
  simp only [vbox, hset, hdelete]
  simp [hreg, hvm]

theorem vbox_runOut_guestproperty (hreg : w.registered = true) {vm : String}
    (hvm : w.machine.name = vm) (prop : String) :
    vbox.runOut w ["guestproperty", "get", vm, prop] = .ok (w.getGuestProperty prop) := by
  subst hvm
  simp [vbox, hreg]

end Names

end Virtualbox
