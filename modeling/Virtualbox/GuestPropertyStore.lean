/-
**Guest properties set and read back on the host: `SetGuestProperty`, `DeleteGuestProperty` and
`GetGuestProperty`.**

On the host the three calls run `VBoxManage guestproperty set <vm> <prop> <val>`, `delete` and
`get`; inside a guest they run `VBoxControl` under `sudo`, without the VM.  `GetGuestProperty`
reads `guestproperty get` back through `getRegexp`, `(?m)^Value: ([^,]*)$`
(`Virtualbox/GuestProperty.lean`).  Against the guest properties VirtualBox keeps
(`Virtualbox/VBoxManage.lean`) the calls behave as a map, except that a property that is not
there is not reported as such:

* after `DeleteGuestProperty`, or a `SetGuestProperty` with an empty value, `guestproperty get`
  prints `No value set!`, which `getRegexp` does not match: `GetGuestProperty` fails with its
  `no match` error, as for output it cannot read;
* a value of white space only fails the same way, its output being trimmed to `Value:`;
* any other value without a comma is read back without its trailing white space.

Main definitions: `Virtualbox.setGuestProperty`, `Virtualbox.deleteGuestProperty`, and
`Virtualbox.VBoxVM.manage`, `Virtualbox.hostRun` — `Manage()` on the host, acting on the VM.

Main result: `Virtualbox.guestProperty_roundTrip` — **setting or deleting a property changes what
that property, and only that property, reads back**, and a missing property reads back as an
error.
-/

import Virtualbox.GuestProperty
import Virtualbox.VBoxManage

set_option relaxedAutoImplicit false
set_option autoImplicit false

namespace Virtualbox

section Operations

variable {σ : Type} (run : σ → Bool → List String → σ × Option Failure)

/-- `SetGuestProperty`, over a world that `run` changes (its `Bool` is the `sudo` option): inside a
guest, `guestproperty set <prop> <val>` under `sudo`; otherwise
`guestproperty set <vm> <prop> <val>`. -/
def setGuestProperty (isGuest : Bool) (vm prop val : String) (w : σ) : σ × Option Failure :=
  if isGuest then run w true ["guestproperty", "set", prop, val]
  else run w false ["guestproperty", "set", vm, prop, val]

/-- `DeleteGuestProperty`: inside a guest, `guestproperty delete <prop>` under `sudo`; otherwise
`guestproperty delete <vm> <prop>`. -/
def deleteGuestProperty (isGuest : Bool) (vm prop : String) (w : σ) : σ × Option Failure :=
  if isGuest then run w true ["guestproperty", "delete", prop]
  else run w false ["guestproperty", "delete", vm, prop]

end Operations

/-- `Manage().run` on the host, acting on the VM; `sudo` is never asked for there. -/
def hostRun (w : VBoxVM) (_sudo : Bool) (args : List String) : VBoxVM × Option Failure :=
  vbox.run w args

/-- `Manage()` on the host, as `GetGuestProperty` reads it: not in a guest, and `runOutErr` gives
what `VBoxManage` prints, or its error. -/
def VBoxVM.manage (w : VBoxVM) : Manage where
  isGuest := false
  runOutErr _ args :=
    match vbox.runOut w args with
    | .ok out => ⟨out, "", none⟩
    | .error err => ⟨"", "", some err⟩

/-! ### Reading a property back -/

theorem getGuestProperty_congr {mgr mgr' : Manage} {vm prop : String}
    (h : mgr.guestPropertyGet vm prop = mgr'.guestPropertyGet vm prop) :
    getGuestProperty mgr vm prop = getGuestProperty mgr' vm prop := by
  simp only [getGuestProperty, h]

theorem VBoxVM.manage_guestPropertyGet {w : VBoxVM} (hreg : w.registered = true) {vm : String}
    (hvm : w.machine.name = vm) (prop : String) :
    w.manage.guestPropertyGet vm prop = ⟨w.getGuestProperty prop, "", none⟩ := by
  simp [Manage.guestPropertyGet, VBoxVM.manage, vbox_runOut_guestproperty hreg hvm]

/-- The `no match` error of `GetGuestProperty` for the trimmed output `out`. -/
theorem getGuestProperty_noMatch {mgr : Manage} {vm prop out : String}
    (hrun : mgr.guestPropertyGet vm prop = ⟨out, "", none⟩)
    (hmatch : getRegexp.findLineSubmatch (trimSpace out).data = none) :
    getGuestProperty mgr vm prop = .error (.error ("no match with get guestproperty output:" ++
      "\nprop: " ++ prop ++ "\nout:" ++ trimSpace out)) := by
  simp only [getGuestProperty, hrun, hmatch]

/-- What `GetGuestProperty` reads from the VM: the stored value without its trailing white space,
when that is not empty and the value has no comma; the `no match` error when the property is
missing, empty or white space only. -/
theorem getGuestProperty_manage {w : VBoxVM} (hreg : w.registered = true) {vm : String}
    (hvm : w.machine.name = vm) (prop : String)
    (hcomma : ',' ∉ ((w.guestProperties.lookup prop).getD "").data) :
    getGuestProperty w.manage vm prop =
      let v := (w.guestProperties.lookup prop).getD ""
      if v.data.rdropWhile unicodeIsSpace = [] then
        .error (.error ("no match with get guestproperty output:" ++ "\nprop: " ++ prop ++
          "\nout:" ++ if v = "" then "No value set!" else "Value:"))
      else .ok ⟨v.data.rdropWhile unicodeIsSpace⟩ := by
  have hget := VBoxVM.manage_guestPropertyGet hreg hvm prop
  simp only [VBoxVM.getGuestProperty] at hget ⊢
  generalize (w.guestProperties.lookup prop).getD "" = v at hget hcomma ⊢
  by_cases hv : v = ""
  · subst hv
    rw [getGuestProperty_noMatch hget rfl]
    rfl
  · simp only [hv, if_false] at hget ⊢
    by_cases hr : v.data.rdropWhile unicodeIsSpace = []
    · rw [getGuestProperty_noMatch hget (by rw [trimSpace_value_line, if_pos hr]; rfl),
        trimSpace_value_line, if_pos hr, if_pos hr]
    · have hr' : ',' ∉ v.data.rdropWhile unicodeIsSpace :=
        fun h => hcomma ((List.rdropWhile_prefix _ _).sublist.subset h)
      simp only [getGuestProperty, hget, trimSpace_value_line, if_neg hr,
        Regexp.findLineSubmatch_of_bt _ _ _ (getRegexp_bt hr')]
      simp

/-- `GetGuestProperty` of a property reads nothing of the VM but that property's value. -/
theorem getGuestProperty_update {w : VBoxVM} (hreg : w.registered = true) {vm : String}
    (hvm : w.machine.name = vm) {d : List (String × String)} {prop : String}
    (h : d.lookup prop = w.guestProperties.lookup prop) :
    getGuestProperty { w with guestProperties := d }.manage vm prop =
      getGuestProperty w.manage vm prop := by
  apply getGuestProperty_congr
  rw [VBoxVM.manage_guestPropertyGet (w := { w with guestProperties := d }) hreg hvm,
    VBoxVM.manage_guestPropertyGet hreg hvm]
  simp [VBoxVM.getGuestProperty, h]

/-! ### The round trip -/

/-- **Setting or deleting a property changes what that property, and only that property, reads
back.**  On the host, for a registered VM, `SetGuestProperty` and `DeleteGuestProperty` succeed;
afterwards `GetGuestProperty` of any other property returns what it returned before.  Of the
property itself it returns, for a value without a comma, the value without its trailing white
space; but for an empty value or one of white space only, and after a delete, it fails with the
`no match` error, quoting `No value set!` or `Value:`: a missing property is reported as output
it cannot read. -/
theorem guestProperty_roundTrip {w : VBoxVM} (hreg : w.registered = true) {vm : String}
    (hvm : w.machine.name = vm) (prop v : String) (hcomma : ',' ∉ v.data) (prop' : String) :
    setGuestProperty hostRun false vm prop v w =
      ({ w with guestProperties := insertEntry prop v w.guestProperties }, none) ∧
    getGuestProperty { w with guestProperties := insertEntry prop v w.guestProperties }.manage vm
        prop' =
      (if prop' = prop then
        if v.data.rdropWhile unicodeIsSpace = [] then
          .error (.error ("no match with get guestproperty output:" ++ "\nprop: " ++ prop ++
            "\nout:" ++ if v = "" then "No value set!" else "Value:"))
        else .ok ⟨v.data.rdropWhile unicodeIsSpace⟩
      else getGuestProperty w.manage vm prop') ∧
    deleteGuestProperty hostRun false vm prop w =
      ({ w with guestProperties := eraseEntry prop w.guestProperties }, none) ∧
    getGuestProperty { w with guestProperties := eraseEntry prop w.guestProperties }.manage vm
        prop' =
      if prop' = prop then
        .error (.error ("no match with get guestproperty output:" ++ "\nprop: " ++ prop ++
          "\nout:" ++ "No value set!"))
      else getGuestProperty w.manage vm prop' := by
  have hrun := vbox_run_guestproperty hreg hvm prop v
  refine ⟨hrun.1, ?_, hrun.2, ?_⟩
  · by_cases hp : prop' = prop
    · subst hp
      rw [getGuestProperty_manage
        (w := { w with guestProperties := insertEntry prop' v w.guestProperties }) hreg hvm prop'
        (by simpa [lookup_insertEntry] using hcomma)]
      simp [lookup_insertEntry]
    · rw [if_neg hp]
      exact getGuestProperty_update hreg hvm (by simp [lookup_insertEntry, hp])
  · by_cases hp : prop' = prop
    · subst hp
      rw [getGuestProperty_manage
        (w := { w with guestProperties := eraseEntry prop' w.guestProperties }) hreg hvm prop'
        (by simp [lookup_eraseEntry])]
      simp [lookup_eraseEntry]
    · rw [if_neg hp]
      exact getGuestProperty_update hreg hvm (by simp [lookup_eraseEntry, hp])

/-- A registered VM named `MyVM` with the guest property `test_name = test_val`. -/
def propVM : VBoxVM :=
  ⟨{ Machine.new with name := "MyVM" }, true, none, [], [("test_name", "test_val")]⟩

theorem guestProperty_roundTrip_testVal :
    propVM.registered = true ∧ propVM.machine.name = "MyVM" ∧ ',' ∉ "test_val ".data ∧
    setGuestProperty hostRun false "MyVM" "test_name" "test_val " propVM =
      ({ propVM with guestProperties := insertEntry "test_name" "test_val " propVM.guestProperties },
        none) ∧
    getGuestProperty { propVM with
        guestProperties := insertEntry "test_name" "test_val " propVM.guestProperties }.manage
        "MyVM" "test_name" =
      (if "test_name" = "test_name" then
        if "test_val ".data.rdropWhile unicodeIsSpace = [] then
          .error (.error ("no match with get guestproperty output:" ++ "\nprop: " ++ "test_name" ++
            "\nout:" ++ if "test_val " = "" then "No value set!" else "Value:"))
        else .ok ⟨"test_val ".data.rdropWhile unicodeIsSpace⟩
      else getGuestProperty propVM.manage "MyVM" "test_name") ∧
    deleteGuestProperty hostRun false "MyVM" "test_name" propVM =
      ({ propVM with guestProperties := eraseEntry "test_name" propVM.guestProperties }, none) ∧
    getGuestProperty { propVM with
        guestProperties := eraseEntry "test_name" propVM.guestProperties }.manage "MyVM"
        "test_name" =
      if "test_name" = "test_name" then
        .error (.error ("no match with get guestproperty output:" ++ "\nprop: " ++ "test_name" ++
          "\nout:" ++ "No value set!"))
      else getGuestProperty propVM.manage "MyVM" "test_name" :=
  have hreg : propVM.registered = true := rfl
  have hvm : propVM.machine.name = "MyVM" := rfl
  have hcomma : ',' ∉ "test_val ".data := by decide
  ⟨hreg, hvm, hcomma, guestProperty_roundTrip hreg hvm "test_name" "test_val " hcomma "test_name"⟩

end Virtualbox
