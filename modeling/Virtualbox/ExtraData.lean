/-
**Extra data: `SetExtraData`, `GetExtraData` and `DeleteExtraData`.**

The three calls keep custom strings on a VM through `VBoxManage setextradata` and
`getextradata`.  `GetExtraData` reads the value back from what `getextradata` prints: it trims the
output with `strings.TrimSpace`, takes `No value set` for a missing key (the command exits with
status 0 then), and removes the `Value: ` prefix.

Against the extra data VirtualBox keeps (`Virtualbox/VBoxManage.lean`) the three calls behave as
a map, except where that reading loses information:

* `GetExtraData` after `SetExtraData(key, v)` returns `v` without its trailing white space;
* a value of white space only comes back as the text `Value:`: `TrimSpace` takes the blank after
  the colon with it, and `TrimPrefix` then finds no `Value: ` to remove;
* an empty value removes the key, as `DeleteExtraData` does, and reads back as `nil`;
* the key `enumerate` is never read back: `getextradata` lists every entry for it instead, and
  `GetExtraData` returns that list, never `nil`, whatever the VM holds.

Main definitions: `Virtualbox.Machine.setExtraData`, `Virtualbox.Machine.getExtraData`,
`Virtualbox.Machine.deleteExtraData`.

Main results:

* `Virtualbox.Machine.getExtraData_names` — what `GetExtraData` returns for every state of the
  extra data;
* `Virtualbox.Machine.extraData_roundTrip` — **setting or deleting a key changes what that key,
  and only that key, reads back**, with the value read back as above.
-/

import Virtualbox.VBoxManage

set_option relaxedAutoImplicit false
set_option autoImplicit false

namespace Virtualbox

section Operations

variable {σ : Type} (vb : Control σ)

/-- `SetExtraData`. -/
def Machine.setExtraData (m : Machine) (key val : String) (w : σ) : σ × Option Failure :=
  vb.run w ["setextradata", m.name, key, val]

/-- `GetExtraData`: the value `getextradata` prints, or `nil` when it prints `No value set`. -/
def Machine.getExtraData (m : Machine) (key : String) (w : σ) : Except Failure (Option String) :=
  match vb.runOut w ["getextradata", m.name, key] with
  | .error err => .error err
  | .ok value =>
    let value := trimSpace value
    if hasPrefix value "No value set" then .ok none
    else .ok (some (trimPrefix value "Value: "))

/-- `DeleteExtraData`. -/
def Machine.deleteExtraData (m : Machine) (key : String) (w : σ) : σ × Option Failure :=
  vb.run w ["setextradata", m.name, key]

end Operations

/-! ### Reading `getextradata` back -/

/-- A text that starts with another letter than `N` is not read as `No value set`. -/
theorem hasPrefix_noValue_cons {c : Char} (hc : c ≠ 'N') (l : List Char) :
    hasPrefix ⟨c :: l⟩ "No value set" = false := by
  simp [hasPrefix, show "No value set".data = 'N' :: "o value set".data from rfl, List.isPrefixOf,
    Ne.symm hc]

/-- `TrimSpace` keeps the first character of a text that does not start with white space. -/
theorem trimSpace_cons {c : Char} (hc : unicodeIsSpace c = false) (l : List Char) :
    ∃ r, trimSpace ⟨c :: l⟩ = ⟨c :: r⟩ := by
  rw [trimSpace_of_head (by simpa using hc), show c :: l = [c] ++ l from rfl, rdropWhile_append]
  split_ifs
  · exact ⟨[], by simp [List.rdropWhile_singleton, hc]⟩
  · exact ⟨_, rfl⟩

/-- A `Value: <v>` line is never read as `No value set`. -/
theorem value_line_not_noValue (v : String) :
    hasPrefix (trimSpace ("Value: " ++ v ++ "\n")) "No value set" = false := by
  rw [trimSpace_value_line]
  split_ifs
  · decide
  · exact hasPrefix_noValue_cons (c := 'V') (by decide) _

/-- The value `GetExtraData` reads from a `Value: <v>` line. -/
theorem trimPrefix_value_line (v : String) :
    trimPrefix (trimSpace ("Value: " ++ v ++ "\n")) "Value: " =
      if v.data.rdropWhile unicodeIsSpace = [] then "Value:"
      else ⟨v.data.rdropWhile unicodeIsSpace⟩ := by
  rw [trimSpace_value_line]
  split_ifs
  · decide
  · exact trimPrefix_append _ _

/-- The listing `getextradata enumerate` prints is never read as `No value set`: it is empty, or
it starts with `Key: `. -/
theorem enumerate_not_noValue (d : List (String × String)) :
    hasPrefix (trimSpace (String.join (d.map fun e => "Key: " ++ e.1 ++ ", Value: " ++ e.2 ++ "\n")))
      "No value set" = false := by
  cases d with
  | nil => decide
  | cons e d =>
    obtain ⟨l, hl⟩ : ∃ l, String.join ((e :: d).map fun e =>
        "Key: " ++ e.1 ++ ", Value: " ++ e.2 ++ "\n") = ⟨'K' :: l⟩ := by
      rw [String.join_eq]
      exact ⟨_, rfl⟩
    obtain ⟨r, hr⟩ := trimSpace_cons (c := 'K') (by decide) l
    rw [hl, hr]
    exact hasPrefix_noValue_cons (by decide) r

section Names

variable {w : VBoxVM} {m : Machine}

/-- `GetExtraData` of a VM the machine value names: the value of the key, without its trailing
white space (or `Value:` for a value of white space only), and `nil` for a key the VM does not
hold. -/
theorem Machine.getExtraData_names (hn : w.Names m) {key : String} (hkey : key ≠ "enumerate") :
    m.getExtraData vbox key w =
      .ok (let v := (w.extraData.lookup key).getD ""
        if v = "" then none
        else some (if v.data.rdropWhile unicodeIsSpace = [] then "Value:"
          else ⟨v.data.rdropWhile unicodeIsSpace⟩)) := by
  simp only [Machine.getExtraData, vbox_runOut_getextradata hn, VBoxVM.getExtraData, hkey,
    if_false]
  by_cases hv : (w.extraData.lookup key).getD "" = ""
  · have hno : hasPrefix (trimSpace "No value set!\n") "No value set" = true := by decide
    simp only [hv, if_true, hno]
  · simp only [hv, if_false, value_line_not_noValue, trimPrefix_value_line, Bool.false_eq_true]

/-- For the key `enumerate`, `GetExtraData` returns the listing `getextradata` prints, never
`nil`. -/
theorem Machine.getExtraData_enumerate (hn : w.Names m) :
    ∃ s, m.getExtraData vbox "enumerate" w = .ok (some s) := by
  simp only [Machine.getExtraData, vbox_runOut_getextradata hn, VBoxVM.getExtraData, if_true,
    enumerate_not_noValue, Bool.false_eq_true, if_false]
  exact ⟨_, rfl⟩

end Names

/-! ### The round trip -/

/-- **Setting or deleting a key changes what that key, and only that key, reads back.**  On a
registered VM the machine value names, `SetExtraData` and `DeleteExtraData` succeed.  Afterwards
`GetExtraData` of any other key returns what it returned before, and of the key itself: `nil`
after a delete or an empty value; otherwise the value without its trailing white space, or the
text `Value:` for a value of white space only.  The key `enumerate` is the exception: there
`GetExtraData` returns the listing of all the extra data, never `nil`. -/
theorem Machine.extraData_roundTrip {w : VBoxVM} {m : Machine} (hn : w.Names m) (key v : String)
    {key' : String} (hkey : key' ≠ "enumerate") :
    m.setExtraData vbox key v w = (w.setExtraData key v, none) ∧
    m.getExtraData vbox key' (w.setExtraData key v) =
      (if key' = key then
        .ok (if v = "" then none
          else some (if v.data.rdropWhile unicodeIsSpace = [] then "Value:"
            else ⟨v.data.rdropWhile unicodeIsSpace⟩))
      else m.getExtraData vbox key' w) ∧
    m.deleteExtraData vbox key w = (w.setExtraData key "", none) ∧
    m.getExtraData vbox key' (w.setExtraData key "") =
      (if key' = key then .ok none else m.getExtraData vbox key' w) ∧
    ∃ s, m.getExtraData vbox "enumerate" w = .ok (some s) := by
  refine ⟨(vbox_run_setextradata hn key v).1, ?_, (vbox_run_setextradata hn key v).2, ?_,
    Machine.getExtraData_enumerate hn⟩
  · rw [Machine.getExtraData_names (hn.setExtraData key v) hkey, Machine.getExtraData_names hn hkey,
      VBoxVM.lookup_setExtraData]
    by_cases hk : key' = key <;> by_cases hv : v = "" <;> simp [hk, hv]
  · rw [Machine.getExtraData_names (hn.setExtraData key "") hkey,
      Machine.getExtraData_names hn hkey, VBoxVM.lookup_setExtraData]
    by_cases hk : key' = key <;> simp [hk]

/-- A registered VM named `MyVM` whose extra data holds `owner = ci`, with no guest properties. -/
def taggedVM : VBoxVM := ⟨{ Machine.new with name := "MyVM" }, true, none, [("owner", "ci")], []⟩

/-- A value of blanks reads back as the text `Value:`. -/
example : taggedVM.machine.getExtraData vbox "owner" (taggedVM.setExtraData "owner" "  ") =
    .ok (some "Value:") := rfl

theorem Machine.extraData_roundTrip_owner :
    taggedVM.Names taggedVM.machine ∧ "owner" ≠ "enumerate" ∧
    taggedVM.machine.setExtraData vbox "owner" "ci  " taggedVM =
      (taggedVM.setExtraData "owner" "ci  ", none) ∧
    taggedVM.machine.getExtraData vbox "owner" (taggedVM.setExtraData "owner" "ci  ") =
      (if "owner" = "owner" then
        .ok (if "ci  " = "" then none
          else some (if "ci  ".data.rdropWhile unicodeIsSpace = [] then "Value:"
            else ⟨"ci  ".data.rdropWhile unicodeIsSpace⟩))
      else taggedVM.machine.getExtraData vbox "owner" taggedVM) ∧
    taggedVM.machine.deleteExtraData vbox "owner" taggedVM =
      (taggedVM.setExtraData "owner" "", none) ∧
    taggedVM.machine.getExtraData vbox "owner" (taggedVM.setExtraData "owner" "") =
      (if "owner" = "owner" then .ok none
      else taggedVM.machine.getExtraData vbox "owner" taggedVM) ∧
    ∃ s, taggedVM.machine.getExtraData vbox "enumerate" taggedVM = .ok (some s) :=
  have hn : taggedVM.Names taggedVM.machine := ⟨rfl, rfl, rfl⟩
  have hkey : "owner" ≠ "enumerate" := by decide
  ⟨hn, hkey, Machine.extraData_roundTrip hn "owner" "ci  " hkey⟩

end Virtualbox
