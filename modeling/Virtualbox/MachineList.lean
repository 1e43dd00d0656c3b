/-
**Listing the machines: `ListMachines` over `list vms`.**

`ListMachines` runs `VBoxManage list vms`, which prints a line `"name" {uuid}` per registered
machine.  It scans the output into lines, picks each line apart with `reVMNameUUID`,
`"(.+)" {([0-9a-f-]+)}`, and calls `GetMachine` on the name the line gives (group 1).
`GetMachine` runs `showvminfo`; when that command fails and its standard error says
`Could not find a registered machine named '…'`, it returns `ErrMachineNotExist`, and
`ListMachines` skips the machine: it was listed, but is gone by the time it is looked up.  Any
other error ends the listing.  `CreateMachine` calls `ListMachines` and refuses a name that one of
the machines it returns has, before it runs `createvm`.

The commands are the world the code talks to, and are parameters here: the outcome of
`list vms`, and what `showvminfo` prints and returns for each identifier.  The name group is
greedy, so it runs to the *last* `" {` that an identifier and a brace follow: a line is cut
where `VBoxManage` meant it to be, whatever quotes and braces the name holds.

Main definitions:

* `Virtualbox.reVMNameUUID`, `Virtualbox.reMachineNotFound` — the two patterns;
* `Virtualbox.getMachineById` — `GetMachine`, the command it runs given;
* `Virtualbox.listMachinesStep`, `Virtualbox.listMachines` — `ListMachines`;
* `Virtualbox.VMEntry`, `Virtualbox.vmsText` — a line of `list vms`, carrying its invariants, and
  the text of a listing;
* `Virtualbox.machinesNamed` — what looking a list of names up should give;
* `Virtualbox.createMachine` — `CreateMachine`, with the `createvm` command it runs.

Main results:

* `Virtualbox.reVMNameUUID_line` — **the name group of a line is the machine's name**;
* `Virtualbox.listMachines_vmsText` — **what `ListMachines` returns for a listing**: the machines
  its names look up, in order, skipping those reported missing.
-/

import Virtualbox.Machine

set_option relaxedAutoImplicit false
set_option autoImplicit false

namespace Virtualbox

/-! ### The patterns -/

/-- A literal text, then a pattern. -/
def Regexp.lits : List Char → Regexp → Regexp
  | [], r => r
  | c :: cs, r => .cat (.one (.lit c)) (Regexp.lits cs r)

/-- `[0-9a-f-]`: the characters of a machine's identifier. -/
def uuidClass : CharClass := .ranges [('0', '9'), ('a', 'f'), ('-', '-')]

/-- What follows the name group of `reVMNameUUID`: `" {([0-9a-f-]+)}`. -/
def vmUUIDRe : Regexp :=
  .cat (.one (.lit '"')) (.cat (.one (.lit ' ')) (.cat (.one (.lit '\x7b'))
    (.cat (.group 2 (.rep uuidClass 1)) (.one (.lit '\x7d')))))

/-- `reVMNameUUID` of `vbmgt.go`: `"(.+)" {([0-9a-f-]+)}`. -/
def reVMNameUUID : Regexp := .cat (.one (.lit '"')) (.cat (.group 1 (.rep .dot 1)) vmUUIDRe)

/-- `reMachineNotFound` of `vbmgt.go`: `Could not find a registered machine named '(.+)'`. -/
def reMachineNotFound : Regexp :=
  Regexp.lits "Could not find a registered machine named ".data
    (.cat (.one (.lit '\x27')) (.cat (.group 1 (.rep .dot 1)) (.one (.lit '\x27'))))

/-! ### `GetMachine` and `ListMachines` -/

/-- `ErrMachineNotExist` of `vbcmd.go`. -/
def errMachineNotExist : Failure := .error "machine does not exist"

/-- What a run of `VBoxManage` gives `runOutErr`: the standard output, the standard error, and the
error of the run, if it failed. -/
structure CmdOutcome where
  stdout : String
  stderr : String
  err : Option Failure

/-- `GetMachine`, given what `showvminfo <id> --machinereadable` does for each identifier.  A failed
run whose standard error says the machine is not registered is `ErrMachineNotExist` (Go compares
the error value; no other path of `GetMachine` returns an error with its text); any other failure
is wrapped with the identifier and the standard error. -/
def getMachineById (showvminfo : String → CmdOutcome) (id : String) : Except Failure Machine :=
  match (showvminfo id).err with
  | some err =>
    if (reMachineNotFound.findStringSubmatch (showvminfo id).stderr.data).isSome then
      .error errMachineNotExist
    else
      .error (err.wrap ("Error with showvminfo for id=" ++ id ++ ", \nstderr:" ++
        (showvminfo id).stderr))
  | none => getMachine (showvminfo id).stdout

/-- The body of the loop of `ListMachines`, on one line of the output of `list vms`. -/
def listMachinesStep (showvminfo : String → CmdOutcome) (ms : List Machine) (line : List Char) :
    Except Failure (List Machine) :=
  match reVMNameUUID.findStringSubmatch line with
  | none => .ok ms
  | some res =>
    match getMachineById showvminfo ⟨res 1⟩ with
    | .ok m => .ok (ms ++ [m])
    | .error err => if err = errMachineNotExist then .ok ms else .error err

/-- `ListMachines`, given the outcome of `list vms` (its output, or its error) and what
`showvminfo` does for each identifier. -/
def listMachines (listVms : Except Failure String) (showvminfo : String → CmdOutcome) :
    Except Failure (List Machine) := do
  let out ← listVms
  let (lines, tooLong) := scanLines out.data
  let ms ← lines.foldlM (listMachinesStep showvminfo) []
  if tooLong then throw (.error "bufio.Scanner: token too long")
  pure ms

/-! ### How `reVMNameUUID` cuts a line -/

/-- The text of a line of `list vms`. -/
def vmLine (name uuid : List Char) : List Char :=
  '"' :: (name ++ '"' :: ' ' :: '\x7b' :: (uuid ++ ['\x7d']))

theorem uuidClass_ne {c : Char} (h : uuidClass.test c = true) :
    c ≠ '"' ∧ c ≠ '\x7d' ∧ c ≠ '\n' := by
  refine ⟨?_, ?_, ?_⟩ <;> rintro rfl <;> exact absurd h (by decide)

/-- After the name, `" {`, an identifier and `}` match, the identifier in group 2. -/
theorem vmUUIDRe_eq (caps : Caps) (u : List Char) (hu : u ≠ [])
    (hclass : ∀ c ∈ u, uuidClass.test c = true) :
    vmUUIDRe.bt caps ('"' :: ' ' :: '\x7b' :: (u ++ ['\x7d'])) done =
      some (Function.update caps 2 (some u)) := by
  have hrun : (u ++ ['\x7d']).takeWhile uuidClass.test = u := by
    rw [List.takeWhile_append_of_pos hclass]
    simp [List.takeWhile_cons, show uuidClass.test '\x7d' = false by decide]
  simp only [vmUUIDRe, Regexp.bt_cat, Regexp.bt_one_cons, CharClass.test, beq_self_eq_true,
    if_true, Regexp.bt_group, Regexp.bt_rep, hrun]
  refine greedy_eq_of_top 1 _ u.length _ (List.length_pos.2 hu) ?_ _ le_rfl
    fun j hj hjn => by omega
  simp [done, CharClass.test]

/-- No later place of the line starts the rest of the pattern: none of them is a quote. -/
theorem vmUUIDRe_drop_none (caps : Caps) (u : List Char)
    (hclass : ∀ c ∈ u, uuidClass.test c = true) (i : Nat) (hi : 0 < i) :
    vmUUIDRe.bt caps (('"' :: ' ' :: '\x7b' :: (u ++ ['\x7d'])).drop i) done = none := by
  obtain ⟨i, rfl⟩ : ∃ i', i = i' + 1 := ⟨i - 1, by omega⟩
  rw [vmUUIDRe, Regexp.bt_cat]
  refine Regexp.bt_one_of_not fun x t hx => ?_
  have hmem : x ∈ ' ' :: '\x7b' :: (u ++ ['\x7d']) :=
    List.mem_of_mem_drop (show x ∈ List.drop i _ by rw [← List.drop_succ_cons, hx]; simp)
  simp only [List.mem_cons, List.mem_append, List.not_mem_nil, or_false] at hmem
  rcases hmem with rfl | rfl | hu | rfl
  · rfl
  · rfl
  · simpa [CharClass.test] using (uuidClass_ne (hclass x hu)).1
  · rfl

/-- **A line of `list vms` matches with the name in group 1 and the identifier in group 2**: the
name group runs to the last quote that ` {`, an identifier and `}` follow, which is the one after
the name. -/
theorem reVMNameUUID_matchAt (n u : List Char) (hn : n ≠ []) (hnl : '\n' ∉ n) (hu : u ≠ [])
    (hclass : ∀ c ∈ u, uuidClass.test c = true) :
    reVMNameUUID.matchAt (vmLine n u) =
      some (Function.update (Function.update (fun _ => none) 1 (some n)) 2 (some u)) := by
  have hrest : '\n' ∉ '"' :: ' ' :: '\x7b' :: (u ++ ['\x7d']) := by
    intro h
    simp only [List.mem_cons, List.mem_append, List.not_mem_nil, or_false] at h
    rcases h with h | h | h | h | h
    all_goals first | exact absurd h (by decide) | exact (uuidClass_ne (hclass _ h)).2.2 rfl
  simp only [Regexp.matchAt, reVMNameUUID, vmLine, Regexp.bt_cat, Regexp.bt_one_cons,
    CharClass.test, beq_self_eq_true, if_true, Regexp.bt_group, Regexp.bt_rep]
  rw [takeWhile_dot (by simpa [hnl] using hrest)]
  refine greedy_drop_append 1 (fun ys => vmUUIDRe.bt (Function.update (fun _ => none) 1
    (some ((n ++ '"' :: ' ' :: '\x7b' :: (u ++ ['\x7d'])).take
      ((n ++ '"' :: ' ' :: '\x7b' :: (u ++ ['\x7d'])).length - ys.length)))) ys done)
    n _ _ (List.length_pos.2 hn) ?_ fun i hi _ => vmUUIDRe_drop_none _ u hclass i hi
  simpa only [take_length_sub_cons] using vmUUIDRe_eq _ u hu hclass

/-- A line of `list vms`: `"name" {uuid}`, with a non-empty name holding no line break, a
non-empty identifier of hexadecimal digits and dashes, and shorter than 64 KiB. -/
structure VMEntry where
  name : String
  uuid : String
  name_ne : name.data ≠ []
  name_nl : '\n' ∉ name.data
  uuid_ne : uuid.data ≠ []
  uuid_class : ∀ c ∈ uuid.data, uuidClass.test c = true
  short : byteLength (vmLine name.data uuid.data) < maxScanTokenSize

theorem vmLine_getLast (n u : List Char) : (vmLine n u).getLast? = some '\x7d' := by
  rw [show vmLine n u = ('"' :: (n ++ '"' :: ' ' :: '\x7b' :: u)) ++ ['\x7d'] by simp [vmLine],
    List.getLast?_concat]

/-- The text of an entry's line. -/
def VMEntry.line (e : VMEntry) : List Char := vmLine e.name.data e.uuid.data

/-- **The name group of a line is the machine's name**, and group 2 its identifier. -/
theorem reVMNameUUID_line (e : VMEntry) :
    reVMNameUUID.findStringSubmatch e.line = some fun i =>
      ((Function.update (Function.update (fun _ => none) 1 (some e.name.data)) 2
        (some e.uuid.data)) i).getD [] :=
  Regexp.findStringSubmatch_of_matchAt _ _ _
    (reVMNameUUID_matchAt _ _ e.name_ne e.name_nl e.uuid_ne e.uuid_class)

/-- A name that holds `" {0}` itself is read whole. -/
example : (reVMNameUUID.findStringSubmatch (vmLine "a\" \x7b0\x7d".data "0f".data)).map (· 1) =
    some "a\" \x7b0\x7d".data := by
  decide

/-- The text of a listing: each entry's line followed by a newline. -/
def vmsText (es : List VMEntry) : String := ⟨((es.map VMEntry.line).map (· ++ ['\n'])).flatten⟩

/-- The scanner gives back the lines of a listing, and no error. -/
theorem scanLines_vmsText (es : List VMEntry) :
    scanLines (vmsText es).data = (es.map VMEntry.line, false) := by
  have hshort : ∀ line ∈ es.map VMEntry.line, ShortLine line ∧ dropCR line = line := by
    intro line hline
    obtain ⟨e, -, rfl⟩ := List.mem_map.1 hline
    have hrest : '\n' ∉ e.uuid.data := fun h => (uuidClass_ne (e.uuid_class _ h)).2.2 rfl
    refine ⟨⟨by simp [VMEntry.line, vmLine, e.name_nl, hrest], e.short⟩, dropCR_of_getLast _ ?_⟩
    rw [VMEntry.line, vmLine_getLast]
    decide
  have h := scanLines_lines (es.map VMEntry.line) [] (fun l hl => (hshort l hl).1)
    ⟨by simp, by decide⟩
  rw [List.append_nil, if_pos rfl, List.append_nil, List.map_congr_left fun l hl => (hshort l hl).2,
    List.map_id'] at h
  exact h

/-! ### Literal prefixes -/

@[simp] theorem Regexp.bt_lits (cs : List Char) (r : Regexp) (caps : Caps) (xs : List Char)
    (k : Caps → List Char → Option Caps) :
    (Regexp.lits cs r).bt caps (cs ++ xs) k = r.bt caps xs k := by
  induction cs with
  | nil => rfl
  | cons c cs ih => simp [Regexp.lits, CharClass.test, ih]

/-! ### What `ListMachines` returns -/

/-- What looking the names up in order should give: the machines found, skipping the names whose
machine does not exist, or the first other error. -/
def machinesNamed (get : String → Except Failure Machine) :
    List String → Except Failure (List Machine)
  | [] => .ok []
  | n :: ns =>
    match get n with
    | .ok m => (machinesNamed get ns).map (m :: ·)
    | .error err => if err = errMachineNotExist then machinesNamed get ns else .error err

/-- The loop on an entry's line looks its name up. -/
theorem listMachinesStep_line (showvminfo : String → CmdOutcome) (ms : List Machine)
    (e : VMEntry) :
    listMachinesStep showvminfo ms e.line =
      match getMachineById showvminfo e.name with
      | .ok m => .ok (ms ++ [m])
      | .error err => if err = errMachineNotExist then .ok ms else .error err := by
  rw [listMachinesStep, reVMNameUUID_line]
  simp [Function.update_noteq]

/-- **The loop looks the names up in order**, after the machines found so far. -/
theorem foldlM_listMachinesStep (showvminfo : String → CmdOutcome) :
    ∀ (es : List VMEntry) (acc : List Machine),
      (es.map VMEntry.line).foldlM (listMachinesStep showvminfo) acc =
        (machinesNamed (getMachineById showvminfo) (es.map VMEntry.name)).map (acc ++ ·)
  | [], acc => by
    simp only [List.map_nil, List.foldlM_nil, machinesNamed, Except.map, List.append_nil]
    rfl
  | e :: es, acc => by
    have ih := foldlM_listMachinesStep showvminfo es
    rw [List.map_cons, List.foldlM_cons, listMachinesStep_line, List.map_cons, machinesNamed]
    cases getMachineById showvminfo e.name with
    | ok m =>
      simp only [bind, Except.bind, ih]
      cases machinesNamed (getMachineById showvminfo) (es.map VMEntry.name) <;> simp [Except.map]
    | error err =>
      by_cases herr : err = errMachineNotExist
      · simp only [if_pos herr, bind, Except.bind, ih]
      · simp only [if_neg herr, bind, Except.bind, Except.map]

/-- **What `ListMachines` returns for a listing**: the outcome of looking the listed names up in
order. -/
theorem listMachines_vmsText (showvminfo : String → CmdOutcome) (es : List VMEntry) :
    listMachines (.ok (vmsText es)) showvminfo =
      machinesNamed (getMachineById showvminfo) (es.map VMEntry.name) := by
  have hloop := foldlM_listMachinesStep showvminfo es []
  simp only [List.nil_append] at hloop
  simp only [listMachines, bind, Except.bind, scanLines_vmsText, hloop]
  cases machinesNamed (getMachineById showvminfo) (es.map VMEntry.name) <;> rfl

/-! ### `CreateMachine` -/

/-- `ErrMachineExist` of `vbcmd.go`. -/
def errMachineExist : Failure := .error "machine already exists"

/-- The arguments of the `createvm` command of `CreateMachine`. -/
def createvmArgs (uuid name basefolder : String) : List String :=
  ["createvm", "--uuid", uuid, "--name", name, "--register"] ++
    if basefolder ≠ "" then ["--basefolder", basefolder] else []

/-- `CreateMachine`, given the outcome of `list vms`, what `showvminfo` does before and after the
creation, and what `createvm` returns for its arguments: the `createvm` command it runs, if it
runs one, and what it returns. -/
def createMachine (listVms : Except Failure String) (showvminfo : String → CmdOutcome)
    (createvm : List String → Option Failure) (showvminfoAfter : String → CmdOutcome)
    (uuid name basefolder : String) : Option (List String) × Except Failure Machine :=
  if name = "" ∨ uuid = "" then
    (none, .error (.error ("machine name(=" ++ name ++ ") or uuid(=" ++ uuid ++ ") is empty")))
  else
    match listMachines listVms showvminfo with
    | .error err => (none, .error err)
    | .ok ms =>
      if ms.any (·.name = name) then (none, .error errMachineExist)
      else
        match createvm (createvmArgs uuid name basefolder) with
        | some err => (some (createvmArgs uuid name basefolder), .error err)
        | none => (some (createvmArgs uuid name basefolder), getMachineById showvminfoAfter name)

end Virtualbox
