/-
**Storage controllers read back: `NewStorageControllersFromProps`.**

`showvminfo --machinereadable` describes up to eight storage controllers by index,

    storagecontrollername0="SATA"   storagecontrollertype0="IntelAhci"
    storagecontrollerportcount0="2" storagecontrollerbootable0="on"

and the media attached to them by controller name, port and device,

    "SATA-0-0"="/media/worker2.vdi"   "SATA-ImageUUID-0-0"="8c80c269-…"

`NewStorageControllersFromProps` walks the indices 0 to 7 in order; for each named controller
`findStorageControllerByIndex` parses the port count with `strconv.Atoi`, maps the type token to a
bus and a chipset, and `findStorageMedia` walks the ports and, on each, the devices the bus allows,
keeping every present medium that is not the empty `none` drive.  Before the walk,
`findStorageMedia` allocates room for `portCount*2` media, and that allocation is where a large
port count makes the call panic.

Main definitions:

* `Virtualbox.StorageController`, `Virtualbox.StorageMedium`;
* `Virtualbox.findStorageMedia`, `Virtualbox.findStorageControllerByIndex`,
  `Virtualbox.newStorageControllersFromProps`;
* `Virtualbox.expectedDevices`, `Virtualbox.ControllerSpec` — the devices and the controller the
  listing describes.

Main results:

* `Virtualbox.findStorageMedia_eq` — the nested loop keeps the present media that are not `none`,
  port by port and device by device;
* `Virtualbox.expectedDevices_sorted` — those media are in strictly ascending (port, device)
  order;
* `Virtualbox.newStorageControllersFromProps_spec` — **the controllers read back**: an error
  exactly when a named controller has an unparsable port count or an unknown type, and otherwise
  one controller per named index, in order, as the listing describes it, for every port count up
  to `2^41`;
* `Virtualbox.newStorageControllersFromProps_hugePortCount` — a port count above `2^41` panics;
* `Virtualbox.newStorageControllersFromProps_portCount` — **the port counts over the whole `int`
  range**: a panic comes from a count the allocation rejects, a returned controller holds its
  count modulo `2^64`, a count `≤ -2^63 + 2^41` among them;
* `Virtualbox.newStorageControllersFromProps_negativePortCount` — `-1` panics, and the least
  `int` becomes `2^63` ports.
-/

import Virtualbox.PropMap

set_option relaxedAutoImplicit false
set_option autoImplicit false

namespace Virtualbox

/-! ### Controllers and media -/

/-- `SystemBus`: the bus a controller provides, a string in Go. -/
structure SystemBus where
  val : String
  deriving DecidableEq, Repr

namespace SystemBus

/-- `SysBusIDE`. -/
def ide : SystemBus := ⟨"ide"⟩
/-- `SysBusSATA`. -/
def sata : SystemBus := ⟨"sata"⟩
/-- `SysBusSCSI`. -/
def scsi : SystemBus := ⟨"scsi"⟩
/-- `SysBusFloppy`. -/
def floppy : SystemBus := ⟨"floppy"⟩
/-- `SysBusSAS`. -/
def sas : SystemBus := ⟨"sas"⟩
/-- `SysBusUSB`. -/
def usb : SystemBus := ⟨"usb"⟩
/-- `SysBusPCI`. -/
def pci : SystemBus := ⟨"pcie"⟩
/-- `SysBusVirtioSCSI`. -/
def virtioSCSI : SystemBus := ⟨"virtio"⟩

end SystemBus

/-- `StorageControllerChipset`: the emulated hardware, a string in Go. -/
structure StorageControllerChipset where
  val : String
  deriving DecidableEq, Repr

namespace StorageControllerChipset

/-- `CtrlLSILogic`. -/
def lsiLogic : StorageControllerChipset := ⟨"LSILogic"⟩
/-- `CtrlLSILogicSAS`. -/
def lsiLogicSAS : StorageControllerChipset := ⟨"LSILogicSAS"⟩
/-- `CtrlBusLogic`. -/
def busLogic : StorageControllerChipset := ⟨"BusLogic"⟩
/-- `CtrlIntelAHCI`. -/
def intelAHCI : StorageControllerChipset := ⟨"IntelAHCI"⟩
/-- `CtrlPIIX3`. -/
def piix3 : StorageControllerChipset := ⟨"PIIX3"⟩
/-- `CtrlPIIX4`. -/
def piix4 : StorageControllerChipset := ⟨"PIIX4"⟩
/-- `CtrlICH6`. -/
def ich6 : StorageControllerChipset := ⟨"ICH6"⟩
/-- `CtrlI82078`. -/
def i82078 : StorageControllerChipset := ⟨"I82078"⟩
/-- `CtlrUSB`. -/
def usb : StorageControllerChipset := ⟨"USB"⟩
/-- `CtlrNVMe`. -/
def nvme : StorageControllerChipset := ⟨"NVMe"⟩
/-- `CtrlVirtioSCSI`. -/
def virtioSCSI : StorageControllerChipset := ⟨"VirtIO"⟩

end StorageControllerChipset

/-- `DriveType`, a string in Go. -/
structure DriveType where
  val : String
  deriving DecidableEq, Repr

/-- `StorageMedium`: a medium attached at a port and device of a controller. -/
structure StorageMedium where
  port : UInt64
  device : UInt64
  driveType : DriveType
  medium : String
  uuid : String
  deriving DecidableEq, Repr

/-- The size of a `StorageMedium` on a 64-bit platform: two `uint`s and three strings. -/
def storageMediumSize : Nat := 64

/-- `IsNone`: the empty drive, with no image. -/
def StorageMedium.isNone (sm : StorageMedium) : Bool := sm.uuid = "" && sm.medium = "none"

/-- `StorageController`. -/
structure StorageController where
  name : String
  sysBus : SystemBus
  ports : UInt64
  chipset : StorageControllerChipset
  hostIOCache : Bool
  bootable : Bool
  devices : List StorageMedium
  deriving DecidableEq, Repr

/-! ### Reading the listing -/

/-- `maxDevicePerPort`: two devices per port on IDE and floppy, one elsewhere. -/
def maxDevicePerPort (bus : SystemBus) : Nat :=
  if bus = .ide ∨ bus = .floppy then 2 else 1

/-- `vmInfogStrorageControllerTypeToBusAndChipset`: the table from the listing's type token to a
bus and a chipset.  The token `unknown`, which `showvminfo` prints for some controllers, is kept
as both. -/
def vmInfogStrorageControllerTypeToBusAndChipset (scType : String) :
    Except Failure (SystemBus × StorageControllerChipset) :=
  match scType with
  | "IntelAhci" => .ok (.sata, .intelAHCI)
  | "LsiLogic" => .ok (.scsi, .lsiLogic)
  | "BusLogic" => .ok (.scsi, .busLogic)
  | "PIIX3" => .ok (.ide, .piix3)
  | "PIIX4" => .ok (.ide, .piix4)
  | "ICH6" => .ok (.ide, .ich6)
  | "I82078" => .ok (.floppy, .i82078)
  | "LsiLogicSas" => .ok (.sas, .lsiLogicSAS)
  | "USB" => .ok (.usb, .usb)
  | "NVMe" => .ok (.pci, .nvme)
  | "VirtioSCSI" => .ok (.virtioSCSI, .virtioSCSI)
  | "unknown" => .ok (⟨scType⟩, ⟨scType⟩)
  | _ => .error (.error ("controller type from vminfo not supported yet:" ++ scType))

/-- The `-<port>-<device>` that ends the keys of a medium. -/
def indexSuffix (p d : Nat) : String := "-" ++ fmtUint 10 p ++ "-" ++ fmtUint 10 d

/-- The body of the inner loop of `findStorageMedia`, at port `p` and device `d`: a present
medium, with the image UUID if one is listed, is appended unless it is `none`. -/
def findStorageMediaStep (name : String) (vmPropMap : PropMap) (p : Nat)
    (media : List StorageMedium) (d : Nat) : List StorageMedium :=
  match vmPropMap (name ++ indexSuffix p d) with
  | none => media
  | some medium =>
    let uuid := (vmPropMap (name ++ "-ImageUUID" ++ indexSuffix p d)).getD ""
    let sm : StorageMedium := ⟨UInt64.ofNat p, UInt64.ofNat d, ⟨""⟩, medium, uuid⟩
    if !sm.isNone then media ++ [sm] else media

/-- `findStorageMedia`: allocate room for `portCount*2` media, then walk every port below the
count and every device the bus allows. -/
def findStorageMedia (name : String) (bus : SystemBus) (portCount : Int) (vmPropMap : PropMap) :
    Except Failure (List StorageMedium) :=
  let maxDevicePerPort := maxDevicePerPort bus
  if makeSliceCapOutOfRange storageMediumSize (wrapInt (portCount * 2)) then
    .error (.panic "runtime error: makeslice: cap out of range")
  else
    .ok ((List.range portCount.toNat).foldl (fun media p =>
      (List.range maxDevicePerPort).foldl (findStorageMediaStep name vmPropMap p) media) [])

/-- `findStorageControllerByIndex`: the controller named `name` at index `iStr`. -/
def findStorageControllerByIndex (name iStr : String) (vmPropMap : PropMap) :
    Except Failure StorageController := do
  let scType := (vmPropMap ("storagecontrollertype" ++ iStr)).getD ""
  let portCountStr := (vmPropMap ("storagecontrollerportcount" ++ iStr)).getD ""
  let portCount ← match atoi portCountStr with
    | .ok n => pure n
    | .error err => .error (err.wrap ("could not convert portCount(" ++ portCountStr ++
        ") from string to integer"))
  let bootableStr := (vmPropMap ("storagecontrollerbootable" ++ iStr)).getD ""
  let (bus, chipSet) ← vmInfogStrorageControllerTypeToBusAndChipset scType
  let media ← findStorageMedia name bus portCount vmPropMap
  pure { name := name, sysBus := bus, chipset := chipSet, ports := goUint portCount,
         hostIOCache := false, bootable := bootableStr = "on", devices := media }

/-- The body of the loop of `NewStorageControllersFromProps` at index `i`. -/
def newStorageControllersStep (vmPropMap : PropMap) (ctrls : List StorageController) (i : Nat) :
    Except Failure (List StorageController) :=
  let iStr := fmtUint 10 i
  match vmPropMap ("storagecontrollername" ++ iStr) with
  | none => pure ctrls
  | some name => do
    let sc ← findStorageControllerByIndex name iStr vmPropMap
    pure (ctrls ++ [sc])

/-- `NewStorageControllersFromProps`: the controllers of the indices 0 to 7, in order; the first
failing controller fails the call. -/
def newStorageControllersFromProps (vmPropMap : PropMap) :
    Except Failure (List StorageController) :=
  (List.range 8).foldlM (newStorageControllersStep vmPropMap) []

/-! ### What the listing describes -/

/-- The medium listed at port `p` and device `d` of controller `name`, if its key is present,
with its image UUID or `""`. -/
def mediumAt (name : String) (vmPropMap : PropMap) (p d : Nat) : Option StorageMedium :=
  (vmPropMap (name ++ indexSuffix p d)).map fun medium =>
    ⟨UInt64.ofNat p, UInt64.ofNat d, ⟨""⟩, medium,
      (vmPropMap (name ++ "-ImageUUID" ++ indexSuffix p d)).getD ""⟩

/-- The devices of a controller with `ports` ports on `bus`: for each port, then each device the
bus allows, the listed medium, leaving out the `none` drives. -/
def expectedDevices (name : String) (bus : SystemBus) (ports : Nat) (vmPropMap : PropMap) :
    List StorageMedium :=
  ((List.range ports).flatMap fun p =>
    (List.range (maxDevicePerPort bus)).filterMap (mediumAt name vmPropMap p)).filter (!·.isNone)

/-- The controller the listing describes at index `i`: its name, a port count that parses to
`ports` exactly, the bus and chipset of its type token, bootable when the value is `on`, no host
I/O cache, and the expected devices. -/
structure ControllerSpec (vmPropMap : PropMap) (i : Nat) (sc : StorageController) : Prop where
  name : vmPropMap ("storagecontrollername" ++ fmtUint 10 i) = some sc.name
  ports : atoi ((vmPropMap ("storagecontrollerportcount" ++ fmtUint 10 i)).getD "") =
    .ok (sc.ports.toNat : Int)
  busAndChipset : vmInfogStrorageControllerTypeToBusAndChipset
    ((vmPropMap ("storagecontrollertype" ++ fmtUint 10 i)).getD "") = .ok (sc.sysBus, sc.chipset)
  bootable : sc.bootable ↔ (vmPropMap ("storagecontrollerbootable" ++ fmtUint 10 i)).getD "" = "on"
  hostIOCache : sc.hostIOCache = false
  devices : sc.devices = expectedDevices sc.name sc.sysBus sc.ports.toNat vmPropMap

/-- A named controller at index `i` whose port count does not parse or whose type token is not in
the table. -/
def BadController (vmPropMap : PropMap) (i : Nat) : Prop :=
  (vmPropMap ("storagecontrollername" ++ fmtUint 10 i)).isSome ∧
    (IsErr (atoi ((vmPropMap ("storagecontrollerportcount" ++ fmtUint 10 i)).getD "")) ∨
      IsErr (vmInfogStrorageControllerTypeToBusAndChipset
        ((vmPropMap ("storagecontrollertype" ++ fmtUint 10 i)).getD "")))

/-- Medium `a` comes strictly before medium `b` in (port, device) order. -/
def PortDeviceLt (a b : StorageMedium) : Prop :=
  a.port.toNat < b.port.toNat ∨ (a.port.toNat = b.port.toNat ∧ a.device.toNat < b.device.toNat)

/-! ### The media loop -/

/-- A loop that appends a list per element appends their concatenation. -/
theorem foldl_append_flatMap {α β : Type} (f : α → List β) (l : List α) (pre : List β) :
    l.foldl (fun acc a => acc ++ f a) pre = pre ++ l.flatMap f := by
  induction l generalizing pre with
  | nil => simp
  | cons a l ih => simp [ih]

/-- One pass of the inner loop appends the medium of its port and device, unless it is absent or
`none`. -/
theorem findStorageMediaStep_eq (name : String) (vmPropMap : PropMap) (p : Nat) :
    findStorageMediaStep name vmPropMap p =
      fun media d => media ++ (mediumAt name vmPropMap p d).toList.filter (!·.isNone) := by
  funext media d
  unfold findStorageMediaStep mediumAt
  cases vmPropMap (name ++ indexSuffix p d) with
  | none => simp
  | some medium => by_cases h : StorageMedium.isNone ⟨UInt64.ofNat p, UInt64.ofNat d, ⟨""⟩, medium,
      (vmPropMap (name ++ "-ImageUUID" ++ indexSuffix p d)).getD ""⟩ <;> simp [h]

theorem flatMap_toList_filter {α β : Type} (f : α → Option β) (q : β → Bool) (l : List α) :
    l.flatMap (fun a => (f a).toList.filter q) = (l.filterMap f).filter q := by
  induction l with
  | nil => rfl
  | cons a l ih =>
    cases h : f a with
    | none => simp [h, ih]
    | some b => by_cases hq : q b <;> simp [h, ih, hq, List.filter_cons]

/-- **The media loop**: when the allocation succeeds, the nested loop keeps the listed media that
are not `none`, port by port and device by device. -/
theorem findStorageMedia_eq (name : String) (bus : SystemBus) (vmPropMap : PropMap) {n : Int}
    (h0 : 0 ≤ n) (hn : n ≤ 2 ^ 41) :
    findStorageMedia name bus n vmPropMap = .ok (expectedDevices name bus n.toNat vmPropMap) := by
  have halloc : makeSliceCapOutOfRange storageMediumSize (wrapInt (n * 2)) = false :=
    makeSliceCapOutOfRange_wrapInt (by omega) (by simp only [storageMediumSize, maxAlloc]; omega)
      (by omega)
  simp only [findStorageMedia, halloc, Bool.false_eq_true, if_false, findStorageMediaStep_eq,
    foldl_append_flatMap, List.nil_append, expectedDevices, List.filter_flatMap,
    flatMap_toList_filter]

theorem mediumAt_eq_some {name : String} {vmPropMap : PropMap} {p d : Nat} {sm : StorageMedium}
    (h : mediumAt name vmPropMap p d = some sm) :
    sm.port = UInt64.ofNat p ∧ sm.device = UInt64.ofNat d := by
  simp only [mediumAt, Option.map_eq_some'] at h
  obtain ⟨_, -, rfl⟩ := h
  exact ⟨rfl, rfl⟩

theorem pairwise_lt_range_bounded (k : Nat) :
    (List.range k).Pairwise fun a b => a < b ∧ b < k :=
  (List.Pairwise.and_mem.1 (List.pairwise_lt_range k)).imp fun ⟨_, hb, hlt⟩ =>
    ⟨hlt, List.mem_range.1 hb⟩

/-- **The media come in strictly ascending (port, device) order**, and so with no duplicate. -/
theorem expectedDevices_sorted (name : String) (bus : SystemBus) (ports : Nat)
    (vmPropMap : PropMap) (hports : ports ≤ 2 ^ 64) :
    (expectedDevices name bus ports vmPropMap).Pairwise PortDeviceLt := by
  have hdev : maxDevicePerPort bus ≤ 2 := by unfold maxDevicePerPort; split <;> omega
  have htoNat : ∀ k, k < 2 ^ 64 → (UInt64.ofNat k).toNat = k := fun k hk =>
    UInt64.toNat_ofNat_of_lt hk
  refine List.Pairwise.filter _ (List.pairwise_flatMap.2 ⟨fun p _ => ?_, ?_⟩)
  · -- one port: the devices ascend
    refine (pairwise_lt_range_bounded _).filterMap _ fun d d' ⟨hlt, hd'⟩ a ha a' ha' => ?_
    obtain ⟨hp, hd⟩ := mediumAt_eq_some ha
    obtain ⟨hp', hd''⟩ := mediumAt_eq_some ha'
    right
    rw [hp, hp', hd, hd'', htoNat d (by omega), htoNat d' (by omega)]
    exact ⟨rfl, hlt⟩
  · -- two ports: every medium of the first comes before every medium of the second
    refine (pairwise_lt_range_bounded ports).imp fun ⟨hlt, hp'⟩ a ha a' ha' => ?_
    obtain ⟨d, -, hd⟩ := List.mem_filterMap.1 ha
    obtain ⟨d', -, hd'⟩ := List.mem_filterMap.1 ha'
    left
    rw [(mediumAt_eq_some hd).1, (mediumAt_eq_some hd').1, htoNat _ (by omega),
      htoNat _ (by omega)]
    exact hlt

/-! ### One controller -/

theorem vmInfogStrorageControllerTypeToBusAndChipset_error {scType : String} {f : Failure}
    (h : vmInfogStrorageControllerTypeToBusAndChipset scType = .error f) : f.IsError := by
  unfold vmInfogStrorageControllerTypeToBusAndChipset at h
  split at h <;> cases h
  trivial

/-- A controller whose port count does not parse or whose type is unknown is an error. -/
theorem findStorageControllerByIndex_bad (name iStr : String) (vmPropMap : PropMap)
    (h : IsErr (atoi ((vmPropMap ("storagecontrollerportcount" ++ iStr)).getD "")) ∨
      IsErr (vmInfogStrorageControllerTypeToBusAndChipset
        ((vmPropMap ("storagecontrollertype" ++ iStr)).getD ""))) :
    ∃ e, findStorageControllerByIndex name iStr vmPropMap = .error (.error e) := by
  cases ha : atoi ((vmPropMap ("storagecontrollerportcount" ++ iStr)).getD "") with
  | error f =>
    obtain ⟨e, rfl⟩ : ∃ e, f = .error e := by
      cases f with
      | error e => exact ⟨e, rfl⟩
      | panic _ => exact absurd (atoi_error ha) id
    exact ⟨_, by simp [findStorageControllerByIndex, ha, bind, Except.bind]; rfl⟩
  | ok n =>
    cases ht : vmInfogStrorageControllerTypeToBusAndChipset
        ((vmPropMap ("storagecontrollertype" ++ iStr)).getD "") with
    | error f =>
      obtain ⟨e, rfl⟩ : ∃ e, f = .error e := by
        cases f with
        | error e => exact ⟨e, rfl⟩
        | panic _ => exact absurd (vmInfogStrorageControllerTypeToBusAndChipset_error ht) id
      exact ⟨_, by simp [findStorageControllerByIndex, ha, ht, bind, Except.bind, pure,
        Except.pure]; rfl⟩
    | ok _ => simp [ha, ht, IsErr] at h

/-- A controller with a port count from 0 to `2^41` and a known type. -/
theorem findStorageControllerByIndex_good (name iStr : String) (vmPropMap : PropMap) {n : Int}
    {bus : SystemBus} {chipSet : StorageControllerChipset}
    (ha : atoi ((vmPropMap ("storagecontrollerportcount" ++ iStr)).getD "") = .ok n)
    (h0 : 0 ≤ n) (hn : n ≤ 2 ^ 41)
    (ht : vmInfogStrorageControllerTypeToBusAndChipset
      ((vmPropMap ("storagecontrollertype" ++ iStr)).getD "") = .ok (bus, chipSet)) :
    findStorageControllerByIndex name iStr vmPropMap = .ok
      { name := name, sysBus := bus, chipset := chipSet, ports := goUint n, hostIOCache := false,
        bootable := (vmPropMap ("storagecontrollerbootable" ++ iStr)).getD "" = "on",
        devices := expectedDevices name bus n.toNat vmPropMap } := by
  simp only [findStorageControllerByIndex, ha, ht, findStorageMedia_eq name bus vmPropMap h0 hn,
    bind, Except.bind, pure, Except.pure]

/-- The body of the loop at a bad index fails with an error. -/
theorem newStorageControllersStep_bad (vmPropMap : PropMap) (ctrls : List StorageController)
    {i : Nat} (h : BadController vmPropMap i) :
    ∃ e, newStorageControllersStep vmPropMap ctrls i = .error (.error e) := by
  obtain ⟨hs, hbad⟩ := h
  obtain ⟨name, hname⟩ := Option.isSome_iff_exists.1 hs
  obtain ⟨e, he⟩ := findStorageControllerByIndex_bad name (fmtUint 10 i) vmPropMap hbad
  exact ⟨e, by simp [newStorageControllersStep, hname, he, bind, Except.bind]⟩

/-- The body of the loop at a good index appends the controller the listing describes there, if
the index is named. -/
theorem newStorageControllersStep_good (vmPropMap : PropMap) (ctrls : List StorageController)
    {i : Nat} (h : ¬BadController vmPropMap i)
    (hcount : (vmPropMap ("storagecontrollername" ++ fmtUint 10 i)).isSome → ∀ n,
      atoi ((vmPropMap ("storagecontrollerportcount" ++ fmtUint 10 i)).getD "") = .ok n →
        0 ≤ n ∧ n ≤ 2 ^ 41) :
    ∃ r, newStorageControllersStep vmPropMap ctrls i = .ok (ctrls ++ r) ∧
      List.Forall₂ (ControllerSpec vmPropMap)
        ([i].filter fun i => (vmPropMap ("storagecontrollername" ++ fmtUint 10 i)).isSome) r := by
  cases hname : vmPropMap ("storagecontrollername" ++ fmtUint 10 i) with
  | none =>
    exact ⟨[], by simp [newStorageControllersStep, hname, pure, Except.pure], by simp [hname]⟩
  | some name =>
    have hs : (vmPropMap ("storagecontrollername" ++ fmtUint 10 i)).isSome := by simp [hname]
    cases ha : atoi ((vmPropMap ("storagecontrollerportcount" ++ fmtUint 10 i)).getD "") with
    | error f => exact absurd ⟨hs, .inl (by simpa [IsErr, ha] using atoi_error ha)⟩ h
    | ok n =>
      cases ht : vmInfogStrorageControllerTypeToBusAndChipset
          ((vmPropMap ("storagecontrollertype" ++ fmtUint 10 i)).getD "") with
      | error f => exact absurd ⟨hs, .inr (by simpa [IsErr, ht] using
          vmInfogStrorageControllerTypeToBusAndChipset_error ht)⟩ h
      | ok bc =>
        obtain ⟨bus, chipSet⟩ := bc
        obtain ⟨h0, hn⟩ := hcount hs n ha
        have hports : ((goUint n).toNat : Int) = n := goUint_toNat h0 (by omega)
        have hnat : (goUint n).toNat = n.toNat := by omega
        refine ⟨[_], by simp [newStorageControllersStep, hname,
          findStorageControllerByIndex_good name _ vmPropMap ha h0 hn ht, bind, Except.bind, pure,
          Except.pure]; rfl, ?_⟩
        simp only [List.filter_cons, hs, if_true, List.filter_nil]
        exact List.Forall₂.cons ⟨hname, by rw [ha, hports], ht, decide_eq_true_iff, rfl,
          by simp [hnat]⟩ .nil

/-! ### All the controllers -/

/-- The loop over a list of indices: an error at the first bad index, and otherwise the
controllers the listing describes at its named indices, in order. -/
theorem foldlM_newStorageControllersStep (vmPropMap : PropMap) (l : List Nat)
    (hcount : ∀ i ∈ l, (vmPropMap ("storagecontrollername" ++ fmtUint 10 i)).isSome → ∀ n,
      atoi ((vmPropMap ("storagecontrollerportcount" ++ fmtUint 10 i)).getD "") = .ok n →
        0 ≤ n ∧ n ≤ 2 ^ 41) (acc : List StorageController) :
    ((∃ i ∈ l, BadController vmPropMap i) →
      ∃ e, l.foldlM (newStorageControllersStep vmPropMap) acc = .error (.error e)) ∧
    ((¬∃ i ∈ l, BadController vmPropMap i) →
      ∃ cs, l.foldlM (newStorageControllersStep vmPropMap) acc = .ok (acc ++ cs) ∧
        List.Forall₂ (ControllerSpec vmPropMap)
          (l.filter fun i => (vmPropMap ("storagecontrollername" ++ fmtUint 10 i)).isSome) cs) := by
  induction l generalizing acc with
  | nil => exact ⟨fun ⟨_, h, _⟩ => absurd h (List.not_mem_nil _), fun _ => ⟨[], by simp [pure,
      Except.pure], .nil⟩⟩
  | cons i l ih =>
    have ih' := ih fun j hj => hcount j (List.mem_cons_of_mem _ hj)
    by_cases hi : BadController vmPropMap i
    · obtain ⟨e, he⟩ := newStorageControllersStep_bad vmPropMap acc hi
      exact ⟨fun _ => ⟨e, by rw [List.foldlM_cons, he]; rfl⟩,
        fun h => absurd ⟨i, List.mem_cons_self _ _, hi⟩ h⟩
    · obtain ⟨r, hr, hrspec⟩ := newStorageControllersStep_good vmPropMap acc hi
        (hcount i (List.mem_cons_self _ _))
      have hstep : (i :: l).foldlM (newStorageControllersStep vmPropMap) acc =
          l.foldlM (newStorageControllersStep vmPropMap) (acc ++ r) := by
        rw [List.foldlM_cons, hr]
        rfl
      rw [hstep]
      refine ⟨fun ⟨j, hj, hbad⟩ => ?_, fun h => ?_⟩
      · rcases List.mem_cons.1 hj with rfl | hj
        · exact absurd hbad hi
        · exact (ih' _).1 ⟨j, hj, hbad⟩
      · obtain ⟨cs, hcs, hspec⟩ := (ih' _).2 fun ⟨j, hj, hbad⟩ =>
          h ⟨j, List.mem_cons_of_mem _ hj, hbad⟩
        refine ⟨r ++ cs, by rw [hcs, List.append_assoc], ?_⟩
        rw [List.filter_cons]
        have happ := List.rel_append hrspec hspec
        by_cases hs : (vmPropMap ("storagecontrollername" ++ fmtUint 10 i)).isSome <;>
          simpa [List.filter_cons, hs] using happ

/-- **The controllers read back.**  When every named controller's port count, if it parses, lies
between 0 and `2^41`: the call fails with an error exactly when a named controller has a port
count that does not parse or a type token outside the table; otherwise it returns, for the named
indices in ascending order, one controller each, as the listing describes it, with its devices in
strictly ascending (port, device) order. -/
theorem newStorageControllersFromProps_spec (vmPropMap : PropMap)
    (hcount : ∀ i < 8, (vmPropMap ("storagecontrollername" ++ fmtUint 10 i)).isSome → ∀ n,
      atoi ((vmPropMap ("storagecontrollerportcount" ++ fmtUint 10 i)).getD "") = .ok n →
        0 ≤ n ∧ n ≤ 2 ^ 41) :
    ((∃ i < 8, BadController vmPropMap i) →
      ∃ e, newStorageControllersFromProps vmPropMap = .error (.error e)) ∧
    ((¬∃ i < 8, BadController vmPropMap i) →
      ∃ cs, newStorageControllersFromProps vmPropMap = .ok cs ∧
        List.Forall₂ (ControllerSpec vmPropMap)
          ((List.range 8).filter fun i =>
            (vmPropMap ("storagecontrollername" ++ fmtUint 10 i)).isSome) cs ∧
        ∀ sc ∈ cs, sc.devices.Pairwise PortDeviceLt) := by
  have hloop := foldlM_newStorageControllersStep vmPropMap (List.range 8)
    (fun i hi => hcount i (List.mem_range.1 hi)) []
  simp only [List.mem_range, List.nil_append] at hloop
  refine ⟨hloop.1, fun h => ?_⟩
  obtain ⟨cs, hcs, hspec⟩ := hloop.2 h
  refine ⟨cs, hcs, hspec, fun sc hsc => ?_⟩
  obtain ⟨i, -, hi⟩ := exists_of_forall₂_of_mem hspec hsc
  rw [hi.devices]
  exact expectedDevices_sorted _ _ _ _ (UInt64.toNat_lt_size sc.ports).le

/-- A listing with one IDE controller of two ports: a disk at port 0, device 0, with its image
UUID, and an empty drive at port 1, device 1. -/
def ideListing : PropMap := fun k =>
  [("storagecontrollername0", "IDE"), ("storagecontrollertype0", "PIIX4"),
    ("storagecontrollerportcount0", "2"), ("storagecontrollerbootable0", "on"),
    ("IDE-0-0", "/vms/disk.vdi"), ("IDE-ImageUUID-0-0", "8c80c269"), ("IDE-1-1", "none")].lookup k

theorem newStorageControllersFromProps_spec_ideListing :
    (∀ i < 8, (ideListing ("storagecontrollername" ++ fmtUint 10 i)).isSome → ∀ n,
      atoi ((ideListing ("storagecontrollerportcount" ++ fmtUint 10 i)).getD "") = .ok n →
        0 ≤ n ∧ n ≤ 2 ^ 41) ∧
    ((∃ i < 8, BadController ideListing i) →
      ∃ e, newStorageControllersFromProps ideListing = .error (.error e)) ∧
    ((¬∃ i < 8, BadController ideListing i) →
      ∃ cs, newStorageControllersFromProps ideListing = .ok cs ∧
        List.Forall₂ (ControllerSpec ideListing)
          ((List.range 8).filter fun i =>
            (ideListing ("storagecontrollername" ++ fmtUint 10 i)).isSome) cs ∧
        ∀ sc ∈ cs, sc.devices.Pairwise PortDeviceLt) := by
  have hcount : ∀ i < 8, (ideListing ("storagecontrollername" ++ fmtUint 10 i)).isSome → ∀ n,
      atoi ((ideListing ("storagecontrollerportcount" ++ fmtUint 10 i)).getD "") = .ok n →
        0 ≤ n ∧ n ≤ 2 ^ 41 := by
    have hnamed :
        ∀ i < 8, (ideListing ("storagecontrollername" ++ fmtUint 10 i)).isSome → i = 0 := by
      decide
    intro i hi hs n hn
    cases hnamed i hi hs
    cases hn
    decide
  exact ⟨hcount, newStorageControllersFromProps_spec ideListing hcount⟩

/-- A port count of `2^41 + 1` makes the allocation of `findStorageMedia` ask for `2^49` bytes,
past `maxAlloc`, and the call panics instead of returning a controller. -/
theorem newStorageControllersFromProps_hugePortCount :
    newStorageControllersFromProps (fun k =>
      [("storagecontrollername0", "SATA"), ("storagecontrollertype0", "IntelAhci"),
        ("storagecontrollerportcount0", "2199023255553")].lookup k) =
      .error (.panic "runtime error: makeslice: cap out of range") := by
  rfl

/-! ### Port counts the allocation rejects -/

/-- The port counts whose doubled `int` the allocation of `findStorageMedia` rejects: those above
`2^41`, and the negative ones whose double does not wrap around to a small non-negative `int`. -/
def PortCountPanics (n : Int) : Prop := (-2 ^ 63 + 2 ^ 41 < n ∧ n < 0) ∨ 2 ^ 41 < n

/-- For an `int` port count, the allocation of `portCount*2` media panics exactly on the counts
of `PortCountPanics`. -/
theorem makeSliceCapOutOfRange_double {n : Int} (h0 : -2 ^ 63 ≤ n) (h1 : n < 2 ^ 63) :
    makeSliceCapOutOfRange storageMediumSize (wrapInt (n * 2)) = true ↔ PortCountPanics n := by
  simp only [makeSliceCapOutOfRange, wrapInt, maxAlloc, storageMediumSize, decide_eq_true_eq,
    PortCountPanics]
  omega

/-- A controller panics only in the allocation, on a port count the allocation rejects. -/
theorem findStorageControllerByIndex_panic {name iStr : String} {vmPropMap : PropMap} {p : String}
    (h : findStorageControllerByIndex name iStr vmPropMap = .error (.panic p)) :
    p = "runtime error: makeslice: cap out of range" ∧
      ∃ n, atoi ((vmPropMap ("storagecontrollerportcount" ++ iStr)).getD "") = .ok n ∧
        makeSliceCapOutOfRange storageMediumSize (wrapInt (n * 2)) = true := by
  cases ha : atoi ((vmPropMap ("storagecontrollerportcount" ++ iStr)).getD "") with
  | error f =>
    cases f with
    | error e => simp [findStorageControllerByIndex, ha, bind, Except.bind, Failure.wrap] at h
    | panic _ => exact absurd (atoi_error ha) id
  | ok n =>
    cases ht : vmInfogStrorageControllerTypeToBusAndChipset
        ((vmPropMap ("storagecontrollertype" ++ iStr)).getD "") with
    | error f =>
      cases f with
      | error e =>
        simp [findStorageControllerByIndex, ha, ht, bind, Except.bind, pure, Except.pure] at h
      | panic _ => exact absurd (vmInfogStrorageControllerTypeToBusAndChipset_error ht) id
    | ok bc =>
      by_cases hcap : makeSliceCapOutOfRange storageMediumSize (wrapInt (n * 2)) = true
      · simp only [findStorageControllerByIndex, ha, ht, findStorageMedia, hcap, if_true, bind,
          Except.bind, pure, Except.pure, Except.error.injEq, Failure.panic.injEq] at h
        exact ⟨h.symm, n, rfl, hcap⟩
      · simp [findStorageControllerByIndex, ha, ht, findStorageMedia, hcap, bind, Except.bind, pure,
          Except.pure] at h

/-- A controller that is read has a port count the allocation accepts, and `Ports = uint(n)`. -/
theorem findStorageControllerByIndex_ok {name iStr : String} {vmPropMap : PropMap}
    {sc : StorageController} (h : findStorageControllerByIndex name iStr vmPropMap = .ok sc) :
    sc.name = name ∧
      ∃ n, atoi ((vmPropMap ("storagecontrollerportcount" ++ iStr)).getD "") = .ok n ∧
        makeSliceCapOutOfRange storageMediumSize (wrapInt (n * 2)) = false ∧
        sc.ports = goUint n := by
  cases ha : atoi ((vmPropMap ("storagecontrollerportcount" ++ iStr)).getD "") with
  | error f => simp [findStorageControllerByIndex, ha, bind, Except.bind] at h
  | ok n =>
    cases ht : vmInfogStrorageControllerTypeToBusAndChipset
        ((vmPropMap ("storagecontrollertype" ++ iStr)).getD "") with
    | error f =>
      simp [findStorageControllerByIndex, ha, ht, bind, Except.bind, pure, Except.pure] at h
    | ok bc =>
      by_cases hcap : makeSliceCapOutOfRange storageMediumSize (wrapInt (n * 2)) = true
      · simp [findStorageControllerByIndex, ha, ht, findStorageMedia, hcap, bind, Except.bind, pure,
          Except.pure] at h
      · rw [Bool.not_eq_true] at hcap
        simp only [findStorageControllerByIndex, ha, ht, findStorageMedia, hcap, Bool.false_eq_true,
          if_false, bind, Except.bind, pure, Except.pure, Except.ok.injEq] at h
        subst h
        exact ⟨rfl, n, rfl, hcap, rfl⟩

theorem newStorageControllersStep_error {vmPropMap : PropMap} {ctrls : List StorageController}
    {i : Nat} {e : Failure} (h : newStorageControllersStep vmPropMap ctrls i = .error e) :
    ∃ name, vmPropMap ("storagecontrollername" ++ fmtUint 10 i) = some name ∧
      findStorageControllerByIndex name (fmtUint 10 i) vmPropMap = .error e := by
  dsimp only [newStorageControllersStep] at h
  split at h
  · cases h
  · next name hname =>
    cases hf : findStorageControllerByIndex name (fmtUint 10 i) vmPropMap with
    | error e' => rw [hf] at h; cases h; exact ⟨name, hname, hf⟩
    | ok sc => rw [hf] at h; cases h

theorem newStorageControllersStep_ok {vmPropMap : PropMap} {ctrls r : List StorageController}
    {i : Nat} (h : newStorageControllersStep vmPropMap ctrls i = .ok r) :
    r = ctrls ∨ ∃ name sc, vmPropMap ("storagecontrollername" ++ fmtUint 10 i) = some name ∧
      findStorageControllerByIndex name (fmtUint 10 i) vmPropMap = .ok sc ∧ r = ctrls ++ [sc] := by
  dsimp only [newStorageControllersStep] at h
  split at h
  · cases h; exact .inl rfl
  · next name hname =>
    cases hf : findStorageControllerByIndex name (fmtUint 10 i) vmPropMap with
    | error e => rw [hf] at h; cases h
    | ok sc => rw [hf] at h; cases h; exact .inr ⟨name, sc, hname, hf, rfl⟩

/-- Every controller the loop returns was read at one of its named indices. -/
theorem foldlM_newStorageControllersStep_mem (vmPropMap : PropMap) :
    ∀ (l : List Nat) (acc cs : List StorageController),
      l.foldlM (newStorageControllersStep vmPropMap) acc = .ok cs → ∀ sc ∈ cs, sc ∈ acc ∨
        ∃ i ∈ l, ∃ name, vmPropMap ("storagecontrollername" ++ fmtUint 10 i) = some name ∧
          findStorageControllerByIndex name (fmtUint 10 i) vmPropMap = .ok sc
  | [], acc, cs, h => by cases h; exact fun sc hsc => .inl hsc
  | i :: l, acc, cs, h => by
    rw [List.foldlM_cons] at h
    cases hs : newStorageControllersStep vmPropMap acc i with
    | error e => rw [hs] at h; cases h
    | ok r =>
      rw [hs] at h
      intro sc hsc
      rcases foldlM_newStorageControllersStep_mem vmPropMap l r cs h sc hsc with
        hr | ⟨j, hj, hrest⟩
      · rcases newStorageControllersStep_ok hs with rfl | ⟨name, sc', hname, hf, rfl⟩
        · exact .inl hr
        · rcases List.mem_append.1 hr with hacc | hsc'
          · exact .inl hacc
          · rw [List.mem_singleton.1 hsc']
            exact .inr ⟨i, List.mem_cons_self _ _, name, hname, hf⟩
      · exact .inr ⟨j, List.mem_cons_of_mem _ hj, hrest⟩

/-- **What a port count makes of the controllers.**  The call panics only in the allocation of
`findStorageMedia`, for a named controller whose port count parses to an integer of
`PortCountPanics`.  Every controller it returns was read at a named index whose port count parses
to an integer `n` with `Ports = n mod 2^64`: either `0 ≤ n ≤ 2^41`, and `Ports = n`, or
`n ≤ -2^63 + 2^41`, when the double wraps around to a small `int`, no port is walked, and `Ports`
is `n + 2^64`.  A named controller whose port count does not parse, or panics, leaves the call
without controllers. -/
theorem newStorageControllersFromProps_portCount (vmPropMap : PropMap) :
    (∀ p, newStorageControllersFromProps vmPropMap = .error (.panic p) →
      p = "runtime error: makeslice: cap out of range" ∧
      ∃ i < 8, (vmPropMap ("storagecontrollername" ++ fmtUint 10 i)).isSome ∧
        ∃ n, atoi ((vmPropMap ("storagecontrollerportcount" ++ fmtUint 10 i)).getD "") = .ok n ∧
          PortCountPanics n) ∧
    (∀ cs, newStorageControllersFromProps vmPropMap = .ok cs → ∀ sc ∈ cs,
      ∃ i < 8, vmPropMap ("storagecontrollername" ++ fmtUint 10 i) = some sc.name ∧
        ∃ n, atoi ((vmPropMap ("storagecontrollerportcount" ++ fmtUint 10 i)).getD "") = .ok n ∧
          (sc.ports.toNat : Int) = n % 2 ^ 64 ∧ ((0 ≤ n ∧ n ≤ 2 ^ 41) ∨ n ≤ -2 ^ 63 + 2 ^ 41)) ∧
    (∀ i < 8, (vmPropMap ("storagecontrollername" ++ fmtUint 10 i)).isSome →
      (IsErr (atoi ((vmPropMap ("storagecontrollerportcount" ++ fmtUint 10 i)).getD "")) ∨
        ∃ n, atoi ((vmPropMap ("storagecontrollerportcount" ++ fmtUint 10 i)).getD "") = .ok n ∧
          PortCountPanics n) →
      ∀ cs, newStorageControllersFromProps vmPropMap ≠ .ok cs) := by
  refine ⟨fun p hp => ?_, fun cs hcs sc hsc => ?_, fun i hi hs hbad cs => ?_⟩
  · -- a panic comes from the allocation of one controller
    obtain ⟨i, hi, ctrls, hstep⟩ := foldlM_eq_error hp
    obtain ⟨name, hname, hf⟩ := newStorageControllersStep_error hstep
    obtain ⟨rfl, n, ha, hcap⟩ := findStorageControllerByIndex_panic hf
    have hrange := atoi_range ha
    exact ⟨rfl, i, List.mem_range.1 hi, by simp [hname], n, ha,
      (makeSliceCapOutOfRange_double hrange.1 hrange.2).1 hcap⟩
  · -- a controller returned was read at a named index, past the allocation
    rcases foldlM_newStorageControllersStep_mem vmPropMap _ [] cs hcs sc hsc with
      h | ⟨i, hi, name, hname, hf⟩
    · cases h
    · obtain ⟨rfl, n, ha, hcap, hports⟩ := findStorageControllerByIndex_ok hf
      have hrange := atoi_range ha
      have hok := (makeSliceCapOutOfRange_double hrange.1 hrange.2).not.1 (by simp [hcap])
      refine ⟨i, List.mem_range.1 hi, hname, n, ha, by rw [hports, goUint_toNat_emod], ?_⟩
      unfold PortCountPanics at hok
      omega
  · -- a controller that cannot be read fails the loop
    refine foldlM_ne_ok (fun ctrls => ?_) (List.mem_range.2 hi) [] cs
    obtain ⟨name, hname⟩ := Option.isSome_iff_exists.1 hs
    cases hf : findStorageControllerByIndex name (fmtUint 10 i) vmPropMap with
    | error e => exact ⟨e, by simp [newStorageControllersStep, hname, hf, bind, Except.bind]⟩
    | ok sc =>
      obtain ⟨-, n, ha, hcap, -⟩ := findStorageControllerByIndex_ok hf
      have hrange := atoi_range ha
      rcases hbad with hbad | ⟨n', ha', hp⟩
      · rw [ha] at hbad
        exact hbad.elim
      · rw [ha] at ha'
        cases ha'
        have := (makeSliceCapOutOfRange_double hrange.1 hrange.2).2 hp
        simp [hcap] at this

/-- A negative port count panics, and the most negative one wraps around: `-1` makes the
allocation panic, and `-9223372036854775808`, whose double is `0` as an `int`, gives a controller
with `Ports = 2^63`. -/
theorem newStorageControllersFromProps_negativePortCount :
    newStorageControllersFromProps (fun k =>
      [("storagecontrollername0", "SATA"), ("storagecontrollertype0", "IntelAhci"),
        ("storagecontrollerportcount0", "-1")].lookup k) =
      .error (.panic "runtime error: makeslice: cap out of range") ∧
    newStorageControllersFromProps (fun k =>
      [("storagecontrollername0", "SATA"), ("storagecontrollertype0", "IntelAhci"),
        ("storagecontrollerportcount0", "-9223372036854775808")].lookup k) =
      .ok [⟨"SATA", .sata, 9223372036854775808, .intelAHCI, false, false, []⟩] :=
  ⟨rfl, rfl⟩

end Virtualbox
