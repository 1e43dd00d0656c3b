/-
**Serial ports read back: `NewUARTs` and the other constructors of `UARTs`.**

`showvminfo --machinereadable` reports a serial port as three entries,

    uart2="0x02f8,3"   uartmode2="file,/tmp/ubuntu-focal-1"   uarttype2="16550A"

and `NewUARTs` rebuilds the four slots from them: a slot whose `uart<N>` is absent or `off` stays
off; otherwise the base and IRQ are parsed from the two pieces around the comma (the base after
skipping two bytes, `0x`), the mode from the two pieces of `uartmode<N>` around *its* comma, and
the type from `uarttype<N>`.  `NewUARTsAllOff` gives the four off slots, and
`NewUARTsFromUARTMap` overwrites them with the ports of a map keyed by slot.

The decoder inverts the encoding the package's tests use (`toVMInfoValueUARTn`) as long as the
mode data holds no comma: cutting `file,/tmp/a,b` at every comma gives three pieces, and the slot
is rejected.

Main definitions:

* `Virtualbox.BasicSerialComConfig.initFromVMInfoValue`,
  `Virtualbox.UART.initUARTModeFromVMInfoMap`,
  `Virtualbox.UART.initUARTTypeFromVMInfoMap` — the three readers of a slot;
* `Virtualbox.newUARTs`, `Virtualbox.newUARTsFromUARTMap`;
* `Virtualbox.uartVMInfo` — the three entries that report one port.

Main results:

* `Virtualbox.newUARTs_uartVMInfo` — **reading back a reported port** gives the port in its slot
  and the off ports elsewhere, for every port whose mode data holds no comma;
* `Virtualbox.newUARTs_commaInModeData` — a mode data with a comma is rejected;
* `Virtualbox.newUARTs_shortBase_missingPrefix` — a base shorter than two bytes panics, and one
  without `0x` loses its first two digits;
* `Virtualbox.newUARTs_keys`, `Virtualbox.newUARTsFromUARTMap_eq` — what each constructor puts in
  the four slots;
* `Virtualbox.uarts_slots` — the slot keys and the `--uart<N>` groups of the three constructors;
* `Virtualbox.newUARTsFromUARTMap_keyMismatch` — the map's value is stored as it is, whatever
  key it carries.
-/

import Virtualbox.PropMap
import Virtualbox.Uart

set_option relaxedAutoImplicit false
set_option autoImplicit false

namespace Virtualbox

/-! ### Reading one slot -/

/-- Go's `s[n:]` on the characters of `s`, for `n` at most the byte length: the characters after
the first `n` bytes when the cut falls between characters, `none` when it falls inside one (the
result then starts with a continuation byte, which no digit parser accepts). -/
def dropBytes : Nat → List Char → Option (List Char)
  | 0, s => some s
  | _ + 1, [] => none
  | n + 1, c :: s => if c.utf8Size ≤ n + 1 then dropBytes (n + 1 - c.utf8Size) s else none

/-- Go's `%s` of a `[]string`. -/
def fmtStrings (l : List String) : String := "[" ++ " ".intercalate l ++ "]"

/-- Go's `%v` of an `error` that may be nil. -/
def fmtError : Option Failure → String
  | none => "<nil>"
  | some (.error e) => e
  | some (.panic p) => p

/-- `initFromVMInfoValue`: split `<IO Base>,<IRQ>` at its commas; exactly two pieces are needed;
the base is parsed in hex from the third byte on (slicing a piece shorter than two bytes
panics), the IRQ in decimal on 32 bits.  When the third byte falls inside a character, Go parses
bytes that are no text; the error then quotes the whole piece. -/
def BasicSerialComConfig.initFromVMInfoValue (cc : BasicSerialComConfig) (vmInfoValue : String) :
    Except Failure BasicSerialComConfig :=
  match split vmInfoValue ',' with
  | [s0, s1] =>
    if byteLength s0.data < 2 then
      .error (.panic ("runtime error: slice bounds out of range [2:" ++
        fmtUint 10 (byteLength s0.data) ++ "]"))
    else
      let (ioBase, errIOBase) : Nat × Option Failure :=
        match dropBytes 2 s0.data with
        | some t => parseUint ⟨t⟩ 16 64
        | none => (0, some (.error (NumErr.errSyntax.text "ParseUint" s0)))
      let (irq, errIRQ) := parseUint s1 10 32
      if errIOBase.isSome ∨ errIRQ.isSome then
        .error (.error ("could not parse IRQ, <IO Base>: " ++ vmInfoValue ++ " | splits: " ++
          fmtStrings [s0, s1] ++ ":\n\t\t\t\t\t\terror for IO Base: " ++ fmtError errIOBase ++
          "\n\t\t\t\t\t\terror for IRQ= " ++ fmtError errIRQ))
      else .ok { cc with port := UInt64.ofNat ioBase, irq := UInt64.ofNat irq }
  | _ =>
    .error (.error ("bad format for the vm info value of uart<1-N>\n\t\t\t\texpected: " ++
      "<IO Base hex>,<IRQ>\n\t\t\t\tbut got : " ++ vmInfoValue))

/-- The modes the switch of `initUARTModeFromVMInfoMap` accepts, in its order. -/
def modeSwitch : List UARTMode :=
  [.client, .disconnected, .file, .server, .tcpClient, .tcpServer]

/-- `initUARTModeFromVMInfoMap`: an absent `uartmode<N>` leaves mode and data alone;
`disconnected` sets the mode; otherwise the value must cut at its commas into a known mode and
its data. -/
def UART.initUARTModeFromVMInfoMap (uart : UART) (vmPropMap : PropMap) : Except Failure UART := do
  let rank ← uart.key.toRank
  let modeName := "uartmode" ++ fmtUint 10 rank
  match vmPropMap modeName with
  | none => pure uart
  | some modeStrValue =>
    if UARTMode.disconnected.val = modeStrValue then pure { uart with mode := .disconnected }
    else
      match split modeStrValue ',' with
      | [m0, m1] =>
        if (⟨m0⟩ : UARTMode) ∈ modeSwitch then pure { uart with mode := ⟨m0⟩, modeData := m1 }
        else .error (.error ("unsupported mode: " ++ m0 ++ ", original vm info value:" ++
          modeStrValue))
      | _ =>
        .error (.error ("unsupported format (expetec is: unsupported |<mode>,<modevalue>) " ++
          "for uart mode: modename=" ++ modeName ++ " modevalue=" ++ modeStrValue ++
          ", uartkey=" ++ uart.key.val))

/-- `initUARTTypeFromVMInfoMap`: an absent `uarttype<N>` leaves the type alone; a present one
must be supported. -/
def UART.initUARTTypeFromVMInfoMap (uart : UART) (vmPropMap : PropMap) : Except Failure UART := do
  let rank ← uart.key.toRank
  match vmPropMap ("uarttype" ++ fmtUint 10 rank) with
  | none => pure uart
  | some typeValue =>
    if (⟨typeValue⟩ : UARTType).isSupportedUARTType then pure { uart with type := ⟨typeValue⟩ }
    else .error (.error ("UARTType not supported: " ++ typeValue ++
      ", supported are: [16450 16550A 16750]"))

/-- The body of the loop of `NewUARTs` for slot `i`. -/
def newUARTAt (vmPropMap : PropMap) (i : Nat) : Except Failure UART := do
  let key ← UARTKey.fromRank i
  let uart := key.uartOffFromKey
  match vmPropMap key.val with
  | some uartI =>
    if uartI ≠ "off" then
      let cc ← uart.comConfig.initFromVMInfoValue uartI
      let uart ← { uart with comConfig := cc }.initUARTModeFromVMInfoMap vmPropMap
      uart.initUARTTypeFromVMInfoMap vmPropMap
    else pure uart
  | none => pure uart

/-- `NewUARTs`: the four slots in order, the first failing slot failing the call. -/
def newUARTs (vmPropMap : PropMap) : Except Failure UARTs :=
  [1, 2, 3, 4].mapM (newUARTAt vmPropMap)

/-- The error `NewUARTsFromUARTMap` collects for an unsupported key. -/
def unsupportedKeyError (key : UARTKey) : String :=
  "cannot use UART with unsupported key: " ++ key.val ++ ", supported are:[uart1 uart2 uart3 uart4]"

/-- The body of the loop of `NewUARTsFromUARTMap`: a supported key's port replaces its slot; an
unsupported key adds an error. -/
def fromUARTMapStep (st : UARTs × List String) (entry : UARTKey × UART) :
    Except Failure (UARTs × List String) :=
  if !entry.1.isSupportedKey then pure (st.1, st.2 ++ [unsupportedKeyError entry.1])
  else do
    let rank ← entry.1.toRank
    pure (st.1.set (rank - 1) entry.2, st.2)

/-- `NewUARTsFromUARTMap`: the off slots overwritten by the map's ports.  A Go map is given as
its entries in the order `range` visits them, which Go leaves unspecified; the ports and the
collected errors are both returned. -/
def newUARTsFromUARTMap (uartMap : List (UARTKey × UART)) :
    Except Failure (UARTs × Option Failure) := do
  let st ← uartMap.foldlM fromUARTMapStep (newUARTsAllOff, [])
  pure (st.1, multierrorErrorOrNil st.2)

/-- `toVMInfoValueUARTn` (of the package's tests): `<IO Base hex>,<IRQ>` as `0x%04x,%d`. -/
def BasicSerialComConfig.toVMInfoValueUARTn (cc : BasicSerialComConfig) : String :=
  "0x" ++ fmtUintPad 4 16 cc.port.toNat ++ "," ++ fmtUint 10 cc.irq.toNat

/-- The `uartmode<N>` value that reports a port's mode: `disconnected`, or `<mode>,<data>`. -/
def UART.vmInfoMode (u : UART) : String :=
  if u.mode = .disconnected then "disconnected" else u.mode.val ++ "," ++ u.modeData

/-- The three entries that report port `u` in slot `n`: `uart<n>` from `toVMInfoValueUARTn`,
`uartmode<n>` from `vmInfoMode`, and `uarttype<n>`. -/
def uartVMInfo (u : UART) (n : Nat) : PropMap := fun k =>
  if k = "uart" ++ fmtUint 10 n then some u.comConfig.toVMInfoValueUARTn
  else if k = "uartmode" ++ fmtUint 10 n then some u.vmInfoMode
  else if k = "uarttype" ++ fmtUint 10 n then some u.type.val
  else none

/-! ### The keys of a slot -/

theorem digitChar_ne_comma : ∀ d, d < 16 → Nat.digitChar d ≠ ',' := by decide

/-- The name of slot `i` and a longer name of slot `n` differ: the character after `uart` is a
digit in the first and the first letter of the suffix in the second. -/
theorem uart_ne_uartSuffix (i n : Nat) (c : Char) (cs : List Char)
    (hc : ∀ d, d < 16 → Nat.digitChar d ≠ c) :
    "uart" ++ fmtUint 10 i ≠ ⟨"uart".data ++ c :: cs⟩ ++ fmtUint 10 n := by
  intro h
  have hdata := congrArg String.data h
  simp at hdata
  exact not_mem_fmtUint hc 10 i (by decide) (by decide) (by simp [hdata])

theorem uart_ne_uartmode (i n : Nat) : "uart" ++ fmtUint 10 i ≠ "uartmode" ++ fmtUint 10 n :=
  uart_ne_uartSuffix i n 'm' "ode".data (by decide)

theorem uart_ne_uarttype (i n : Nat) : "uart" ++ fmtUint 10 i ≠ "uarttype" ++ fmtUint 10 n :=
  uart_ne_uartSuffix i n 't' "ype".data (by decide)

theorem uarttype_ne_uartmode (i n : Nat) :
    "uarttype" ++ fmtUint 10 i ≠ "uartmode" ++ fmtUint 10 n := by
  intro h
  have := congrArg (fun s : String => s.data.get? 4) h
  simp at this

theorem toRank_uartN (n : Nat) (hn : 1 ≤ n ∧ n ≤ 4) :
    (⟨"uart" ++ fmtUint 10 n⟩ : UARTKey).toRank = .ok n := by
  rcases (by omega : n = 1 ∨ n = 2 ∨ n = 3 ∨ n = 4) with rfl | rfl | rfl | rfl <;> rfl

@[simp] theorem uartVMInfo_uart (u : UART) (n : Nat) :
    uartVMInfo u n ("uart" ++ fmtUint 10 n) = some u.comConfig.toVMInfoValueUARTn :=
  if_pos rfl

@[simp] theorem uartVMInfo_mode (u : UART) (n : Nat) :
    uartVMInfo u n ("uartmode" ++ fmtUint 10 n) = some u.vmInfoMode := by
  rw [uartVMInfo, if_neg (uart_ne_uartmode n n).symm, if_pos rfl]

@[simp] theorem uartVMInfo_type (u : UART) (n : Nat) :
    uartVMInfo u n ("uarttype" ++ fmtUint 10 n) = some u.type.val := by
  rw [uartVMInfo, if_neg (uart_ne_uarttype n n).symm, if_neg (uarttype_ne_uartmode n n), if_pos rfl]

/-- The entries of slot `n` say nothing of another slot. -/
theorem uartVMInfo_other (u : UART) {i n : Nat} (h : i ≠ n) :
    uartVMInfo u n ("uart" ++ fmtUint 10 i) = none := by
  have hi : "uart" ++ fmtUint 10 i ≠ "uart" ++ fmtUint 10 n := fun e =>
    h (fmtUint_injective (b := 10) (by decide) (by decide)
      (String.ext (by simpa using congrArg String.data e)))
  rw [uartVMInfo, if_neg hi, if_neg (uart_ne_uartmode i n), if_neg (uart_ne_uarttype i n)]

/-! ### Reading back one slot -/

theorem split_toVMInfoValueUARTn (cc : BasicSerialComConfig) :
    split cc.toVMInfoValueUARTn ',' =
      ["0x" ++ fmtUintPad 4 16 cc.port.toNat, fmtUint 10 cc.irq.toNat] := by
  have hhex : ',' ∉ ("0x" ++ fmtUintPad 4 16 cc.port.toNat).data := by
    simpa using not_mem_fmtUintPad digitChar_ne_comma 4 16 cc.port.toNat (by decide) le_rfl
  rw [BasicSerialComConfig.toVMInfoValueUARTn,
    show "0x" ++ fmtUintPad 4 16 cc.port.toNat ++ "," ++ fmtUint 10 cc.irq.toNat =
      ("0x" ++ fmtUintPad 4 16 cc.port.toNat) ++ ⟨[',']⟩ ++ fmtUint 10 cc.irq.toNat from rfl,
    split_append_sep _ _ _ hhex,
    split_of_not_mem _ _ (not_mem_fmtUint digitChar_ne_comma 10 _ (by decide) (by decide))]

/-- **The base and IRQ read back**, whatever the base, for an IRQ of 32 bits. -/
theorem initFromVMInfoValue_toVMInfoValueUARTn (d cc : BasicSerialComConfig)
    (hirq : cc.irq.toNat < 2 ^ 32) : d.initFromVMInfoValue cc.toVMInfoValueUARTn = .ok cc := by
  have hdata : ("0x" ++ fmtUintPad 4 16 cc.port.toNat).data =
      '0' :: 'x' :: (fmtUintPad 4 16 cc.port.toNat).data := rfl
  have hsize : '0'.utf8Size = 1 ∧ 'x'.utf8Size = 1 := ⟨rfl, rfl⟩
  have hlen : ¬ byteLength ("0x" ++ fmtUintPad 4 16 cc.port.toNat).data < 2 := by
    simp only [hdata, byteLength, List.map_cons, List.sum_cons, hsize]
    omega
  have hdrop : dropBytes 2 ("0x" ++ fmtUintPad 4 16 cc.port.toNat).data =
      some (fmtUintPad 4 16 cc.port.toNat).data := by
    rw [hdata]
    simp only [dropBytes, hsize, Nat.le_refl, Nat.reduceAdd, Nat.reduceLeDiff, if_true,
      Nat.sub_self]
  have hport : parseUint ⟨(fmtUintPad 4 16 cc.port.toNat).data⟩ 16 64 = (cc.port.toNat, none) :=
    parseUint_fmtUintPad 4 16 64 cc.port.toNat (by decide) le_rfl cc.port.toNat_lt_size
  have hirq' := parseUint_fmtUint 10 32 cc.irq.toNat (by decide) (by decide) hirq
  simp only [BasicSerialComConfig.initFromVMInfoValue, split_toVMInfoValueUARTn, if_neg hlen, hdrop,
    hport, hirq', Option.isSome_none, Bool.false_eq_true, or_self, if_false,
    UInt64.toNat.inj (UInt64.toNat_ofNat_of_lt cc.port.toNat_lt_size),
    UInt64.toNat.inj (UInt64.toNat_ofNat_of_lt cc.irq.toNat_lt_size)]

/-- A port that `NewUARTs` reads back from its report: a 32-bit IRQ, one of the three types and
of the six modes, no data for a disconnected port, and no comma in the mode data. -/
structure UART.Reportable (u : UART) : Prop where
  irq : u.comConfig.irq.toNat < 2 ^ 32
  type : u.type ∈ uartTypeAllSupported
  mode : u.mode ∈ UARTMode.constants
  disconnected : u.mode = .disconnected → u.modeData = ""
  comma : ',' ∉ u.modeData.data

theorem UARTMode.mem_modeSwitch {mode : UARTMode} (h : mode ∈ UARTMode.constants) :
    mode ∈ modeSwitch ∧ ',' ∉ mode.val.data := by
  simp only [UARTMode.constants, List.mem_cons, List.mem_nil_iff, or_false] at h
  rcases h with rfl | rfl | rfl | rfl | rfl | rfl <;> decide

theorem UARTType.isSupportedUARTType_of_mem {t : UARTType} (h : t ∈ uartTypeAllSupported) :
    t.isSupportedUARTType := by
  simp only [uartTypeAllSupported, List.mem_cons, List.mem_nil_iff, or_false] at h
  rcases h with rfl | rfl | rfl <;> rfl

/-- The mode and data read back from `vmInfoMode`. -/
theorem initUARTModeFromVMInfoMap_vmInfoMode (uart u : UART) (m : PropMap) (r : Nat)
    (hr : uart.key.toRank = .ok r) (hm : m ("uartmode" ++ fmtUint 10 r) = some u.vmInfoMode)
    (hu : u.Reportable) (hdata : uart.modeData = "") :
    uart.initUARTModeFromVMInfoMap m =
      .ok { uart with mode := u.mode, modeData := u.modeData } := by
  obtain ⟨hswitch, hmodeComma⟩ := UARTMode.mem_modeSwitch hu.mode
  by_cases hd : u.mode = .disconnected
  · simp [UART.initUARTModeFromVMInfoMap, hr, hm, UART.vmInfoMode, hd, hu.disconnected hd, hdata,
      UARTMode.disconnected, bind, Except.bind, pure, Except.pure]
  · have hne : UARTMode.disconnected.val ≠ u.mode.val ++ "," ++ u.modeData := fun h => by
      have := congrArg (fun s : String => ',' ∈ s.data) h
      simp [UARTMode.disconnected] at this
    have hsplit : split (u.mode.val ++ "," ++ u.modeData) ',' = [u.mode.val, u.modeData] :=
      (split_append_sep _ _ ',' hmodeComma).trans (by rw [split_of_not_mem _ _ hu.comma])
    simp [UART.initUARTModeFromVMInfoMap, hr, hm, UART.vmInfoMode, hd, hne, hsplit, hswitch,
      bind, Except.bind, pure, Except.pure]

/-- A supported type reads back. -/
theorem initUARTTypeFromVMInfoMap_of_mem (uart : UART) (m : PropMap) (r : Nat) (t : UARTType)
    (hr : uart.key.toRank = .ok r) (hm : m ("uarttype" ++ fmtUint 10 r) = some t.val)
    (ht : t ∈ uartTypeAllSupported) :
    uart.initUARTTypeFromVMInfoMap m = .ok { uart with type := t } := by
  simp [UART.initUARTTypeFromVMInfoMap, hr, hm, UARTType.isSupportedUARTType_of_mem ht, bind,
    Except.bind, pure, Except.pure]

theorem toVMInfoValueUARTn_ne_off (cc : BasicSerialComConfig) : cc.toVMInfoValueUARTn ≠ "off" := by
  intro h
  have := congrArg (fun s : String => s.data.head?) h
  simp [BasicSerialComConfig.toVMInfoValueUARTn] at this

/-- **A slot reported by the three entries of a port reads back as that port.** -/
theorem newUARTAt_reported (m : PropMap) (u : UART) (n : Nat) (hn : 1 ≤ n ∧ n ≤ 4)
    (hkey : u.key = ⟨"uart" ++ fmtUint 10 n⟩) (hu : u.Reportable)
    (h1 : m ("uart" ++ fmtUint 10 n) = some u.comConfig.toVMInfoValueUARTn)
    (h2 : m ("uartmode" ++ fmtUint 10 n) = some u.vmInfoMode)
    (h3 : m ("uarttype" ++ fmtUint 10 n) = some u.type.val) : newUARTAt m n = .ok u := by
  have hr := toRank_uartN n hn
  rw [newUARTAt, UARTKey.fromRank_eq n hn]
  dsimp only [bind, Except.bind]
  rw [h1]
  dsimp only
  rw [if_pos (toVMInfoValueUARTn_ne_off _), initFromVMInfoValue_toVMInfoValueUARTn _ _ hu.irq]
  dsimp only
  rw [initUARTModeFromVMInfoMap_vmInfoMode _ u m n hr h2 hu rfl]
  dsimp only
  rw [initUARTTypeFromVMInfoMap_of_mem _ m n u.type hr h3 hu.type, ← hkey]
  rfl

/-- A slot whose `uart<N>` is absent or `off` is the off port of the slot. -/
theorem newUARTAt_off (m : PropMap) (i : Nat) (hi : 1 ≤ i ∧ i ≤ 4)
    (h : m ("uart" ++ fmtUint 10 i) = none ∨ m ("uart" ++ fmtUint 10 i) = some "off") :
    newUARTAt m i = .ok (⟨"uart" ++ fmtUint 10 i⟩ : UARTKey).uartOffFromKey := by
  rcases h with h | h <;>
    simp [newUARTAt, UARTKey.fromRank_eq i hi, h, bind, Except.bind, pure, Except.pure]

/-- `NewUARTs` is the four slots read in order. -/
theorem newUARTs_of_slots (m : PropMap) (f : Nat → UART)
    (h : ∀ i, 1 ≤ i → i ≤ 4 → newUARTAt m i = .ok (f i)) :
    newUARTs m = .ok [f 1, f 2, f 3, f 4] := by
  rw [newUARTs, List.mapM_cons, List.mapM_cons, List.mapM_cons, List.mapM_cons, List.mapM_nil,
    h 1 (by decide) (by decide), h 2 (by decide) (by decide), h 3 (by decide) (by decide),
    h 4 (by decide) (by decide)]
  rfl

/-! ### Reading back a reported port -/

/-- **Reading back a reported port**: the report of a port in slot `n` reads back as the four
off ports with slot `n` replaced by the port. -/
theorem newUARTs_uartVMInfo (u : UART) (n : Nat) (hn : 1 ≤ n ∧ n ≤ 4)
    (hkey : u.key = ⟨"uart" ++ fmtUint 10 n⟩) (hu : u.Reportable) :
    newUARTs (uartVMInfo u n) = .ok (newUARTsAllOff.set (n - 1) u) := by
  have hslot : ∀ i, 1 ≤ i → i ≤ 4 → newUARTAt (uartVMInfo u n) i =
      .ok (if i = n then u else (⟨"uart" ++ fmtUint 10 i⟩ : UARTKey).uartOffFromKey) := by
    intro i h1 h4
    split
    · subst i
      exact newUARTAt_reported _ u n hn hkey hu (uartVMInfo_uart u n) (uartVMInfo_mode u n)
        (uartVMInfo_type u n)
    · next hne => exact newUARTAt_off _ i ⟨h1, h4⟩ (.inl (uartVMInfo_other u hne))
  rw [newUARTs_of_slots _ _ hslot]
  rcases (by omega : n = 1 ∨ n = 2 ∨ n = 3 ∨ n = 4) with rfl | rfl | rfl | rfl <;> rfl

theorem newUARTs_uartVMInfo_tcpClient :
    (1 ≤ 3 ∧ 3 ≤ 4) ∧
    (⟨⟨0x3e8, 4⟩, .t16550A, .tcpClient, "127.0.0.1:5555", .uart3⟩ : UART).key =
      ⟨"uart" ++ fmtUint 10 3⟩ ∧
    (⟨⟨0x3e8, 4⟩, .t16550A, .tcpClient, "127.0.0.1:5555", .uart3⟩ : UART).Reportable ∧
    newUARTs (uartVMInfo ⟨⟨0x3e8, 4⟩, .t16550A, .tcpClient, "127.0.0.1:5555", .uart3⟩ 3) =
      .ok (newUARTsAllOff.set (3 - 1)
        ⟨⟨0x3e8, 4⟩, .t16550A, .tcpClient, "127.0.0.1:5555", .uart3⟩) :=
  have hu : (⟨⟨0x3e8, 4⟩, .t16550A, .tcpClient, "127.0.0.1:5555", .uart3⟩ : UART).Reportable :=
    ⟨by decide, by decide, by decide, by decide, by decide⟩
  ⟨by decide, rfl, hu, newUARTs_uartVMInfo _ 3 (by decide) rfl hu⟩

/-- A file path with a comma is cut in three at the commas of `uartmode1`, and the port is
rejected. -/
theorem newUARTs_commaInModeData :
    newUARTs (uartVMInfo ⟨⟨0x3f8, 4⟩, .t16550A, .file, "a,b", .uart1⟩ 1) =
      .error (.error ("unsupported format (expetec is: unsupported |<mode>,<modevalue>) " ++
        "for uart mode: modename=uartmode1 modevalue=file,a,b, uartkey=uart1")) := by
  rfl

/-- A base too short to skip `0x` panics, and a base without `0x` is read anyway: `uart1="1,4"`
makes `NewUARTs` panic on `splits[0][2:]`, and `uart1="ab10,4"` is read as the base `0x10`, with
no error. -/
theorem newUARTs_shortBase_missingPrefix :
    newUARTs (fun k => if k = "uart1" then some "1,4" else none) =
      .error (.panic "runtime error: slice bounds out of range [2:1]") ∧
    newUARTs (fun k => if k = "uart1" then some "ab10,4" else none) =
      .ok [⟨⟨0x10, 4⟩, ⟨""⟩, ⟨""⟩, "", .uart1⟩, UARTKey.uart2.uartOffFromKey,
        UARTKey.uart3.uartOffFromKey, UARTKey.uart4.uartOffFromKey] :=
  ⟨rfl, rfl⟩

/-! ### The slots of the constructors -/

theorem UART.initUARTModeFromVMInfoMap_key {uart u : UART} {m : PropMap}
    (h : uart.initUARTModeFromVMInfoMap m = .ok u) : u.key = uart.key := by
  simp only [UART.initUARTModeFromVMInfoMap, bind, Except.bind] at h
  split at h
  · cases h
  · repeat' split at h
    all_goals first | cases h; rfl | cases h

theorem UART.initUARTTypeFromVMInfoMap_key {uart u : UART} {m : PropMap}
    (h : uart.initUARTTypeFromVMInfoMap m = .ok u) : u.key = uart.key := by
  simp only [UART.initUARTTypeFromVMInfoMap, bind, Except.bind] at h
  split at h
  · cases h
  · repeat' split at h
    all_goals first | cases h; rfl | cases h

/-- Reading a slot keeps the slot's key. -/
theorem newUARTAt_key {m : PropMap} {i : Nat} {u : UART} (h : newUARTAt m i = .ok u) :
    UARTKey.fromRank i = .ok u.key := by
  simp only [newUARTAt, bind_eq_ok] at h
  obtain ⟨key, hk, h⟩ := h
  rw [hk]
  split at h
  · split at h
    · simp only [bind_eq_ok] at h
      obtain ⟨cc, -, u1, h1, h2⟩ := h
      rw [UART.initUARTTypeFromVMInfoMap_key h2, UART.initUARTModeFromVMInfoMap_key h1]
      rfl
    · cases h; rfl
  · cases h; rfl

/-- The keys `NewUARTs` gives its four ports: `uart1` to `uart4`, in order. -/
theorem newUARTs_keys {m : PropMap} {us : UARTs} (h : newUARTs m = .ok us) :
    us.map UART.key = UARTKey.knownUARTKeys := by
  have hk : ∀ i u, newUARTAt m i = .ok u → 1 ≤ i ∧ i ≤ 4 → u.key = ⟨"uart" ++ fmtUint 10 i⟩ := by
    intro i u h hi
    have := newUARTAt_key h
    rw [UARTKey.fromRank_eq i hi] at this
    injection this with this
    exact this.symm
  rcases mapM_forall₂ h with _ | ⟨h1, _ | ⟨h2, _ | ⟨h3, _ | ⟨h4, _ | _⟩⟩⟩⟩
  rw [List.map_cons, List.map_cons, List.map_cons, List.map_cons, List.map_nil,
    hk _ _ h1 (by decide), hk _ _ h2 (by decide), hk _ _ h3 (by decide), hk _ _ h4 (by decide)]
  rfl

/-- The ports `NewUARTsFromUARTMap` returns for a map given by its entries: in slot `i`, the port
of the last entry for `uart<i>`, as it is, or else the off port of the slot. -/
def mapSlots (uartMap : List (UARTKey × UART)) : UARTs :=
  UARTKey.knownUARTKeys.map fun k => (uartMap.reverse.lookup k).getD k.uartOffFromKey

theorem UARTKey.isSupportedKey_iff_mem {k : UARTKey} : k.isSupportedKey ↔ k ∈ knownUARTKeys := by
  simp [isSupportedKey, knownUARTKeys, or_assoc]

theorem UARTKey.beq_eq (a b : UARTKey) : (a == b) = decide (a = b) := rfl

/-- One pass of the loop of `NewUARTsFromUARTMap` adds its entry to the slots, and its error when
the key is not supported. -/
theorem fromUARTMapStep_mapSlots (pre : List (UARTKey × UART)) (errs : List String)
    (e : UARTKey × UART) :
    fromUARTMapStep (mapSlots pre, errs) e =
      .ok (mapSlots (pre ++ [e]),
        errs ++ if e.1.isSupportedKey then [] else [unsupportedKeyError e.1]) := by
  obtain ⟨k, u⟩ := e
  by_cases hk : k.isSupportedKey
  · have hmem := UARTKey.isSupportedKey_iff_mem.1 hk
    simp only [UARTKey.knownUARTKeys, List.mem_cons, List.mem_nil_iff, or_false] at hmem
    rcases hmem with rfl | rfl | rfl | rfl <;>
      simp +decide [fromUARTMapStep, mapSlots, UARTKey.knownUARTKeys, UARTKey.toRank,
        List.lookup_cons, UARTKey.beq_eq, bind, Except.bind, pure, Except.pure]
  · have hslots : mapSlots (pre ++ [(k, u)]) = mapSlots pre := by
      refine List.map_congr_left fun k' hk' => ?_
      have hne : k' ≠ k := fun e => hk (UARTKey.isSupportedKey_iff_mem.2 (e ▸ hk'))
      simp [List.lookup_cons, UARTKey.beq_eq, hne]
    simp [fromUARTMapStep, hk, hslots, pure, Except.pure]

/-- The whole loop of `NewUARTsFromUARTMap`, from the slots of the entries already seen. -/
theorem foldlM_fromUARTMapStep (um pre : List (UARTKey × UART)) (errs : List String) :
    um.foldlM fromUARTMapStep (mapSlots pre, errs) =
      .ok (mapSlots (pre ++ um),
        errs ++ (um.filter fun e => !e.1.isSupportedKey).map fun e => unsupportedKeyError e.1) := by
  induction um generalizing pre errs with
  | nil => simp [pure, Except.pure]
  | cons e um ih =>
    rw [List.foldlM_cons, fromUARTMapStep_mapSlots]
    refine (ih _ _).trans ?_
    by_cases hk : e.1.isSupportedKey <;> simp [hk, List.filter_cons]

/-- **`NewUARTsFromUARTMap` never fails**: it returns the slots of the map, and an error exactly
when some key is not supported. -/
theorem newUARTsFromUARTMap_eq (um : List (UARTKey × UART)) :
    newUARTsFromUARTMap um = .ok (mapSlots um,
      multierrorErrorOrNil
        ((um.filter fun e => !e.1.isSupportedKey).map fun e => unsupportedKeyError e.1)) := by
  have h := foldlM_fromUARTMapStep um [] []
  simp only [List.nil_append] at h
  simp only [newUARTsFromUARTMap, show newUARTsAllOff = mapSlots [] from rfl, h, bind, Except.bind,
    pure, Except.pure]

/-- When each port of the map carries its map key, the slots carry `uart1` to `uart4`. -/
theorem mapSlots_keys (um : List (UARTKey × UART))
    (h : ∀ p ∈ um, p.1.isSupportedKey → p.2.key = p.1) :
    (mapSlots um).map UART.key = UARTKey.knownUARTKeys := by
  rw [mapSlots, List.map_map]
  conv_rhs => rw [← List.map_id UARTKey.knownUARTKeys]
  refine List.map_congr_left fun k hk => ?_
  simp only [Function.comp, id]
  cases hl : um.reverse.lookup k with
  | none => rfl
  | some u =>
    obtain ⟨l₁, l₂, hl', -⟩ := List.lookup_eq_some_iff.1 hl
    have hmem : (k, u) ∈ um :=
      List.mem_reverse.1 (hl' ▸ List.mem_append_right _ (List.mem_cons_self _ _))
    exact h _ hmem (UARTKey.isSupportedKey_iff_mem.2 hk)

/-- **The slots of the three constructors.** `NewUARTsAllOff` and `NewUARTs` give the keys `uart1`
to `uart4` in order.  `NewUARTsFromUARTMap` never fails: it gives the map's slots, with an error
exactly when a key is unsupported, and the slots carry `uart1` to `uart4` when each port carries
its map key.  Four ports of `uart1` to `uart4`, in order, give four parameter groups led by
`--uart1` to `--uart4`. -/
theorem uarts_slots :
    newUARTsAllOff.map UART.key = UARTKey.knownUARTKeys ∧
    (∀ m us, newUARTs m = .ok us → us.map UART.key = UARTKey.knownUARTKeys) ∧
    (∀ um, ∃ e, newUARTsFromUARTMap um = .ok (mapSlots um, e) ∧
      (e = none ↔ ∀ p ∈ um, p.1.isSupportedKey)) ∧
    (∀ um : List (UARTKey × UART), (∀ p ∈ um, p.1.isSupportedKey → p.2.key = p.1) →
      (mapSlots um).map UART.key = UARTKey.knownUARTKeys) ∧
    ∀ us : UARTs, us.map UART.key = UARTKey.knownUARTKeys →
      ∃ gs : List (List String), modifyVMCommandParameters us = .ok gs.flatten ∧
        gs.map List.head? = UARTKey.knownUARTKeys.map fun k => some ("--" ++ k.val) := by
  refine ⟨rfl, fun m us h => newUARTs_keys h, fun um => ⟨_, newUARTsFromUARTMap_eq um, ?_⟩,
    mapSlots_keys, fun us hus => ?_⟩
  · simp [multierrorErrorOrNil_eq_none]
  · have hsup : ∀ u ∈ us, u.key.isSupportedKey := fun u hu =>
      UARTKey.isSupportedKey_iff_mem.2 (hus ▸ List.mem_map_of_mem _ hu)
    obtain ⟨gs, hgs, hheads⟩ := modifyVMCommandParameters_groups us hsup
    refine ⟨gs, hgs, ?_⟩
    rw [hheads, ← hus, List.map_map]
    rfl

/-- A port stored under another slot's key keeps its own key: the map `uart1 ↦ (off port of
uart2)` gives the keys `uart2, uart2, uart3, uart4`, with no error, and the parameters name
`--uart2` twice and `--uart1` never. -/
theorem newUARTsFromUARTMap_keyMismatch :
    newUARTsFromUARTMap [(UARTKey.uart1, UARTKey.uart2.uartOffFromKey)] =
        .ok ([UARTKey.uart2, .uart2, .uart3, .uart4].map UARTKey.uartOffFromKey, none) ∧
      modifyVMCommandParameters
          ([UARTKey.uart2, .uart2, .uart3, .uart4].map UARTKey.uartOffFromKey) =
        .ok ["--uart2", "off", "--uart2", "off", "--uart3", "off", "--uart4", "off"] :=
  ⟨rfl, rfl⟩

end Virtualbox
