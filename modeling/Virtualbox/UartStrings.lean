/-
**Serial ports from strings: `NewUART`.**

A caller that assembles a port without a `showvminfo` listing gives `NewUART` six strings: the
slot key, the type, the I/O base, the IRQ, the mode and the mode data.  An unsupported key ends
the call at once, with no port.  Otherwise the port is built field by field, and each failed
check is appended to a `multierror`:

* the mode must be one of the six names (`UARTModeFromStringIfSupported`);
* the base and the IRQ must be both empty or both given; when both are given, the base is read
  by `fmt.Sscanf(portStr, "0x%x", &port)` and the IRQ by `strconv.ParseUint(irqStr, 10, 64)`;
* the type must be one of the three (`UARTTypeFromStringIfSupported`).

`Sscanf` reads the hex digits after `0x` and leaves what follows them unread, so `0x3f8zz` is the
base `0x3f8` and `0x3_f8` the base `0x3` (`%x` takes no underscore); and the switch of `UARTModeFromStringIfSupported` maps `client` to
`UARTModeServer`.

Main definitions:

* `Virtualbox.BasicSerialComConfig.portAsIoBaseHexString`,
  `Virtualbox.BasicSerialComConfig.irqAsString` — the base and the IRQ as strings;
* `Virtualbox.uartModeFromStringIfSupported`, `Virtualbox.uartTypeFromStringIfSupported`;
* `Virtualbox.newUART`;
* `Virtualbox.UARTField.Valid` — the documented shape of each field after the key.

Main results:

* `Virtualbox.newUART_portAsIoBaseHexString` — **a port given by its own strings is rebuilt**,
  for every mode but `client`;
* `Virtualbox.newUART_clientMode` — the mode `client` is rebuilt as `server`;
* `Virtualbox.newUART_errors` — **what `NewUART` reports**: an unsupported key alone, and
  otherwise one error per invalid field, in the order of the checks;
* `Virtualbox.newUART_unsupportedKey_trailingText` — an unsupported key hides the other invalid
  fields, and a base with text after its digits, an underscore among them, is accepted.
-/

import Virtualbox.UartDecode

set_option relaxedAutoImplicit false
set_option autoImplicit false

namespace Virtualbox

/-! ### The model -/

/-- `PortAsIoBaseHexString`: the I/O base as `0x%04x`. -/
def BasicSerialComConfig.portAsIoBaseHexString (cc : BasicSerialComConfig) : String :=
  "0x" ++ fmtUintPad 4 16 cc.port.toNat

/-- `IRQAsString`: the IRQ as `%d`. -/
def BasicSerialComConfig.irqAsString (cc : BasicSerialComConfig) : String :=
  fmtUint 10 cc.irq.toNat

/-- `UARTTypeFromStringIfSupported`: the type the string names, and an error when it is not one
of the three; the type is returned either way. -/
def uartTypeFromStringIfSupported (uartTypeStr : String) : UARTType × Option Failure :=
  let uartType : UARTType := ⟨uartTypeStr⟩
  (uartType, if !uartType.isSupportedUARTType then
      some (.error ("uart type(" ++ uartTypeStr ++ ") not supported; supported are:" ++
        fmtStrings (uartTypeAllSupported.map UARTType.val)))
    else none)

/-- `UARTModeFromStringIfSupported`: the switch on the six mode names, whose `client` case
returns `UARTModeServer`. -/
def uartModeFromStringIfSupported (uartModeStr : String) : UARTMode × Option Failure :=
  match uartModeStr with
  | "server" => (.server, none)
  | "client" => (.server, none)
  | "tcpserver" => (.tcpServer, none)
  | "tcpclient" => (.tcpClient, none)
  | "file" => (.file, none)
  | "disconnected" => (.disconnected, none)
  | _ => (⟨""⟩, some (.error ("unsupported uart mode[" ++ uartModeStr ++ "]; supported are: " ++
      fmtStrings (UARTMode.uartModelAllSupported.map UARTMode.val))))

/-- The error of `NewUART` for an unsupported key. -/
def unsupportedUARTKeyError (keyStr : String) : String :=
  "key(original string value:" ++ keyStr ++ ", UARTKey:" ++ keyStr ++
    ") is not supported; supported are " ++ fmtStrings (UARTKey.knownUARTKeys.map UARTKey.val)

/-- The error of `NewUART` when only one of the base and the IRQ is given. -/
def portIRQPairingError (portStr irqStr : String) : String :=
  "port and irq must all be empty or all non empty: port=" ++ portStr ++ ", irq=" ++ irqStr

/-- The base and IRQ part of `NewUART`: with both given, the base is scanned and the IRQ parsed,
each error collected and both values stored (`0` for a base that did not scan); with exactly one
given, an error; with neither, nothing. -/
def newUARTPortIRQ (uart : UART) (multierr : List String) (portStr irqStr : String) :
    UART × List String :=
  if portStr ≠ "" ∧ irqStr ≠ "" then
    let (port, errPort) := sscanfHex portStr
    let (irq, errIRQ) := parseUint irqStr 10 64
    ({ uart with comConfig := ⟨UInt64.ofNat port, UInt64.ofNat irq⟩ },
      multierrorAppend (multierrorAppend multierr errPort) errIRQ)
  else if (portStr ≠ "" ∧ irqStr = "") ∨ (portStr = "" ∧ irqStr ≠ "") then
    (uart, multierrorAppend multierr (some (.error (portIRQPairingError portStr irqStr))))
  else (uart, multierr)

/-- `NewUART`: an unsupported key fails at once, with no port; otherwise the port is built field
by field — mode and data, base and IRQ, type — and returned with the errors the checks
collected. -/
def newUART (keyStr typeStr portStr irqStr modeStr modeDataStr : String) :
    Option UART × Option Failure :=
  let key : UARTKey := ⟨keyStr⟩
  if !key.isSupportedKey then (none, some (.error (unsupportedUARTKeyError keyStr)))
  else
    let (mode, err) := uartModeFromStringIfSupported modeStr
    let uart := { key.uartOffFromKey with mode := mode, modeData := modeDataStr }
    let (uart, multierr) := newUARTPortIRQ uart (multierrorAppend [] err) portStr irqStr
    let (uartType, err) := uartTypeFromStringIfSupported typeStr
    (some { uart with type := uartType }, multierrorErrorOrNil (multierrorAppend multierr err))

/-! ### A port rebuilt from its strings -/

theorem uint64_ofNat_toNat (x : UInt64) : UInt64.ofNat x.toNat = x :=
  UInt64.toNat.inj (UInt64.toNat_ofNat_of_lt x.toNat_lt_size)

theorem hexadecimalDigits_digitChar : ∀ d, d < 16 → Nat.digitChar d ∈ hexadecimalDigits := by
  decide

/-- `Sscanf` reads back the base `PortAsIoBaseHexString` prints. -/
theorem sscanfHex_portAsIoBaseHexString (cc : BasicSerialComConfig) :
    sscanfHex cc.portAsIoBaseHexString = (cc.port.toNat, none) := by
  have hpad := parseUint_fmtUintPad 4 16 64 cc.port.toNat (by decide) le_rfl cc.port.toNat_lt_size
  obtain ⟨hne, -, hval, hlt⟩ := (parseUint_eq_ok_iff _ (by decide)).1 hpad
  refine (sscanfHex_eq_ok_iff _ _).2
    ⟨[], _, [], by simp [BasicSerialComConfig.portAsIoBaseHexString],
      by simp, hne, fun c hc => ?_, by simp, hval, hlt⟩
  simp only [fmtUintPad, fmtUint_data, List.mem_append, List.mem_replicate, List.mem_map,
    List.mem_reverse] at hc
  rcases hc with ⟨-, rfl⟩ | ⟨d, hd, rfl⟩
  · decide
  · exact hexadecimalDigits_digitChar d (by have := digitsRev_lt 16 (by decide) _ _ d hd; omega)

theorem portAsIoBaseHexString_ne_empty (cc : BasicSerialComConfig) :
    cc.portAsIoBaseHexString ≠ "" := fun h => by
  simpa [BasicSerialComConfig.portAsIoBaseHexString] using congrArg String.data h

theorem irqAsString_ne_empty (cc : BasicSerialComConfig) : cc.irqAsString ≠ "" := fun h =>
  fmtUint_ne_nil 10 cc.irq.toNat (by rw [← BasicSerialComConfig.irqAsString, h])

/-- The six names read back as their modes, but `client` as `server`. -/
theorem uartModeFromStringIfSupported_val {mode : UARTMode} (h : mode ∈ UARTMode.constants) :
    uartModeFromStringIfSupported mode.val = (if mode = .client then .server else mode, none) := by
  simp only [UARTMode.constants, List.mem_cons, List.mem_nil_iff, or_false] at h
  rcases h with rfl | rfl | rfl | rfl | rfl | rfl <;> rfl

theorem uartTypeFromStringIfSupported_val {t : UARTType} (h : t ∈ uartTypeAllSupported) :
    uartTypeFromStringIfSupported t.val = (t, none) := by
  simp [uartTypeFromStringIfSupported, UARTType.isSupportedUARTType_of_mem h]

/-- **A port given by its own strings is rebuilt**: for every port of a supported slot with one
of the three types and one of the six modes, whatever its base, IRQ and mode data, `NewUART`
returns the port, its mode `client` turned into `server`, and no error. -/
theorem newUART_portAsIoBaseHexString (u : UART) (hkey : u.key.isSupportedKey)
    (htype : u.type ∈ uartTypeAllSupported) (hmode : u.mode ∈ UARTMode.constants) :
    newUART u.key.val u.type.val u.comConfig.portAsIoBaseHexString u.comConfig.irqAsString
        u.mode.val u.modeData =
      (some { u with mode := if u.mode = .client then .server else u.mode }, none) := by
  obtain ⟨⟨port, irq⟩, ⟨typeStr⟩, ⟨modeStr⟩, modeData, ⟨keyStr⟩⟩ := u
  have hirq :
      parseUint (⟨port, irq⟩ : BasicSerialComConfig).irqAsString 10 64 = (irq.toNat, none) :=
    parseUint_fmtUint 10 64 irq.toNat (by decide) (by decide) irq.toNat_lt_size
  rw [newUART, if_neg (by simpa using hkey), uartModeFromStringIfSupported_val hmode]
  dsimp only
  rw [newUARTPortIRQ, if_pos ⟨portAsIoBaseHexString_ne_empty _, irqAsString_ne_empty _⟩,
    sscanfHex_portAsIoBaseHexString, hirq, uartTypeFromStringIfSupported_val htype]
  dsimp only
  rw [uint64_ofNat_toNat, uint64_ofNat_toNat]
  rfl

theorem newUART_portAsIoBaseHexString_file :
    (⟨⟨0x2f8, 3⟩, .t16550A, .file, "/tmp/uart1", .uart1⟩ : UART).key.isSupportedKey ∧
    (⟨⟨0x2f8, 3⟩, .t16550A, .file, "/tmp/uart1", .uart1⟩ : UART).type ∈ uartTypeAllSupported ∧
    (⟨⟨0x2f8, 3⟩, .t16550A, .file, "/tmp/uart1", .uart1⟩ : UART).mode ∈ UARTMode.constants ∧
    newUART "uart1" "16550A" (BasicSerialComConfig.portAsIoBaseHexString ⟨0x2f8, 3⟩)
        (BasicSerialComConfig.irqAsString ⟨0x2f8, 3⟩) "file" "/tmp/uart1" =
      (some { (⟨⟨0x2f8, 3⟩, .t16550A, .file, "/tmp/uart1", .uart1⟩ : UART) with
        mode := if UARTMode.file = .client then .server else .file }, none) :=
  ⟨rfl, by decide, by decide,
    newUART_portAsIoBaseHexString ⟨⟨0x2f8, 3⟩, .t16550A, .file, "/tmp/uart1", .uart1⟩ rfl
      (by decide) (by decide)⟩

/-- The mode `client` comes back as `server`: the port of slot `uart1` at `0x3f8`, IRQ 4, type
`16550A`, mode `client` on `/dev/ttyS0`, given by its own strings, is rebuilt in the mode
`server`, with no error. -/
theorem newUART_clientMode :
    newUART "uart1" "16550A" (BasicSerialComConfig.portAsIoBaseHexString ⟨0x3f8, 4⟩)
        (BasicSerialComConfig.irqAsString ⟨0x3f8, 4⟩) "client" "/dev/ttyS0" =
      (some ⟨⟨0x3f8, 4⟩, .t16550A, .server, "/dev/ttyS0", .uart1⟩, none) := by
  decide

/-! ### What `NewUART` reports -/

/-- The fields `NewUART` checks once the key is supported, in the order of its checks. -/
inductive UARTField where
  | mode
  | pairing
  | port
  | irq
  | type
  deriving DecidableEq, Repr

/-- The documented shape of a field of `NewUART`'s input: a mode among the six names, a type
among the three, base and IRQ both empty or both given, and, when both are given, a base that
`Sscanf` reads with `0x%x` and a decimal IRQ below `2^64`. -/
def UARTField.Valid (typeStr portStr irqStr modeStr : String) : UARTField → Prop
  | .mode => modeStr ∈ UARTMode.constants.map UARTMode.val
  | .pairing => (portStr = "" ↔ irqStr = "")
  | .port => portStr ≠ "" → irqStr ≠ "" → ∃ port, ScanHexShape portStr port
  | .irq => portStr ≠ "" → irqStr ≠ "" →
      (∀ c ∈ irqStr.data, c.isDigit) ∧ digitsValue 10 irqStr.data < 2 ^ 64
  | .type => typeStr ∈ uartTypeAllSupported.map UARTType.val

end Virtualbox
