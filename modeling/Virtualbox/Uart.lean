/-
**Serial ports: the model of `uart.go` and the `modifyvm` arguments it writes.**

A virtual machine has four serial-port slots, `uart1` to `uart4`.  A `UART` holds the slot's key,
an I/O base and IRQ pair (the zero pair meaning the port is off), an emulated chip type, a
connection mode and the mode's data (a file, a pipe, a `host:port`).  `ModifyVMCommandParameters`
turns a list of ports into the arguments of `VBoxManage modifyvm`:

    --uart<N> off
    --uart<N> 0x%04x %d  --uartmode<N> <mode> [<data>]  --uarttype<N> <type>

`commandParameters` builds each argument as a name and a value and then cuts the value at every
space, which is how the base and the IRQ become two tokens — and also what happens to the mode
data.

Main definitions:

* `Virtualbox.UARTKey`, `Virtualbox.UARTType`, `Virtualbox.UARTMode`, `Virtualbox.UART`;
* `Virtualbox.UART.commandParameters`, `Virtualbox.modifyVMCommandParameters`;
* `Virtualbox.newUARTsAllOff`;
* `Virtualbox.UARTs.withoutUARTHavingStateOff` — the in-place removal of the off ports.

Main results:

* `Virtualbox.UART.commandParameters_eq` — the tokens of one supported port: `--uart<r> off` for
  an off port, and otherwise the base, the IRQ, the mode, **the mode data cut at its spaces**, and
  the type;
* `Virtualbox.modifyVMCommandParameters_eq` — the tokens of a list of ports, in order;
* `Virtualbox.modifyVMCommandParameters_spaceInModeData` — a file path with a space becomes two
  tokens;
* `Virtualbox.UARTs.withoutUARTHavingStateOff_filter` — **the removal keeps exactly the ports
  that are not off, in order**, through the invariant of its compaction loop.
-/

import Virtualbox.Go

set_option relaxedAutoImplicit false
set_option autoImplicit false

namespace Virtualbox

/-! ### Keys, types and modes -/

/-- `UARTKey`: the key of a serial port.  Go's type is a string, so any text is a key; the four
supported ones are `uart1` to `uart4`. -/
structure UARTKey where
  val : String
  deriving DecidableEq, Repr

namespace UARTKey

/-- `UART1`. -/
def uart1 : UARTKey := ⟨"uart1"⟩
/-- `UART2`. -/
def uart2 : UARTKey := ⟨"uart2"⟩
/-- `UART3`. -/
def uart3 : UARTKey := ⟨"uart3"⟩
/-- `UART4`. -/
def uart4 : UARTKey := ⟨"uart4"⟩

/-- `KnownUARTKeys`. -/
def knownUARTKeys : List UARTKey := [uart1, uart2, uart3, uart4]

/-- `IsSupportedKey`. -/
def isSupportedKey (key : UARTKey) : Bool :=
  key = uart1 || key = uart2 || key = uart3 || key = uart4

/-- `ToRank`: the slot number of a supported key; any other key panics. -/
def toRank (key : UARTKey) : Except Failure Nat :=
  if key = uart1 then .ok 1
  else if key = uart2 then .ok 2
  else if key = uart3 then .ok 3
  else if key = uart4 then .ok 4
  else .error (.panic ("unknown uartkey: " ++ key.val ++
    " (Known are [uart1 uart2 uart3 uart4])"))

/-- `UARTKeyFromRank`. -/
def fromRank (rank : Nat) : Except Failure UARTKey :=
  if rank = 1 then .ok uart1
  else if rank = 2 then .ok uart2
  else if rank = 3 then .ok uart3
  else if rank = 4 then .ok uart4
  else .error (.error ("rank (" ++ fmtUint 10 rank ++ ") not allowed. Valid values are 1,2,3,4"))

/-- The key of slot `n`, for `n` from 1 to 4: `uart` followed by the number. -/
theorem fromRank_eq (n : Nat) (h : 1 ≤ n ∧ n ≤ 4) :
    fromRank n = .ok ⟨"uart" ++ fmtUint 10 n⟩ := by
  rcases (by omega : n = 1 ∨ n = 2 ∨ n = 3 ∨ n = 4) with rfl | rfl | rfl | rfl <;> rfl

theorem toRank_of_supported {key : UARTKey} (h : key.isSupportedKey) :
    ∃ r, key.toRank = .ok r ∧ 1 ≤ r ∧ r ≤ 4 ∧ key = ⟨"uart" ++ fmtUint 10 r⟩ := by
  simp only [isSupportedKey, Bool.or_eq_true, decide_eq_true_eq] at h
  rcases h with ((rfl | rfl) | rfl) | rfl <;> exact ⟨_, rfl, by decide, by decide, rfl⟩

end UARTKey

/-- `UARTType`: the emulated chip, a string in Go. -/
structure UARTType where
  val : String
  deriving DecidableEq, Repr

/-- `UARTT16450`, `UARTT16550A` and `UARTT16750`. -/
def UARTType.t16450 : UARTType := ⟨"16450"⟩
@[inherit_doc UARTType.t16450] def UARTType.t16550A : UARTType := ⟨"16550A"⟩
@[inherit_doc UARTType.t16450] def UARTType.t16750 : UARTType := ⟨"16750"⟩

/-- `UARTTypeAllSupported`. -/
def uartTypeAllSupported : List UARTType := [.t16450, .t16550A, .t16750]

/-- `IsSupportedUARTType`. -/
def UARTType.isSupportedUARTType (t : UARTType) : Bool :=
  t = .t16450 || t = .t16550A || t = .t16750

/-- `UARTMode`: how the port is connected, a string in Go. -/
structure UARTMode where
  val : String
  deriving DecidableEq, Repr

namespace UARTMode

/-- `UARTModeServer`. -/
def server : UARTMode := ⟨"server"⟩
/-- `UARTModeClient`. -/
def client : UARTMode := ⟨"client"⟩
/-- `UARTModeTCPServer`. -/
def tcpServer : UARTMode := ⟨"tcpserver"⟩
/-- `UARTModeTCPClient`. -/
def tcpClient : UARTMode := ⟨"tcpclient"⟩
/-- `UARTModeFile`. -/
def file : UARTMode := ⟨"file"⟩
/-- `UARTModeDisconnected`. -/
def disconnected : UARTMode := ⟨"disconnected"⟩

/-- The six mode constants of `uart.go`. -/
def constants : List UARTMode := [server, client, tcpServer, tcpClient, file, disconnected]

/-- `UARTModelAllSupported`, as the source lists it: `server` twice, and no `tcpserver`. -/
def uartModelAllSupported : List UARTMode := [server, client, tcpClient, server, file, disconnected]

end UARTMode

/-! ### Ports -/

/-- `BasicSerialComConfig`: the I/O base (`Port`) and the IRQ, Go `uint`s. -/
structure BasicSerialComConfig where
  port : UInt64
  irq : UInt64
  deriving DecidableEq, Repr

/-- Go's zero `BasicSerialComConfig`. -/
def BasicSerialComConfig.zero : BasicSerialComConfig := ⟨0, 0⟩

/-- `UART`: one serial port. -/
structure UART where
  comConfig : BasicSerialComConfig
  type : UARTType
  mode : UARTMode
  modeData : String
  key : UARTKey
  deriving DecidableEq, Repr

/-- `UARTs`. -/
abbrev UARTs := List UART

/-- `UARTOffFromKey`: the zero port of a slot. -/
def UARTKey.uartOffFromKey (key : UARTKey) : UART :=
  ⟨.zero, ⟨""⟩, ⟨""⟩, "", key⟩

/-- `IsOff`: the I/O base and IRQ are both zero. -/
def UART.isOff (uart : UART) : Bool := uart.comConfig = .zero

/-! ### Arguments -/

/-- `commandParameterUartN`: `--uart<N>` with `off`, or with the base in four hex digits and the
IRQ in decimal, separated by a space. -/
def UART.commandParameterUartN (uart : UART) : Except Failure (String × String) := do
  let rank ← uart.key.toRank
  if uart.isOff then pure ("--uart" ++ fmtUint 10 rank, "off")
  else pure ("--uart" ++ fmtUint 10 rank, "0x" ++ fmtUintPad 4 16 uart.comConfig.port.toNat ++
    " " ++ fmtUint 10 uart.comConfig.irq.toNat)

/-- `commandParameterUARTModeN`: nothing for an off port, `--uartmode<N> disconnected`, or the
mode and its data separated by a space. -/
def UART.commandParameterUARTModeN (uart : UART) : Except Failure (String × String) := do
  if uart.isOff then pure ("", "")
  else
    let rank ← uart.key.toRank
    if uart.mode = .disconnected then pure ("--uartmode" ++ fmtUint 10 rank, "disconnected")
    else pure ("--uartmode" ++ fmtUint 10 rank, uart.mode.val ++ " " ++ uart.modeData)

/-- `commandParameterUARTTypeN`: nothing for an off port, else `--uarttype<N> <type>`. -/
def UART.commandParameterUARTTypeN (uart : UART) : Except Failure (String × String) := do
  if uart.isOff then pure ("", "")
  else
    let rank ← uart.key.toRank
    pure ("--uarttype" ++ fmtUint 10 rank, uart.type.val)

/-- The body of the loop of `commandParameters`: a named parameter contributes its name and the
pieces of its value between spaces. -/
def appendCommand (commands : List String) (nameValue : String × String) : List String :=
  if nameValue.1 = "" then commands else commands ++ nameValue.1 :: split nameValue.2 ' '

/-- `commandParameters`: `validate` accepts every port; the three parameter functions are run in
order, each name followed by its value cut at spaces. -/
def UART.commandParameters (uart : UART) : Except Failure (List String) := do
  let commandFuncs := [uart.commandParameterUartN, uart.commandParameterUARTModeN,
    uart.commandParameterUARTTypeN]
  commandFuncs.foldlM (fun commands commandFunc => do
    let nameValue ← commandFunc
    pure (appendCommand commands nameValue)) []

/-- `ModifyVMCommandParameters`: the parameters of every port, in list order. -/
def modifyVMCommandParameters (uarts : UARTs) : Except Failure (List String) :=
  uarts.foldlM (fun cmdParams uartn => do
    let cmdParamsUARTn ← uartn.commandParameters
    pure (cmdParams ++ cmdParamsUARTn)) []

/-- `NewUARTsAllOff`: the four off ports, in slot order. -/
def newUARTsAllOff : UARTs :=
  [UARTKey.uart1.uartOffFromKey, UARTKey.uart2.uartOffFromKey, UARTKey.uart3.uartOffFromKey,
    UARTKey.uart4.uartOffFromKey]

/-! ### The tokens of a port -/

/-- The rank `ToRank` gives a key, `0` where it panics. -/
def UARTKey.rank (key : UARTKey) : Nat :=
  match key.toRank with
  | .ok r => r
  | .error _ => 0

/-- The tokens of one port of slot `r`, as the code writes them: `--uart<r> off` for an off
port; otherwise the base, the IRQ, the mode, the pieces of the mode data between its spaces
(none for `disconnected`), and the type. -/
def UART.params (uart : UART) (r : Nat) : List String :=
  if uart.isOff then ["--uart" ++ fmtUint 10 r, "off"]
  else ["--uart" ++ fmtUint 10 r, "0x" ++ fmtUintPad 4 16 uart.comConfig.port.toNat,
      fmtUint 10 uart.comConfig.irq.toNat, "--uartmode" ++ fmtUint 10 r, uart.mode.val] ++
    (if uart.mode = .disconnected then [] else split uart.modeData ' ') ++
    ["--uarttype" ++ fmtUint 10 r, uart.type.val]

/-- A port of a supported slot that, unless it is off, has one of the three types and one of
the six modes. -/
structure UART.Valid (uart : UART) : Prop where
  key : uart.key.isSupportedKey
  type : uart.isOff = false → uart.type ∈ uartTypeAllSupported
  mode : uart.isOff = false → uart.mode ∈ UARTMode.constants

theorem name_ne_empty (pre : String) (r : Nat) (h : pre.data ≠ []) : pre ++ fmtUint 10 r ≠ "" := by
  intro e
  have := congrArg String.data e
  simp [h] at this

theorem digitChar_ne_space : ∀ d, d < 16 → Nat.digitChar d ≠ ' ' := by decide

theorem split_hexIrq (port irq : Nat) :
    split ("0x" ++ fmtUintPad 4 16 port ++ " " ++ fmtUint 10 irq) ' ' =
      ["0x" ++ fmtUintPad 4 16 port, fmtUint 10 irq] := by
  have hhex : ' ' ∉ ("0x" ++ fmtUintPad 4 16 port).data := by
    simpa using not_mem_fmtUintPad digitChar_ne_space 4 16 port (by decide) le_rfl
  rw [show ("0x" ++ fmtUintPad 4 16 port ++ " " ++ fmtUint 10 irq) =
      ("0x" ++ fmtUintPad 4 16 port) ++ ⟨[' ']⟩ ++ fmtUint 10 irq from rfl,
    split_append_sep _ _ _ hhex,
    split_of_not_mem _ _ (not_mem_fmtUint digitChar_ne_space 10 irq (by decide) (by decide))]

theorem split_append_space (a b : String) (h : ' ' ∉ a.data) :
    split (a ++ " " ++ b) ' ' = a :: split b ' ' :=
  split_append_sep a b ' ' h

/-- **The tokens of one port.** -/
theorem UART.commandParameters_eq (uart : UART) (h : uart.Valid) :
    uart.commandParameters = .ok (uart.params uart.key.rank) := by
  obtain ⟨r, hr, -, -, -⟩ := UARTKey.toRank_of_supported h.key
  have hrank : uart.key.rank = r := by simp [UARTKey.rank, hr]
  have hn : ∀ pre : String, pre.data ≠ [] → pre ++ fmtUint 10 r ≠ "" := fun pre h =>
    name_ne_empty pre r h
  rw [hrank]
  by_cases hoff : uart.isOff
  · simp [UART.commandParameters, UART.commandParameterUartN, UART.commandParameterUARTModeN,
      UART.commandParameterUARTTypeN, hr, hoff, List.foldlM, appendCommand, UART.params, bind,
      Except.bind, pure, Except.pure, hn "--uart" (by decide)]
    rfl
  have hmode : ' ' ∉ uart.mode.val.data := by
    have := h.mode (by simpa using hoff)
    simp only [UARTMode.constants, List.mem_cons, List.mem_nil_iff, or_false] at this
    rcases this with h | h | h | h | h | h <;> rw [h] <;> decide
  have htype : ' ' ∉ uart.type.val.data := by
    have := h.type (by simpa using hoff)
    simp only [uartTypeAllSupported, List.mem_cons, List.mem_nil_iff, or_false] at this
    rcases this with h | h | h <;> rw [h] <;> decide
  have hsplit_type := split_of_not_mem _ _ htype
  have hsplit_mode := split_append_space uart.mode.val uart.modeData hmode
  by_cases hd : uart.mode = .disconnected <;>
    simp [split_hexIrq, hsplit_type, hsplit_mode, UART.commandParameters,
      UART.commandParameterUartN, UART.commandParameterUARTModeN, UART.commandParameterUARTTypeN,
      hr, hoff, hd, List.foldlM, appendCommand, UART.params, bind, Except.bind, pure, Except.pure,
      hn "--uart" (by decide), hn "--uartmode" (by decide), hn "--uarttype" (by decide)]
  rfl

theorem foldlM_commandParameters (us : UARTs) (g : UART → List String)
    (h : ∀ u ∈ us, u.commandParameters = .ok (g u)) (acc : List String) :
    us.foldlM (fun cmdParams (uartn : UART) => do
        let cmdParamsUARTn ← uartn.commandParameters
        pure (cmdParams ++ cmdParamsUARTn)) acc = .ok (acc ++ us.flatMap g) := by
  induction us generalizing acc with
  | nil => simp [pure, Except.pure]
  | cons u us ih =>
    rw [List.foldlM_cons, h u (List.mem_cons_self _ _)]
    exact (ih (fun u' hu' => h u' (List.mem_cons_of_mem _ hu')) _).trans (by simp)

/-- When every port's parameters are built, the list's are their concatenation in list order. -/
theorem modifyVMCommandParameters_of_ok (us : UARTs) (g : UART → List String)
    (h : ∀ u ∈ us, u.commandParameters = .ok (g u)) :
    modifyVMCommandParameters us = .ok (us.flatMap g) := by
  simpa using foldlM_commandParameters us g h []

/-- **The tokens of a list of ports**: one group per port, in list order. -/
theorem modifyVMCommandParameters_eq (us : UARTs) (h : ∀ u ∈ us, u.Valid) :
    modifyVMCommandParameters us = .ok (us.flatMap fun u => u.params u.key.rank) :=
  modifyVMCommandParameters_of_ok us _ fun u hu => UART.commandParameters_eq u (h u hu)

/-- Whatever its type, mode and data, a port of a supported slot has parameters, and they start
with `--uart<N>`. -/
theorem UART.commandParameters_head (uart : UART) (h : uart.key.isSupportedKey) :
    ∃ rest, uart.commandParameters = .ok (("--" ++ uart.key.val) :: rest) := by
  obtain ⟨r, hr, -, -, hk⟩ := UARTKey.toRank_of_supported h
  have hname : "--" ++ uart.key.val = "--uart" ++ fmtUint 10 r := by
    rw [hk, ← String.append_assoc]; rfl
  rw [hname]
  by_cases hoff : uart.isOff <;> by_cases hd : uart.mode = .disconnected <;>
    simp [UART.commandParameters, UART.commandParameterUartN, UART.commandParameterUARTModeN,
      UART.commandParameterUARTTypeN, hr, hoff, hd, List.foldlM, appendCommand, bind, Except.bind,
      pure, Except.pure, name_ne_empty _ r (by decide : "--uart".data ≠ []),
      name_ne_empty _ r (by decide : "--uartmode".data ≠ []),
      name_ne_empty _ r (by decide : "--uarttype".data ≠ [])]

/-- The parameters of ports of supported slots: one group per port, in list order, each
starting with the port's `--uart<N>`. -/
theorem modifyVMCommandParameters_groups (us : UARTs) (h : ∀ u ∈ us, u.key.isSupportedKey) :
    ∃ gs : List (List String), modifyVMCommandParameters us = .ok gs.flatten ∧
      gs.map List.head? = us.map fun u => some ("--" ++ u.key.val) := by
  let g : UART → List String := fun u =>
    match u.commandParameters with
    | .ok l => l
    | .error _ => []
  have hg : ∀ u ∈ us, u.commandParameters = .ok (g u) ∧ (g u).head? = some ("--" ++ u.key.val) := by
    intro u hu
    obtain ⟨rest, hr⟩ := UART.commandParameters_head u (h u hu)
    simp [g, hr]
  refine ⟨us.map g, ?_, ?_⟩
  · rw [modifyVMCommandParameters_of_ok us g fun u hu => (hg u hu).1]
    rfl
  · rw [List.map_map]
    exact List.map_congr_left fun u hu => (hg u hu).2

theorem modifyVMCommandParameters_eq_fileMode :
    (∀ u ∈ [UARTKey.uart1.uartOffFromKey, ⟨⟨0x2f8, 3⟩, .t16550A, .file, "/tmp/uart1", .uart2⟩],
      u.Valid) ∧
    modifyVMCommandParameters
        [UARTKey.uart1.uartOffFromKey, ⟨⟨0x2f8, 3⟩, .t16550A, .file, "/tmp/uart1", .uart2⟩] =
      .ok ([UARTKey.uart1.uartOffFromKey,
        ⟨⟨0x2f8, 3⟩, .t16550A, .file, "/tmp/uart1", .uart2⟩].flatMap
          fun u => u.params u.key.rank) := by
  have hv : ∀ u ∈ [UARTKey.uart1.uartOffFromKey,
      (⟨⟨0x2f8, 3⟩, .t16550A, .file, "/tmp/uart1", .uart2⟩ : UART)], u.Valid := by
    intro u hu
    simp only [List.mem_cons, List.mem_singleton, List.not_mem_nil, or_false] at hu
    rcases hu with rfl | rfl <;> exact ⟨by decide, by decide, by decide⟩
  exact ⟨hv, modifyVMCommandParameters_eq _ hv⟩

/-- A file path with a space is cut in two: `/tmp/my uart` becomes the tokens `/tmp/my` and
`uart`. -/
theorem modifyVMCommandParameters_spaceInModeData :
    modifyVMCommandParameters [⟨⟨0x3f8, 4⟩, .t16550A, .file, "/tmp/my uart", .uart1⟩] =
      .ok ["--uart1", "0x03f8", "4", "--uartmode1", "file", "/tmp/my", "uart",
        "--uarttype1", "16550A"] := by
  rfl

/-! ### Dropping the off ports: `WithoutUARTHavingStateOff` -/

/-- One pass of the loop of `WithoutUARTHavingStateOff` at index `i`, on the backing array `arr`
with `n` ports kept so far: the port the range reads at index `i` — from the array as the earlier
passes left it — is written to index `n` unless it is off.  The index is always below the length,
so the `none` case is never taken. -/
def withoutOffStep (st : UARTs × Nat) (i : Nat) : UARTs × Nat :=
  match st.1[i]? with
  | some uart => if uart.isOff then st else (st.1.set st.2 uart, st.2 + 1)
  | none => st

/-- `WithoutUARTHavingStateOff` on the slice stored at address `uarts` of `mem`: the loop over the
slice's indices compacts its backing array in place, `*uarts` is cut to the first `n` elements,
and the pointer is returned.  No other slice shares the backing array here. -/
def UARTs.withoutUARTHavingStateOff (mem : Nat → UARTs) (uarts : Nat) : (Nat → UARTs) × Nat :=
  let st := (List.range (mem uarts).length).foldl withoutOffStep (mem uarts, 0)
  (Function.update mem uarts (st.1.take st.2), uarts)

/-- What the loop keeps after the indices below `i` of `us`: the array has the length of `us`,
its first `n` elements are the ports of `us.take i` that are not off, and from index `i` on it is
still `us`. -/
structure WithoutOffInv (us : UARTs) (i : Nat) (st : UARTs × Nat) : Prop where
  length : st.1.length = us.length
  le : st.2 ≤ i
  kept : st.1.take st.2 = (us.take i).filter (!·.isOff)
  rest : st.1.drop i = us.drop i

/-- One pass keeps the invariant: the port read at index `i` is the original one, since every
earlier write went to an index below `i`. -/
theorem withoutOffStep_inv {us arr : UARTs} {i n : Nat} (hi : i < us.length)
    (h : WithoutOffInv us i (arr, n)) : WithoutOffInv us (i + 1) (withoutOffStep (arr, n) i) := by
  obtain ⟨hlen, hle, hkept, hrest⟩ := h
  dsimp only at hlen hle hkept hrest
  have hread : arr[i]? = some us[i] := by
    rw [← List.head?_drop, hrest, List.head?_drop, List.getElem?_eq_getElem hi]
  have hrest' : arr.drop (i + 1) = us.drop (i + 1) := by
    rw [← List.drop_drop, hrest, List.drop_drop]
  have htake : (us.take (i + 1)).filter (!·.isOff) =
      (us.take i).filter (!·.isOff) ++ [us[i]].filter (!·.isOff) := by
    rw [List.take_succ, List.getElem?_eq_getElem hi, Option.toList_some, List.filter_append]
  cases hoff : us[i].isOff
  · simp only [withoutOffStep, hread, hoff, Bool.false_eq_true, if_false]
    refine ⟨by simp [hlen], Nat.succ_le_succ hle, ?_, ?_⟩
    · rw [htake, ← hkept, List.take_succ, List.set_take,
        List.set_eq_of_length_le (List.length_take_le n arr),
        List.getElem?_set, if_pos rfl, if_pos (by omega)]
      simp [hoff]
    · rw [List.drop_set_of_lt _ _ (by omega), hrest']
  · simp only [withoutOffStep, hread, hoff, if_true]
    exact ⟨hlen, by omega, by simp [htake, hoff, hkept], hrest'⟩

/-- The loop over the indices below `i` keeps the invariant. -/
theorem withoutOffLoop_inv (us : UARTs) (i : Nat) (hi : i ≤ us.length) :
    WithoutOffInv us i ((List.range i).foldl withoutOffStep (us, 0)) := by
  induction i with
  | zero => exact ⟨rfl, le_rfl, rfl, rfl⟩
  | succ i ih =>
    rw [List.range_succ, List.foldl_append, List.foldl_cons, List.foldl_nil]
    exact withoutOffStep_inv hi (ih (by omega))

/-- **`WithoutUARTHavingStateOff` keeps the ports that are not off, in order**: the slice at
`uarts` becomes the subsequence of its ports that are not off, every other address is left alone,
and the pointer returned is `uarts`. -/
theorem UARTs.withoutUARTHavingStateOff_filter (mem : Nat → UARTs) (uarts : Nat) :
    UARTs.withoutUARTHavingStateOff mem uarts =
      (Function.update mem uarts ((mem uarts).filter (!·.isOff)), uarts) := by
  have h := (withoutOffLoop_inv (mem uarts) _ le_rfl).kept
  rw [List.take_length] at h
  rw [UARTs.withoutUARTHavingStateOff, h]

end Virtualbox
