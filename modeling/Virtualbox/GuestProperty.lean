/-
**Guest properties: `GetGuestProperty`, `WaitGuestProperty` and the watcher
`WaitGuestProperties`.**

`VBoxManage guestproperty get` prints a property as `Value: <value>`, and `GetGuestProperty`
trims the output and takes the value from the first line that matches

    (?m)^Value: ([^,]*)$

whose class `[^,]` is that of `waitRegexp`, made for the comma-separated output of
`guestproperty wait`: `Name: <name>, value: <value>, flags: <flags>`.  A value holding a comma
therefore matches no line, and the call fails.

`WaitGuestProperties` starts a goroutine, the waiter, that calls `WaitGuestProperty` in a loop
and offers each result on an unbuffered channel, in a `select` that also listens to the caller's
`done` channel; the waiter returns on the first failed call or when it sees `done` closed,
running its deferred `wg.Done()` and `close(props)`.  The waiter and its consumer are modelled as
a transition system: a state holds where the waiter is and what the consumer has done, and an
interleaving is any sequence of the actions each party may take.  A call of `WaitGuestProperty`
returns only when a matching property changes, so it may never return.  `done` is only looked at
in the `select`, after a call has returned, so once the consumer has received a result and closed
`done` the waiter still starts one more call, and ends only if that call returns.

Main definitions:

* `Virtualbox.getGuestProperty`, `Virtualbox.waitGuestProperty`;
* `Virtualbox.WaitState`, `Virtualbox.WaitAction`, `Virtualbox.WaitState.step`,
  `Virtualbox.WaitState.run` — the waiter of `WaitGuestProperties` and its consumer;
* `Virtualbox.WaitState.Inv` — what every reachable state satisfies;
* `Virtualbox.WaitState.Stopping` — nothing more can be sent.

Main results:

* `Virtualbox.getGuestProperty_value` — **a value without a comma is read back**;
* `Virtualbox.getGuestProperty_commaInValue` — a value with a comma is not;
* `Virtualbox.waitGuestProperties_runs` — **over every interleaving**: the consumer receives the
  results of the first calls in order; a call starts only once every earlier result was received;
  and once a call has failed, or `done` is closed and the consumer no longer receives, at most
  one more call starts, the waiter takes at most five more steps of its own, and it can end,
  calling `wg.Done` and closing the channel once each, if that call returns;
* `Virtualbox.waitGuestProperties_callAfterDone` — `ExampleWaitGuestProperties` never returns: the
  further call after `done` is closed never does, and neither `wg.Done` nor `close` runs.
-/

import Virtualbox.MachineList

set_option relaxedAutoImplicit false
set_option autoImplicit false

namespace Virtualbox

/-! ### Reading a property -/

/-- `GuestProperty`: a property's name and value. -/
structure GuestProperty where
  name : String
  value : String
  deriving DecidableEq, Repr

/-- How the package runs `VBoxManage`: whether it runs inside a guest (`isGuest`), and what a run
with the given arguments gives, under `sudo` or not. -/
structure Manage where
  isGuest : Bool
  runOutErr : Bool → List String → CmdOutcome

/-- `[^,]`, as RE2 compiles it: the two ranges around the comma (newline included). -/
def notComma : CharClass := .ranges [('\x00', '+'), ('-', Char.ofNat 0x10ffff)]

/-- `getRegexp`, `(?m)^Value: ([^,]*)$`, between its anchors. -/
def getRegexp : Regexp := Regexp.lits "Value: ".data (.group 1 (.rep notComma 0))

/-- `waitRegexp`, `^Name: ([^,]*), value: ([^,]*), flags:.*$`, between its anchors. -/
def waitRegexp : Regexp :=
  Regexp.lits "Name: ".data (.cat (.group 1 (.rep notComma 0))
    (Regexp.lits ", value: ".data (.cat (.group 2 (.rep notComma 0))
      (Regexp.lits ", flags:".data (.rep .dot 0)))))

/-- The run `GetGuestProperty` makes: `guestproperty get <prop>` under `sudo` inside a guest,
`guestproperty get <vm> <prop>` otherwise. -/
def Manage.guestPropertyGet (mgr : Manage) (vm prop : String) : CmdOutcome :=
  if mgr.isGuest then mgr.runOutErr true ["guestproperty", "get", prop]
  else mgr.runOutErr false ["guestproperty", "get", vm, prop]

/-- `GetGuestProperty`: the run's error, or the first group of the first line of the trimmed
output that `getRegexp` matches. -/
def getGuestProperty (mgr : Manage) (vm prop : String) : Except Failure String :=
  let o := mgr.guestPropertyGet vm prop
  match o.err with
  | some err => .error err
  | none =>
    let out := trimSpace o.stdout
    match getRegexp.findLineSubmatch out.data with
    | some m => .ok ⟨m 1⟩
    | none => .error (.error ("no match with get guestproperty output:" ++ "\nprop: " ++ prop ++
        "\nout:" ++ out))

/-- `WaitGuestProperty`: inside a guest, a first `guestproperty wait <prop>` under `sudo`; then
`guestproperty wait <vm> <prop>`, whose trimmed output must match `waitRegexp` as a whole. -/
def waitGuestProperty (mgr : Manage) (vm prop : String) : Except Failure (String × String) := do
  if mgr.isGuest then
    if let some err := (mgr.runOutErr true ["guestproperty", "wait", prop]).err then throw err
  let o := mgr.runOutErr false ["guestproperty", "wait", vm, prop]
  match o.err with
  | some err => .error err
  | none =>
    match waitRegexp.findWholeSubmatch (trimSpace o.stdout).data with
    | some m => .ok (⟨m 1⟩, ⟨m 2⟩)
    | none => .error (.error "no match with VBoxManage wait guestproperty output")

/-! ### A value read back -/

/-- `[^,]` holds every character but the comma. -/
theorem notComma_test (c : Char) : notComma.test c = true ↔ c ≠ ',' := by
  have hle : ∀ a b : Char, a ≤ b ↔ a.toNat ≤ b.toNat := fun _ _ => Iff.rfl
  have hv : c.toNat < 1114112 := by
    have := c.valid
    simp [UInt32.isValidChar, Nat.isValidChar] at this
    show c.val.toNat < 1114112
    omega
  have hne : c ≠ ',' ↔ c.toNat ≠ 44 :=
    ⟨fun h e => h (Char.ext (UInt32.toNat.inj e)), fun h e => h (e ▸ rfl)⟩
  have h0 : ('\x00' : Char).toNat = 0 := rfl
  have h1 : ('+' : Char).toNat = 43 := rfl
  have h2 : ('-' : Char).toNat = 45 := rfl
  have h3 : (Char.ofNat 0x10ffff).toNat = 1114111 := rfl
  simp only [notComma, CharClass.test, List.any_cons, List.any_nil, Bool.or_false, Bool.or_eq_true,
    decide_eq_true_eq, hle, hne, h0, h1, h2, h3]
  omega

theorem takeWhile_notComma {v : List Char} (h : ',' ∉ v) : v.takeWhile notComma.test = v :=
  List.takeWhile_eq_self_iff.2 fun c hc => (notComma_test c).2 fun e => h (e ▸ hc)

/-- `getRegexp` takes the whole of a value with no comma, up to the end of the text. -/
theorem getRegexp_bt {v : List Char} (h : ',' ∉ v) :
    getRegexp.bt (fun _ => none) ("Value: ".data ++ v) endOfLine =
      some (Function.update (fun _ => none) 1 (some v)) := by
  rw [getRegexp, Regexp.bt_lits, Regexp.bt_group, Regexp.bt_rep, takeWhile_notComma h]
  refine greedy_eq_of_top 0 _ v.length _ (Nat.zero_le _) ?_ _ le_rfl (fun j hj hj' => by omega)
  simp [endOfLine]

/-- `TrimSpace` takes off the newline after a value that does not end with white space. -/
theorem trimSpace_valueLine {v : String} (hv : v.data ≠ [])
    (hlast : ∀ c ∈ v.data.getLast?, unicodeIsSpace c = false) :
    trimSpace ("Value: " ++ v ++ "\n") = ⟨"Value: ".data ++ v.data⟩ := by
  have hdata : "Value: " ++ v ++ "\n" = ⟨("Value: ".data ++ v.data) ++ ['\n']⟩ := by
    apply String.ext
    simp
  rw [hdata]
  refine trimSpace_append_spaces (by simp; decide) ?_ (by simp; decide)
  rwa [List.getLast?_append_of_ne_nil _ hv]

/-- **A value without a comma is read back**: when `guestproperty get` succeeds and prints
`Value: ` and a value with no comma that neither starts nor ends with white space, followed by
a newline, `GetGuestProperty` returns the value. -/
theorem getGuestProperty_value (mgr : Manage) (vm prop v stderr : String) (hv : v ≠ "")
    (hcomma : ',' ∉ v.data) (hlast : ∀ c ∈ v.data.getLast?, unicodeIsSpace c = false)
    (hrun : mgr.guestPropertyGet vm prop = ⟨"Value: " ++ v ++ "\n", stderr, none⟩) :
    getGuestProperty mgr vm prop = .ok v := by
  have hvne : v.data ≠ [] := fun e => hv (String.ext e)
  simp only [getGuestProperty, hrun, trimSpace_valueLine hvne hlast,
    Regexp.findLineSubmatch_of_bt _ _ _ (getRegexp_bt hcomma)]
  simp

theorem getGuestProperty_value_testVal :
    "test_val" ≠ "" ∧ ',' ∉ "test_val".data ∧
    (∀ c ∈ "test_val".data.getLast?, unicodeIsSpace c = false) ∧
    (⟨false, fun _ _ => ⟨"Value: test_val\n", "", none⟩⟩ : Manage).guestPropertyGet "MyVM"
        "test_name" = ⟨"Value: " ++ "test_val" ++ "\n", "", none⟩ ∧
    getGuestProperty ⟨false, fun _ _ => ⟨"Value: test_val\n", "", none⟩⟩ "MyVM" "test_name" =
      .ok "test_val" :=
  ⟨by decide, by decide, by decide, rfl,
    getGuestProperty_value _ _ _ _ _ (by decide) (by decide) (by decide) rfl⟩

/-- A value with a comma is not read back: the output `Value: a,b` matches no line, and the call
fails. -/
theorem getGuestProperty_commaInValue :
    getGuestProperty ⟨false, fun _ _ => ⟨"Value: a,b\n", "", none⟩⟩ "MyVM" "test_name" =
      .error (.error "no match with get guestproperty output:\nprop: test_name\nout:Value: a,b") :=
  rfl

/-! ### The waiter goroutine of `WaitGuestProperties` -/

/-- Where the waiter goroutine of `WaitGuestProperties` is: at the head of its loop before its
`k`-th call of `WaitGuestProperty` (counting from 0), inside that call, at the `select` with the
call's result, or returned — with `defer wg.Done()` still to run, then `defer close(props)`
(deferred calls run last first) — and finished. -/
inductive Waiter where
  | loop (k : Nat)
  | calling (k : Nat)
  | selecting (k : Nat) (prop : GuestProperty)
  | deferDone
  | deferClose
  | finished
  deriving DecidableEq, Repr

/-- The waiter and its consumer: where the waiter is; whether the consumer has closed `done`;
whether it still receives from `props`; the values it received, in order; and the calls made so
far of `WaitGuestProperty`, of `wg.Done` and of `close(props)`.  (A receive from the closed
channel gives the zero value with `ok = false`, no value sent, and is not recorded.) -/
structure WaitState where
  waiter : Waiter
  doneClosed : Bool
  receiving : Bool
  received : List GuestProperty
  calls : Nat
  wgDones : Nat
  closes : Nat
  deriving DecidableEq, Repr

/-- The actions of an interleaving: the waiter starts a call, the call returns, the `select` sends
the result to a receiving consumer (both parties move: the channel is unbuffered) or takes the
`done` case, the deferred `wg.Done()` and `close(props)` run; the consumer closes `done` or stops
receiving. -/
inductive WaitAction where
  | call
  | ret
  | send
  | cancel
  | wgDone
  | close
  | closeDone
  | stopReceiving
  deriving DecidableEq, Repr

/-- The state after `wg.Add(1)` and `go func()`. -/
def WaitState.init : WaitState := ⟨.loop 0, false, true, [], 0, 0, 0⟩

/-- One action, when it is enabled; `res k` is the outcome of the waiter's `k`-th call of
`WaitGuestProperty`, or `none` when that call never returns (`guestproperty wait` blocks until a
matching property changes, and none may change again).  When both cases of the `select` are
ready, either may be taken. -/
def WaitState.step (res : Nat → Option (Except Failure (String × String))) (s : WaitState) :
    WaitAction → Option WaitState
  | .call =>
    match s.waiter with
    | .loop k => some { s with waiter := .calling k, calls := s.calls + 1 }
    | _ => none
  | .ret =>
    match s.waiter with
    | .calling k =>
      match res k with
      | some (.ok (name, value)) => some { s with waiter := .selecting k ⟨name, value⟩ }
      | some (.error _) => some { s with waiter := .deferDone }
      | none => none
    | _ => none
  | .send =>
    match s.waiter with
    | .selecting k prop =>
      if s.receiving then some { s with waiter := .loop (k + 1), received := s.received ++ [prop] }
      else none
    | _ => none
  | .cancel =>
    match s.waiter with
    | .selecting _ _ => if s.doneClosed then some { s with waiter := .deferDone } else none
    | _ => none
  | .wgDone =>
    match s.waiter with
    | .deferDone => some { s with waiter := .deferClose, wgDones := s.wgDones + 1 }
    | _ => none
  | .close =>
    match s.waiter with
    | .deferClose => some { s with waiter := .finished, closes := s.closes + 1 }
    | _ => none
  | .closeDone => if s.doneClosed then none else some { s with doneClosed := true }
  | .stopReceiving => if s.receiving then some { s with receiving := false } else none

/-- An interleaving from `s`: its actions in order, each enabled where it is taken. -/
def WaitState.run (res : Nat → Option (Except Failure (String × String))) :
    WaitState → List WaitAction → Option WaitState
  | s, [] => some s
  | s, a :: as => (s.step res a).bind fun s' => s'.run res as

section Interleavings

variable {res : Nat → Option (Except Failure (String × String))}

/-- Every transition of the waiter and its consumer, with its guard. -/
theorem WaitState.step_eq_some {s s' : WaitState} {a : WaitAction}
    (h : s.step res a = some s') :
    (∃ k, a = .call ∧ s.waiter = .loop k ∧
      s' = { s with waiter := .calling k, calls := s.calls + 1 }) ∨
    (∃ k name value, a = .ret ∧ s.waiter = .calling k ∧ res k = some (.ok (name, value)) ∧
      s' = { s with waiter := .selecting k ⟨name, value⟩ }) ∨
    (∃ k e, a = .ret ∧ s.waiter = .calling k ∧ res k = some (.error e) ∧
      s' = { s with waiter := .deferDone }) ∨
    (∃ k p, a = .send ∧ s.waiter = .selecting k p ∧ s.receiving = true ∧
      s' = { s with waiter := .loop (k + 1), received := s.received ++ [p] }) ∨
    (∃ k p, a = .cancel ∧ s.waiter = .selecting k p ∧ s.doneClosed = true ∧
      s' = { s with waiter := .deferDone }) ∨
    (a = .wgDone ∧ s.waiter = .deferDone ∧
      s' = { s with waiter := .deferClose, wgDones := s.wgDones + 1 }) ∨
    (a = .close ∧ s.waiter = .deferClose ∧
      s' = { s with waiter := .finished, closes := s.closes + 1 }) ∨
    (a = .closeDone ∧ s.doneClosed = false ∧ s' = { s with doneClosed := true }) ∨
    (a = .stopReceiving ∧ s.receiving = true ∧ s' = { s with receiving := false }) := by
  cases a with
  | call =>
    cases hw : s.waiter <;> simp only [WaitState.step, hw, reduceCtorEq] at h
    exact .inl ⟨_, rfl, rfl, (Option.some.inj h).symm⟩
  | ret =>
    cases hw : s.waiter <;> simp only [WaitState.step, hw, reduceCtorEq] at h
    split at h
    · exact .inr <| .inl ⟨_, _, _, rfl, rfl, ‹_›, (Option.some.inj h).symm⟩
    · exact .inr <| .inr <| .inl ⟨_, _, rfl, rfl, ‹_›, (Option.some.inj h).symm⟩
    · cases h
  | send =>
    cases hw : s.waiter <;> simp only [WaitState.step, hw, reduceCtorEq] at h
    split at h
    · exact .inr <| .inr <| .inr <| .inl ⟨_, _, rfl, rfl, ‹_›, (Option.some.inj h).symm⟩
    · cases h
  | cancel =>
    cases hw : s.waiter <;> simp only [WaitState.step, hw, reduceCtorEq] at h
    split at h
    · exact .inr <| .inr <| .inr <| .inr <| .inl ⟨_, _, rfl, rfl, ‹_›, (Option.some.inj h).symm⟩
    · cases h
  | wgDone =>
    cases hw : s.waiter <;> simp only [WaitState.step, hw, reduceCtorEq] at h
    exact .inr <| .inr <| .inr <| .inr <| .inr <| .inl ⟨rfl, rfl, (Option.some.inj h).symm⟩
  | close =>
    cases hw : s.waiter <;> simp only [WaitState.step, hw, reduceCtorEq] at h
    exact .inr <| .inr <| .inr <| .inr <| .inr <| .inr <| .inl ⟨rfl, rfl, (Option.some.inj h).symm⟩
  | closeDone =>
    simp only [WaitState.step] at h
    split at h
    · cases h
    · exact .inr <| .inr <| .inr <| .inr <| .inr <| .inr <| .inr <| .inl
        ⟨rfl, Bool.eq_false_iff.2 ‹_›, (Option.some.inj h).symm⟩
  | stopReceiving =>
    simp only [WaitState.step] at h
    split at h
    · exact .inr <| .inr <| .inr <| .inr <| .inr <| .inr <| .inr <| .inr
        ⟨rfl, ‹_›, (Option.some.inj h).symm⟩
    · cases h

theorem WaitState.run_cons {s t : WaitState} {a : WaitAction} {as : List WaitAction}
    (h : s.run res (a :: as) = some t) :
    ∃ u, s.step res a = some u ∧ u.run res as = some t :=
  Option.bind_eq_some.1 h

/-- A property every step keeps holds after every interleaving. -/
theorem WaitState.run_preserves (P : WaitState → Prop)
    (hP : ∀ {s t a}, P s → s.step res a = some t → P t) :
    ∀ {s t : WaitState} {as : List WaitAction}, P s → s.run res as = some t → P t
  | _, _, [], hs, h => Option.some.inj h ▸ hs
  | _, _, _ :: _, hs, h =>
    let ⟨_, hu, ht⟩ := WaitState.run_cons h
    run_preserves P hP (hP hs hu) ht

/-- A state where no action is enabled is where every interleaving ends. -/
theorem WaitState.run_of_stuck {s t : WaitState} {as : List WaitAction}
    (hstuck : ∀ a, s.step res a = none) (h : s.run res as = some t) : t = s := by
  cases as with
  | nil => exact (Option.some.inj h).symm
  | cons a as =>
    obtain ⟨u, hu, -⟩ := WaitState.run_cons h
    rw [hstuck a] at hu
    cases hu

/-! ### What every interleaving keeps -/

/-- A property as the outcome of the call that returned it. -/
def GuestProperty.outcome (p : GuestProperty) : Option (Except Failure (String × String)) :=
  some (.ok (p.name, p.value))

/-- The counters where the waiter is, once `n` values were received: its calls number `n` at the
head of the loop and `n + 1` from the call on, and the `select` holds the result of call `n`;
`wg.Done()`, then `close(props)`, run once each after it returns. -/
def Waiter.Counts (res : Nat → Option (Except Failure (String × String)))
    (n calls wgDones closes : Nat) : Waiter → Prop
  | .loop k => k = n ∧ calls = n ∧ wgDones = 0 ∧ closes = 0
  | .calling k => k = n ∧ calls = n + 1 ∧ wgDones = 0 ∧ closes = 0
  | .selecting k p => k = n ∧ calls = n + 1 ∧ res k = p.outcome ∧ wgDones = 0 ∧ closes = 0
  | .deferDone => calls = n + 1 ∧ wgDones = 0 ∧ closes = 0
  | .deferClose => calls = n + 1 ∧ wgDones = 1 ∧ closes = 0
  | .finished => calls = n + 1 ∧ wgDones = 1 ∧ closes = 1

/-- The invariant of every reachable state: the values received are the outcomes of the first
calls, in order, and the counters are those of `Waiter.Counts`. -/
structure WaitState.Inv (res : Nat → Option (Except Failure (String × String))) (s : WaitState) :
    Prop where
  received : s.received.map GuestProperty.outcome = (List.range s.received.length).map res
  counts : s.waiter.Counts res s.received.length s.calls s.wgDones s.closes

theorem WaitState.init_inv : WaitState.init.Inv res :=
  ⟨rfl, rfl, rfl, rfl, rfl⟩

theorem WaitState.Inv.step {s t : WaitState} {a : WaitAction} (hs : s.Inv res)
    (h : s.step res a = some t) : t.Inv res := by
  obtain ⟨hrec, hc⟩ := hs
  rcases WaitState.step_eq_some h with ⟨k, -, hw, rfl⟩ | ⟨k, n, v, -, hw, hr, rfl⟩ |
    ⟨k, e, -, hw, -, rfl⟩ | ⟨k, p, -, hw, -, rfl⟩ | ⟨k, p, -, hw, -, rfl⟩ | ⟨-, hw, rfl⟩ |
    ⟨-, hw, rfl⟩ | ⟨-, -, rfl⟩ | ⟨-, -, rfl⟩
  all_goals try first
    | exact ⟨hrec, hc⟩
    | exact ⟨hrec, by simp only [Waiter.Counts, hw] at hc ⊢; omega⟩
  · -- the `select` holds the result of the current call
    simp only [Waiter.Counts, hw] at hc
    exact ⟨hrec, hc.1, hc.2.1, hr, hc.2.2⟩
  · -- and a send appends it to what the consumer received
    simp only [Waiter.Counts, hw] at hc
    obtain ⟨rfl, hcalls, hres, h0⟩ := hc
    refine ⟨?_, by simpa only [Waiter.Counts, List.length_append, List.length_singleton, true_and]
      using ⟨hcalls, h0⟩⟩
    rw [List.map_append, List.length_append, List.length_singleton, List.range_succ,
      List.map_append, hrec, List.map_singleton, List.map_singleton, hres]

theorem WaitState.Inv.run {s t : WaitState} {as : List WaitAction} (hs : s.Inv res)
    (h : s.run res as = some t) : t.Inv res :=
  WaitState.run_preserves _ WaitState.Inv.step hs h

/-- Only `call` counts a call, and it starts once every earlier result was received. -/
theorem WaitState.Inv.step_calls {s t : WaitState} {a : WaitAction} (hs : s.Inv res)
    (h : s.step res a = some t) (hcalls : s.calls < t.calls) :
    s.calls = s.received.length ∧ t.calls = s.calls + 1 := by
  have hc := hs.counts
  rcases WaitState.step_eq_some h with ⟨k, -, hw, rfl⟩ | ⟨_, _, _, -, -, -, rfl⟩ |
    ⟨_, _, -, -, -, rfl⟩ | ⟨_, _, -, -, -, rfl⟩ | ⟨_, _, -, -, -, rfl⟩ | ⟨-, -, rfl⟩ |
    ⟨-, -, rfl⟩ | ⟨-, -, rfl⟩ | ⟨-, -, rfl⟩
  · rw [hw] at hc
    exact ⟨hc.2.1, rfl⟩
  all_goals exact absurd hcalls (Nat.lt_irrefl _)

/-- `wg.Done()` and `close(props)` run at most once each, and both have run once the waiter has
finished. -/
theorem WaitState.Inv.deferred {s : WaitState} (hs : s.Inv res) :
    s.wgDones ≤ 1 ∧ s.closes ≤ 1 ∧ (s.waiter = .finished → s.wgDones = 1 ∧ s.closes = 1) := by
  have hc := hs.counts
  cases hw : s.waiter <;> simp only [hw, Waiter.Counts] at hc <;> simp <;> omega

/-! ### Once nothing more can be sent -/

/-- The waiter's actions (a send moves both parties). -/
def WaitAction.byWaiter : WaitAction → Bool
  | .closeDone | .stopReceiving => false
  | _ => true

/-- The waiter has returned; its deferred calls may still be due. -/
def Waiter.returned : Waiter → Bool
  | .deferDone | .deferClose | .finished => true
  | _ => false

/-- Whether the waiter, at the head of its loop, is about to start a call. -/
def Waiter.callPending : Waiter → Nat
  | .loop _ => 1
  | _ => 0

/-- The call the waiter is about to start, or is inside of. -/
def Waiter.pending : Waiter → Option Nat
  | .loop k | .calling k => some k
  | _ => none

/-- How many more actions the waiter takes, at most, once nothing can be sent: the call, its
return, the `done` case of the `select`, `wg.Done()` and `close(props)`. -/
def Waiter.remaining : Waiter → Nat
  | .loop _ => 5
  | .calling _ => 4
  | .selecting _ _ => 3
  | .deferDone => 2
  | .deferClose => 1
  | .finished => 0

/-- Nothing more can be sent: the waiter has returned (after a failed call or through the `done`
case), or the consumer has closed `done` and no longer receives. -/
def WaitState.Stopping (s : WaitState) : Prop :=
  s.waiter.returned = true ∨ (s.doneClosed = true ∧ s.receiving = false)

/-- Once nothing can be sent, a step keeps it so, starts no call but the pending one, and a step
of the waiter brings it closer to its end. -/
theorem WaitState.Stopping.step {s t : WaitState} {a : WaitAction} (hs : s.Stopping)
    (h : s.step res a = some t) :
    t.Stopping ∧ t.calls + t.waiter.callPending ≤ s.calls + s.waiter.callPending ∧
      t.waiter.remaining + (if a.byWaiter then 1 else 0) ≤ s.waiter.remaining ∧
      ∀ k ∈ t.waiter.pending, k ∈ s.waiter.pending := by
  rcases WaitState.step_eq_some h with ⟨k, rfl, hw, rfl⟩ | ⟨k, n, v, rfl, hw, -, rfl⟩ |
    ⟨k, e, rfl, hw, -, rfl⟩ | ⟨k, p, rfl, hw, hr, rfl⟩ | ⟨k, p, rfl, hw, -, rfl⟩ |
    ⟨rfl, hw, rfl⟩ | ⟨rfl, hw, rfl⟩ | ⟨rfl, -, rfl⟩ | ⟨rfl, -, rfl⟩
  rotate_right 2
  · exact ⟨hs.imp id fun h => ⟨rfl, h.2⟩, le_rfl, le_rfl, fun _ => id⟩
  · exact ⟨hs.imp id fun h => ⟨h.1, rfl⟩, le_rfl, le_rfl, fun _ => id⟩
  all_goals simp_all [WaitState.Stopping, Waiter.returned, Waiter.callPending, Waiter.remaining,
    Waiter.pending, WaitAction.byWaiter]

/-- Once nothing can be sent, every interleaving keeps it so, starts at most the pending call,
and holds at most `remaining` actions of the waiter. -/
theorem WaitState.Stopping.run :
    ∀ {s t : WaitState} {bs : List WaitAction}, s.Stopping → s.run res bs = some t →
      t.Stopping ∧ t.calls + t.waiter.callPending ≤ s.calls + s.waiter.callPending ∧
        bs.countP WaitAction.byWaiter + t.waiter.remaining ≤ s.waiter.remaining
  | _, _, [], hs, h => Option.some.inj h ▸ ⟨hs, le_rfl, by simp⟩
  | _, _, a :: bs, hs, h => by
    obtain ⟨u, hu, ht⟩ := WaitState.run_cons h
    obtain ⟨hu', hcu, hru, -⟩ := hs.step hu
    obtain ⟨ht', hct, hrt⟩ := WaitState.Stopping.run hu' ht
    refine ⟨ht', by omega, ?_⟩
    rw [List.countP_cons]
    omega

/-- Until it has finished, the waiter can take a step, provided the call it is about to start, or
is inside of, returns: the `select` can then take the `done` case. -/
theorem WaitState.Stopping.progress {s : WaitState} (hs : s.Stopping)
    (hret : ∀ k ∈ s.waiter.pending, (res k).isSome) (hfin : s.waiter ≠ .finished) :
    ∃ a, a.byWaiter = true ∧ (s.step res a).isSome := by
  cases hw : s.waiter with
  | loop k => exact ⟨.call, rfl, by simp [WaitState.step, hw]⟩
  | calling k =>
    obtain ⟨r, hr⟩ := Option.isSome_iff_exists.1 (hret k (by simp [hw, Waiter.pending]))
    exact ⟨.ret, rfl, by rcases r with _ | _ <;> simp [WaitState.step, hw, hr]⟩
  | selecting k p =>
    have hd : s.doneClosed = true := (hs.resolve_left (by simp [hw, Waiter.returned])).1
    exact ⟨.cancel, rfl, by simp [WaitState.step, hw, hd]⟩
  | deferDone => exact ⟨.wgDone, rfl, by simp [WaitState.step, hw]⟩
  | deferClose => exact ⟨.close, rfl, by simp [WaitState.step, hw]⟩
  | finished => exact absurd hw hfin

/-- **Once nothing can be sent, the waiter can finish**, provided the call it is about to start,
or is inside of, returns: some interleaving of its own steps ends it. -/
theorem WaitState.Stopping.finish (n : Nat) :
    ∀ {s : WaitState}, s.waiter.remaining = n → s.Stopping →
      (∀ k ∈ s.waiter.pending, (res k).isSome) →
      ∃ bs t, s.run res bs = some t ∧ t.waiter = .finished := by
  induction n using Nat.strong_induction_on with
  | _ n ih =>
    intro s hn hs hret
    by_cases hfin : s.waiter = .finished
    · exact ⟨[], s, rfl, hfin⟩
    obtain ⟨a, ha, hstep⟩ := hs.progress hret hfin
    obtain ⟨u, hu⟩ := Option.isSome_iff_exists.1 hstep
    obtain ⟨hu', -, hr, hp⟩ := hs.step hu
    rw [ha, if_pos rfl] at hr
    obtain ⟨bs, t, ht, htf⟩ := ih _ (by omega) rfl hu' fun k hk => hret k (hp k hk)
    exact ⟨a :: bs, t, by simp [WaitState.run, hu, ht], htf⟩

end Interleavings

/-! ### Every interleaving -/

/-- **Every interleaving of the waiter of `WaitGuestProperties` with its consumer**, whatever the
calls of `WaitGuestProperty` do (`res k` for the `k`-th, `none` if it never returns): the
consumer has received the results of the first calls, in order; a step that starts a call is
taken once every earlier result was received; `wg.Done()` and `close(props)` have run at most
once each, and once each when the waiter has finished.  Once nothing more can be sent — the
waiter has returned, or `done` is closed and the consumer no longer receives — any further
interleaving keeps it so, starts at most the call pending at the head of the loop, and holds at
most `remaining` (at most five) of the waiter's actions; and if the call the waiter is about to
start, or is inside of, returns, some interleaving ends the waiter, with `wg.Done()` and
`close(props)` run once each. -/
theorem waitGuestProperties_runs (res : Nat → Option (Except Failure (String × String)))
    (as : List WaitAction) (s : WaitState) (h : WaitState.init.run res as = some s) :
    s.received.map GuestProperty.outcome = (List.range s.received.length).map res ∧
    (∀ a t, s.step res a = some t → s.calls < t.calls →
      s.calls = s.received.length ∧ t.calls = s.calls + 1) ∧
    s.wgDones ≤ 1 ∧ s.closes ≤ 1 ∧ (s.waiter = .finished → s.wgDones = 1 ∧ s.closes = 1) ∧
    (s.Stopping →
      (∀ bs t, s.run res bs = some t → t.Stopping ∧ t.calls ≤ s.calls + s.waiter.callPending ∧
        bs.countP WaitAction.byWaiter + t.waiter.remaining ≤ s.waiter.remaining) ∧
      ((∀ k ∈ s.waiter.pending, (res k).isSome) →
        ∃ bs t, s.run res bs = some t ∧ t.waiter = .finished ∧ t.wgDones = 1 ∧ t.closes = 1)) := by
  have hs := WaitState.init_inv.run h
  obtain ⟨hwg, hclose, hfin⟩ := hs.deferred
  refine ⟨hs.received, fun a t ht hc => hs.step_calls ht hc, hwg, hclose, hfin, fun hstop =>
    ⟨fun bs t ht => ?_, fun hret => ?_⟩⟩
  · obtain ⟨h1, h2, h3⟩ := hstop.run ht
    exact ⟨h1, by omega, h3⟩
  · obtain ⟨bs, t, ht, htf⟩ := WaitState.Stopping.finish _ rfl hstop hret
    exact ⟨bs, t, ht, htf, ((hs.run ht).deferred.2.2 htf)⟩

theorem waitGuestProperties_runs_stopped :
    WaitState.init.run (fun _ => some (.ok ("test_name", "test_val1")))
        [.call, .ret, .send, .closeDone, .stopReceiving] =
      some ⟨.loop 1, true, false, [⟨"test_name", "test_val1"⟩], 1, 0, 0⟩ ∧
    (let s : WaitState := ⟨.loop 1, true, false, [⟨"test_name", "test_val1"⟩], 1, 0, 0⟩
    let res : Nat → Option (Except Failure (String × String)) :=
      fun _ => some (.ok ("test_name", "test_val1"))
    s.received.map GuestProperty.outcome = (List.range s.received.length).map res ∧
    (∀ a t, s.step res a = some t → s.calls < t.calls →
      s.calls = s.received.length ∧ t.calls = s.calls + 1) ∧
    s.wgDones ≤ 1 ∧ s.closes ≤ 1 ∧ (s.waiter = .finished → s.wgDones = 1 ∧ s.closes = 1) ∧
    (s.Stopping →
      (∀ bs t, s.run res bs = some t → t.Stopping ∧ t.calls ≤ s.calls + s.waiter.callPending ∧
        bs.countP WaitAction.byWaiter + t.waiter.remaining ≤ s.waiter.remaining) ∧
      ((∀ k ∈ s.waiter.pending, (res k).isSome) →
        ∃ bs t, s.run res bs = some t ∧ t.waiter = .finished ∧ t.wgDones = 1 ∧ t.closes = 1))) :=
  ⟨rfl, waitGuestProperties_runs _ [.call, .ret, .send, .closeDone, .stopReceiving] _ rfl⟩

/-- The calls of `ExampleWaitGuestProperties`: the outputs of `guestproperty wait` for the three
changes of `test_name` the example makes, then a call that never returns, since no property
`test_*` changes again. -/
def exampleWaits (k : Nat) : Option (Except Failure (String × String)) :=
  if k < 3 then
    some (waitGuestProperty ⟨false, fun _ _ =>
      ⟨"Name: test_name, value: " ++ (if k = 1 then "test_val2" else "test_val1") ++ ", flags: ",
        "", none⟩⟩ "MyVM" "test_*")
  else none

/-- **`ExampleWaitGuestProperties` never returns.**  The consumer receives the three changes,
closes `done` and stops receiving; the waiter, back at the head of its loop, starts a fourth call,
which never returns.  From there no action is enabled: every interleaving leaves the waiter in
that call, with neither `wg.Done()` nor `close(props)` run, so `wg.Wait()` blocks for ever. -/
theorem waitGuestProperties_callAfterDone :
    WaitState.init.run exampleWaits
        [.call, .ret, .send, .call, .ret, .send, .call, .ret, .send, .closeDone, .stopReceiving,
          .call] =
      some ⟨.calling 3, true, false, [⟨"test_name", "test_val1"⟩, ⟨"test_name", "test_val2"⟩,
        ⟨"test_name", "test_val1"⟩], 4, 0, 0⟩ ∧
    ∀ bs t, WaitState.run exampleWaits ⟨.calling 3, true, false, [⟨"test_name", "test_val1"⟩,
        ⟨"test_name", "test_val2"⟩, ⟨"test_name", "test_val1"⟩], 4, 0, 0⟩ bs = some t →
      t = ⟨.calling 3, true, false, [⟨"test_name", "test_val1"⟩, ⟨"test_name", "test_val2"⟩,
        ⟨"test_name", "test_val1"⟩], 4, 0, 0⟩ :=
  ⟨rfl, fun _ _ => WaitState.run_of_stuck fun a => by cases a <;> rfl⟩

end Virtualbox
