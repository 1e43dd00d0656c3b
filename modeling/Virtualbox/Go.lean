/-
**The parts of Go's standard library that the codec calls.**

The package `virtualbox` turns the text printed by `VBoxManage` into typed values and turns
typed values back into arguments, and in both directions it leans on a handful of library
functions: `fmt` prints integers, `strconv` parses them, `strings.Split` cuts a value at a
separator.  Their behaviour decides several of the properties proved later — whether a printed
port parses back to the same port, whether a value holding a comma survives a split — so they
are modelled here as the Go sources compute them, on the characters of a string.

Main definitions:

* `Virtualbox.Failure` — how a call ends without a value: a returned `error`, or a run-time
  panic;
* `Virtualbox.fmtUint`, `Virtualbox.fmtUintPad` — `fmt`'s `%d`, `%x` and `%04x`;
* `Virtualbox.parseUint`, `Virtualbox.atoi` — `strconv.ParseUint` and `strconv.Atoi`;
* `Virtualbox.makeSliceCapOutOfRange` — the capacity check of `make`;
* `Virtualbox.trimSpace` — `strings.TrimSpace`;
* `Virtualbox.sscanfHex` — `fmt.Sscanf(s, "0x%x", &n)` into a `uint`;
* `Virtualbox.split` — `strings.Split` with a one-character separator.

Main results:

* `Virtualbox.parseUint_fmtUint` — **printing then parsing is the identity** on the numbers that
  fit the bit size;
* `Virtualbox.parseUint_fmtUintPad` — the same through the zero padding of `%04x`;
* `Virtualbox.parseUint_eq_ok_iff` — the texts `ParseUint` accepts: digits of the base, with a
  value that fits the bit size;
* `Virtualbox.sscanfHex_eq_ok_iff` — the texts `Sscanf` reads a base from: `0x`, blanks, hex
  digits, and anything after them that is no hex digit;
* `Virtualbox.split_append_sep`, `Virtualbox.split_of_not_mem` — how `strings.Split` cuts text
  around a separator.
-/

import Mathlib

set_option relaxedAutoImplicit false
set_option autoImplicit false

namespace Virtualbox

/-! ### Errors and panics -/

/-- How a call of the modelled code can end without producing its value: a returned non-nil
`error`, carrying its text, or a run-time panic, carrying the panic value's text. -/
inductive Failure where
  | error (msg : String)
  | panic (msg : String)
  deriving DecidableEq, Repr

/-- The text of `errors.Wrap(err, msg)` and `errors.Wrapf`: the message, a colon, the cause. -/
def Failure.wrap (msg : String) : Failure → Failure
  | .error cause => .error (msg ++ ": " ++ cause)
  | .panic p => .panic p

/-- Whether a failure is a returned error (and not a panic). -/
def Failure.IsError : Failure → Prop
  | .error _ => True
  | .panic _ => False

/-- An outcome that is a returned error. -/
def IsErr {α : Type} : Except Failure α → Prop
  | .error f => f.IsError
  | .ok _ => False

/-- `(*multierror.Error).ErrorOrNil` over the texts of the collected errors, with the text of the
package's default `ListFormatFunc`. -/
def multierrorErrorOrNil : List String → Option Failure
  | [] => none
  | [e] => some (.error ("1 error occurred:\n\t* " ++ e ++ "\n\n"))
  | es => some (.error (toString es.length ++ " errors occurred:\n\t" ++
      "\n\t".intercalate (es.map ("* " ++ ·)) ++ "\n\n"))

theorem multierrorErrorOrNil_eq_none {es : List String} :
    multierrorErrorOrNil es = none ↔ es = [] := by
  match es with
  | [] => simp [multierrorErrorOrNil]
  | [e] => simp [multierrorErrorOrNil]
  | _ :: _ :: _ => simp [multierrorErrorOrNil]

/-- `multierror.Append(multierr, err)` over the texts of the collected errors: a nil `err` adds
nothing. -/
def multierrorAppend (errs : List String) : Option Failure → List String
  | none => errs
  | some (.error e) => errs ++ [e]
  | some (.panic p) => errs ++ [p]

/-- `errors.Wrap(err, msg)` on the error of a call: the call's value, or its error wrapped. -/
def errorsWrap {α : Type} (r : Except Failure α) (msg : String) : Except Failure α :=
  match r with
  | .ok a => .ok a
  | .error e => .error (e.wrap msg)

@[simp] theorem errorsWrap_ok {α : Type} (a : α) (msg : String) :
    errorsWrap (.ok a) msg = .ok a := rfl

theorem errorsWrap_eq_ok {α : Type} {r : Except Failure α} {msg : String} {a : α} :
    errorsWrap r msg = .ok a ↔ r = .ok a := by
  cases r <;> simp [errorsWrap]

/-- A sequence of calls gets through exactly when its first call does and the rest gets through
on that call's value. -/
theorem bind_eq_ok {ε α β : Type} {x : Except ε α} {f : α → Except ε β} {b : β} :
    x >>= f = .ok b ↔ ∃ a, x = .ok a ∧ f a = .ok b := by
  cases x <;> simp [bind, Except.bind]

/-- A loop that stops at its first failure: when it gets through, each element's step gave the
element of the result in its place. -/
theorem mapM_forall₂ {α β ε : Type} {f : α → Except ε β} :
    ∀ {l : List α} {bs : List β}, l.mapM f = .ok bs → List.Forall₂ (fun a b => f a = .ok b) l bs
  | [], bs, h => by
    rw [List.mapM_nil] at h
    cases h
    exact .nil
  | a :: l, bs, h => by
    rw [List.mapM_cons] at h
    cases ha : f a with
    | error e => rw [ha] at h; cases h
    | ok b =>
      cases hl : l.mapM f with
      | error e => rw [ha, hl] at h; cases h
      | ok bs' =>
        rw [ha, hl] at h
        cases h
        exact .cons ha (mapM_forall₂ hl)

theorem exists_of_forall₂_of_mem {α β : Type} {R : α → β → Prop} {l : List α} {bs : List β}
    {b : β} (h : List.Forall₂ R l bs) (hb : b ∈ bs) : ∃ a ∈ l, R a b := by
  induction h with
  | nil => cases hb
  | cons hab _ ih =>
    rcases List.mem_cons.1 hb with rfl | hb
    · exact ⟨_, List.mem_cons_self _ _, hab⟩
    · obtain ⟨a, ha, hr⟩ := ih hb
      exact ⟨a, List.mem_cons_of_mem _ ha, hr⟩

/-- A loop that stops at its first failure fails with the failure of one of its passes. -/
theorem foldlM_eq_error {ε α β : Type} {f : β → α → Except ε β} {e : ε} :
    ∀ {l : List α} {acc : β}, l.foldlM f acc = .error e → ∃ a ∈ l, ∃ b, f b a = .error e
  | [], _, h => by cases h
  | a :: l, acc, h => by
    rw [List.foldlM_cons] at h
    cases hf : f acc a with
    | error e' => rw [hf] at h; cases h; exact ⟨a, List.mem_cons_self _ _, acc, hf⟩
    | ok b =>
      rw [hf] at h
      obtain ⟨a', ha', b', h'⟩ := foldlM_eq_error h
      exact ⟨a', List.mem_cons_of_mem _ ha', b', h'⟩

/-- A loop through a pass that fails from every state does not get through. -/
theorem foldlM_ne_ok {ε α β : Type} {f : β → α → Except ε β} {a : α}
    (hf : ∀ b, ∃ e, f b a = .error e) :
    ∀ {l : List α}, a ∈ l → ∀ acc r : β, l.foldlM f acc ≠ .ok r
  | [], ha, _, _ => absurd ha (List.not_mem_nil _)
  | a' :: l, ha, acc, r => by
    rw [List.foldlM_cons]
    rcases List.mem_cons.1 ha with rfl | ha
    · obtain ⟨e, he⟩ := hf acc
      rw [he]
      exact fun h => by cases h
    · cases f acc a' with
      | error e => exact fun h => by cases h
      | ok b => exact foldlM_ne_ok hf ha b r

/-! ### Machine integers and allocation -/

/-- Go's `int` arithmetic on a 64-bit platform: the exact result taken back into
`[-2^63, 2^63)`. -/
def wrapInt (x : Int) : Int := (x + 2 ^ 63) % 2 ^ 64 - 2 ^ 63

/-- Go's conversion `uint(x)` of an `int` on a 64-bit platform: the two's-complement bits read as
an unsigned number. -/
def goUint (x : Int) : UInt64 := UInt64.ofNat (x % 2 ^ 64).toNat

/-- The run time's `maxAlloc` on linux/amd64: no allocation may pass `2^48` bytes. -/
def maxAlloc : Nat := 2 ^ 48

/-- Whether `make([]T, 0, cap)` panics with `makeslice: cap out of range`, for elements of
`elemSize` bytes: the capacity, converted to `uintptr`, times the element size overflows or passes
`maxAlloc`.  Computing the product exactly decides both at once, as `maxAlloc < 2^64`. -/
def makeSliceCapOutOfRange (elemSize : Nat) (cap : Int) : Bool :=
  maxAlloc < (cap % 2 ^ 64).toNat * elemSize

theorem goUint_toNat {x : Int} (h0 : 0 ≤ x) (h : x < 2 ^ 64) : ((goUint x).toNat : Int) = x := by
  have hmod : x % 2 ^ 64 = x := Int.emod_eq_of_lt h0 h
  have hlt : x.toNat < UInt64.size := by
    show x.toNat < 18446744073709551616
    omega
  rw [goUint, hmod, UInt64.toNat_ofNat_of_lt hlt, Int.toNat_of_nonneg h0]

/-- `uint(x)` is `x` modulo `2^64`. -/
theorem goUint_toNat_emod (x : Int) : ((goUint x).toNat : Int) = x % 2 ^ 64 := by
  have h0 : 0 ≤ x % 2 ^ 64 := Int.emod_nonneg x (by decide)
  have hlt : (x % 2 ^ 64).toNat < UInt64.size := by
    show (x % 2 ^ 64).toNat < 18446744073709551616
    have := Int.emod_lt_of_pos x (by decide : (0 : Int) < 2 ^ 64)
    omega
  rw [goUint, UInt64.toNat_ofNat_of_lt hlt, Int.toNat_of_nonneg h0]

/-- A non-negative capacity passes the check of `makeslice` exactly when its bytes fit
`maxAlloc`. -/
theorem makeSliceCapOutOfRange_wrapInt {elemSize : Nat} {n : Int} (h0 : 0 ≤ n)
    (h : n * elemSize ≤ maxAlloc) (hw : n < 2 ^ 63) :
    makeSliceCapOutOfRange elemSize (wrapInt n) = false := by
  have hwrap : wrapInt n = n := by
    rw [wrapInt, Int.emod_eq_of_lt (by omega) (by omega)]
    omega
  have hmod : n % 2 ^ 64 = n := Int.emod_eq_of_lt h0 (by omega)
  simp only [makeSliceCapOutOfRange, hwrap, hmod, decide_eq_false_iff_not, not_lt]
  obtain ⟨k, rfl⟩ := Int.eq_ofNat_of_zero_le h0
  rw [Int.toNat_ofNat]
  exact_mod_cast h

/-! ### Printing integers: `fmt`'s `fmtInteger` -/

/-- The digits of `n` in base `b`, least significant first, as the loop of `fmt`'s `fmtInteger`
emits them: while the number is not below the base, emit its last digit and divide.  `fuel`
bounds the loop; `n + 1` is always enough. -/
def digitsRev (b : Nat) : Nat → Nat → List Nat
  | 0, _ => []
  | fuel + 1, n => if n < b then [n] else n % b :: digitsRev b fuel (n / b)

/-- `fmt`'s `%d` (`b = 10`) and `%x` (`b = 16`) of an unsigned integer: its digits, most
significant first, in the lower-case alphabet `0123456789abcdef`, with no leading zero. -/
def fmtUint (b n : Nat) : String :=
  ⟨(digitsRev b (n + 1) n).reverse.map Nat.digitChar⟩

/-- `fmt`'s `%0wx` and `%0wd`: the digits left-padded with zeros to at least `w` of them. -/
def fmtUintPad (w b n : Nat) : String :=
  ⟨List.replicate (w - (fmtUint b n).length) '0' ++ (fmtUint b n).data⟩

/-! ### Parsing integers: `strconv` -/

/-- The value of a digit character in `strconv`'s alphabet: `0`–`9`, then the letters of either
case for 10 to 35. -/
def digitVal (c : Char) : Option Nat :=
  if '0' ≤ c ∧ c ≤ '9' then some (c.toNat - '0'.toNat)
  else if 'a' ≤ c ∧ c ≤ 'z' then some (c.toNat - 'a'.toNat + 10)
  else if 'A' ≤ c ∧ c ≤ 'Z' then some (c.toNat - 'A'.toNat + 10)
  else none

/-- The two ways `strconv` rejects a number. -/
inductive NumErr where
  | errSyntax
  | errRange
  deriving DecidableEq, Repr

/-- The digit loop of `strconv.ParseUint`: each character must be a digit below the base, and
the loop stops with a range error as soon as the value passes `maxVal`. -/
def parseUintLoop (base maxVal : Nat) : Nat → List Char → Except NumErr Nat
  | n, [] => .ok n
  | n, c :: cs =>
    match digitVal c with
    | some d =>
      if d < base then
        if n * base + d ≤ maxVal then parseUintLoop base maxVal (n * base + d) cs
        else .error .errRange
      else .error .errSyntax
    | none => .error .errSyntax

/-- `strconv.Quote` on the text of a number, for the printable characters such text holds. -/
def quote (s : String) : String := "\"" ++ s ++ "\""

/-- The text of a `*strconv.NumError`. -/
def NumErr.text (fn s : String) : NumErr → String
  | .errSyntax => "strconv." ++ fn ++ ": parsing " ++ quote s ++ ": invalid syntax"
  | .errRange => "strconv." ++ fn ++ ": parsing " ++ quote s ++ ": value out of range"

/-- `strconv.ParseUint(s, base, bitSize)` for the bases 2 to 36 and the bit sizes 1 to 64 the
package passes: the value and the error, as Go returns them (`0` after a syntax error, the
largest value after a range error). -/
def parseUint (s : String) (base bitSize : Nat) : Nat × Option Failure :=
  if s.data = [] then (0, some (.error (NumErr.errSyntax.text "ParseUint" s)))
  else
    match parseUintLoop base (2 ^ bitSize - 1) 0 s.data with
    | .ok n => (n, none)
    | .error .errSyntax => (0, some (.error (NumErr.errSyntax.text "ParseUint" s)))
    | .error .errRange => (2 ^ bitSize - 1, some (.error (NumErr.errRange.text "ParseUint" s)))

/-- `strconv.Atoi` on a 64-bit platform, through `strconv.ParseInt(s, 10, 0)`: an optional sign,
then decimal digits, with a value in the range of `int`.  The fast path Go takes for short
strings computes the same result. -/
def atoi (s : String) : Except Failure Int :=
  let (neg, digits) : Bool × List Char :=
    match s.data with
    | '+' :: t => (false, t)
    | '-' :: t => (true, t)
    | t => (false, t)
  if s.data = [] ∨ digits = [] then .error (.error (NumErr.errSyntax.text "Atoi" s))
  else
    match parseUintLoop 10 (2 ^ 64 - 1) 0 digits with
    | .error .errSyntax => .error (.error (NumErr.errSyntax.text "Atoi" s))
    | .error .errRange => .error (.error (NumErr.errRange.text "Atoi" s))
    | .ok un =>
      if !neg ∧ 2 ^ 63 ≤ un then .error (.error (NumErr.errRange.text "Atoi" s))
      else if neg ∧ 2 ^ 63 < un then .error (.error (NumErr.errRange.text "Atoi" s))
      else .ok (if neg then -(un : Int) else un)

/-- `strconv.Atoi` fails only with a returned error. -/
theorem atoi_error {s : String} {f : Failure} (h : atoi s = .error f) : f.IsError := by
  unfold atoi at h
  repeat' split at h
  all_goals first | (cases h; trivial) | cases h

/-- `strconv.Atoi` returns an `int`: a value in `[-2^63, 2^63)`. -/
theorem atoi_range {s : String} {n : Int} (h : atoi s = .ok n) : -2 ^ 63 ≤ n ∧ n < 2 ^ 63 := by
  unfold atoi at h
  repeat' split at h
  all_goals first | (injection h with h; subst h; simp_all; omega) | cases h

/-! ### Printing then parsing -/

theorem parseUintLoop_append (base maxVal n : Nat) (xs ys : List Char) :
    parseUintLoop base maxVal n (xs ++ ys) =
      (parseUintLoop base maxVal n xs).bind fun m => parseUintLoop base maxVal m ys := by
  induction xs generalizing n with
  | nil => rfl
  | cons c cs ih =>
    simp only [List.cons_append, parseUintLoop]
    split
    · split
      · split
        · exact ih _
        · rfl
      · rfl
    · rfl

theorem digitVal_digitChar : ∀ d, d < 16 → digitVal (Nat.digitChar d) = some d := by
  decide

/-- The digit loop reads back the number the printing loop wrote, when it stays below `maxVal`
and the fuel suffices. -/
theorem parseUintLoop_digitsRev (b maxVal : Nat) (hb : 2 ≤ b) (hb16 : b ≤ 16) :
    ∀ fuel n, n < fuel → n ≤ maxVal →
      parseUintLoop b maxVal 0 ((digitsRev b fuel n).reverse.map Nat.digitChar) = .ok n := by
  intro fuel
  induction fuel with
  | zero => intro n h; omega
  | succ fuel ih =>
    intro n hfuel hmax
    unfold digitsRev
    split
    · case isTrue hlt =>
      simp [parseUintLoop, digitVal_digitChar n (by omega), hlt, hmax]
    · case isFalse hge =>
      have hdiv : n / b < n := Nat.div_lt_self (by omega) (by omega)
      have hsplit : n / b * b + n % b = n := Nat.div_add_mod' n b
      rw [List.reverse_cons, List.map_append, parseUintLoop_append,
        ih (n / b) (by omega) (by omega)]
      have hmod : n % b < b := Nat.mod_lt n (by omega)
      simp [Except.bind, parseUintLoop, digitVal_digitChar (n % b) (by omega), hmod, hsplit, hmax]

theorem fmtUint_data (b n : Nat) :
    (fmtUint b n).data = (digitsRev b (n + 1) n).reverse.map Nat.digitChar := rfl

theorem fmtUint_ne_nil (b n : Nat) : (fmtUint b n).data ≠ [] := by
  simp [fmtUint_data, digitsRev]
  split <;> simp

/-- **Printing then parsing is the identity**: `strconv.ParseUint` reads back what `fmt` printed
in the same base, for every number that fits the bit size. -/
theorem parseUint_fmtUint (b w n : Nat) (hb : 2 ≤ b) (hb16 : b ≤ 16) (hn : n < 2 ^ w) :
    parseUint (fmtUint b n) b w = (n, none) := by
  have hloop := parseUintLoop_digitsRev b (2 ^ w - 1) hb hb16 (n + 1) n (by omega) (by omega)
  simp only [parseUint, fmtUint_ne_nil, if_false]
  rw [fmtUint_data, hloop]

/-- Two numbers with the same text are equal, as parsing the text gives either of them back. -/
theorem fmtUint_injective {b i n : Nat} (hb : 2 ≤ b) (hb16 : b ≤ 16)
    (h : fmtUint b i = fmtUint b n) : i = n := by
  have hi := parseUint_fmtUint b (i + n) i hb hb16
    ((Nat.lt_two_pow i).trans_le (Nat.pow_le_pow_right (by decide) (Nat.le_add_right i n)))
  have hn := parseUint_fmtUint b (i + n) n hb hb16
    ((Nat.lt_two_pow n).trans_le (Nat.pow_le_pow_right (by decide) (Nat.le_add_left n i)))
  rw [h, hn] at hi
  exact (Prod.mk.inj hi).1.symm

/-- Leading zeros do not change what the digit loop reads. -/
theorem parseUintLoop_zeros (b maxVal k : Nat) (hb : 0 < b) (xs : List Char) :
    parseUintLoop b maxVal 0 (List.replicate k '0' ++ xs) = parseUintLoop b maxVal 0 xs := by
  induction k with
  | zero => rfl
  | succ k ih =>
    have h0 : digitVal '0' = some 0 := by decide
    rw [List.replicate_succ, List.cons_append, parseUintLoop, h0]
    simpa [hb] using ih

theorem digitsRev_lt (b : Nat) (hb : 2 ≤ b) :
    ∀ fuel n, ∀ d ∈ digitsRev b fuel n, d < b := by
  intro fuel
  induction fuel with
  | zero => simp [digitsRev]
  | succ fuel ih =>
    intro n d hd
    unfold digitsRev at hd
    split at hd
    · simp_all
    · rcases List.mem_cons.1 hd with rfl | hd
      · exact Nat.mod_lt _ (by omega)
      · exact ih _ d hd

/-- A character that is no digit of the alphabet never occurs in a printed integer. -/
theorem not_mem_fmtUint {c : Char} (hc : ∀ d, d < 16 → Nat.digitChar d ≠ c) (b n : Nat)
    (hb : 2 ≤ b) (hb16 : b ≤ 16) : c ∉ (fmtUint b n).data := by
  simp only [fmtUint_data, List.mem_map, List.mem_reverse, not_exists, not_and]
  exact fun d hd => hc d (by have := digitsRev_lt b hb _ _ d hd; omega)

theorem not_mem_fmtUintPad {c : Char} (hc : ∀ d, d < 16 → Nat.digitChar d ≠ c) (w b n : Nat)
    (hb : 2 ≤ b) (hb16 : b ≤ 16) : c ∉ (fmtUintPad w b n).data := by
  simp only [fmtUintPad, List.mem_append, List.mem_replicate, not_or, not_and]
  exact ⟨fun _ e => hc 0 (by omega) e.symm, not_mem_fmtUint hc b n hb hb16⟩

theorem parseUint_fmtUintPad (w b k n : Nat) (hb : 2 ≤ b) (hb16 : b ≤ 16) (hn : n < 2 ^ k) :
    parseUint (fmtUintPad w b n) b k = (n, none) := by
  have hloop := parseUintLoop_digitsRev b (2 ^ k - 1) hb hb16 (n + 1) n (by omega) (by omega)
  have hne : (fmtUintPad w b n).data ≠ [] := by
    simp [fmtUintPad, fmtUint_ne_nil]
  simp only [parseUint, hne, if_false]
  rw [fmtUintPad, parseUintLoop_zeros _ _ _ (by omega), fmtUint_data, hloop]

/-! ### What `strconv.ParseUint` accepts -/

/-- One pass of the digit loop: shift in the value of the next digit. -/
def digitStep (b n : Nat) (c : Char) : Nat := n * b + (digitVal c).getD 0

/-- The value of the digits `cs` in base `b`, most significant first. -/
def digitsValue (b : Nat) (cs : List Char) : Nat := cs.foldl (digitStep b) 0

theorem digitStep_of_digitVal {b n d : Nat} {c : Char} (h : digitVal c = some d) :
    digitStep b n c = n * b + d := by
  rw [digitStep, h, Option.getD_some]

theorem le_foldl_digitStep {b : Nat} (hb : 0 < b) (n : Nat) (cs : List Char) :
    n ≤ cs.foldl (digitStep b) n := by
  induction cs generalizing n with
  | nil => exact le_rfl
  | cons c cs ih => exact (Nat.le_add_right_of_le (Nat.le_mul_of_pos_right n hb)).trans (ih _)

/-- The digit loop gets through exactly when every character is a digit below the base and the
value, which only grows, ends at most `maxVal`. -/
theorem parseUintLoop_eq_ok_iff {b maxVal n v : Nat} (hb : 0 < b) (hn : n ≤ maxVal)
    (cs : List Char) :
    parseUintLoop b maxVal n cs = .ok v ↔
      (∀ c ∈ cs, ∃ d, digitVal c = some d ∧ d < b) ∧ cs.foldl (digitStep b) n = v ∧
        v ≤ maxVal := by
  induction cs generalizing n with
  | nil =>
    simp only [parseUintLoop, Except.ok.injEq, List.not_mem_nil, false_implies, implies_true,
      List.foldl_nil, true_and]
    exact ⟨fun h => ⟨h, h ▸ hn⟩, And.left⟩
  | cons c cs ih =>
    simp only [parseUintLoop, List.mem_cons, forall_eq_or_imp, List.foldl_cons]
    cases hd : digitVal c with
    | none => simp
    | some d =>
      simp only [Option.some.injEq, exists_eq_left']
      by_cases hdb : d < b
      · by_cases hmax : n * b + d ≤ maxVal
        · simp only [hdb, hmax, if_true, ih hmax, digitStep_of_digitVal hd, true_and]
        · have hle := le_foldl_digitStep hb (n * b + d) cs
          simp only [hdb, hmax, if_true, if_false, digitStep_of_digitVal hd]
          constructor
          · intro h; cases h
          · rintro ⟨-, rfl, hv⟩; omega
      · simp [hdb]

/-- **What `strconv.ParseUint` accepts**: one or more digits below the base, worth less than
`2 ^ bitSize`. -/
theorem parseUint_eq_ok_iff (s : String) {b w v : Nat} (hb : 0 < b) :
    parseUint s b w = (v, none) ↔ s.data ≠ [] ∧ (∀ c ∈ s.data, ∃ d, digitVal c = some d ∧ d < b) ∧
      digitsValue b s.data = v ∧ v < 2 ^ w := by
  have hloop := @parseUintLoop_eq_ok_iff b (2 ^ w - 1) 0 v hb (Nat.zero_le _) s.data
  have hpow : v ≤ 2 ^ w - 1 ↔ v < 2 ^ w := by have := @Nat.one_le_two_pow w; omega
  rw [hpow] at hloop
  unfold parseUint
  by_cases hs : s.data = []
  · simp [hs]
  · simp only [hs, if_false, ne_eq, not_false_eq_true, true_and, digitsValue]
    split <;> rename_i heq <;> rw [heq] at hloop <;>
      (simp only [Prod.mk.injEq, Except.ok.injEq, reduceCtorEq, and_true, and_false] at hloop ⊢
       exact hloop)

/-- `unicode.IsSpace`: the white space of Unicode, which is also the table of `isSpace` in `fmt`'s
scanner. -/
def unicodeIsSpace (c : Char) : Bool :=
  let r := c.toNat
  (0x0009 ≤ r && r ≤ 0x000d) || r == 0x0020 || r == 0x0085 || r == 0x00a0 || r == 0x1680 ||
    (0x2000 ≤ r && r ≤ 0x200a) || r == 0x2028 || r == 0x2029 || r == 0x202f || r == 0x205f ||
    r == 0x3000

/-- `strings.TrimSpace`: the text without its leading and trailing white space. -/
def trimSpace (s : String) : String :=
  ⟨((s.data.dropWhile unicodeIsSpace).reverse.dropWhile unicodeIsSpace).reverse⟩

theorem dropWhile_of_head {p : Char → Bool} {l : List Char} (h : ∀ c ∈ l.head?, p c = false) :
    l.dropWhile p = l := by
  cases l with
  | nil => rfl
  | cons c l => simp [List.dropWhile_cons, h c rfl]

/-- `TrimSpace` of a text that neither starts nor ends with white space, followed by white space,
is the text. -/
theorem trimSpace_append_spaces {l sp : List Char}
    (hhead : ∀ c ∈ l.head?, unicodeIsSpace c = false)
    (hlast : ∀ c ∈ l.getLast?, unicodeIsSpace c = false) (hsp : ∀ c ∈ sp, unicodeIsSpace c) :
    trimSpace ⟨l ++ sp⟩ = ⟨l⟩ := by
  have hsp' : sp.reverse.dropWhile unicodeIsSpace = [] :=
    List.dropWhile_eq_nil_iff.2 fun c hc => hsp c (List.mem_reverse.1 hc)
  by_cases hl : l = []
  · subst hl
    simp [trimSpace, List.dropWhile_eq_nil_iff.2 hsp]
  · have hhead' : ∀ c ∈ (l ++ sp).head?, unicodeIsSpace c = false := by
      rwa [List.head?_append_of_ne_nil _ hl]
    rw [trimSpace, dropWhile_of_head hhead', List.reverse_append, List.dropWhile_append, hsp',
      List.isEmpty_nil, if_pos rfl,
      dropWhile_of_head (by rwa [List.head?_reverse]), List.reverse_reverse]

/-- `TrimSpace` of a text that does not start with white space drops its trailing white space. -/
theorem trimSpace_of_head {l : List Char} (hhead : ∀ c ∈ l.head?, unicodeIsSpace c = false) :
    trimSpace ⟨l⟩ = ⟨l.rdropWhile unicodeIsSpace⟩ := by
  rw [trimSpace, dropWhile_of_head hhead]; rfl

theorem rdropWhile_append {α : Type} [DecidableEq α] {p : α → Bool} (a b : List α) :
    (a ++ b).rdropWhile p = if b.rdropWhile p = [] then a.rdropWhile p else a ++ b.rdropWhile p := by
  simp only [List.rdropWhile, List.reverse_append, List.dropWhile_append, List.isEmpty_iff,
    List.reverse_eq_nil_iff]
  split_ifs <;> simp

/-! ### Prefixes: `strings.HasPrefix` and `strings.TrimPrefix` -/

/-- `strings.HasPrefix`. -/
def hasPrefix (s pre : String) : Bool := pre.data.isPrefixOf s.data

/-- `strings.TrimPrefix`: the text without the prefix `pre`, or the text itself when it does not
start with it. -/
def trimPrefix (s pre : String) : String :=
  if hasPrefix s pre then ⟨s.data.drop pre.data.length⟩ else s

theorem trimPrefix_append (pre : String) (l : List Char) : trimPrefix ⟨pre.data ++ l⟩ pre = ⟨l⟩ := by
  simp [trimPrefix, hasPrefix]

/-! ### Scanning a hex port: `fmt.Sscanf` with `0x%x` -/

/-- `SkipSpace` of `Sscanf`, where a newline is no space: the input after the leading spaces, or
the error a newline raises.  (The `\r` of a `\r\n` is passed over, as every `\r` is.) -/
def scanSkipSpace : List Char → Except String (List Char)
  | [] => .ok []
  | c :: cs =>
    if c = '\n' then .error "unexpected newline"
    else if unicodeIsSpace c then scanSkipSpace cs else .ok (c :: cs)

/-- `hexadecimalDigits`: the characters `fmt`'s scanner takes into a `%x` token. -/
def hexadecimalDigits : List Char := "0123456789aAbBcCdDeEfF".data

/-- `fmt.Sscanf(s, "0x%x", &port)` into a `uint` on a 64-bit platform: the literal `0x`, the
spaces `SkipSpace` passes, then a token of hex digits, read by
`strconv.ParseUint(tok, 16, 64)`; the text after the token is left unread.  The value is `0` when
the call fails, since `port` is then never assigned. -/
def sscanfHex (s : String) : Nat × Option Failure :=
  match s.data with
  | '0' :: 'x' :: cs =>
    match scanSkipSpace cs with
    | .error e => (0, some (.error e))
    | .ok [] => (0, some (.error "EOF"))
    | .ok rest =>
      let tok := rest.takeWhile (· ∈ hexadecimalDigits)
      if tok = [] then (0, some (.error "expected integer"))
      else
        match parseUint ⟨tok⟩ 16 64 with
        | (n, none) => (n, none)
        | (_, some f) => (0, some f)
  | [] | ['0'] => (0, some (.error "unexpected EOF"))
  | _ => (0, some (.error "input does not match format"))

/-- What `Sscanf(s, "0x%x", &port)` reads as `port`: `0x`, spaces other than a newline, one or
more hex digits worth `port`, below `2^64`, and then any text that does not go on with a hex
digit. -/
def ScanHexShape (s : String) (port : Nat) : Prop :=
  ∃ sp ds rest, s.data = '0' :: 'x' :: (sp ++ ds ++ rest) ∧
    (∀ c ∈ sp, unicodeIsSpace c ∧ c ≠ '\n') ∧ ds ≠ [] ∧ (∀ c ∈ ds, c ∈ hexadecimalDigits) ∧
    (∀ c ∈ rest.head?, c ∉ hexadecimalDigits) ∧ digitsValue 16 ds = port ∧ port < 2 ^ 64

theorem scanSkipSpace_append {sp r : List Char} (hsp : ∀ c ∈ sp, unicodeIsSpace c ∧ c ≠ '\n')
    (hr : ∀ c ∈ r.head?, unicodeIsSpace c = false) : scanSkipSpace (sp ++ r) = .ok r := by
  induction sp with
  | nil =>
    cases r with
    | nil => rfl
    | cons c r =>
      have hc : unicodeIsSpace c = false := hr c rfl
      have hn : c ≠ '\n' := fun h => absurd (h ▸ hc) (by decide)
      simp [scanSkipSpace, hc, hn]
  | cons c sp ih =>
    obtain ⟨hs, hn⟩ := hsp c (List.mem_cons_self _ _)
    simp only [List.cons_append, scanSkipSpace, hn, if_false, hs, if_true]
    exact ih fun c hc => hsp c (List.mem_cons_of_mem _ hc)

theorem scanSkipSpace_eq_ok {cs r : List Char} (h : scanSkipSpace cs = .ok r) :
    ∃ sp, cs = sp ++ r ∧ (∀ c ∈ sp, unicodeIsSpace c ∧ c ≠ '\n') ∧
      ∀ c ∈ r.head?, unicodeIsSpace c = false := by
  induction cs with
  | nil => cases h; exact ⟨[], rfl, by simp, by simp⟩
  | cons c cs ih =>
    simp only [scanSkipSpace] at h
    split_ifs at h with hn hs
    · obtain ⟨sp, rfl, hsp, hr⟩ := ih h
      exact ⟨c :: sp, rfl, by simpa [hs, hn] using hsp, hr⟩
    · cases h; exact ⟨[], rfl, by simp, by simpa using hs⟩

theorem takeWhile_append_of_head {p : Char → Bool} {ds rest : List Char}
    (hds : ∀ c ∈ ds, p c) (hrest : ∀ c ∈ rest.head?, p c = false) :
    (ds ++ rest).takeWhile p = ds := by
  rw [List.takeWhile_append_of_pos hds]
  cases rest with
  | nil => simp
  | cons c rest => simp [List.takeWhile_cons, hrest c rfl]

theorem head?_dropWhile {p : Char → Bool} (l : List Char) :
    ∀ c ∈ (l.dropWhile p).head?, p c = false := by
  intro c hc
  have hne : l.dropWhile p ≠ [] := fun h => by simp [h] at hc
  rw [← Option.some_inj.1 ((List.head?_eq_head hne).symm.trans hc)]
  exact List.head_dropWhile_not p l hne

theorem hexadecimalDigits_spec : ∀ c ∈ hexadecimalDigits, unicodeIsSpace c = false ∧
    ∃ d, digitVal c = some d ∧ d < 16 := by decide

/-- **What `Sscanf` reads with `0x%x`**: exactly the texts of `ScanHexShape`, whatever follows
the digits. -/
theorem sscanfHex_eq_ok_iff (s : String) (port : Nat) :
    sscanfHex s = (port, none) ↔ ScanHexShape s port := by
  constructor
  · intro h
    unfold sscanfHex at h
    split at h
    case h_1 cs hs =>
      split at h
      case h_3 rest _ hskip =>
        obtain ⟨sp, rfl, hsp, -⟩ := scanSkipSpace_eq_ok hskip
        dsimp only at h
        split_ifs at h with htok
        · cases h
        split at h
        · rename_i n hp
          cases h
          obtain ⟨-, hdig, hval, hlt⟩ := (parseUint_eq_ok_iff _ (by decide)).1 hp
          exact ⟨sp, _, _, by rw [hs, List.append_assoc, List.takeWhile_append_dropWhile], hsp,
            htok, fun c hc => by simpa using List.mem_takeWhile_imp hc,
            fun c hc => by simpa using head?_dropWhile rest c hc, hval, hlt⟩
        · cases h
      all_goals cases h
    all_goals cases h
  · rintro ⟨sp, ds, rest, hs, hsp, hds, hhex, hrest, hval, hlt⟩
    have hskip : scanSkipSpace (sp ++ ds ++ rest) = .ok (ds ++ rest) := by
      rw [List.append_assoc]
      refine scanSkipSpace_append hsp fun c hc => ?_
      obtain ⟨d, ds, rfl⟩ := List.exists_cons_of_ne_nil hds
      cases hc
      exact (hexadecimalDigits_spec c (hhex c (List.mem_cons_self _ _))).1
    have htok : (ds ++ rest).takeWhile (· ∈ hexadecimalDigits) = ds :=
      takeWhile_append_of_head (fun c hc => by simpa using hhex c hc)
        (fun c hc => by simpa using hrest c hc)
    have hp : parseUint ⟨ds⟩ 16 64 = (port, none) :=
      (parseUint_eq_ok_iff _ (by decide)).2 ⟨hds, fun c hc => (hexadecimalDigits_spec c (hhex c hc)).2,
        hval, hlt⟩
    have hne : ds ++ rest ≠ [] := by simp [hds]
    unfold sscanfHex
    rw [hs]
    simp only [hskip, htok, hds, if_false, hp]

/-! ### Cutting at a separator: `strings.Split` -/

/-- `strings.Split(s, sep)` for a one-character separator: the pieces between the separators,
always one more than there are separators. -/
def split (s : String) (sep : Char) : List String :=
  (s.data.splitOn sep).map String.mk

theorem split_of_not_mem (s : String) (sep : Char) (h : sep ∉ s.data) : split s sep = [s] := by
  rw [split, List.splitOn, List.splitOnP_eq_single]
  · rfl
  · intro x hx hxs
    exact h (by simpa using (beq_iff_eq.1 hxs) ▸ hx)

theorem split_append_sep (a b : String) (sep : Char) (h : sep ∉ a.data) :
    split (a ++ ⟨[sep]⟩ ++ b) sep = a :: split b sep := by
  have hdata : (a ++ ⟨[sep]⟩ ++ b).data = a.data ++ sep :: b.data := by simp
  rw [split, hdata, List.splitOn, List.splitOnP_first]
  · rfl
  · intro x hx hxs
    exact h (by simpa using (beq_iff_eq.1 hxs) ▸ hx)
  · simp

end Virtualbox
