/-
**The command argument builder of `natnet.go`: `CmdArgs` and its `Args`.**

`VBoxManage modifyvm` has no notion of a patch: every call must carry a complete argument list.
`CmdArgs` lets a caller lay defaults down first and explicit overrides on top: `Append`,
`AppendNoValue` and `AppendCmdArgs` add to a base sequence, `AppendOverride` to an override
sequence, and `Args` walks base then overrides, keeps each key once at the place it was first
seen, lets the last argument given for a key decide what is emitted, and drops deleted keys.

This module models the builder as the Go code computes it — `Args` is the two nested loops over
a Go map and an order slice — and proves it equal to a description that never mentions the map:
the distinct keys in order of first occurrence, each emitted from its last argument.

Main definitions:

* `Virtualbox.CmdArg`, `Virtualbox.CmdArgs` — the argument record and the builder;
* `Virtualbox.CmdArgs.Args` — `Args`, the token list for a command;
* `Virtualbox.CmdArgs.Call` — one call of the builder's append methods;
* `Virtualbox.firstKeys`, `Virtualbox.lastWithKey`, `Virtualbox.argsSpec` — the reference.

Main results:

* `Virtualbox.collect_foldl` — the invariant of the first loop: after any prefix, the order slice
  is the prefix's distinct keys and the map holds each key's last argument;
* `Virtualbox.CmdArgs.args_eq_argsSpec` — `Args` is the reference on base ++ overrides;
* `Virtualbox.argsSpec_of_nodup` — with distinct keys, the reference emits every argument, in
  order;
* `Virtualbox.CmdArgs.args_run` — **for every interleaving of calls**, `Args` is the reference on
  the base arguments followed by the override arguments, emits each key at most once, and lets an
  override beat every base argument of its key.
-/

import Mathlib

set_option relaxedAutoImplicit false
set_option autoImplicit false

namespace Virtualbox

/-! ### Arguments -/

/-- `CmdArg`: an argument of a command, a flag or a key with a value. -/
structure CmdArg where
  /-- The key, e.g. `--accelerate3d`. -/
  k : String
  /-- The value, `none` for an argument that takes none; `some ""` is a value. -/
  v : Option String
  /-- `ToCmdArgParts`: how key and value become tokens; `none` for the plain `[k, v]`. -/
  toCmdArgParts : Option (String → String → List String)
  /-- Whether the argument is deleted: it keeps its key's place but is not emitted. -/
  del : Bool

/-- Go's zero `CmdArg`. -/
instance : Inhabited CmdArg := ⟨⟨"", none, none, false⟩⟩

/-- `NewCmdArgNoValue`. -/
def newCmdArgNoValue (k : String) : CmdArg := ⟨k, none, none, false⟩

/-- `NewCmdArg`. -/
def newCmdArg (k v : String) : CmdArg := ⟨k, some v, none, false⟩

/-- `NewCmdArgDeleted`. -/
def newCmdArgDeleted (k : String) : CmdArg := ⟨k, none, none, true⟩

/-- The tokens one surviving argument contributes in `Args`: nothing when deleted, the bare key
without a value, key and value without a transform, and the transform's tokens otherwise. -/
def CmdArg.emit (arg : CmdArg) : List String :=
  if arg.del then []
  else
    match arg.v with
    | none => [arg.k]
    | some v =>
      match arg.toCmdArgParts with
      | none => [arg.k, v]
      | some f => f arg.k v

/-! ### The builder -/

/-- `CmdArgs`: the base arguments and the overrides, each in call order. -/
structure CmdArgs where
  args : List CmdArg
  overrides : List CmdArg

namespace CmdArgs

/-- The empty `CmdArgs{}`. -/
def empty : CmdArgs := ⟨[], []⟩

/-- `AppendNoValue`. -/
def appendNoValue (c : CmdArgs) (key : String) : CmdArgs :=
  { c with args := c.args ++ [newCmdArgNoValue key] }

/-- `Append`. -/
def append (c : CmdArgs) (key value : String) : CmdArgs :=
  { c with args := c.args ++ [newCmdArg key value] }

/-- `AppendCmdArgs`, which returns early on an empty argument list. -/
def appendCmdArgs (c : CmdArgs) (arg : List CmdArg) : CmdArgs :=
  if arg.length = 0 then c else { c with args := c.args ++ arg }

/-- `AppendOverride`, which returns early on an empty argument list. -/
def appendOverride (c : CmdArgs) (arg : List CmdArg) : CmdArgs :=
  if arg.length = 0 then c else { c with overrides := c.overrides ++ arg }

end CmdArgs

/-- One step of the first loop of `Args`: store the argument under its key in the map `m`, and
append the key to `orderK` the first time it is seen. -/
def collect (st : (String → Option CmdArg) × List String) (arg : CmdArg) :
    (String → Option CmdArg) × List String :=
  (Function.update st.1 arg.k (some arg),
    if (st.1 arg.k).isSome then st.2 else st.2 ++ [arg.k])

/-- `Args`: the first loop runs over the base arguments, then over the overrides; the second walks
the keys in `orderK` and emits the argument the map holds for each. -/
def CmdArgs.Args (c : CmdArgs) : List String :=
  let st := [c.args, c.overrides].foldl (fun st curArgs => curArgs.foldl collect st)
    (fun _ => none, [])
  st.2.flatMap fun k => (st.1 k).getD default |>.emit

/-! ### The reference -/

/-- The distinct keys of a list of arguments, in the order of their first occurrence. -/
def firstKeys : List CmdArg → List String
  | [] => []
  | a :: l => a.k :: (firstKeys l).filter (· ≠ a.k)

/-- The last argument of the list with key `k`. -/
def lastWithKey (l : List CmdArg) (k : String) : Option CmdArg :=
  l.reverse.find? (·.k = k)

/-- The reference for `Args`: each distinct key `K` once, in the order of first occurrence, with
the tokens its last argument gives: none when that argument is deleted, `[K]` when it has no value,
`[K, V]` for a value `V` without a `ToCmdArgParts`, and `ToCmdArgParts(K, V)` with one. -/
def argsSpec (l : List CmdArg) : List String :=
  (firstKeys l).flatMap fun K =>
    match lastWithKey l K with
    | none => []
    | some a =>
      if a.del then []
      else
        match a.v, a.toCmdArgParts with
        | none, _ => [K]
        | some V, none => [K, V]
        | some V, some toCmdArgParts => toCmdArgParts K V

theorem mem_firstKeys {l : List CmdArg} {k : String} : k ∈ firstKeys l ↔ k ∈ l.map CmdArg.k := by
  induction l with
  | nil => simp [firstKeys]
  | cons a l ih =>
    simp only [firstKeys, List.mem_cons, List.mem_filter, ih, List.map_cons]
    by_cases h : k = a.k <;> simp [h]

/-- Each key appears once in the reference's key list. -/
theorem firstKeys_nodup (l : List CmdArg) : (firstKeys l).Nodup := by
  induction l with
  | nil => exact List.nodup_nil
  | cons a l ih =>
    refine List.nodup_cons.2 ⟨by simp, ih.filter _⟩

theorem firstKeys_append_singleton (l : List CmdArg) (a : CmdArg) :
    firstKeys (l ++ [a]) =
      if a.k ∈ l.map CmdArg.k then firstKeys l else firstKeys l ++ [a.k] := by
  induction l with
  | nil => simp [firstKeys]
  | cons b l ih =>
    rw [List.cons_append, firstKeys, ih, firstKeys]
    by_cases hl : a.k ∈ l.map CmdArg.k
    · simp [hl]
    · by_cases hb : a.k = b.k
      · rw [if_neg hl, if_pos (by simp [hb])]
        simp [List.filter_append, hb]
      · rw [if_neg hl, if_neg (by simp [hl, hb])]
        simp [List.filter_append, hb]

theorem lastWithKey_append_singleton (l : List CmdArg) (a : CmdArg) :
    lastWithKey (l ++ [a]) = Function.update (lastWithKey l) a.k (some a) := by
  funext k
  simp only [lastWithKey, List.reverse_append, List.reverse_singleton, List.singleton_append,
    List.find?_cons]
  by_cases h : k = a.k
  · subst h; simp
  · simp [Ne.symm h, Function.update_noteq h]
    rfl

theorem lastWithKey_isSome {l : List CmdArg} {k : String} :
    (lastWithKey l k).isSome ↔ k ∈ l.map CmdArg.k := by
  rw [lastWithKey, List.find?_isSome]
  simp only [List.mem_reverse, decide_eq_true_eq, List.mem_map]

theorem lastWithKey_key {l : List CmdArg} {k : String} {a : CmdArg} (h : lastWithKey l k = some a) :
    a.k = k := by
  simpa using List.find?_some h

/-- Under its own key, the reference gives for an argument the tokens `Args` emits for it. -/
theorem argsSpec_eq_emit (l : List CmdArg) :
    argsSpec l = (firstKeys l).flatMap fun k => ((lastWithKey l k).getD default).emit := by
  refine List.flatMap_congr fun k hk => ?_
  obtain ⟨⟨k', v, t, d⟩, ha⟩ := Option.isSome_iff_exists.1
    (lastWithKey_isSome.2 (mem_firstKeys.1 hk))
  obtain rfl : k' = k := lastWithKey_key ha
  rw [ha]
  cases d <;> cases v <;> cases t <;> rfl

/-- An argument given after every argument of `pre` decides its key. -/
theorem lastWithKey_append_of_mem {pre post : List CmdArg} {k : String}
    (h : k ∈ post.map CmdArg.k) : lastWithKey (pre ++ post) k = lastWithKey post k := by
  simp only [lastWithKey, List.reverse_append, List.find?_append]
  have : (lastWithKey post k).isSome := lastWithKey_isSome.2 h
  rw [lastWithKey] at this
  cases hf : post.reverse.find? (·.k = k) with
  | none => simp [hf] at this
  | some a => rfl

/-! ### The first loop and `Args` -/

/-- **The invariant of the first loop**: from the empty map, after the arguments of `l` the order
slice holds the distinct keys of `l` in first-occurrence order and the map holds, for every key,
the last argument of `l` with that key. -/
theorem collect_foldl (l : List CmdArg) :
    l.foldl collect (fun _ => none, []) = (lastWithKey l, firstKeys l) := by
  induction l using List.reverseRecOn with
  | nil => rfl
  | append_singleton l a ih =>
    rw [List.foldl_append, ih, List.foldl_cons, List.foldl_nil, lastWithKey_append_singleton,
      firstKeys_append_singleton]
    simp only [collect, lastWithKey_isSome]

theorem CmdArgs.args_eq_argsSpec (c : CmdArgs) : c.Args = argsSpec (c.args ++ c.overrides) := by
  simp only [CmdArgs.Args, List.foldl_cons, List.foldl_nil]
  rw [← List.foldl_append, collect_foldl, argsSpec_eq_emit]

/-! ### Distinct keys -/

theorem firstKeys_of_nodup {l : List CmdArg} (h : (l.map CmdArg.k).Nodup) :
    firstKeys l = l.map CmdArg.k := by
  induction l with
  | nil => rfl
  | cons a l ih =>
    rw [List.map_cons, List.nodup_cons] at h
    rw [firstKeys, ih h.2, List.map_cons, List.filter_eq_self.2 fun k hk => by
      simpa using fun e : k = a.k => h.1 (e ▸ hk)]

theorem lastWithKey_of_nodup {l : List CmdArg} (h : (l.map CmdArg.k).Nodup) {a : CmdArg}
    (ha : a ∈ l) : lastWithKey l a.k = some a := by
  obtain ⟨pre, post, rfl⟩ := List.append_of_mem ha
  rw [List.map_append, List.map_cons] at h
  have hpost : a.k ∉ post.map CmdArg.k :=
    (List.nodup_cons.1 (h.sublist (List.sublist_append_right _ _))).1
  have hnone : post.reverse.find? (·.k = a.k) = none :=
    List.find?_eq_none.2 fun b hb => by
      simpa using fun e : b.k = a.k => hpost (e ▸ List.mem_map_of_mem _ (List.mem_reverse.1 hb))
  simp [lastWithKey, List.find?_append, hnone]

/-- **With distinct keys, `Args` drops and reorders nothing**: the reference emits every argument,
in order. -/
theorem argsSpec_of_nodup {l : List CmdArg} (h : (l.map CmdArg.k).Nodup) :
    argsSpec l = l.flatMap CmdArg.emit := by
  rw [argsSpec_eq_emit, firstKeys_of_nodup h, List.flatMap_map]
  exact List.flatMap_congr fun a ha => by simp [lastWithKey_of_nodup h ha]

/-! ### Any interleaving of calls -/

/-- A call of the builder's append methods. -/
inductive CmdArgs.Call where
  | append (key value : String)
  | appendNoValue (key : String)
  | appendCmdArgs (arg : List CmdArg)
  | appendOverride (arg : List CmdArg)

namespace CmdArgs.Call

/-- Running a call on a builder. -/
def run (c : CmdArgs) : Call → CmdArgs
  | append key value => c.append key value
  | appendNoValue key => c.appendNoValue key
  | appendCmdArgs arg => c.appendCmdArgs arg
  | appendOverride arg => c.appendOverride arg

/-- The arguments a call adds to the base sequence. -/
def base : Call → List CmdArg
  | append key value => [newCmdArg key value]
  | appendNoValue key => [newCmdArgNoValue key]
  | appendCmdArgs arg => arg
  | appendOverride _ => []

/-- The arguments a call adds to the override sequence. -/
def override : Call → List CmdArg
  | appendOverride arg => arg
  | _ => []

/-- One call appends its base arguments to the base and its override arguments to the
overrides. -/
theorem run_eq (c : CmdArgs) (call : Call) :
    run c call = ⟨c.args ++ call.base, c.overrides ++ call.override⟩ := by
  cases call with
  | append key value => simp [run, base, override, CmdArgs.append]
  | appendNoValue key => simp [run, base, override, CmdArgs.appendNoValue]
  | appendCmdArgs arg =>
    by_cases h : arg.length = 0
    · simp [run, base, override, CmdArgs.appendCmdArgs, h, List.length_eq_zero.1 h]
    · simp [run, base, override, CmdArgs.appendCmdArgs, h]
  | appendOverride arg =>
    by_cases h : arg.length = 0
    · simp [run, base, override, CmdArgs.appendOverride, h, List.length_eq_zero.1 h]
    · simp [run, base, override, CmdArgs.appendOverride, h]

theorem foldl_run (calls : List Call) (c : CmdArgs) :
    calls.foldl run c =
      ⟨c.args ++ calls.flatMap base, c.overrides ++ calls.flatMap override⟩ := by
  induction calls generalizing c with
  | nil => simp
  | cons call calls ih => simp [ih, run_eq]

end CmdArgs.Call

/-- **`Args` after any interleaving of calls.**  From the empty builder, `Args` is the reference
on `L` = the base arguments in call order followed by the override arguments in call order, so it
depends on `L` only; its keys are distinct; and for a key that some override carries, the
argument that decides it is the last override with that key, whatever base arguments share it. -/
theorem CmdArgs.args_run (calls : List CmdArgs.Call) :
    let L := calls.flatMap CmdArgs.Call.base ++ calls.flatMap CmdArgs.Call.override
    (calls.foldl CmdArgs.Call.run CmdArgs.empty).Args = argsSpec L ∧
    (firstKeys L).Nodup ∧
    ∀ k ∈ (calls.flatMap CmdArgs.Call.override).map CmdArg.k,
      lastWithKey L k = lastWithKey (calls.flatMap CmdArgs.Call.override) k := by
  refine ⟨?_, firstKeys_nodup _, fun k hk => lastWithKey_append_of_mem hk⟩
  rw [CmdArgs.Call.foldl_run, CmdArgs.args_eq_argsSpec]
  rfl

end Virtualbox
