import Rlua.Runtime.Interp

/-!
# `safe_pcall` and `safe_xpcall` refine Lua's `pcall` and `xpcall`

The two protected calls of `util.rs` stand in for Lua's own. Away from Rust panics they must
behave as those do: run the callee on exactly its arguments, and report its results after
`true`, or its error value (for `xpcall`, the handler's first result on it) after `false`.

`referencePcall` and `referenceXpcall` state that convention in the spec's words, over how
the callee's run ended. The theorems compare them with `safePcall` and `safeXpcall` as the
source computes them, run by the interpreter of `Rlua.Runtime.Interp`: for `safe_pcall` under
any caller, and for `safe_xpcall` with the handler run where the error is raised, through
`xpcall_msgh`, as `luaG_errormsg` does.

## Main results

* `protected_calls_refine_reference`: both protected calls agree with the reference on every
  run whose error is no `WrappedPanic` (for `xpcall`, with a handler that returns), and raise
  the source's own message when the callee is missing.
-/

namespace Rlua

/-! ## The reference -/

/-- Lua's `pcall` as the spec describes it, from the callee's run: `true` followed by the
results, or `false` followed by the error value. A panic, an abort or a run out of fuel is not
caught. -/
def referencePcall : Outcome → Outcome
  | .ret rs h => .ret (.boolean true :: rs) h
  | .error v h => .ret [.boolean false, v] h
  | o => o

/-- Lua's `xpcall` as the spec describes it: as `pcall`, but an error value goes through the
message handler once, and `false` is followed by the handler's first result. -/
def referenceXpcall (handler : Value → Heap → Outcome) : Outcome → Outcome
  | .ret rs h => .ret (.boolean true :: rs) h
  | .error v h =>
    match handler v h with
    | .ret ws h' => .ret [.boolean false, ws.headD .nil] h'
    | o => o
  | o => o

/-- A run whose error, if it raises one, is no `WrappedPanic`. -/
def Outcome.NoPanicEnvelope : Outcome → Prop
  | .error v h => hasMetatable h v (.table panicMetatableRef) = false
  | _ => True

/-- A message handler's run that returns, with a first result that is no `WrappedPanic`. -/
def Outcome.ReturnsPlain : Outcome → Prop
  | .ret ws h => hasMetatable h (ws.headD .nil) (.table panicMetatableRef) = false
  | _ => False

/-- The top `vs.length` values of a frame are a C function's results. -/
theorem Res.toOutcome_ok_of_slots {fr : Frame} {below vs : List Value} {h : Heap}
    (hs : fr.slots = below ++ vs) : (Res.ok (vs.length : Int) fr h).toOutcome = .ret vs h := by
  simp [Res.toOutcome, Frame.top, hs]

/-! ## Each protected call under any caller -/

section AnyCaller

variable {E : Env} {call : Caller} {base : Nat} {f : Value} {args : List Value} {h : Heap}

theorem registryMetatable_panic_ctx (E : Env) (ups : List Value) (call : Caller) :
    registryMetatable (E.ctx ups call) Keys.panic = .table panicMetatableRef :=
  registryMetatable_panic (E.ctx_initialised ups call)

/-- `safe_pcall` is `referencePcall` of the callee's run. -/
theorem invoke_safePcall (hno : (call none f args (base + 1) h).NoPanicEnvelope) :
    invoke E call (.cfunction .safePcall) (f :: args) base h =
      referencePcall (call none f args (base + 1) h) := by
  simp only [invoke, cfunctionBody]
  rcases hc : call none f args (base + 1) h with ⟨rs, h'⟩ | ⟨v, h'⟩ | ⟨p, h'⟩ | msg | _
  · obtain ⟨fr', he, hs, -⟩ := safePcall_of_ret (c := E.ctx [] call) hc
    rw [he]
    exact Res.toOutcome_ok_of_slots (show fr'.slots = [] ++ _ from hs)
  · rw [hc] at hno
    obtain ⟨fr', he, hs, -⟩ := safePcall_of_error (c := E.ctx [] call) hc
      (by rw [registryMetatable_panic_ctx]; exact hno)
    rw [he]
    exact Res.toOutcome_ok_of_slots (show fr'.slots = [] ++ _ from hs)
  all_goals exact safePcall_of_halts (c := E.ctx [] call) hc trivial

/-- `safe_xpcall` is `referencePcall` of the callee's run under `xpcall_msgh`. -/
theorem invoke_safeXpcall {m : Value}
    (hno : (call (some (.cclosure .xpcallMsgh m)) f args (base + 2) h).NoPanicEnvelope) :
    invoke E call (.cfunction .safeXpcall) (f :: m :: args) base h =
      referencePcall (call (some (.cclosure .xpcallMsgh m)) f args (base + 2) h) := by
  simp only [invoke, cfunctionBody]
  rcases hc : call (some (.cclosure .xpcallMsgh m)) f args (base + 2) h with
    ⟨rs, h'⟩ | ⟨v, h'⟩ | ⟨p, h'⟩ | msg | _
  · obtain ⟨fr', he, hs, -⟩ := safeXpcall_of_ret (c := E.ctx [] call) hc
    rw [he]
    exact Res.toOutcome_ok_of_slots (show fr'.slots = [.cclosure .xpcallMsgh m] ++ _ from hs)
  · rw [hc] at hno
    obtain ⟨fr', he, hs, -⟩ := safeXpcall_of_error (c := E.ctx [] call) hc
      (by rw [registryMetatable_panic_ctx]; exact hno)
    rw [he]
    exact Res.toOutcome_ok_of_slots (show fr'.slots = [.cclosure .xpcallMsgh m] ++ _ from hs)
  all_goals exact safeXpcall_of_halts (c := E.ctx [] call) hc trivial

/-- `xpcall_msgh` over `m` on a value that is no `WrappedPanic` is the call of `m` on it. -/
theorem invoke_xpcallMsgh_of_plain {m v : Value}
    (hv : hasMetatable h v (.table panicMetatableRef) = false) :
    invoke E call (.cclosure .xpcallMsgh m) [v] base h = call none m [v] (base + 1) h :=
  xpcallMsgh_of_plain (c := E.ctx [m] call) rfl (by rw [registryMetatable_panic_ctx]; exact hv)

/-- With no callee, `safe_pcall` raises its own message. -/
theorem invoke_safePcall_nil :
    invoke E call (.cfunction .safePcall) [] base h =
      .error (.string "not enough arguments to pcall") h := by
  simp [invoke, cfunctionBody, safePcall, luaLCheckstack_entry, Frame.top, Res.toOutcome,
    indexValue_neg_one_eq]

/-- With no callee or no handler, `safe_xpcall` raises its own message. -/
theorem invoke_safeXpcall_short (hlen : args.length < 2) :
    invoke E call (.cfunction .safeXpcall) args base h =
      .error (.string "not enough arguments to xpcall") h := by
  have hlt : ((args.length : Int)) < 2 := by omega
  simp [invoke, cfunctionBody, safeXpcall, luaLCheckstack_entry, Frame.top, Res.toOutcome,
    indexValue_neg_one_eq, hlt]

end AnyCaller

/-! ## `safe_xpcall` in the interpreter -/

section Interpreter

variable {E : Env} {n base : Nat} {f m : Value} {args : List Value} {h : Heap}

/-- A run of the callee that ends in a panic, an abort or out of fuel is not handled. -/
theorem callFn_of_halts {hd : Option Value} {o : Outcome}
    (hf : invoke E (callFn E n) f args base h = o) (ho : o.Halts) :
    callFn E (n + 1) hd f args base h = o := by
  rw [callFn_succ, hf, handle_of_halts _ _ _ ho]

/-- The callee of `safe_xpcall`, run by the interpreter with `xpcall_msgh` over `m` as
message handler, on an error that is no `WrappedPanic`: the first result of `m` on it. -/
theorem callFn_xpcallMsgh {v : Value} {h' : Heap} {ws : List Value} {h'' : Heap}
    (hf : invoke E (callFn E (n + 1)) f args base h = .error v h')
    (hv : hasMetatable h' v (.table panicMetatableRef) = false)
    (hm : callFn E n none m [v] (base + 1) h' = .ret ws h'') :
    callFn E (n + 2) (some (.cclosure .xpcallMsgh m)) f args base h = .error (ws.headD .nil) h'' := by
  rw [callFn_succ, hf, handle_some_error, callFn_succ, invoke_xpcallMsgh_of_plain hv, hm,
    handle_ret]

/-- `safe_xpcall` with a handler that returns is `referenceXpcall` of the callee's run, the
handler being `m` called on the error. -/
theorem invoke_safeXpcall_interp
    (hno : (invoke E (callFn E (n + 1)) f args (base + 2) h).NoPanicEnvelope)
    (hm : ∀ v h', invoke E (callFn E (n + 1)) f args (base + 2) h = .error v h' →
      (callFn E n none m [v] (base + 3) h').ReturnsPlain) :
    invoke E (callFn E (n + 2)) (.cfunction .safeXpcall) (f :: m :: args) base h =
      referenceXpcall (fun v h' => callFn E n none m [v] (base + 3) h')
        (invoke E (callFn E (n + 1)) f args (base + 2) h) := by
  rcases hf : invoke E (callFn E (n + 1)) f args (base + 2) h with
    ⟨rs, h'⟩ | ⟨v, h'⟩ | ⟨p, h'⟩ | msg | _
  · have hc : callFn E (n + 2) (some (.cclosure .xpcallMsgh m)) f args (base + 2) h =
        .ret rs h' := by
      rw [callFn_succ, hf, handle_ret]
    rw [invoke_safeXpcall (by rw [hc]; trivial), hc]
    rfl
  · rw [hf] at hno
    have hr := hm v h' hf
    rcases hmr : callFn E n none m [v] (base + 3) h' with ⟨ws, h''⟩ | _ | _ | _ | _ <;>
      rw [hmr] at hr <;> simp only [Outcome.ReturnsPlain] at hr
    have hc := callFn_xpcallMsgh hf hno hmr
    rw [invoke_safeXpcall (by rw [hc]; exact hr), hc]
    simp [referenceXpcall, hmr, referencePcall]
  all_goals
    rw [invoke_safeXpcall (by rw [callFn_of_halts hf trivial]; trivial), callFn_of_halts hf trivial]
    rfl

end Interpreter

/-- `safe_pcall` and `safe_xpcall` against Lua's `pcall` and `xpcall`, for every program,
every fuel, every callee and every argument list:

1. `safe_pcall` calls the callee on exactly its arguments with no message handler and, when
   the callee raises no `WrappedPanic`, returns what `pcall` returns: `true` and the results,
   or `false` and the error value;
2. `safe_xpcall` calls the callee on exactly its arguments under `xpcall_msgh` over the
   handler, and returns what `xpcall` returns when the callee raises no `WrappedPanic` and the
   handler returns: `true` and the results, or `false` and the handler's first result on the
   error, the handler being called once;
3. `xpcall_msgh` on a value that is no `WrappedPanic` calls the script's handler on that value
   alone;
4. with no callee (no handler), `safe_pcall` (`safe_xpcall`) raises
   "not enough arguments to pcall" ("not enough arguments to xpcall"). -/
theorem protected_calls_refine_reference :
    (∀ (E : Env) (n : Nat) (f : Value) (args : List Value) (base : Nat) (h : Heap),
      (invoke E (callFn E n) f args (base + 1) h).NoPanicEnvelope →
      invoke E (callFn E (n + 1)) (.cfunction .safePcall) (f :: args) base h =
        referencePcall (invoke E (callFn E n) f args (base + 1) h)) ∧
    (∀ (E : Env) (n : Nat) (f m : Value) (args : List Value) (base : Nat) (h : Heap),
      (invoke E (callFn E (n + 1)) f args (base + 2) h).NoPanicEnvelope →
      (∀ v h', invoke E (callFn E (n + 1)) f args (base + 2) h = .error v h' →
        (callFn E n none m [v] (base + 3) h').ReturnsPlain) →
      invoke E (callFn E (n + 2)) (.cfunction .safeXpcall) (f :: m :: args) base h =
        referenceXpcall (fun v h' => callFn E n none m [v] (base + 3) h')
          (invoke E (callFn E (n + 1)) f args (base + 2) h)) ∧
    (∀ (E : Env) (call : Caller) (m v : Value) (base : Nat) (h : Heap),
      hasMetatable h v (.table panicMetatableRef) = false →
      invoke E call (.cclosure .xpcallMsgh m) [v] base h = call none m [v] (base + 1) h) ∧
    (∀ (E : Env) (call : Caller) (base : Nat) (h : Heap),
      invoke E call (.cfunction .safePcall) [] base h =
        .error (.string "not enough arguments to pcall") h) ∧
    (∀ (E : Env) (call : Caller) (args : List Value) (base : Nat) (h : Heap), args.length < 2 →
      invoke E call (.cfunction .safeXpcall) args base h =
        .error (.string "not enough arguments to xpcall") h) :=
  ⟨fun _ _ _ _ _ _ hno => by rw [invoke_safePcall (by rwa [callFn_succ, handle_none]),
      callFn_succ, handle_none],
    fun _ _ _ _ _ _ _ hno hm => invoke_safeXpcall_interp hno hm,
    fun _ _ _ _ _ _ hv => invoke_xpcallMsgh_of_plain hv,
    fun _ _ _ _ => invoke_safePcall_nil,
    fun _ _ _ _ _ hlen => invoke_safeXpcall_short hlen⟩

/-- A script that raises a string, and one that returns one. -/
def raiseEnv : Env :=
  ⟨sampleVm, fun | 0 => .raise (.lit (.string "boom")) | _ => .ret [.lit (.string "handled")],
    fun _ _ => .ok []⟩

/-- `xpcall(raise, handler)`: `false` and the handler's result. -/
theorem protected_calls_refine_reference_sample :
    invoke raiseEnv (callFn raiseEnv 3) (.cfunction .safeXpcall)
        [.lfunction 0, .lfunction 1] 0 ⟨[], true⟩ =
      .ret [.boolean false, .string "handled"] ⟨[], true⟩ :=
  protected_calls_refine_reference.2.1 raiseEnv 1 (.lfunction 0) (.lfunction 1) [] 0 ⟨[], true⟩
    rfl (fun v h' he => by cases he; rfl)

end Rlua
