import Rlua.Proofs.Propagation
import Rlua.Proofs.Refinement

/-!
# Typed errors across the bridge

An `Err(e)` of a host closure crosses Lua as a `WrappedError` value and can be caught on
either side: by a script's `safe_pcall`, which hands the envelope to the script after `false`,
or by the host's protected call, whose message handler `error_traceback` wraps it into a
`CallbackError` with a traceback before `pop_error` opens it. A host closure that passes on
the `Error` of its own protected call (Rust's `?`) raises that `CallbackError` in turn, so each
crossing of the host's protected call adds one `CallbackError` layer around the original error.

`FailsAt` follows such runs over the sites of `Rlua.Proofs.Propagation`: a host closure returning
`Err`, reached through scripts, through host closures that pass their callee's error on, and
after any number of calls that return to a script or to a host closure, and of branches. Its
theorems are stated for every fuel of the interpreter, with the run out of fuel only below a
bound, as for panics.

## Main results

* `typed_errors_cross_bridge`: the envelope of the error, or of its `CallbackError` layers, is
  what every such run raises; `safe_pcall` returns it after `false`; `error_tostring` gives a
  script the error's text; the host's protected call returns the `CallbackError` with the stack
  as it was, and a callee's results in order.
-/

namespace Rlua

/-- `v` is a `WrappedError` holding `e`: a userdata with the error metatable whose block
holds `e`. -/
def IsErrorEnvelope (h : Heap) (v : Value) (e : Error) : Prop :=
  hasMetatable h v (.table errorMetatableRef) = true ∧
    ∃ r, v = .userdata r ∧ contentsAt h (.block r) = some (.wrappedError e)

/-- An error that went through the host's protected call once: a `CallbackError` with some
traceback around an error satisfying `P`. -/
def Traced (P : Error → Prop) (e : Error) : Prop :=
  ∃ tb cause, e = .callbackError tb cause ∧ P cause

/-- How a call ends once a host closure returned `Err`: with the `WrappedError` of an error
satisfying `P` in flight, or, when `stuckOk` holds, out of fuel. -/
inductive Outcome.CarriesError (P : Error → Prop) (stuckOk : Prop) : Outcome → Prop
  | error {v : Value} {h : Heap} {e : Error} :
    IsErrorEnvelope h v e → P e → Outcome.CarriesError P stuckOk (.error v h)
  | stuck : stuckOk → Outcome.CarriesError P stuckOk .stuck

theorem Outcome.CarriesError.mono {P : Error → Prop} {S T : Prop} {o : Outcome}
    (ho : o.CarriesError P S) (hST : S → T) : o.CarriesError P T := by
  cases ho with
  | error hv hp => exact .error hv hp
  | stuck hs => exact .stuck (hST hs)

theorem Outcome.CarriesError.ne_ret {P : Error → Prop} {S : Prop} {o : Outcome}
    (ho : o.CarriesError P S) (rs : List Value) (h : Heap) : o ≠ .ret rs h := by
  cases ho <;> simp

section Envelopes

variable {E : Env} {h : Heap} {v : Value} {e : Error}

theorem IsErrorEnvelope.error (hv : IsErrorEnvelope h v e) (E : Env) (upvalues : List Value)
    (call : Caller) : hasMetatable h v (registryMetatable (E.ctx upvalues call) Keys.error) = true := by
  rw [registryMetatable_error (Env.ctx_initialised E upvalues call)]
  exact hv.1

/-- A `WrappedError` is no `WrappedPanic`. -/
theorem IsErrorEnvelope.not_panic (hv : IsErrorEnvelope h v e) :
    hasMetatable h v (.table panicMetatableRef) = false := by
  cases hp : hasMetatable h v (.table panicMetatableRef)
  · rfl
  · exact absurd (hasMetatable_table_inj hv.1 hp) (by decide)

/-- The envelope `push_wrapped_error` builds holds its error. -/
theorem isErrorEnvelope_fresh (E : Env) (upvalues : List Value) (call : Caller) (h : Heap)
    (e : Error) :
    IsErrorEnvelope (h.alloc (envelopeBlock (E.ctx upvalues call) Keys.error (.wrappedError e)))
      (.userdata h.userdata.length) e := by
  have ht := registryMetatable_error (Env.ctx_initialised E upvalues call)
  refine ⟨?_, h.userdata.length, rfl, contentsAt_envelope _⟩
  rw [← ht]
  exact hasMetatable_envelope ht _

/-- `error_traceback` on a `WrappedError`: a new envelope holding a `CallbackError` around the
error. -/
theorem invoke_errorTraceback_errorEnvelope (hv : IsErrorEnvelope h v e) (call : Caller)
    (base : Nat) :
    ∃ tb, invoke E call (.cfunction .errorTraceback) [v] base h =
      .ret [.userdata h.userdata.length]
        (h.alloc (envelopeBlock (E.ctx [] call) Keys.error (.wrappedError (.callbackError tb e)))) := by
  obtain ⟨r, rfl, hx⟩ := hv.2
  have hc0 : luaCheckstack 2 (E.ctx [] call) (Frame.entry base [.userdata r]) h =
      .ok 1 (Frame.entry base [.userdata r]) h := luaCheckstack_of_fits (by simp [luaMinStack])
  obtain ⟨fr2, h2, hs2, -⟩ := isWrappedError_spec (E.ctx [] call) (Frame.entry base [.userdata r]) h 1
  have hm := hv.error E [] call
  obtain ⟨tb, fr3, h3, hs3⟩ := wrapCallbackError_apply (show fr2.slots = [] ++ [.userdata r] from hs2)
    hm hx
  refine ⟨tb, ?_⟩
  simp [invoke, cfunctionBody, errorTraceback, hc0, h2,
    indexValue_one (show (Frame.entry base [.userdata r]).slots = [.userdata r] from rfl), hm, h3,
    Res.toOutcome, Frame.top, hs3]

/-- `error_tostring` on a `WrappedError`: the error's text, as a script's `tostring` sees it. -/
theorem invoke_errorTostring (hv : IsErrorEnvelope h v e) (call : Caller) (base : Nat) :
    invoke E call (.cfunction .errorTostring) [v] base h = .ret [.string (E.vm.display e)] h := by
  obtain ⟨r, rfl, hx⟩ := hv.2
  have hc2 : luaCheckstack 2 (E.ctx [] call) (Frame.entry base [.userdata r]) h =
      .ok 1 (Frame.entry base [.userdata r]) h := luaCheckstack_of_fits (by simp [luaMinStack])
  obtain ⟨fr3, h3, hs3, -⟩ :=
    isWrappedError_spec (E.ctx [] call) (Frame.entry base [.userdata r]) h (-1)
  have hv3 : indexValue (E.ctx [] call) fr3 (-1) = .userdata r :=
    indexValue_neg_one (show fr3.slots = [] ++ [.userdata r] from hs3)
  have hpush : gcGuard (luaPushlstring ((E.ctx [] call).vm.display e)) (E.ctx [] call) fr3 h =
      .ok () (fr3.push (.string (E.vm.display e))) h := gcGuard_ok (fun _ => rfl) rfl
  simp [invoke, cfunctionBody, rcallShim, errorTostring, rustCallbackError, catchUnwind,
    errorTostringBody, checkStackErr, hc2, h3,
    indexValue_neg_one (show (Frame.entry base [.userdata r]).slots = [] ++ [.userdata r] from rfl),
    hv.error E [] call, getUserdata_userdata hv3, readWrappedError, hx, hpush, luaRemove,
    Frame.pos, Frame.top, hs3, Res.toOutcome, rcallErr, rcallStackErr]

/-- The host's message handler on a `WrappedError` whose error satisfies `P`: the error goes
on as a `CallbackError` around it; only a run out of fuel, at fuel 0, can stop it. -/
theorem handle_traceback_errorEnvelope {P : Error → Prop} (hv : IsErrorEnvelope h v e) (hp : P e)
    (n base : Nat) :
    (handle (callFn E n) (some (.cfunction .errorTraceback)) base (.error v h)).CarriesError
      (Traced P) (n = 0) := by
  cases n with
  | zero => exact .stuck rfl
  | succ k =>
    obtain ⟨tb, ht⟩ := invoke_errorTraceback_errorEnvelope (E := E) hv (callFn E k) base
    rw [handle_some_error, callFn_succ, ht, handle_ret]
    exact .error (isErrorEnvelope_fresh E [] (callFn E k) h _) ⟨tb, e, rfl, hp⟩

end Envelopes

/-! ## The host's protected call -/

section HostPcall

variable {E : Env} {call : Caller} {fr : Frame} {g : Value} {gargs : List Value} {h : Heap}

/-- The host's protected call of a function that raised a `WrappedError` holding `e`, wherever
`lua_checkstack` finds room for the call: `pop_error` returns `e`, with the stack as it was and
its guaranteed slots only grown. -/
theorem hostPcall_of_errorEnvelope {v : Value} {e : Error} {h' : Heap}
    (hr : fr.HasRoom E.vm (gargs.length + 3))
    (hi : call (some (.cfunction .errorTraceback)) g gargs (fr.base + fr.top + 2) h = .error v h')
    (hv : IsErrorEnvelope h' v e) :
    ∃ fr', hostPcall g gargs (E.ctx [] call) fr h = .ok (.error e) fr' h' ∧
      fr'.slots = fr.slots ∧ fr.ciTop ≤ fr'.ciTop := by
  obtain ⟨_, fr3, -, -, -, he⟩ := hostCallBody_eq (c := E.ctx [] call) (h := h) (f := g) hr
  obtain ⟨r, rfl, hx⟩ := hv.2
  obtain ⟨fr5, hp5, -, -⟩ := popError_of_wrappedError (c := E.ctx [] call)
    (show IsErrorCode luaErrRun from ⟨by decide, by decide⟩)
    (show (fr3.afterCall (fr.slots ++ [.cfunction .errorTraceback]) [.userdata r]).slots =
      (fr.slots ++ [.cfunction .errorTraceback]) ++ [.userdata r] from rfl)
    (hv.error E [] call) hx
  have hop : hostCallBody g gargs (E.ctx [] call) fr h = .ok (.error e) fr5 h' := by
    rw [he, show (E.ctx [] call).call = call from rfl, hi]
    simp [hp5]
  exact hostPcall_of_body hop

end HostPcall

/-! ## Runs that raise a typed error -/

/-- How a host closure's run ends once it failed: it returns `Err(e)` for an error satisfying
`P`, on a stack that kept `room` guaranteed slots, or, when `stuckOk` holds, it ran out of
fuel. -/
inductive Res.Fails (P : Error → Prop) (room : Nat) (stuckOk : Prop) :
    Res (Except Error (List Value)) → Prop
  | fail {e : Error} {fr : Frame} {h : Heap} : P e → room ≤ fr.ciTop →
    Res.Fails P room stuckOk (.ok (.error e) fr h)
  | stuck : stuckOk → Res.Fails P room stuckOk .stuck

theorem Res.Fails.mono {P : Error → Prop} {room : Nat} {S T : Prop}
    {r : Res (Except Error (List Value))} (hr : r.Fails P room S) (hST : S → T) :
    r.Fails P room T := by
  cases hr with
  | fail hp hk => exact .fail hp hk
  | stuck hs => exact .stuck (hST hs)

/-- Runs that raise the `WrappedError` of an error satisfying `P`, by the site they start from,
with a bound `N` on the fuel they need.

* A call fails when it is a host closure whose run returns such an `Err`, or a script whose body
  fails.
* The rest of a script body fails when its next call fails; when that call returns and the rest
  fails from every result the call can give; or when the branch a `cond` takes fails.
* The rest of a host closure fails when it returns `Err(e)` with `e` satisfying `P`; when its
  protected call reaches a failing function and the closure goes on to fail from every
  `CallbackError` around that function's error (passing it on with `?` is one way); or when its
  protected call returns to it and the closure fails from every result the call can give. -/
inductive FailsAt (E : Env) : (Error → Prop) → Site → Nat → Prop
  | callback {P : Error → Prop} {id N : Nat} {args : List Value} :
    FailsAt E P (.host (E.hosts id args) (args.length + luaMinStack)) N →
    FailsAt E P (.call (.callback id) args) (N + 1)
  | script {P : Error → Prop} {id N : Nat} {args : List Value} :
    FailsAt E P (.body (E.scripts id) args) N → FailsAt E P (.call (.lfunction id) args) (N + 1)
  | bodyCall {P : Error → Prop} {N : Nat} {fe : Expr} {aes : List Expr} {next : Script}
      {regs : List Value} :
    FailsAt E P (.call (fe.eval regs) (aes.map (Expr.eval regs))) N →
    FailsAt E P (.body (.call fe aes next) regs) N
  | bodyRet {P : Error → Prop} {M N : Nat} {fe : Expr} {aes : List Expr} {next : Script}
      {regs : List Value} {R : List Value → Prop} :
    CallReturns E M (fe.eval regs) (aes.map (Expr.eval regs)) R →
    (∀ rs, R rs → FailsAt E P (.body next (regs ++ rs)) N) →
    FailsAt E P (.body (.call fe aes next) regs) (max M N)
  | cond {P : Error → Prop} {N : Nat} {e : Expr} {t f : Script} {regs : List Value} :
    FailsAt E P (.body (if (e.eval regs).truthy then t else f) regs) N →
    FailsAt E P (.body (.cond e t f) regs) N
  | fail {P : Error → Prop} {room : Nat} {e : Error} : P e → FailsAt E P (.host (.fail e) room) 0
  | hostCall {P Q : Error → Prop} {M N room : Nat} {g : Value} {gargs : List Value}
      {next : List Value → Host} {onErr : Error → Host} :
    gargs.length + 3 ≤ room → FailsAt E P (.call g gargs) M →
    (∀ e, Traced P e → FailsAt E Q (.host (onErr e) room) N) →
    FailsAt E Q (.host (.call g gargs next onErr) room) (max (M + 1) N)
  | hostRet {Q : Error → Prop} {M N room : Nat} {g : Value} {gargs : List Value}
      {next : List Value → Host} {onErr : Error → Host} {R : Except Error (List Value) → Prop} :
    HostCallReturns E M room g gargs R →
    (∀ r, R r → FailsAt E Q (.host (Host.after next onErr r) room) N) →
    FailsAt E Q (.host (.call g gargs next onErr) room) (max M N)

/-- Calls that raise the `WrappedError` of an error satisfying `P`, with a bound `N` on the fuel
they need. -/
def FailsVia (E : Env) (P : Error → Prop) (N : Nat) (f : Value) (args : List Value) : Prop :=
  FailsAt E P (.call f args) N

/-- What a site does once it failed, at every fuel, or out of fuel below `N`: a call with no
message handler, and the rest of a script body, end with the `WrappedError` of an error
satisfying `P` in flight; the rest of a host closure returns `Err` of such an error. -/
def Site.Fails (E : Env) (P : Error → Prop) (N : Nat) : Site → Prop
  | .call f args => ∀ n base h, (callFn E n none f args base h).CarriesError P (n < N)
  | .body s regs => ∀ n base h, (runScript (callFn E n) s regs base h).CarriesError P (n < N)
  | .host k room => ∀ n fr h, fr.slots = [] → room ≤ fr.ciTop →
      (runHost k (E.ctx [] (callFn E n)) fr h).Fails P room (n < N)

section Runs

variable {E : Env} {P Q : Error → Prop} {h : Heap}

/-- A host closure whose body returned `Err(e)` from a frame with room for the envelope:
`callback_error` raises a `WrappedError` holding `e`. -/
theorem invoke_callback_of_err {call : Caller} {id base : Nat} {args : List Value} {e : Error}
    {fr1 : Frame} {h1 : Heap} {S : Prop}
    (hb : callbackBody (E.hosts id) (E.ctx [] call) (Frame.entry base args) h = .ok (.error e) fr1 h1)
    (hk : 2 ≤ fr1.ciTop) (hq : Q e) : (invoke E call (.callback id) args base h).CarriesError Q S := by
  obtain ⟨fr', he, -, -⟩ := callbackError_of_err hb (.inl (by simpa [Frame.top] using hk))
  simp only [invoke, he, Res.toOutcome]
  exact .error (isErrorEnvelope_fresh E [] call h1 e) hq

/-- A host closure whose run returns `Err(e)`: `callback_error` raises the `WrappedError` of `e`;
a closure out of fuel leaves the call out of fuel. -/
theorem invoke_callback_of_fails {call : Caller} {id base : Nat} {args : List Value} {S : Prop}
    (hk : (runHost (E.hosts id args) (E.ctx [] call) ((Frame.entry base args).withSlots []) h).Fails
      Q (args.length + luaMinStack) S) :
    (invoke E call (.callback id) args base h).CarriesError Q S := by
  generalize hr : runHost (E.hosts id args) (E.ctx [] call) ((Frame.entry base args).withSlots [])
    h = r at hk
  cases hk with
  | @fail e fr' h' hq hc =>
    have hb : callbackBody (E.hosts id) (E.ctx [] call) (Frame.entry base args) h =
        .ok (.error e) fr' h' := by simp [callbackBody, popValuesAbove, hr]
    exact invoke_callback_of_err hb (Nat.le_trans (by simp [luaMinStack]) hc) hq
  | stuck hS =>
    rw [invoke_callback_of_stuck hr]
    exact .stuck hS

/-- A host closure's protected call of a function whose run, under the host's handler, ends
with the envelope of an error satisfying `P`: the closure gets that error and goes on with
`onErr`, on its own stack with its guaranteed slots; whatever that ends with, the closure ends
with. -/
theorem runHost_call_of_carriesError {K : Res (Except Error (List Value)) → Prop} {call : Caller}
    {fr : Frame} {g : Value} {gargs : List Value} {next : List Value → Host} {onErr : Error → Host}
    {room : Nat} {S : Prop} (hs : fr.slots = []) (hk : room ≤ fr.ciTop)
    (hroom : gargs.length + 3 ≤ room)
    (hi : (call (some (.cfunction .errorTraceback)) g gargs (fr.base + 2) h).CarriesError P S)
    (hstuck : S → K .stuck)
    (hnext : ∀ e fr' h', P e → fr'.slots = [] → room ≤ fr'.ciTop →
      K (runHost (onErr e) (E.ctx [] call) fr' h')) :
    K (runHost (.call g gargs next onErr) (E.ctx [] call) fr h) := by
  have hr : fr.HasRoom E.vm (gargs.length + 3) :=
    .inl (by rw [Frame.top, hs, List.length_nil]; omega)
  rw [show fr.base + 2 = fr.base + fr.top + 2 by rw [Frame.top, hs, List.length_nil]] at hi
  generalize ho : call (some (.cfunction .errorTraceback)) g gargs (fr.base + fr.top + 2) h = o
    at hi
  cases hi with
  | error hv hp =>
    obtain ⟨fr', hpc, hs', hc⟩ := hostPcall_of_errorEnvelope (E := E) hr ho hv
    rw [runHost_call_of_ok hpc]
    exact hnext _ fr' _ hp (hs'.trans hs) (Nat.le_trans hk hc)
  | stuck hS =>
    rw [runHost_call_of_not_ok (hostPcall_of_stuck (E := E) hr ho) (by simp)]
    exact hstuck hS

/-- A call whose body ends with the error at every fuel, or out of fuel below `N`: with no
message handler, the call does too. -/
theorem callFn_carriesError {N : Nat} {f : Value} {args : List Value} (hN : 0 < N)
    (hi : ∀ n base h, (invoke E (callFn E n) f args base h).CarriesError Q (n + 1 < N)) :
    ∀ n base h, (callFn E n none f args base h).CarriesError Q (n < N)
  | 0, _, _ => by rw [callFn_zero]; exact .stuck hN
  | n + 1, base, h => by rw [callFn_succ, handle_none]; exact hi n base h

/-- Under the host's message handler, the error of such a call goes on as a `CallbackError`
around it, with one more level of fuel. -/
theorem callFn_traceback {N : Nat} {f : Value} {args : List Value}
    (hi : ∀ n base h, (callFn E n none f args base h).CarriesError Q (n < N)) :
    ∀ n base h, (callFn E n (some (.cfunction .errorTraceback)) f args base h).CarriesError
      (Traced Q) (n < N + 1)
  | 0, _, h => by
    rw [callFn_zero]
    exact .stuck (by omega)
  | n + 1, base, h => by
    have hN : 0 < N := by
      have h0 := hi 0 base h
      rw [callFn_zero] at h0
      cases h0 with
      | stuck hs => exact hs
    have hn := hi (n + 1) base h
    rw [callFn_succ, handle_none] at hn
    rw [callFn_succ]
    generalize invoke E (callFn E n) f args base h = o at hn ⊢
    cases hn with
    | error hv hq => exact (handle_traceback_errorEnvelope hv hq n base).mono (by omega)
    | stuck hs =>
      rw [handle_of_halts _ _ _ (show Outcome.stuck.Halts from trivial)]
      exact .stuck (by omega)

/-- Every site a derivation of `FailsAt` starts from does what `Site.Fails` says: by induction
over the derivation, one step lemma per constructor. -/
theorem FailsAt.fails {s : Site} {N : Nat} (hf : FailsAt E Q s N) : s.Fails E Q N := by
  induction hf with
  | @callback P id N args _ ih =>
    exact callFn_carriesError (by omega) fun n base h => (invoke_callback_of_fails
      (ih n ((Frame.entry base args).withSlots []) h rfl (by simp))).mono (by omega)
  | script _ ih => exact callFn_carriesError (by omega) fun n base h => (ih n base h).mono (by omega)
  | @bodyCall P N fe aes next regs _ ih =>
    intro n base h
    have hi := ih n (base + regs.length + 1) h
    rw [runScript_call_of_not_ret rfl hi.ne_ret]
    exact hi
  | bodyRet hR _ ih =>
    exact fun n base h => runScript_of_callReturns hR n base h (fun hn => .stuck (by omega))
      fun rs h' hr => (ih rs hr n base h').mono (by omega)
  | cond _ ih =>
    intro n base h
    rw [runScript_cond]
    exact ih n base h
  | fail hp => exact fun n fr h _ hk => .fail hp hk
  | hostCall hroom _ _ ih ihe =>
    exact fun n fr h hs hk => runHost_call_of_carriesError hs hk hroom
      (callFn_traceback ih n (fr.base + 2) h) (fun hn => .stuck (by omega))
      fun e fr' h' hp hs' hk' => (ihe e hp n fr' h' hs' hk').mono (by omega)
  | hostRet hR _ ih =>
    exact fun n fr h hs hk => runHost_of_hostCallReturns hR hs hk (fun hn => .stuck (by omega))
      fun r fr' h' hr hs' hk' => (ih r hr n fr' h' hs' hk').mono (by omega)

end Runs

/-- Typed errors across the bridge, for every program and every run that `FailsVia` describes
(a host closure returning `Err`, reached through scripts and through host closures that pass
their protected call's `Error` on, after any number of calls that return and of branches):

1. with no message handler, the run raises the `WrappedError` of its error, unless it runs out
   of fuel below its bound;
2. with enough fuel, `safe_pcall` around it returns two values to the script: `false` and that
   envelope;
3. `error_tostring` on a `WrappedError` gives the script the error's text;
4. with enough fuel, wherever `lua_checkstack` finds room for its pushes, the host's protected
   call returns the error as a `CallbackError` around it, with the host's stack as it was;
5. wherever `lua_checkstack` finds room, the host's protected call of a function that returns
   gives its results, in order, with the host's stack as it was. -/
theorem typed_errors_cross_bridge :
    (∀ (E : Env) (P : Error → Prop) (N : Nat) (f : Value) (args : List Value),
      FailsVia E P N f args → ∀ (n base : Nat) (h : Heap),
        (callFn E n none f args base h).CarriesError P (n < N)) ∧
    (∀ (E : Env) (P : Error → Prop) (N : Nat) (f : Value) (args : List Value),
      FailsVia E P N f args → ∀ (n base : Nat) (h : Heap), N ≤ n →
        ∃ v h' e, invoke E (callFn E (n + 1)) (.cfunction .safePcall) (f :: args) base h =
          .ret [.boolean false, v] h' ∧ IsErrorEnvelope h' v e ∧ P e) ∧
    (∀ (E : Env) (call : Caller) (v : Value) (e : Error) (base : Nat) (h : Heap),
      IsErrorEnvelope h v e →
        invoke E call (.cfunction .errorTostring) [v] base h = .ret [.string (E.vm.display e)] h) ∧
    (∀ (E : Env) (P : Error → Prop) (N : Nat) (f : Value) (args : List Value),
      FailsVia E P N f args → ∀ (n : Nat) (fr : Frame) (h : Heap), N + 1 ≤ n →
        fr.HasRoom E.vm (args.length + 3) →
        ∃ e fr' h', hostPcall f args (E.ctx [] (callFn E n)) fr h = .ok (.error e) fr' h' ∧
          fr'.slots = fr.slots ∧ Traced P e) ∧
    (∀ (E : Env) (call : Caller) (g : Value) (gargs : List Value) (fr : Frame) (h : Heap)
      (rs : List Value) (h' : Heap), fr.HasRoom E.vm (gargs.length + 3) →
      call (some (.cfunction .errorTraceback)) g gargs (fr.base + fr.top + 2) h = .ret rs h' →
      ∃ fr', hostPcall g gargs (E.ctx [] call) fr h = .ok (.ok rs) fr' h' ∧
        fr'.slots = fr.slots) := by
  refine ⟨fun _ _ _ _ _ hf => FailsAt.fails hf, fun E P N f args hf n base h hn => ?_,
    fun _ _ _ _ _ _ hv => invoke_errorTostring hv _ _, fun E P N f args hf n fr h hn hr => ?_,
    fun E call _ _ _ _ _ _ hr hi =>
      (hostPcall_of_ret (c := E.ctx [] call) hr hi).imp fun _ ⟨hp, hs, _⟩ => ⟨hp, hs⟩⟩
  · have hc := FailsAt.fails hf (n + 1) (base + 1) h
    generalize ho : callFn E (n + 1) none f args (base + 1) h = o at hc
    cases hc with
    | error hv hp =>
      have hno : (callFn E (n + 1) none f args (base + 1) h).NoPanicEnvelope := by
        rw [ho]
        exact hv.not_panic
      exact ⟨_, _, _, by rw [invoke_safePcall hno, ho]; rfl, hv, hp⟩
    | stuck hs => omega
  · have hc := callFn_traceback (FailsAt.fails hf) n (fr.base + fr.top + 2) h
    generalize ho : callFn E n (some (.cfunction .errorTraceback)) f args (fr.base + fr.top + 2) h
      = o at hc
    cases hc with
    | error hv hp =>
      obtain ⟨fr', hp', hs', -⟩ := hostPcall_of_errorEnvelope hr ho hv
      exact ⟨_, fr', _, hp', hs', hp⟩
    | stuck hs => omega

/-- A program whose host closure 1 divides by zero and says so, and whose host closure 0 calls
script 0, which returns 42, then calls closure 1 and passes its `Error` on. -/
def rethrowEnv : Env :=
  ⟨sampleVm, fun _ => .ret [.lit (.integer 42)],
    fun | 0, _ => .call (.lfunction 0) [] (fun _ => .call (.callback 1) [] .ok .fail) .fail
        | _, _ => .fail (.runtimeError "division by zero")⟩

/-- Script 0 of `rethrowEnv` returns 42 at every fuel but 0. -/
theorem rethrowEnv_returns : CallReturns rethrowEnv 1 (.lfunction 0) [] (· = [.integer 42]) := by
  rintro (_ | n) base h
  · exact .inl ⟨Nat.zero_lt_one, rfl⟩
  · exact .inr ⟨_, h, rfl, rfl⟩

/-- The spec's scenario, a script's protected call of a host closure that returns
`RuntimeError("division by zero")`, gets `false` and the envelope of that error; and the closure
that passes that error on after a call that returned gets it there as a `CallbackError`. -/
theorem typed_errors_cross_bridge_sample :
    FailsVia rethrowEnv (Traced (· = .runtimeError "division by zero")) 3 (.callback 0) [] ∧
    (∃ v h' e, invoke rethrowEnv (callFn rethrowEnv 2) (.cfunction .safePcall) [.callback 1] 0
        ⟨[], true⟩ = .ret [.boolean false, v] h' ∧ IsErrorEnvelope h' v e ∧
        e = .runtimeError "division by zero") ∧
    ∃ v h' e, invoke rethrowEnv (callFn rethrowEnv 4) (.cfunction .safePcall) [.callback 0] 0
        ⟨[], true⟩ = .ret [.boolean false, v] h' ∧ IsErrorEnvelope h' v e ∧
        Traced (· = .runtimeError "division by zero") e := by
  have hdiv : FailsVia rethrowEnv (· = .runtimeError "division by zero") 1 (.callback 1) [] :=
    .callback (.fail rfl)
  have hf : FailsVia rethrowEnv (Traced (· = .runtimeError "division by zero")) 3
      (.callback 0) [] :=
    .callback (.hostRet (M := 1) (N := 2) (rethrowEnv_returns.host (by decide))
      fun r ⟨rs, hr, _⟩ => by
        subst hr
        exact .hostCall (M := 1) (N := 0) (by decide) hdiv fun e he => .fail he)
  exact ⟨hf, typed_errors_cross_bridge.2.1 _ _ _ _ _ hdiv 1 0 ⟨[], true⟩ le_rfl,
    typed_errors_cross_bridge.2.1 _ _ _ _ _ hf 3 0 ⟨[], true⟩ le_rfl⟩

end Rlua
