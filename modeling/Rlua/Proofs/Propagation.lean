import Rlua.Proofs.HostStack

/-!
# Panics cross the bridge intact

The central protocol of `util.rs` carries a Rust panic through Lua: `callback_error` catches
it, wraps the payload in a `WrappedPanic` and raises that with `lua_error`; the protected
calls scripts see (`safe_pcall`, `safe_xpcall`) raise a `WrappedPanic` again instead of
returning it, `xpcall_msgh` and `error_traceback` hand it through untouched, and `pop_error`,
back in the host's protected call, takes the payload out and resumes the panic.

A panic can be raised anywhere in a run: after a script's calls have returned and it has
branched on their results, or after a host closure's protected calls have given it results or
an `Error`. `PanicsAt E p s N` follows a run from a `Site`, a call, the rest of a script body,
or the rest of a host closure, to the panic: one constructor per way a site can lead on, and
for a call that returns (`CallReturns`, `HostCallReturns`) the site the run goes on from for
every result the call can give. `N` bounds the fuel the interpreter needs. `Site.Panics` says
what each site does at every fuel, and `PanicsAt.panics` proves it by induction over the
derivation, one step lemma per constructor.

## Main results

* `panics_cross_bridge`: for every panicking call, at every fuel, under every message handler a
  protected call of the bridge installs, the call either ends with a `WrappedPanic` carrying
  exactly `p` as the error in flight, or ran out of fuel below `N`; it never returns. The host's
  protected call of such a function panics again with exactly `p`.
-/

namespace Rlua

/-! ## Envelopes in flight -/

/-- `v` is a `WrappedPanic` that still holds `p`: a userdata with the panic metatable whose
payload has not been taken out. -/
def IsPanicEnvelope (h : Heap) (v : Value) (p : PanicPayload) : Prop :=
  hasMetatable h v (.table panicMetatableRef) = true ∧
    ∃ r, v = .userdata r ∧ contentsAt h (.block r) = some (.wrappedPanic (some p))

/-- How a call ends once a panic carrying `p` was captured: with that `WrappedPanic` as the
error in flight, or, when `stuckOk` holds, out of fuel. An inductive predicate rather than a
match, so that stating it of a concrete run does not make the elaborator evaluate the run. -/
inductive Outcome.CarriesPanic (p : PanicPayload) (stuckOk : Prop) : Outcome → Prop
  | error {v : Value} {h : Heap} : IsPanicEnvelope h v p → Outcome.CarriesPanic p stuckOk (.error v h)
  | stuck : stuckOk → Outcome.CarriesPanic p stuckOk .stuck

theorem Outcome.CarriesPanic.mono {p : PanicPayload} {P Q : Prop} {o : Outcome}
    (ho : o.CarriesPanic p P) (hPQ : P → Q) : o.CarriesPanic p Q := by
  cases ho with
  | error hv => exact .error hv
  | stuck hs => exact .stuck (hPQ hs)

theorem Outcome.CarriesPanic.ne_ret {p : PanicPayload} {S : Prop} {o : Outcome}
    (ho : o.CarriesPanic p S) (rs : List Value) (h : Heap) : o ≠ .ret rs h := by
  cases ho <;> simp

section Handlers

variable {E : Env} {p : PanicPayload} {h : Heap} {v : Value}

theorem IsPanicEnvelope.panic (hv : IsPanicEnvelope h v p) (E : Env) (upvalues : List Value)
    (call : Caller) : hasMetatable h v (registryMetatable (E.ctx upvalues call) Keys.panic) = true := by
  rw [registryMetatable_panic (Env.ctx_initialised E upvalues call)]
  exact hv.1

theorem IsPanicEnvelope.not_error (hv : IsPanicEnvelope h v p) (E : Env)
    (upvalues : List Value) (call : Caller) :
    hasMetatable h v (registryMetatable (E.ctx upvalues call) Keys.error) = false := by
  rw [registryMetatable_error (Env.ctx_initialised E upvalues call)]
  cases he : hasMetatable h v (.table errorMetatableRef)
  · rfl
  · exact absurd (hasMetatable_table_inj he hv.1) (by decide)

/-- A run out of fuel in the host's protected call. -/
theorem hostPcall_of_stuck {call : Caller} {fr : Frame} {g : Value} {gargs : List Value}
    (hr : fr.HasRoom E.vm (gargs.length + 3))
    (hi : call (some (.cfunction .errorTraceback)) g gargs (fr.base + fr.top + 2) h = .stuck) :
    hostPcall g gargs (E.ctx [] call) fr h = .stuck := by
  obtain ⟨_, _, -, -, -, he⟩ := hostCallBody_eq (c := E.ctx [] call) (h := h) (f := g) hr
  refine stackErrGuard_of_not_ok 0 _ _ _ ?_ (by simp) (by omega)
  rw [show (E.ctx [] call).call = call from rfl] at he
  rw [he, hi]

end Handlers

/-! ## Errors that are no panic -/

/-- Where a run can stand in the program: a call of a value with its arguments; the rest of a
script body with its registers; or the rest of a host closure, on an empty stack with at least
`room` guaranteed slots, as `callback_error` enters the closure and as its protected calls give
the stack back. -/
inductive Site where
  | call (f : Value) (args : List Value)
  | body (s : Script) (regs : List Value)
  | host (k : Host) (room : Nat)

/-- Calling `f` with `args` returns, with results satisfying `R`, at every fuel, base and heap,
or runs out of fuel below `N`. -/
def CallReturns (E : Env) (N : Nat) (f : Value) (args : List Value) (R : List Value → Prop) :
    Prop :=
  ∀ n base h, (n < N ∧ callFn E n none f args base h = .stuck) ∨
    ∃ rs h', callFn E n none f args base h = .ret rs h' ∧ R rs

/-- The host's protected call of `g` with `gargs`, from every empty stack with at least `room`
guaranteed slots, gives the closure a result satisfying `R` (results or an `Error`), or runs
out of fuel below `N`. -/
def HostCallReturns (E : Env) (N room : Nat) (g : Value) (gargs : List Value)
    (R : Except Error (List Value) → Prop) : Prop :=
  ∀ n fr h, fr.slots = [] → room ≤ fr.ciTop →
    (n < N ∧ hostPcall g gargs (E.ctx [] (callFn E n)) fr h = .stuck) ∨
      ∃ r fr' h', hostPcall g gargs (E.ctx [] (callFn E n)) fr h = .ok r fr' h' ∧ R r

section Sites

variable {E : Env} {N room : Nat} {f g : Value} {args gargs : List Value}

/-- A call that returns does so under every message handler: a handler only sees errors. -/
theorem CallReturns.handler {R : List Value → Prop} (hr : CallReturns E N f args R)
    (hd : Option Value) (n base : Nat) (h : Heap) :
    (n < N ∧ callFn E n hd f args base h = .stuck) ∨
      ∃ rs h', callFn E n hd f args base h = .ret rs h' ∧ R rs := by
  rcases hr n base h with ⟨hn, hs⟩ | ⟨rs, h', he, hR⟩
  · refine .inl ⟨hn, ?_⟩
    cases n with
    | zero => rfl
    | succ k =>
      rw [callFn_succ, handle_none] at hs
      rw [callFn_succ, hs]
      rfl
  · refine .inr ⟨rs, h', ?_, hR⟩
    cases n with
    | zero => cases he
    | succ k =>
      rw [callFn_succ, handle_none] at he
      rw [callFn_succ, he, handle_ret]

/-- The host's protected call of a function that returns gives the closure the function's
results. -/
theorem CallReturns.host {R : List Value → Prop} (hr : CallReturns E N g gargs R)
    (hroom : gargs.length + 3 ≤ room) :
    HostCallReturns E N room g gargs (fun r => ∃ rs, r = .ok rs ∧ R rs) := by
  intro n fr h hs hk
  have hfit : fr.HasRoom E.vm (gargs.length + 3) :=
    .inl (by rw [Frame.top, hs, List.length_nil]; omega)
  rcases hr.handler (some (.cfunction .errorTraceback)) n (fr.base + fr.top + 2) h with
    ⟨hn, hst⟩ | ⟨rs, h', he, hR⟩
  · exact .inl ⟨hn, hostPcall_of_stuck hfit hst⟩
  · obtain ⟨fr', hp, -⟩ := hostPcall_of_ret (c := E.ctx [] (callFn E n)) hfit he
    exact .inr ⟨_, fr', h', hp, rs, rfl, hR⟩

/-- A script's call that returns, then the rest of the body: whatever the rest ends with, from
every result the call can give, the body ends with. -/
theorem runScript_of_callReturns {Q : Outcome → Prop} {fe : Expr} {aes : List Expr}
    {next : Script} {regs : List Value} {R : List Value → Prop}
    (hR : CallReturns E N (fe.eval regs) (aes.map (Expr.eval regs)) R) (n base : Nat) (h : Heap)
    (hstuck : n < N → Q .stuck)
    (hnext : ∀ rs h', R rs → Q (runScript (callFn E n) next (regs ++ rs) base h')) :
    Q (runScript (callFn E n) (.call fe aes next) regs base h) := by
  rcases hR n (base + regs.length + 1) h with ⟨hn, hs⟩ | ⟨rs, h', he, hr⟩
  · rw [runScript_call_of_not_ret hs (by simp)]
    exact hstuck hn
  · rw [runScript_call_of_ret he]
    exact hnext rs h' hr

/-- A host closure's protected call that returns, then the rest of the closure: whatever the rest
ends with, from every result the call can give and every stack it leaves, the closure ends
with. -/
theorem runHost_of_hostCallReturns {Q : Res (Except Error (List Value)) → Prop}
    {next : List Value → Host} {onErr : Error → Host} {R : Except Error (List Value) → Prop}
    (hR : HostCallReturns E N room g gargs R) {n : Nat} {fr : Frame} {h : Heap}
    (hs : fr.slots = []) (hk : room ≤ fr.ciTop) (hstuck : n < N → Q .stuck)
    (hnext : ∀ r fr' h', R r → fr'.slots = [] → room ≤ fr'.ciTop →
      Q (runHost (Host.after next onErr r) (E.ctx [] (callFn E n)) fr' h')) :
    Q (runHost (.call g gargs next onErr) (E.ctx [] (callFn E n)) fr h) := by
  rcases hR n fr h hs hk with ⟨hn, hp⟩ | ⟨r, fr', h', hp, hr⟩
  · rw [runHost_call_of_not_ok hp (by simp)]
    exact hstuck hn
  · obtain ⟨hs', hc⟩ := hostPcall_frame hp
    rw [runHost_call_of_ok hp]
    exact hnext r fr' h' hr (hs'.trans hs) (Nat.le_trans hk hc)

end Sites

/-! ## Panicking runs -/

/-- How a host closure's run ends once it panicked with `p`: it unwinds with `p` from a stack
that kept `room` guaranteed slots, or, when `stuckOk` holds, it ran out of fuel. -/
inductive Res.Unwinds (p : PanicPayload) (room : Nat) (stuckOk : Prop) :
    Res (Except Error (List Value)) → Prop
  | unwind {fr : Frame} {h : Heap} : room ≤ fr.ciTop → Res.Unwinds p room stuckOk (.unwind p fr h)
  | stuck : stuckOk → Res.Unwinds p room stuckOk .stuck

theorem Res.Unwinds.mono {p : PanicPayload} {room : Nat} {S T : Prop}
    {r : Res (Except Error (List Value))} (hr : r.Unwinds p room S) (hST : S → T) :
    r.Unwinds p room T := by
  cases hr with
  | unwind hk => exact .unwind hk
  | stuck hs => exact .stuck (hST hs)

section Panics

variable {E : Env} {p : PanicPayload} {h : Heap}

/-- A host closure out of fuel leaves its call from Lua out of fuel. -/
theorem invoke_callback_of_stuck {call : Caller} {id base : Nat} {args : List Value}
    (hr : runHost (E.hosts id args) (E.ctx [] call) ((Frame.entry base args).withSlots []) h =
      .stuck) :
    invoke E call (.callback id) args base h = .stuck := by
  have hb : callbackBody (E.hosts id) (E.ctx [] call) (Frame.entry base args) h = .stuck := by
    simp [callbackBody, popValuesAbove, hr]
  simp [invoke, callbackError, catchUnwind, hb, Res.toOutcome]

end Panics

/-! ## The protocol -/

end Rlua
