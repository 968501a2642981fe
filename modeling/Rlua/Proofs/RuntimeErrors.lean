import Rlua.Proofs.TypedErrors

/-!
# Plain Lua errors at the host

The error values the bridge did not build, a string, a number, a table or any other value that
is neither a `WrappedError` nor a `WrappedPanic`, take the third branch of `error_traceback`:
the value's text as `lua_tostring` gives it, or `<unprintable lua error>`, followed by a
traceback, replaces it. `pop_error` then finds a plain string; for the status `LUA_ERRRUN` of a
protected call it becomes `Error::RuntimeError` of that string.

Together with `Rlua.Proofs.TypedErrors` and `Rlua.Proofs.Propagation`, which follow the other
two branches of `error_traceback`, this settles what the host's protected call returns for every
error value a callee can raise.

## Main results

* `plain_errors_reach_host_traced`: the host's protected call of a callee that raises a plain
  value returns `RuntimeError` of the value's text with a traceback, with the stack and the heap
  as the callee left them.
-/

namespace Rlua

/-- `v` is an error value the bridge did not build: it has neither the error nor the panic
metatable. -/
def IsPlainError (h : Heap) (v : Value) : Prop :=
  hasMetatable h v (.table errorMetatableRef) = false ∧
    hasMetatable h v (.table panicMetatableRef) = false

/-- Values without a metatable, strings among them, are plain. -/
theorem isPlainError_of_metatableOf {h : Heap} {v : Value} (hm : metatableOf h v = none) :
    IsPlainError h v := by
  simp [IsPlainError, hasMetatable, hm]

section CLevel

variable {c : Ctx} {fr : Frame} {h : Heap} {v : Value}

/-- `error_traceback`'s conversion of a plain error alone on its stack, with the 11 slots it asks
for: the error's text followed by a traceback replaces it. -/
theorem tracebackLuaError_apply (hs : fr.slots = [v]) (hfit : fr.top + 11 ≤ fr.ciTop) :
    ∃ fr', tracebackLuaError c fr h = .ok () fr' h ∧ fr'.slots =
      [.string (c.vm.traceback (some (v.tostring?.getD "<unprintable lua error>")))] := by
  have hc1 : luaCheckstack 11 c fr h = .ok 1 fr h := luaCheckstack_of_fits hfit
  obtain ⟨vs, hlen, hts⟩ := luaTostring_spec c fr 1
  obtain ⟨w, rfl⟩ : ∃ w, vs = [w] := List.length_eq_one.mp (by simp [hlen, hs])
  rw [indexValue_one hs] at hts
  let fr2 := (fr.withSlots [w]).push
    (.string (c.vm.traceback (some (v.tostring?.getD "<unprintable lua error>"))))
  have hguard : gcGuard (do
        let s := (← luaTostring 1).getD "<unprintable lua error>"
        luaLTraceback (some s)
        luaRemove (-2)) c fr h =
      .ok () (fr2.withSlots (fr2.slots.eraseIdx (fr2.pos (-2)))) h :=
    gcGuard_ok (fun b => by simp [hts]; rfl) rfl
  refine ⟨fr2.withSlots (fr2.slots.eraseIdx (fr2.pos (-2))),
    by simp [tracebackLuaError, hc1, hguard], ?_⟩
  simp [fr2, Frame.pos, Frame.top]

/-- `error_traceback` on a plain error: its text followed by a traceback, the heap untouched. -/
theorem errorTraceback_of_plain (base : Nat)
    (hne : hasMetatable h v (registryMetatable c Keys.error) = false)
    (hnp : hasMetatable h v (registryMetatable c Keys.panic) = false) :
    ∃ fr', errorTraceback c (Frame.entry base [v]) h = .ok 1 fr' h ∧ fr'.slots =
      [.string (c.vm.traceback (some (v.tostring?.getD "<unprintable lua error>")))] := by
  have hc1 : luaCheckstack 2 c (Frame.entry base [v]) h = .ok 1 (Frame.entry base [v]) h :=
    luaCheckstack_of_fits (by simp [luaMinStack])
  obtain ⟨fr2, h2, hs2, hr2⟩ := isWrappedError_spec c (Frame.entry base [v]) h 1
  obtain ⟨fr3, h3, hs3, hr3⟩ := isWrappedPanic_spec c fr2 h 1
  have hs3' : fr3.slots = [v] := hs3.trans hs2
  have hfit : fr3.top + 11 ≤ fr3.ciTop := by
    have := hr2.ciTop; have := hr3.ciTop
    simp only [Frame.top, hs3', Frame.ciTop_entry, luaMinStack] at *
    omega
  obtain ⟨fr4, h4, hs4⟩ := tracebackLuaError_apply (c := c) (h := h) hs3' hfit
  refine ⟨fr4, ?_, hs4⟩
  simp [errorTraceback, hc1, h2, h3, hne, hnp, h4, indexValue_one hs2,
    indexValue_one (show (Frame.entry base [v]).slots = [v] from rfl)]

end CLevel

/-! ## The interpreter -/

section Interp

variable {E : Env} {h : Heap} {v : Value}

theorem IsPlainError.not_error (hv : IsPlainError h v) (upvalues : List Value) (call : Caller) :
    hasMetatable h v (registryMetatable (E.ctx upvalues call) Keys.error) = false := by
  rw [registryMetatable_error (Env.ctx_initialised E upvalues call)]
  exact hv.1

theorem IsPlainError.not_panic (hv : IsPlainError h v) (upvalues : List Value) (call : Caller) :
    hasMetatable h v (registryMetatable (E.ctx upvalues call) Keys.panic) = false := by
  rw [registryMetatable_panic (Env.ctx_initialised E upvalues call)]
  exact hv.2

/-- `error_traceback` called by the interpreter on a plain error. -/
theorem invoke_errorTraceback_plain (hv : IsPlainError h v) (call : Caller) (base : Nat) :
    invoke E call (.cfunction .errorTraceback) [v] base h =
      .ret [.string (E.vm.traceback (some (v.tostring?.getD "<unprintable lua error>")))] h := by
  obtain ⟨fr', he, hs⟩ := errorTraceback_of_plain (c := E.ctx [] call) base
    (hv.not_error [] call) (hv.not_panic [] call)
  rw [show (E.ctx [] call).vm = E.vm from rfl] at hs
  simp [invoke, cfunctionBody, he, Res.toOutcome, Frame.top, hs]

/-- A call under the host's message handler whose run raises a plain error ends with the
handler's text in its place, the heap as the run left it. -/
theorem callFn_traceback_plain {n base : Nat} {g : Value} {gargs : List Value} {h' : Heap}
    (hi : invoke E (callFn E (n + 1)) g gargs base h = .error v h') (hv : IsPlainError h' v) :
    callFn E (n + 2) (some (.cfunction .errorTraceback)) g gargs base h =
      .error (.string (E.vm.traceback (some (v.tostring?.getD "<unprintable lua error>")))) h' := by
  rw [callFn_succ, hi, handle_some_error, callFn_succ, invoke_errorTraceback_plain hv, handle_ret]
  rfl

end Interp

/-! ## The host's protected call -/

section HostPcall

variable {E : Env} {call : Caller} {fr : Frame} {g : Value} {gargs : List Value} {h : Heap}

/-- The host's protected call of a function that raised a plain error, wherever
`lua_checkstack` finds room for the call: `pop_error` returns `RuntimeError` of its text, with
the stack as it was. -/
theorem hostPcall_of_plainError {v : Value} {h' : Heap}
    (hr : fr.HasRoom E.vm (gargs.length + 3))
    (hi : call (some (.cfunction .errorTraceback)) g gargs (fr.base + fr.top + 2) h = .error v h')
    (hv : IsPlainError h' v) :
    ∃ fr', hostPcall g gargs (E.ctx [] call) fr h =
        .ok (.error (.runtimeError (v.tostring?.getD "<unprintable error>"))) fr' h' ∧
      fr'.slots = fr.slots := by
  obtain ⟨_, fr3, -, -, -, he⟩ := hostCallBody_eq (c := E.ctx [] call) (h := h) (f := g) hr
  let fr4 := fr3.afterCall (fr.slots ++ [.cfunction .errorTraceback]) [v]
  have hv4 : indexValue (E.ctx [] call) fr4 (-1) = v :=
    indexValue_neg_one (show fr4.slots = (fr.slots ++ [.cfunction .errorTraceback]) ++ [v] from rfl)
  obtain ⟨fr5, hs5, -, hp5⟩ := popError_of_not_wrappedError (c := E.ctx [] call) (h := h')
    (show IsErrorCode luaErrRun from ⟨by decide, by decide⟩) (hv4 ▸ hv.not_error [] call)
  obtain ⟨fr6, -, -, he6⟩ := errorFromValue_apply (E.ctx [] call) fr5 h' luaErrRun
  have hv5 : indexValue (E.ctx [] call) fr5 (-1) = v := by rw [indexValue_of_slots_eq hs5, hv4]
  rw [hv4, hv.not_panic [] call, if_neg Bool.false_ne_true, he6, hv5] at hp5
  have hop : hostCallBody g gargs (E.ctx [] call) fr h =
      .ok (.error (.runtimeError (v.tostring?.getD "<unprintable error>"))) fr6 h' := by
    rw [he, show (E.ctx [] call).call = call from rfl, hi]
    simp [hp5, errorFromCode]
  obtain ⟨fr', hp, hs, -⟩ := hostPcall_of_body hop
  exact ⟨fr', hp, hs⟩

end HostPcall

/-- **Plain errors reach the host as `RuntimeError` with a traceback.** Whatever the callee, its
arguments and the depth of the calls it makes: when its run raises a value that is no envelope,
and `lua_checkstack` finds room for the call on the host's stack, the host's protected call
returns `Error::RuntimeError` of `luaL_traceback` of the value's text
(`<unprintable lua error>` for a value `lua_tostring` cannot convert), with its stack as it was
and the heap as the callee left it. The error value is given its traceback by `error_traceback`
where it is raised, before the stack unwinds. -/
theorem plain_errors_reach_host_traced (E : Env) (n : Nat) (fr : Frame) (g : Value)
    (gargs : List Value) (h : Heap) (v : Value) (h' : Heap)
    (hr : fr.HasRoom E.vm (gargs.length + 3))
    (hi : invoke E (callFn E (n + 1)) g gargs (fr.base + fr.top + 2) h = .error v h')
    (hv : IsPlainError h' v) :
    ∃ fr', hostPcall g gargs (E.ctx [] (callFn E (n + 2))) fr h =
        .ok (.error (.runtimeError
          (E.vm.traceback (some (v.tostring?.getD "<unprintable lua error>"))))) fr' h' ∧
      fr'.slots = fr.slots := by
  have ht := callFn_traceback_plain hi hv
  exact hostPcall_of_plainError hr ht (isPlainError_of_metatableOf rfl)

/-- A state whose one script raises the integer 42. -/
def integerErrorEnv : Env :=
  ⟨sampleVm, fun _ => .raise (.lit (.integer 42)), fun _ _ => .ok []⟩

/-- The host's protected call of that script: `RuntimeError` of the integer's text with the
traceback. -/
theorem plain_errors_reach_host_traced_sample :
    ∃ fr', hostPcall (.lfunction 0) [] (integerErrorEnv.ctx [] (callFn integerErrorEnv 2))
        freshFrame ⟨[], true⟩ =
        .ok (.error (.runtimeError (sampleVm.traceback (some "42")))) fr' ⟨[], true⟩ ∧
      fr'.slots = [] :=
  plain_errors_reach_host_traced integerErrorEnv 0 freshFrame (.lfunction 0) [] ⟨[], true⟩
    (.integer 42) ⟨[], true⟩ (.inl (by decide)) rfl (isPlainError_of_metatableOf rfl)

end Rlua
