import Rlua.Runtime.Interp

/-!
# The host's stack discipline

`Function::call` runs its body inside `stack_err_guard` with no net change. Whatever the callee
does, the body only pushes above the host's values and pops back down: on success it leaves the
host's stack as it was, and on an `Err` at most with `error_traceback` still on top, which the
guard cuts off. So the guard never fails its assertion, never changes what the body returns, and
the host gets its stack back unchanged from every call that returns.

A host closure makes such calls one after another (`runHost`): by induction on the closure, a
whole run returns with the stack it was given. `callback_error` gives a host closure an empty
stack, which therefore holds exactly the closure's results once they are pushed, and Lua
receives exactly those.

## Main results

* `host_call_keeps_stack`: the host's protected call does what its body does, and returns with
  the host's stack as it found it.
* `host_results_reach_lua`: a host closure called from Lua returns exactly its results, whatever
  protected calls it makes on the way.
-/

namespace Rlua

section HostCall

variable {f : Value} {args : List Value} {c : Ctx} {fr : Frame} {h : Heap}

/-- The body of `Function::call` returns with the host's stack, or on an `Err` with the handler
still above it, and with at least the guaranteed slots it had. -/
theorem hostCallBody_frame {r : Except Error (List Value)} {fr' : Frame} {h' : Heap}
    (he : hostCallBody f args c fr h = .ok r fr' h') :
    (fr'.slots = fr.slots ∨
      (r.isOk = false ∧ fr'.slots = fr.slots ++ [.cfunction .errorTraceback])) ∧
      fr.ciTop ≤ fr'.ciTop := by
  by_cases hr : fr.HasRoom c.vm (args.length + 3)
  · obtain ⟨fr1, fr3, hg, -, hr3, hbody⟩ := hostCallBody_eq (c := c) (h := h) (f := f) hr
    have hci : ∀ rs,
        fr.ciTop ≤ (fr3.afterCall (fr.slots ++ [.cfunction .errorTraceback]) rs).ciTop :=
      fun rs => Nat.le_trans hg.ciTop (hr3.ciTop ▸ Frame.ciTop_le_afterCall _ _ _)
    rw [hbody] at he
    split at he
    · rename_i rs h₁ _
      simp only [CM.bind_apply, popValuesAbove, Res.bind_ok, luaPop_apply, CM.pure_apply,
        Res.ok.injEq] at he
      obtain ⟨-, rfl, -⟩ := he
      have hs : ((fr.slots ++ [Value.cfunction .errorTraceback]) ++ rs).take
          (((fr.top : Int) + 1).toNat) = fr.slots ++ [.cfunction .errorTraceback] := by
        simp [Frame.top, List.take_append_eq_append_take, List.take_of_length_le (Nat.le_succ _)]
      rw [show (-1 - 1 : Int) = -2 from rfl, Frame.settop_neg_two (by
        rw [Frame.withSlots_slots, Frame.slots_afterCall, hs])]
      exact ⟨.inl rfl, hci rs⟩
    · rename_i v h₁ _
      rcases popError_cases luaErrRun c
          (fr3.afterCall (fr.slots ++ [.cfunction .errorTraceback]) [v]) h₁ with
        ⟨e, fr4, hpe, hs4, hr4⟩ | ⟨_, _, hpe, -⟩ | ⟨_, _, _, -, -, hpe, -⟩ | hpe | ⟨hpe, -⟩ <;>
        rw [CM.bind_apply, hpe] at he <;> simp only [Res.bind_ok, Res.bind_unwind, Res.bind_abort,
          CM.pure_apply, reduceCtorEq, Res.ok.injEq] at he
      obtain ⟨rfl, rfl, -⟩ := he
      exact ⟨.inr ⟨rfl, by simp [hs4]⟩, hr4.ciTop ▸ hci [v]⟩
    all_goals cases he
  · have hc1 : luaCheckstack ((args.length : Int) + 3) c fr h = .ok 0 fr h := by
      simpa using luaCheckstack_of_not_room (h := h) hr
    simp only [hostCallBody, checkStackErr, CM.bind_apply, hc1, Res.bind_ok, ↓reduceIte,
      CM.pure_apply, Res.ok.injEq] at he
    obtain ⟨-, rfl, -⟩ := he
    exact ⟨.inl rfl, le_rfl⟩

/-- When the body of `Function::call` returns, the guard passes its result on, on the same heap,
with the host's stack as it was and at least its guaranteed slots. -/
theorem hostPcall_of_body {r : Except Error (List Value)} {fr1 : Frame} {h' : Heap}
    (he : hostCallBody f args c fr h = .ok r fr1 h') :
    ∃ fr', hostPcall f args c fr h = .ok r fr' h' ∧ fr'.slots = fr.slots ∧
      fr.ciTop ≤ fr'.ciTop := by
  obtain ⟨hs, hci⟩ := hostCallBody_frame he
  have hn : ¬ ErrGuardFails fr.top 0 r fr1.top := by
    rcases hs with hs | ⟨hr, hs⟩
    · simp only [ErrGuardFails, Frame.top, hs, Int.add_zero, Int.lt_irrefl, and_false, or_false]
      omega
    · simp only [ErrGuardFails, Frame.top, hs, hr, List.length_append, List.length_singleton,
        Bool.false_eq_true, false_and, true_and, false_or, Int.add_zero]
      omega
  refine ⟨_, (stackErrGuard_of_ok 0 c fr h he).2 hn, ?_, hci⟩
  rcases hs with hs | ⟨-, hs⟩ <;> simp [hs, Frame.top]

/-- A protected call of the host that returns gives the host its stack back, with at least the
guaranteed slots it had. -/
theorem hostPcall_frame {r : Except Error (List Value)} {fr' : Frame} {h' : Heap}
    (he : hostPcall f args c fr h = .ok r fr' h') :
    fr'.slots = fr.slots ∧ fr.ciTop ≤ fr'.ciTop := by
  rcases hb : hostCallBody f args c fr h with ⟨r1, fr1, h1⟩ | _ | _ | _ | _
  · obtain ⟨fr2, he2, hs2, hc2⟩ := hostPcall_of_body hb
    rw [he2] at he
    cases he
    exact ⟨hs2, hc2⟩
  all_goals
    rw [hostPcall, stackErrGuard_of_not_ok 0 c fr h hb (fun _ _ _ => by simp) (by omega)] at he
    cases he

/-- The host's protected call of a function that returned, wherever `lua_checkstack` finds room
for the call: its results, in order, with the stack as it was. -/
theorem hostPcall_of_ret {rs : List Value} {h' : Heap} (hr : fr.HasRoom c.vm (args.length + 3))
    (hi : c.call (some (.cfunction .errorTraceback)) f args (fr.base + fr.top + 2) h = .ret rs h') :
    ∃ fr', hostPcall f args c fr h = .ok (.ok rs) fr' h' ∧ fr'.slots = fr.slots ∧
      fr.ciTop ≤ fr'.ciTop := by
  obtain ⟨fr1, fr3, -, -, -, he⟩ := hostCallBody_eq (c := c) (h := h) (f := f) hr
  have htake : (fr.slots ++ .cfunction .errorTraceback :: rs).take (fr.slots.length + 1) =
      fr.slots ++ [.cfunction .errorTraceback] := by
    simp [List.take_append_eq_append_take, List.take_of_length_le (Nat.le_succ _)]
  have hop : hostCallBody f args c fr h = .ok (.ok rs)
      ((fr3.afterCall (fr.slots ++ [.cfunction .errorTraceback]) rs).withSlots fr.slots) h' := by
    rw [he, hi]
    simp [popValuesAbove, Frame.afterCall, Frame.top, htake, Frame.settop_neg_two_eq]
  exact hostPcall_of_body hop

end HostCall

/-- **The host's protected call does what its body does, with the host's stack back.** For every
function, arguments, context (whatever its nested calls do), stack and heap: when the body of
`Function::call` returns, with results or with an `Error`, the call returns the same result on
the same heap, with the host's stack exactly as it was: `stack_err_guard` never fails its
assertion, and only cuts `error_traceback` off after an `Err`. A body that raises, panics,
aborts or runs out of fuel does the same through the guard. -/
theorem host_call_keeps_stack (f : Value) (args : List Value) (c : Ctx) (fr : Frame)
    (h : Heap) :
    (∀ r fr1 h', hostCallBody f args c fr h = .ok r fr1 h' →
      ∃ fr', hostPcall f args c fr h = .ok r fr' h' ∧ fr'.slots = fr.slots) ∧
    (∀ res, (∀ r fr1 h', res ≠ .ok r fr1 h') → hostCallBody f args c fr h = res →
      hostPcall f args c fr h = res) :=
  ⟨fun _ _ _ he => (hostPcall_of_body he).imp fun _ ⟨hp, hs, _⟩ => ⟨hp, hs⟩,
    fun _ hres he => stackErrGuard_of_not_ok 0 c fr h he hres (by omega)⟩

/-- A program whose script returns 42, and whose host closure calls that script and returns
what it got. -/
def relayEnv : Env :=
  ⟨sampleVm, fun _ => .ret [.lit (.integer 42)],
    fun _ _ => .call (.lfunction 0) [] .ok fun _ => .ok []⟩

/-- The host calls the script from a fresh stack: it gets 42, and its stack back empty. -/
theorem host_call_keeps_stack_sample :
    ∃ fr', hostPcall (.lfunction 0) [] (relayEnv.ctx [] (callFn relayEnv 1)) freshFrame
        ⟨[], true⟩ = .ok (.ok [.integer 42]) fr' ⟨[], true⟩ ∧ fr'.slots = [] :=
  (host_call_keeps_stack _ _ _ freshFrame ⟨[], true⟩).1 _ _ _ rfl

/-! ## Host closures step by step -/

/-- What a host closure does once its protected call gave it `r`: go on with the results, or
with the `Error`. -/
def Host.after (next : List Value → Host) (onErr : Error → Host) :
    Except Error (List Value) → Host
  | .ok rs => next rs
  | .error e => onErr e

section Steps

variable {f : Value} {args : List Value} {next : List Value → Host} {onErr : Error → Host}
  {c : Ctx} {fr : Frame} {h : Heap}

/-- A protected call that returns to the closure: the closure goes on from the stack and the
heap the call left. -/
theorem runHost_call_of_ok {r : Except Error (List Value)} {fr' : Frame} {h' : Heap}
    (hp : hostPcall f args c fr h = .ok r fr' h') :
    runHost (.call f args next onErr) c fr h = runHost (Host.after next onErr r) c fr' h' := by
  cases r <;> simp [runHost, hp, Host.after]

/-- A protected call that does not return to the closure ends the closure's run the same way. -/
theorem runHost_call_of_not_ok {o : Res (Except Error (List Value))}
    (hp : hostPcall f args c fr h = o) (ho : ∀ r fr' h', o ≠ .ok r fr' h') :
    runHost (.call f args next onErr) c fr h = o := by
  cases o <;> simp_all [runHost]

end Steps

/-- A host closure's run returns with the stack it was given: by induction on the closure, each
of its protected calls giving the stack back. -/
theorem runHost_slots {host : Host} {c : Ctx} {fr fr' : Frame} {h h' : Heap}
    {r : Except Error (List Value)} (he : runHost host c fr h = .ok r fr' h') :
    fr'.slots = fr.slots := by
  induction host generalizing fr h with
  | ok results => cases he; rfl
  | fail e => cases he; rfl
  | panic p => cases he
  | call f args next onErr ihn ihe =>
    rcases hp : hostPcall f args c fr h with ⟨r1, fr1, h1⟩ | _ | _ | _ | _
    · rw [runHost_call_of_ok hp] at he
      cases r1 with
      | ok rs => exact (ihn rs he).trans (hostPcall_frame hp).1
      | error e => exact (ihe e he).trans (hostPcall_frame hp).1
    all_goals rw [runHost_call_of_not_ok hp (by simp)] at he; cases he

/-- **A host closure called from Lua returns exactly its results.** For every program, caller,
closure, arguments and heap: `callback_error` runs the closure on an empty stack, which its
protected calls, however many and however they end, leave empty; when the closure returns
`Ok(results)` and the stack has room for them, the call from Lua returns exactly `results`, on
the heap the closure left. -/
theorem host_results_reach_lua (E : Env) (call : Caller) (id : Nat) (args : List Value)
    (base : Nat) (h : Heap) (rs : List Value) (fr1 : Frame) (h1 : Heap)
    (hrun : runHost (E.hosts id args) (E.ctx [] call) ((Frame.entry base args).withSlots []) h =
      .ok (.ok rs) fr1 h1) :
    fr1.slots = [] ∧
      (fr1.HasRoom E.vm rs.length → invoke E call (.callback id) args base h = .ret rs h1) := by
  have hs1 : fr1.slots = [] := runHost_slots hrun
  refine ⟨hs1, fun hr => ?_⟩
  obtain ⟨fr2, hc2, hg, -⟩ := luaCheckstack_of_room (c := E.ctx [] call) (h := h1) hr
  obtain ⟨fr3, hp3, hs3, -⟩ := pushValues_apply rs (E.ctx [] call) fr2 h1
  have hbody : callbackBody (E.hosts id) (E.ctx [] call) (Frame.entry base args) h =
      .ok (.ok rs.length) fr3 h1 := by
    have hpop : popValuesAbove 0 (E.ctx [] call) (Frame.entry base args) h =
        .ok args ((Frame.entry base args).withSlots []) h := by
      simp [popValuesAbove]
    simp only [callbackBody, checkStackErr, CM.bind_apply, hpop, Res.bind_ok, hrun, hc2,
      Int.reduceEq, ↓reduceIte, CM.pure_apply, hp3]
  have hs3' : fr3.slots = rs := by rw [hs3, hg.slots, hs1, List.nil_append]
  simp [invoke, callbackError_of_ok hbody, Res.toOutcome, Frame.top, hs3']

/-- The script calls the host closure, which calls the script: Lua gets 42. -/
theorem host_results_reach_lua_sample :
    invoke relayEnv (callFn relayEnv 2) (.callback 0) [] 0 ⟨[], true⟩ =
      .ret [.integer 42] ⟨[], true⟩ :=
  (host_results_reach_lua relayEnv (callFn relayEnv 2) 0 [] 0 ⟨[], true⟩ [.integer 42]
    ⟨[], 0, 20, 2, false⟩ ⟨[], true⟩ (by simp only [relayEnv, runHost]; rfl)).2
    (.inl (by decide))

end Rlua
