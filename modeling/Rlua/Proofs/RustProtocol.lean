import Rlua.Util.Init

/-!
# Two trampolines, one design

`util.rs` wraps a Rust closure for Lua in two ways. `callback_error` raises an `Err` or a panic
itself, as a `WrappedError` or a `WrappedPanic` handed to `lua_error`. `rust_callback_error`
follows the "Rust Function Protocol" of `lua_pushrfunction`: it pushes the envelope and returns
`RCALL_ERR`, or returns `RCALL_STACK_ERR`, and leaves the raise to the trampoline the protocol
installs (`rcallShim`). Its doc comment presents it as the same wrapping for that protocol.

This module compares the two on every closure whose results are counts. Through the trampoline,
`rust_callback_error` does exactly what `callback_error` does, except where the source makes it
differ: `Error::StackError` is reported through the protocol without an envelope, and with no
room for the envelope an `Err` becomes the protocol's stack error where `callback_error` raises
`luaL_checkstack`'s "stack overflow", and a panic aborts with another message.

## Main results

* `rust_protocol_matches_callback_error`: the comparison, case by case.
-/

namespace Rlua

section Protocol

variable {f : CM (Except Error Int)} {c : Ctx} {fr fr1 : Frame} {h h1 : Heap}

/-- A closure that returned a count: both return it. -/
theorem shim_of_count {r : Int} (hf : f c fr h = .ok (.ok r) fr1 h1) (hr : 0 ≤ r) :
    rcallShim (rustCallbackError f) c fr h = callbackError f c fr h := by
  have h1 : r ≠ rcallErr := by simp only [rcallErr]; omega
  have h2 : r ≠ rcallStackErr := by simp only [rcallStackErr]; omega
  simp [rcallShim, rustCallbackError, callbackError, catchUnwind, hf, h1, h2]

/-- A closure that raised a Lua error, aborted or ran out of fuel: both pass it on. -/
theorem shim_of_jump (hf : ∀ x fr1 h1, f c fr h ≠ .ok x fr1 h1)
    (hp : ∀ p fr1 h1, f c fr h ≠ .unwind p fr1 h1) :
    rcallShim (rustCallbackError f) c fr h = callbackError f c fr h := by
  cases hres : f c fr h with
  | ok x fr1 h1 => exact absurd hres (hf x fr1 h1)
  | unwind p fr1 h1 => exact absurd hres (hp p fr1 h1)
  | _ => simp [rcallShim, rustCallbackError, callbackError, catchUnwind, hres]

/-- A closure that returned `Err(e)` other than `StackError`, with room for the envelope: both
raise the same `WrappedError` from the same stack. -/
theorem shim_of_err {e : Error} (hf : f c fr h = .ok (.error e) fr1 h1) (he : e ≠ .stackError)
    (hr : (fr1.withSlots []).HasRoom c.vm 2) :
    rcallShim (rustCallbackError f) c fr h = callbackError f c fr h := by
  obtain ⟨fr2, hc2, -, -⟩ := luaCheckstack_of_room (h := h1) hr
  rw [show ((2 : Nat) : Int) = 2 from rfl] at hc2
  simp [rcallShim, rustCallbackError_of_err hf he, callbackError, catchUnwind, hf,
    Frame.settop_zero, hc2, luaLCheckstack, pushWrappedError_apply, rcallErr]

/-- A closure that panicked, with room for the envelope: both raise the same `WrappedPanic`
from the same stack. -/
theorem shim_of_panic {p : PanicPayload} (hf : f c fr h = .unwind p fr1 h1)
    (hr : (fr1.withSlots []).HasRoom c.vm 2) :
    rcallShim (rustCallbackError f) c fr h = callbackError f c fr h := by
  obtain ⟨fr2, hc2, -, -⟩ := luaCheckstack_of_room (h := h1) hr
  rw [show ((2 : Nat) : Int) = 2 from rfl] at hc2
  simp [rcallShim, rustCallbackError_of_panic hf, callbackError, catchUnwind, hf,
    Frame.settop_zero, hc2, pushWrappedPanic_apply, rcallErr]

end Protocol

/-- **`rust_callback_error` behind the protocol's trampoline is `callback_error`**, for every
closure whose results are counts, from every stack and heap:

1. when the closure does not end with `Err(StackError)` and the stack it leaves has room for an
   envelope once cleared, the two do the same: return the same count, raise the same envelope
   from the same stack, or pass on the same Lua error, abort or run out of fuel;
2. an `Err(StackError)` is raised as the protocol's stack error, on the stack the closure left
   and with no envelope;
3. with no room, an `Err` is raised as the protocol's stack error on the cleared stack, where
   `callback_error` raises `luaL_checkstack`'s "stack overflow";
4. with no room, a panic aborts the process in both, with their two messages. -/
theorem rust_protocol_matches_callback_error (f : CM (Except Error Int)) (c : Ctx) (fr : Frame)
    (h : Heap) (hcount : ∀ r fr1 h1, f c fr h = .ok (.ok r) fr1 h1 → 0 ≤ r) :
    ((∀ fr1 h1, f c fr h ≠ .ok (.error .stackError) fr1 h1) →
      (∀ fr1, (f c fr h).frame? = some fr1 → (fr1.withSlots []).HasRoom c.vm 2) →
      rcallShim (rustCallbackError f) c fr h = callbackError f c fr h) ∧
    (∀ fr1 h1, f c fr h = .ok (.error .stackError) fr1 h1 →
      rcallShim (rustCallbackError f) c fr h = .error c.vm.rcallStackError fr1 h1) ∧
    (∀ e fr1 h1, f c fr h = .ok (.error e) fr1 h1 → e ≠ .stackError →
      ¬ (fr1.withSlots []).HasRoom c.vm 2 →
      rcallShim (rustCallbackError f) c fr h =
          .error c.vm.rcallStackError (fr1.withSlots []) h1 ∧
        callbackError f c fr h =
          .error (.string "stack overflow")
            ((fr1.withSlots []).push (.string "stack overflow")) h1) ∧
    (∀ p fr1 h1, f c fr h = .unwind p fr1 h1 → ¬ (fr1.withSlots []).HasRoom c.vm 2 →
      rcallShim (rustCallbackError f) c fr h =
          .abort "not enough stack space to throw rust panic" ∧
        callbackError f c fr h = .abort "not enough stack space to propagate panic") := by
  refine ⟨fun hse hroom => ?_, fun fr1 h1 hf => ?_, fun e fr1 h1 hf he hr => ?_,
    fun p fr1 h1 hf hr => ?_⟩
  · cases hres : f c fr h with
    | ok x fr1 h1 =>
      have hr := hroom fr1 (by simp [hres, Res.frame?])
      rcases x with e | r
      · exact shim_of_err hres (fun he => hse fr1 h1 (he ▸ hres)) hr
      · exact shim_of_count hres (hcount r fr1 h1 hres)
    | unwind p fr1 h1 => exact shim_of_panic hres (hroom fr1 (by simp [hres, Res.frame?]))
    | _ => exact shim_of_jump (by simp [hres]) (by simp [hres])
  · simp [rcallShim, rustCallbackError, catchUnwind, hf, rcallErr, rcallStackErr]
  · have hc2 := luaCheckstack_of_not_room (h := h1) hr
    rw [show ((2 : Nat) : Int) = 2 from rfl] at hc2
    constructor
    · simp [rcallShim, rustCallbackError_of_err hf he, Frame.settop_zero, hc2, rcallErr,
        rcallStackErr]
    · have hl := luaLCheckstack_of_not_room (c := c) (h := h1) (n := 2) hr
      rw [show ((2 : Nat) : Int) = 2 from rfl] at hl
      simp [callbackError, catchUnwind, hf, Frame.settop_zero, hl]
  · have hc2 := luaCheckstack_of_not_room (h := h1) hr
    rw [show ((2 : Nat) : Int) = 2 from rfl] at hc2
    exact ⟨by simp [rcallShim, rustCallbackError_of_panic hf, Frame.settop_zero, hc2,
      luaInternalAbort], callbackError_of_panic_abort hf hr⟩

/-- `destructed_error` through the trampoline, from a fresh stack: what `callback_error` would
do with its closure. -/
theorem rust_protocol_matches_callback_error_sample :
    rcallShim destructedError sampleCtx freshFrame ⟨[], true⟩ =
      callbackError (pure (.error .callbackDestructed)) sampleCtx freshFrame ⟨[], true⟩ :=
  (rust_protocol_matches_callback_error _ sampleCtx freshFrame ⟨[], true⟩
    (fun _ _ _ h => by cases h)).1 (fun _ _ h => by cases h)
    (fun _ h => by cases h; exact .inl (by decide))

end Rlua
