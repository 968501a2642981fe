import Rlua.Util.Callback

/-!
# Stack effects and budgets of the envelope helpers

The comments of `util.rs` document, for each envelope helper, how it moves the top of the
stack and how many slots it uses; the functions that call them reserve slots with
`lua_checkstack` accordingly. This module collects what the helper modules prove about each
of them into the documented table, and shows that the reservations of `callback_error`,
`rust_callback_error`, `error_traceback` and `error_tostring` cover every push they make.

Two ghost relations of `Rlua.Lua.Api` carry the accounting: `Frame.Reach fr k fr'` says the
run from `fr` went at most `k` slots above `fr`'s top, and `Frame.Within fr fr'` that it never
pushed past the slots the API guaranteed.

## Main results

* `envelope_helpers_stack_budgets`: the net effect of each helper on every path, its peak of
  2 slots, and the sufficiency of the four reservations.
-/

namespace Rlua

/-- A run that, wherever it ends in the running thread, went at most `k` slots above the top
of `fr`. -/
def Res.WithinBudget {α : Type} (r : Res α) (fr : Frame) (k : Nat) : Prop :=
  ∀ fr', r.frame? = some fr' → fr.Reach k fr'

/-- A run whose every push from `fr` on went into guaranteed slots. -/
def Res.Guaranteed {α : Type} (r : Res α) (fr : Frame) : Prop :=
  ∀ fr', r.frame? = some fr' → fr.Within fr'

section Budget

variable {c : Ctx} {fr : Frame} {h : Heap}

theorem popWrappedError_withinBudget (c : Ctx) (fr : Frame) (h : Heap) :
    (popWrappedError c fr h).WithinBudget fr 2 := by
  rcases popWrappedError_cases c fr h with ⟨fr', he, -, hr⟩ | ⟨e, fr', he, -, hr⟩ | ⟨he, -⟩ <;>
    simp [Res.WithinBudget, he, Res.frame?] <;> assumption

theorem popError_withinBudget (errCode : Int) (c : Ctx) (fr : Frame) (h : Heap) :
    (popError errCode c fr h).WithinBudget fr 2 := by
  rcases popError_cases errCode c fr h with ⟨e, fr', he, -, hr⟩ | ⟨msg, fr', he, -, hr⟩ |
    ⟨r, o, fr', -, -, he, -, hr⟩ | he | ⟨he, -⟩ <;>
    simp [Res.WithinBudget, he, Res.frame?] <;> assumption

theorem takeUserdata_withinBudget (k : Wrapped) (c : Ctx) (fr : Frame) (h : Heap) :
    (takeUserdata k c fr h).WithinBudget fr 2 := by
  rcases takeUserdata_cases k c fr h with ⟨x, fr', h', he, -, hr⟩ | ⟨p, fr', h', he, -, hr⟩ |
    he <;> simp [Res.WithinBudget, he, Res.frame?] <;> assumption

/-- `pop_error` pops exactly the top value whenever it returns. -/
theorem popError_returns {errCode : Int} {e : Error} {fr' : Frame} {h' : Heap}
    (he : popError errCode c fr h = .ok e fr' h') : fr'.slots = fr.slots.dropLast := by
  rcases popError_cases errCode c fr h with ⟨e, fr'', he', hs, -⟩ | ⟨_, _, he', -⟩ |
    ⟨_, _, _, -, -, he', -⟩ | he' | ⟨he', -⟩ <;> rw [he'] at he <;> cases he
  exact hs

/-- `take_userdata` pops exactly the top value whenever it returns. -/
theorem takeUserdata_returns {k : Wrapped} {x : Contents} {fr' : Frame} {h' : Heap}
    (he : takeUserdata k c fr h = .ok x fr' h') : fr'.slots = fr.slots.dropLast := by
  rcases takeUserdata_cases k c fr h with ⟨x, fr'', h'', he', hs, -⟩ | ⟨_, _, _, he', -⟩ |
    he' <;> rw [he'] at he <;> cases he
  exact hs

/-- `pop_wrapped_error` pops the top value exactly when it returns an error. -/
theorem popWrappedError_returns {o : Option Error} {fr' : Frame} {h' : Heap}
    (he : popWrappedError c fr h = .ok o fr' h') :
    fr'.slots = if o.isSome then fr.slots.dropLast else fr.slots := by
  rcases popWrappedError_cases c fr h with ⟨fr'', he', hs, -⟩ | ⟨e, fr'', he', hs, -⟩ |
    ⟨he', -⟩ <;> rw [he'] at he <;> cases he <;> simpa

end Budget

/-- The documented stack effects of the envelope helpers, on every stack and every value at
the inspected index: `is_wrapped_error` and `is_wrapped_panic` leave the stack as it was;
`pop_wrapped_error` pops the top value exactly when it returns `Some`; `push_wrapped_error` and
`push_wrapped_panic` add the envelope above the untouched values; `pop_error` and
`take_userdata` pop exactly the top value whenever they return; none goes more than 2 slots
above its entry height. With that, the 2-slot reservations of `callback_error` (given room for
them), `rust_callback_error`, `error_traceback` and `error_tostring` cover every push they
make. -/
theorem envelope_helpers_stack_budgets :
    (∀ index c fr h, ∃ b fr', isWrappedError index c fr h = .ok b fr' h ∧
      fr'.slots = fr.slots ∧ fr.Reach 2 fr') ∧
    (∀ index c fr h, ∃ b fr', isWrappedPanic index c fr h = .ok b fr' h ∧
      fr'.slots = fr.slots ∧ fr.Reach 2 fr') ∧
    (∀ c fr h o fr' h', popWrappedError c fr h = .ok o fr' h' →
      fr'.slots = if o.isSome then fr.slots.dropLast else fr.slots) ∧
    (∀ c fr h, (popWrappedError c fr h).WithinBudget fr 2) ∧
    (∀ e c fr h, ∃ fr' h', pushWrappedError e c fr h = .ok () fr' h' ∧
      fr'.slots = fr.slots ++ [.userdata h.userdata.length] ∧ fr.Reach 2 fr') ∧
    (∀ p c fr h, ∃ fr' h', pushWrappedPanic p c fr h = .ok () fr' h' ∧
      fr'.slots = fr.slots ++ [.userdata h.userdata.length] ∧ fr.Reach 2 fr') ∧
    (∀ errCode c fr h e fr' h', popError errCode c fr h = .ok e fr' h' →
      fr'.slots = fr.slots.dropLast) ∧
    (∀ errCode c fr h, (popError errCode c fr h).WithinBudget fr 2) ∧
    (∀ k c fr h x fr' h', takeUserdata k c fr h = .ok x fr' h' →
      fr'.slots = fr.slots.dropLast) ∧
    (∀ k c fr h, (takeUserdata k c fr h).WithinBudget fr 2) ∧
    (∀ {α : Type} (f : CM (Except Error α)) c fr h fr1, (f c fr h).frame? = some fr1 →
      (fr1.withSlots []).HasRoom c.vm 2 → (callbackError f c fr h).Guaranteed fr1) ∧
    (∀ f c fr h fr1, (f c fr h).frame? = some fr1 →
      (rustCallbackError f c fr h).Guaranteed fr1) ∧
    (∀ c fr h, (errorTraceback c fr h).Guaranteed fr) ∧
    (∀ c fr h, (errorTostring c fr h).Guaranteed fr) :=
  ⟨fun index c fr h => ⟨_, isWrappedError_spec c fr h index⟩,
    fun index c fr h => ⟨_, isWrappedPanic_spec c fr h index⟩,
    fun _ _ _ _ _ _ => popWrappedError_returns, popWrappedError_withinBudget,
    fun e c fr h => ⟨_, _, pushWrappedError_apply e c fr h, by simp, .push_push _ _ _ _⟩,
    fun p c fr h => ⟨_, _, pushWrappedPanic_apply p c fr h, by simp, .push_push _ _ _ _⟩,
    fun _ _ _ _ _ _ _ => popError_returns, popError_withinBudget,
    fun _ _ _ _ _ _ _ => takeUserdata_returns, takeUserdata_withinBudget,
    fun _ _ _ _ _ hf hr => callbackError_within hf hr,
    fun _ _ _ _ _ hf => rustCallbackError_within hf,
    errorTraceback_within, errorTostring_within⟩

/-- `pop_error` of a string error on the stack `[1, "boom"]` pops it, leaving `[1]`; and
`callback_error` of a closure that fails at once, from a fresh stack, pushes only into
guaranteed slots. -/
theorem envelope_helpers_stack_budgets_sample :
    (∃ fr', popError luaErrRun bareCtx (Frame.entry 0 [.integer 1, .string "boom"]) ⟨[], true⟩ =
        .ok (.runtimeError "boom") fr' ⟨[], true⟩ ∧ fr'.slots = [.integer 1]) ∧
    (callbackError (pure (.error .stackError) : CM (Except Error Int)) bareCtx
      (Frame.entry 0 []) ⟨[], true⟩).Guaranteed (Frame.entry 0 []) :=
  have hpop : popError luaErrRun bareCtx (Frame.entry 0 [.integer 1, .string "boom"]) ⟨[], true⟩ =
      .ok (.runtimeError "boom") ⟨[.integer 1], 0, 22, 2, false⟩ ⟨[], true⟩ := rfl
  ⟨⟨_, hpop, envelope_helpers_stack_budgets.2.2.2.2.2.2.1 _ _ _ _ _ _ _ hpop⟩,
    envelope_helpers_stack_budgets.2.2.2.2.2.2.2.2.2.2.1 _ bareCtx _ _ _ rfl (.inl (by decide))⟩

end Rlua
