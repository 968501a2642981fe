import Rlua.Util.Envelope

/-!
# Callbacks and message handlers

The C functions `util.rs` hands to Lua, written as the source computes them:

* `callback_error` / `rust_callback_error`, the trampolines around a Rust closure: an `Err` or
  a caught panic is wrapped into an envelope and raised with `lua_error` (or reported through
  the return codes of the Rust function protocol);
* `error_traceback`, the message handler of the host's protected calls;
* `userdata_destructor`, `error_tostring` and `destructed_error`, the metamethods of the three
  registry metatables.

The protected calls scripts see are in `Rlua.Util.ProtectedCall`.
-/

namespace Rlua

/-! ## Trampolines -/

/-- `callback_error`: runs `f`; an `Err` or a panic clears the stack, is wrapped into an
envelope, and is raised with `lua_error`. -/
def callbackError {α : Type} (f : CM (Except Error α)) : CM α := do
  match ← catchUnwind f with
  | .ok (.ok r) => pure r
  | .ok (.error err) =>
    luaSettop 0
    luaLCheckstack 2
    pushWrappedError err
    luaError
  | .error p =>
    luaSettop 0
    if (← luaCheckstack 2) = 0 then
      luaInternalAbort "not enough stack space to propagate panic"
    pushWrappedPanic p
    luaError

section CallbackError

variable {α : Type} {f : CM (Except Error α)} {c : Ctx} {fr fr1 : Frame} {h h1 : Heap}

theorem callbackError_of_ok {r : α} (hf : f c fr h = .ok (.ok r) fr1 h1) :
    callbackError f c fr h = .ok r fr1 h1 := by
  simp [callbackError, catchUnwind, hf]

theorem callbackError_of_error {v : Value} (hf : f c fr h = .error v fr1 h1) :
    callbackError f c fr h = .error v fr1 h1 := by
  simp [callbackError, catchUnwind, hf]

/-- An envelope pushed on a cleared stack that has room for it: it is the only value, and it
went into guaranteed slots. -/
theorem pushWrapped_fresh (x : Contents) (key : Keys → Nat) (h1 : Heap) {fr2 : Frame}
    (hs : fr2.slots = []) (hfit : 2 ≤ fr2.ciTop) :
    ∃ fr', pushWrapped x (getRegistryMetatable key) c fr2 h1 =
        .ok () fr' (h1.alloc (envelopeBlock c key x)) ∧
      fr'.slots = [.userdata h1.userdata.length] ∧ fr2.Within fr' :=
  ⟨_, pushWrapped_apply (getRegistryMetatable_apply key c) x, by simp [hs],
    (Frame.Reach.push_push _ _ _ _).within (by simp [Frame.top, hs, hfit])⟩

/-- Raising that envelope: it is the error value. -/
theorem pushWrapped_raise (x : Contents) (key : Keys → Nat) (h1 : Heap) {fr2 : Frame}
    (hs : fr2.slots = []) (hfit : 2 ≤ fr2.ciTop) :
    ∃ fr', (do pushWrapped x (getRegistryMetatable key); (luaError : CM α)) c fr2 h1 =
        .error (.userdata h1.userdata.length) fr' (h1.alloc (envelopeBlock c key x)) ∧
      fr'.slots = [.userdata h1.userdata.length] ∧ fr2.Within fr' := by
  obtain ⟨fr', hp, hs', hw⟩ := pushWrapped_fresh (c := c) x key h1 hs hfit
  exact ⟨fr', by simp [hp, indexValue_neg_one (show _ = [] ++ [_] from hs')], hs', hw⟩

/-- A closure returning `Err(e)`: the stack is cleared and a `WrappedError(e)` is raised. -/
theorem callbackError_of_err {e : Error} (hf : f c fr h = .ok (.error e) fr1 h1)
    (hr : (fr1.withSlots []).HasRoom c.vm 2) :
    ∃ fr', callbackError f c fr h = .error (.userdata h1.userdata.length) fr'
        (h1.alloc (envelopeBlock c Keys.error (.wrappedError e))) ∧
      fr'.slots = [.userdata h1.userdata.length] ∧ fr1.Within fr' := by
  obtain ⟨fr2, hc2, hg, hfit⟩ := luaLCheckstack_of_room (h := h1) hr
  have hs2 : fr2.slots = [] := hg.slots
  obtain ⟨fr', hraise, hs', hw⟩ := pushWrapped_raise (α := α) (c := c) (.wrappedError e)
    Keys.error h1 hs2 (by simpa [Frame.top, hs2] using hfit)
  rw [show ((2 : Nat) : Int) = 2 from rfl] at hc2
  refine ⟨fr', ?_, hs', (Frame.Within.withSlots fr1 []).trans (hg.within.trans hw)⟩
  simpa [callbackError, catchUnwind, hf, Frame.settop_zero, hc2, pushWrappedError,
    getErrorMetatable] using hraise

/-- A closure that panics: the stack is cleared and a `WrappedPanic` carrying the payload is
raised. -/
theorem callbackError_of_panic {p : PanicPayload} (hf : f c fr h = .unwind p fr1 h1)
    (hr : (fr1.withSlots []).HasRoom c.vm 2) :
    ∃ fr', callbackError f c fr h = .error (.userdata h1.userdata.length) fr'
        (h1.alloc (envelopeBlock c Keys.panic (.wrappedPanic (some p)))) ∧
      fr'.slots = [.userdata h1.userdata.length] ∧ fr1.Within fr' := by
  obtain ⟨fr2, hc2, hg, hfit⟩ := luaCheckstack_of_room (h := h1) hr
  have hs2 : fr2.slots = [] := hg.slots
  obtain ⟨fr', hraise, hs', hw⟩ := pushWrapped_raise (α := α) (c := c)
    (.wrappedPanic (some p)) Keys.panic h1 hs2 (by simpa [Frame.top, hs2] using hfit)
  rw [show ((2 : Nat) : Int) = 2 from rfl] at hc2
  refine ⟨fr', ?_, hs', (Frame.Within.withSlots fr1 []).trans (hg.within.trans hw)⟩
  simpa [callbackError, catchUnwind, hf, Frame.settop_zero, hc2, pushWrappedPanic,
    getPanicMetatable] using hraise

/-- With no room for the envelope, a panic aborts the process. -/
theorem callbackError_of_panic_abort {p : PanicPayload} (hf : f c fr h = .unwind p fr1 h1)
    (hr : ¬ (fr1.withSlots []).HasRoom c.vm 2) :
    callbackError f c fr h = .abort "not enough stack space to propagate panic" := by
  have hc2 := luaCheckstack_of_not_room (h := h1) hr
  rw [show ((2 : Nat) : Int) = 2 from rfl] at hc2
  simp [callbackError, catchUnwind, hf, Frame.settop_zero, hc2, luaInternalAbort]

/-- The 2-slot reservation of `callback_error` covers the envelope it pushes: when there is
room for it, no push after the closure goes past the guaranteed slots. -/
theorem callbackError_within (hf : (f c fr h).frame? = some fr1)
    (hr : (fr1.withSlots []).HasRoom c.vm 2) :
    ∀ fr', (callbackError f c fr h).frame? = some fr' → fr1.Within fr' := by
  rcases hres : f c fr h with ⟨x, fr0, h0⟩ | ⟨v, fr0, h0⟩ | ⟨p, fr0, h0⟩ | msg | _ <;>
    simp only [hres, Res.frame?, Option.some.injEq, reduceCtorEq] at hf <;> subst hf
  · cases x with
    | ok r => simp [callbackError_of_ok hres, Res.frame?]; exact .refl _
    | error e =>
      obtain ⟨fr', he, -, hw⟩ := callbackError_of_err hres hr
      simp [he, Res.frame?]; exact hw
  · simp [callbackError_of_error hres, Res.frame?]; exact .refl _
  · obtain ⟨fr', he, -, hw⟩ := callbackError_of_panic hres hr
    simp [he, Res.frame?]; exact hw

end CallbackError

/-- Modelled from the spec: the two return codes of the Rust function protocol
(`ffi.rs` is not in the excerpt), distinct from every result count. -/
def rcallErr : Int := -1

/-- Modelled from the spec: see `rcallErr`. -/
def rcallStackErr : Int := -2

/-- `rust_callback_error`: as `callback_error`, but reports through the protocol's return
codes; `Error::StackError` takes the cheap path. -/
def rustCallbackError (f : CM (Except Error Int)) : CM Int := do
  match ← catchUnwind f with
  | .ok (.ok r) => pure r
  | .ok (.error .stackError) => pure rcallStackErr
  | .ok (.error e) =>
    luaSettop 0
    if (← luaCheckstack 2) = 0 then
      pure rcallStackErr
    else
      pushWrappedError e
      pure rcallErr
  | .error e =>
    luaSettop 0
    if (← luaCheckstack 2) = 0 then
      luaInternalAbort "not enough stack space to throw rust panic"
    else
      pushWrappedPanic e
      pure rcallErr

section RustCallbackError

variable {β : Type} {f : CM (Except Error Int)} {c : Ctx} {fr fr1 : Frame} {h h1 : Heap}

/-- After a failed closure, `rust_callback_error` clears the stack and asks for 2 slots; with
them it pushes the envelope, without them it takes `fail`. Either way it pushes only into
guaranteed slots. -/
theorem reserveAndPush_within (x : Contents) (key : Keys → Nat) (fail : CM β) (b : β)
    (hfail : ∀ fr', (fail c (fr1.withSlots []) h1).frame? = some fr' → fr1.Within fr') :
    ∀ fr', ((do
        luaSettop 0
        if (← luaCheckstack 2) = 0 then fail
        else
          pushWrapped x (getRegistryMetatable key)
          pure b) c fr1 h1).frame? = some fr' → fr1.Within fr' := by
  by_cases hr : (fr1.withSlots []).HasRoom c.vm 2
  · obtain ⟨fr2, hc2, hg, hfit⟩ := luaCheckstack_of_room (h := h1) hr
    rw [show ((2 : Nat) : Int) = 2 from rfl] at hc2
    obtain ⟨fr', hp, -, hw⟩ := pushWrapped_fresh (c := c) x key h1 hg.slots
      (by simpa [Frame.top, hg.slots] using hfit)
    intro fr'' hfr
    simp [Frame.settop_zero, hc2, hp, Res.frame?] at hfr
    exact hfr ▸ (Frame.Within.withSlots fr1 []).trans (hg.within.trans hw)
  · have hc2 := luaCheckstack_of_not_room (h := h1) hr
    rw [show ((2 : Nat) : Int) = 2 from rfl] at hc2
    simpa [Frame.settop_zero, hc2] using hfail

/-- `rust_callback_error` pushes only into the slots its `lua_checkstack` guaranteed: from the
frame the closure ended in, every push is within the guaranteed slots. -/
theorem rustCallbackError_of_err {e : Error} (hf : f c fr h = .ok (.error e) fr1 h1)
    (he : e ≠ .stackError) :
    rustCallbackError f c fr h = (do
      luaSettop 0
      if (← luaCheckstack 2) = 0 then pure rcallStackErr
      else
        pushWrappedError e
        pure rcallErr) c fr1 h1 := by
  cases e <;> first
    | exact absurd rfl he
    | simp only [rustCallbackError, CM.bind_apply, catchUnwind, hf, Res.bind_ok]

theorem rustCallbackError_of_panic {p : PanicPayload} (hf : f c fr h = .unwind p fr1 h1) :
    rustCallbackError f c fr h = (do
      luaSettop 0
      if (← luaCheckstack 2) = 0 then
        luaInternalAbort "not enough stack space to throw rust panic"
      else
        pushWrappedPanic p
        pure rcallErr) c fr1 h1 := by
  simp only [rustCallbackError, CM.bind_apply, catchUnwind, hf, Res.bind_ok]

theorem rustCallbackError_within (hf : (f c fr h).frame? = some fr1) :
    ∀ fr', (rustCallbackError f c fr h).frame? = some fr' → fr1.Within fr' := by
  rcases hres : f c fr h with ⟨x, fr0, h0⟩ | ⟨v, fr0, h0⟩ | ⟨p, fr0, h0⟩ | msg | _ <;>
    simp only [hres, Res.frame?, Option.some.injEq, reduceCtorEq] at hf <;> subst hf
  · rcases x with e | r
    · by_cases he : e = .stackError
      · subst he
        simp [rustCallbackError, catchUnwind, hres, Res.frame?]
        exact .refl _
      · rw [rustCallbackError_of_err hres he]
        exact reserveAndPush_within (.wrappedError e) Keys.error (pure rcallStackErr) rcallErr
          (fun _ h => by simp [Res.frame?] at h; exact h ▸ .withSlots _ _)
    · simp [rustCallbackError, catchUnwind, hres, Res.frame?]
      exact .refl _
  · simp [rustCallbackError, catchUnwind, hres, Res.frame?]
    exact .refl _
  · rw [rustCallbackError_of_panic hres]
    exact reserveAndPush_within (.wrappedPanic (some p)) Keys.panic
      (luaInternalAbort "not enough stack space to throw rust panic") rcallErr
      (fun _ h => by simp [luaInternalAbort, Res.frame?] at h)

end RustCallbackError

/-- The trampoline `lua_pushrfunction` installs (`safe.rs`, not in the excerpt). Modelled from
the spec: `RCALL_ERR` raises the value the function left on top, `RCALL_STACK_ERR` raises the
shim's stack error, and any other return is a result count. -/
def rcallShim (f : CM Int) : CM Int := do
  let r ← f
  if r = rcallErr then luaError
  else if r = rcallStackErr then fun c fr h => .error c.vm.rcallStackError fr h
  else pure r

/-! ## Metamethods of the registry metatables -/

/-- `userdata_destructor::<T>`, the `__gc` of the error and panic metatables. -/
def userdataDestructor (k : Wrapped) : CM Int :=
  callbackError do
    let _ ← takeUserdata k
    pure (.ok 0)

/-- The finalizer on its block: the value is moved out and the block left under the destructed
metatable. -/
theorem userdataDestructor_apply {k : Wrapped} {c : Ctx} {fr : Frame} {h : Heap} {r : Nat}
    {x : Contents} (hs : fr.slots = [.userdata r]) (hx : contentsAt h (.block r) = some x)
    (hk : x.isKind k = true) :
    ∃ fr', userdataDestructor k c fr h =
      .ok 0 fr' (h.modifyUserdata r (takenBlock c.tables (registryMetatable c Keys.destructed))) := by
  obtain ⟨fr', ht, -, -⟩ := takeUserdata_apply (c := c) (show fr.slots = [] ++ [_] from hs) hx hk
  exact ⟨fr', by simp [userdataDestructor, callbackError, catchUnwind, ht]⟩

/-- The closure `error_tostring` runs under `rust_callback_error`. -/
def errorTostringBody : CM (Except Error Int) := do
  match ← checkStackErr 2 with
  | .error e => pure (.error e)
  | .ok () =>
    if ← isWrappedError (-1) then
      let error ← getUserdata (-1)
      let errorStr := (← CM.vm).display (← readWrappedError error)
      gcGuard (luaPushlstring errorStr)
      luaRemove (-2)
      pure (.ok 1)
    else
      rustPanic (.message "userdata mismatch in Error metamethod")

/-- `error_tostring`, the `__tostring` of the error metatable. -/
def errorTostring : CM Int := rustCallbackError errorTostringBody

/-- Everything the closure of `error_tostring` can do: return with the heap untouched, panic on
a value that is no `WrappedError`, or read a block with the error metatable as another type.
Its one string goes into the 2 slots it asked for. -/
theorem errorTostringBody_cases (c : Ctx) (fr : Frame) (h : Heap) :
    (∃ x fr', errorTostringBody c fr h = .ok x fr' h ∧ fr.Within fr') ∨
    (∃ fr', errorTostringBody c fr h =
        .unwind (.message "userdata mismatch in Error metamethod") fr' h ∧ fr.Within fr') ∨
    (errorTostringBody c fr h = .abort undefinedRead ∧ ∃ r, h.Misfit c .error r) := by
  by_cases hr : fr.HasRoom c.vm 2
  · obtain ⟨fr2, hc2, hg, hfit⟩ := luaCheckstack_of_room (h := h) hr
    rw [show ((2 : Nat) : Int) = 2 from rfl] at hc2
    obtain ⟨fr3, h3, hs3, hr3⟩ := isWrappedError_spec c fr2 h (-1)
    have hw3 : fr.Within fr3 := hg.within.trans (hr3.within hfit)
    have hpre : errorTostringBody c fr h = (if hasMetatable h (indexValue c fr2 (-1))
        (registryMetatable c Keys.error) then do
          let error ← getUserdata (-1)
          let errorStr := (← CM.vm).display (← readWrappedError error)
          gcGuard (luaPushlstring errorStr)
          luaRemove (-2)
          pure (.ok 1)
        else rustPanic (.message "userdata mismatch in Error metamethod")) c fr3 h := by
      simp [errorTostringBody, checkStackErr, hc2, h3]
    rw [hpre]
    split
    · rename_i hm
      obtain ⟨r, hv⟩ := eq_userdata_of_hasMetatable hm
      have hv3 : indexValue c fr3 (-1) = .userdata r := (indexValue_of_slots_eq hs3 _).trans hv
      rw [hv] at hm
      by_cases hx : ∃ x, contentsAt h (.block r) = some x ∧ x.isKind .error = true
      · obtain ⟨e, he⟩ : ∃ e, contentsAt h (.block r) = some (.wrappedError e) := by
          obtain ⟨x, hx, hk⟩ := hx
          cases x <;> simp [Contents.isKind] at hk
          exact ⟨_, hx⟩
        have hpush : gcGuard (luaPushlstring (c.vm.display e)) c fr3 h =
            .ok () (fr3.push (.string (c.vm.display e))) h := gcGuard_ok (fun _ => rfl) rfl
        have hfit3 : fr3.top + 1 ≤ fr3.ciTop := by
          have := hr3.ciTop; simp only [Frame.top, hs3] at hfit ⊢; omega
        have hrun := getUserdata_userdata (h := h) hv3
        exact .inl ⟨_, _, by simp [hrun, readWrappedError, he, hpush, luaRemove]; exact ⟨rfl, rfl⟩,
          hw3.trans (((Frame.Reach.push _ _).trans (.withSlots _ _ 0)
            (by simp)).within hfit3)⟩
      · refine .inr (.inr ⟨?_, r, hm, hx⟩)
        rcases hc : contentsAt h (.block r) with _ | _ | _ | _ | _ | _ <;>
          simp_all [getUserdata_userdata hv3, readWrappedError, Contents.isKind]
    · exact .inr (.inl ⟨fr3, rfl, hw3⟩)
  · have hc2 := luaCheckstack_of_not_room (h := h) hr
    rw [show ((2 : Nat) : Int) = 2 from rfl] at hc2
    exact .inl ⟨.error .stackError, fr, by simp [errorTostringBody, checkStackErr, hc2], .refl fr⟩

theorem errorTostringBody_within (c : Ctx) (fr : Frame) (h : Heap) :
    ∀ fr', (errorTostringBody c fr h).frame? = some fr' → fr.Within fr' := by
  rcases errorTostringBody_cases c fr h with ⟨_, fr1, he, hw⟩ | ⟨fr1, he, hw⟩ | ⟨he, -⟩ <;>
    simp [he, Res.frame?] <;> exact hw

/-- `error_tostring` pushes only into guaranteed slots, on every path. -/
theorem errorTostring_within (c : Ctx) (fr : Frame) (h : Heap) :
    ∀ fr', (errorTostring c fr h).frame? = some fr' → fr.Within fr' := by
  intro fr' hfr
  rcases hb : (errorTostringBody c fr h).frame? with _ | fr1
  · rcases hres : errorTostringBody c fr h <;> simp [hres, Res.frame?] at hb <;>
      simp [errorTostring, rustCallbackError, catchUnwind, hres, Res.frame?] at hfr
  · exact (errorTostringBody_within c fr h fr1 hb).trans (rustCallbackError_within hb fr' hfr)

/-- `destructed_error`, every metamethod of the destructed-userdata metatable. -/
def destructedError : CM Int := rustCallbackError (pure (.error .callbackDestructed))

/-! ## The traceback handler -/

/-- The traceback `error_traceback` attaches to a `WrappedError`: `luaL_traceback`'s text when
there is room for it. -/
def captureTraceback : CM String := do
  if (← luaCheckstack 11) ≠ 0 then
    gcGuard (luaLTraceback none)
    let traceback := (← luaTostring (-1)).getD ""
    luaPop 1
    pure traceback
  else pure "not enough stack space for traceback"

/-- `error_traceback` on a `WrappedError`: it becomes a `CallbackError` carrying the
traceback. -/
def wrapCallbackError : CM Unit := do
  let traceback ← captureTraceback
  match ← popWrappedError with
  | some error => pushWrappedError (.callbackError traceback error)
  | none => rustPanic (.message "called Option::unwrap() on a None value")

/-- `error_traceback` on a plain Lua value: its text followed by a traceback. -/
def tracebackLuaError : CM Unit := do
  if (← luaCheckstack 11) ≠ 0 then
    gcGuard do
      let s := (← luaTostring 1).getD "<unprintable lua error>"
      luaLTraceback (some s)
      luaRemove (-2)

section Traceback

variable {c : Ctx} {fr : Frame} {h : Heap}

/-- The traceback is `luaL_traceback`'s text when 11 slots can be had, and the stack is left
as it was, pushed into only within the guaranteed slots. -/
theorem captureTraceback_spec (c : Ctx) (fr : Frame) (h : Heap) :
    ∃ tb fr', captureTraceback c fr h = .ok tb fr' h ∧ fr'.slots = fr.slots ∧ fr.Within fr' ∧
      (fr.HasRoom c.vm 11 → tb = c.vm.traceback none) := by
  by_cases hr : fr.HasRoom c.vm 11
  · obtain ⟨fr1, hc1, hg, hfit⟩ := luaCheckstack_of_room (h := h) hr
    rw [show ((11 : Nat) : Int) = 11 from rfl] at hc1
    have hguard : gcGuard (luaLTraceback none) c fr1 h =
        .ok () (fr1.push (.string (c.vm.traceback none))) h := gcGuard_ok (fun _ => rfl) rfl
    have hs1 : (fr1.push (.string (c.vm.traceback none))).slots =
        fr1.slots ++ [.string (c.vm.traceback none)] := rfl
    refine ⟨c.vm.traceback none, (fr1.push (.string (c.vm.traceback none))).withSlots fr1.slots,
      ?_, hg.slots, hg.within.trans (((Frame.Reach.push _ _).trans
      (.withSlots _ _ 0) (by simp)).within (by omega)), fun _ => rfl⟩
    simp [captureTraceback, hc1, hguard, luaTostring, indexValue_neg_one hs1, Value.tostring?,
      Frame.settop_neg_two hs1]
  · have hc1 := luaCheckstack_of_not_room (h := h) hr
    rw [show ((11 : Nat) : Int) = 11 from rfl] at hc1
    exact ⟨"not enough stack space for traceback", fr, by simp [captureTraceback, hc1], rfl,
      .refl fr, fun h' => absurd h' hr⟩

/-- A `WrappedError` on top becomes a `CallbackError` with the traceback, in a new envelope in
its place. -/
theorem wrapCallbackError_apply {xs : List Value} {r : Nat} {e : Error}
    (hs : fr.slots = xs ++ [.userdata r])
    (hm : hasMetatable h (.userdata r) (registryMetatable c Keys.error) = true)
    (he : contentsAt h (.block r) = some (.wrappedError e)) :
    ∃ tb fr', wrapCallbackError c fr h = .ok () fr'
        (h.alloc (envelopeBlock c Keys.error (.wrappedError (.callbackError tb e)))) ∧
      fr'.slots = xs ++ [.userdata h.userdata.length] := by
  obtain ⟨tb, fr1, h1, hs1, -, -⟩ := captureTraceback_spec c fr h
  obtain ⟨fr2, h2, hs2, -⟩ := popWrappedError_of_wrapped (hs1.trans hs) hm he
  refine ⟨tb, ((fr2.push (.userdata h.userdata.length)).push
    (registryMetatable c Keys.error)).withSlots (fr2.slots ++ [.userdata h.userdata.length]), ?_,
    by simp [hs2]⟩
  simp [wrapCallbackError, h1, h2, pushWrappedError_apply]

/-- Everything the `WrappedError` branch of `error_traceback` can do, given room for its
checks: wrap the error into a `CallbackError` envelope, panic on the `unwrap` when the top is no
`WrappedError`, or read a block with the error metatable as another type. It pushes only into
guaranteed slots. -/
theorem wrapCallbackError_cases (hk : fr.top + 2 ≤ fr.ciTop) :
    (∃ tb e fr', wrapCallbackError c fr h = .ok () fr'
        (h.alloc (envelopeBlock c Keys.error (.wrappedError (.callbackError tb e)))) ∧
      fr.Within fr') ∨
    (∃ fr', wrapCallbackError c fr h =
        .unwind (.message "called Option::unwrap() on a None value") fr' h ∧ fr.Within fr') ∨
    (wrapCallbackError c fr h = .abort undefinedRead ∧ ∃ r, h.Misfit c .error r) := by
  obtain ⟨tb, fr1, h1, hs1, hw1, -⟩ := captureTraceback_spec c fr h
  have hk1 : fr1.top + 2 ≤ fr1.ciTop := by
    have := hw1.ciTop; simp only [Frame.top, hs1] at hk ⊢; omega
  rcases popWrappedError_cases c fr1 h with ⟨fr2, h2, -, hr2⟩ | ⟨e, fr2, h2, hs2, hr2⟩ |
    ⟨h2, hmis⟩
  · exact .inr (.inl ⟨fr2, by simp [wrapCallbackError, h1, h2], hw1.trans (hr2.within hk1)⟩)
  · have hk2 : fr2.top + 2 ≤ fr2.ciTop := by
      have := hr2.ciTop; simp only [Frame.top, hs2, List.length_dropLast] at this hk1 ⊢; omega
    exact .inl ⟨tb, e, _, by simp [wrapCallbackError, h1, h2, pushWrappedError_apply]; rfl,
      hw1.trans ((hr2.within hk1).trans ((Frame.Reach.push_push _ _ _ _).within hk2))⟩
  · exact .inr (.inr ⟨by simp [wrapCallbackError, h1, h2], hmis⟩)

/-- The plain-value branch pushes its one string into the 11 slots it asked for. -/
theorem tracebackLuaError_within (c : Ctx) (fr : Frame) (h : Heap) :
    ∃ fr', tracebackLuaError c fr h = .ok () fr' h ∧ fr.Within fr' := by
  by_cases hr : fr.HasRoom c.vm 11
  · obtain ⟨fr1, hc1, hg, hfit⟩ := luaCheckstack_of_room (h := h) hr
    rw [show ((11 : Nat) : Int) = 11 from rfl] at hc1
    obtain ⟨vs, hlen, hts⟩ := luaTostring_spec c fr1 1
    let s := ((indexValue c fr1 1).tostring?.getD "<unprintable lua error>")
    let fr2 := (fr1.withSlots vs).push (.string (c.vm.traceback (some s)))
    have hguard : gcGuard (do
          let s := (← luaTostring 1).getD "<unprintable lua error>"
          luaLTraceback (some s)
          luaRemove (-2)) c fr1 h =
        .ok () (fr2.withSlots (fr2.slots.eraseIdx (fr2.pos (-2)))) h :=
      gcGuard_ok (fun b => by simp [hts]; rfl) rfl
    refine ⟨fr2.withSlots (fr2.slots.eraseIdx (fr2.pos (-2))),
      by simp [tracebackLuaError, hc1, hguard], hg.within.trans ?_⟩
    have hr2 : fr1.Reach 1 fr2 :=
      (Frame.Reach.withSlots fr1 vs 1).trans (.push _ _) (by simp [hlen, Frame.top])
    exact (hr2.trans (.withSlots _ _ 0) (by simp [fr2, hlen, Frame.top])).within (by omega)
  · have hc1 := luaCheckstack_of_not_room (h := h) hr
    rw [show ((11 : Nat) : Int) = 11 from rfl] at hc1
    exact ⟨fr, by simp [tracebackLuaError, hc1], .refl fr⟩

end Traceback

/-- `error_traceback`: the message handler of the host's protected calls. A `WrappedError`
becomes a `CallbackError` carrying a traceback, another Lua value is replaced by its text
with a traceback, and a `WrappedPanic` is left as it is. -/
def errorTraceback : CM Int := do
  if (← luaCheckstack 2) = 0 then
    pure ()
  else if ← isWrappedError 1 then
    wrapCallbackError
  else if !(← isWrappedPanic 1) then
    tracebackLuaError
  pure 1

/-- Everything `error_traceback` can do: return its value with the heap untouched (no room,
a `WrappedPanic`, or a plain value given its traceback), return a new `CallbackError` envelope,
panic in the `unwrap`, or read a block as another type. Every push goes into the slots its
`lua_checkstack` calls guaranteed. -/
theorem errorTraceback_cases (c : Ctx) (fr : Frame) (h : Heap) :
    (∃ fr', errorTraceback c fr h = .ok 1 fr' h ∧ fr.Within fr') ∨
    (∃ tb e fr', errorTraceback c fr h = .ok 1 fr'
        (h.alloc (envelopeBlock c Keys.error (.wrappedError (.callbackError tb e)))) ∧
      fr.Within fr') ∨
    (∃ fr', errorTraceback c fr h =
        .unwind (.message "called Option::unwrap() on a None value") fr' h ∧ fr.Within fr') ∨
    (errorTraceback c fr h = .abort undefinedRead ∧ ∃ r, h.Misfit c .error r) := by
  by_cases hr : fr.HasRoom c.vm 2
  · obtain ⟨fr1, hc1, hg, hfit⟩ := luaCheckstack_of_room (h := h) hr
    rw [show ((2 : Nat) : Int) = 2 from rfl] at hc1
    obtain ⟨fr2, h2, hs2, hr2⟩ := isWrappedError_spec c fr1 h 1
    have hw2 : fr.Within fr2 := hg.within.trans (hr2.within hfit)
    have hfit2 : fr2.top + 2 ≤ fr2.ciTop := by
      have := hr2.ciTop; simp only [Frame.top, hs2] at hfit ⊢; omega
    cases hb : hasMetatable h (indexValue c fr1 1) (registryMetatable c Keys.error)
    · obtain ⟨fr3, h3, hs3, hr3⟩ := isWrappedPanic_spec c fr2 h 1
      have hw3 : fr.Within fr3 := hw2.trans (hr3.within hfit2)
      cases hp : hasMetatable h (indexValue c fr2 1) (registryMetatable c Keys.panic)
      · obtain ⟨fr4, h4, hw4⟩ := tracebackLuaError_within c fr3 h
        exact .inl ⟨fr4, by simp [errorTraceback, hc1, h2, hb, h3, hp, h4], hw3.trans hw4⟩
      · exact .inl ⟨fr3, by simp [errorTraceback, hc1, h2, hb, h3, hp], hw3⟩
    · have hpre : errorTraceback c fr h = (do wrapCallbackError; pure 1) c fr2 h := by
        simp [errorTraceback, hc1, h2, hb]
      rw [hpre]
      rcases wrapCallbackError_cases (c := c) (h := h) hfit2 with
        ⟨tb, e, fr', he, hw⟩ | ⟨fr', he, hw⟩ | ⟨he, hmis⟩
      · exact .inr (.inl ⟨tb, e, fr', by simp [he], hw2.trans hw⟩)
      · exact .inr (.inr (.inl ⟨fr', by simp [he], hw2.trans hw⟩))
      · exact .inr (.inr (.inr ⟨by simp [he], hmis⟩))
  · have hc1 := luaCheckstack_of_not_room (h := h) hr
    rw [show ((2 : Nat) : Int) = 2 from rfl] at hc1
    exact .inl ⟨fr, by simp [errorTraceback, hc1], .refl fr⟩

/-- `error_traceback` pushes only into the slots its `lua_checkstack` calls guaranteed, on every
path. -/
theorem errorTraceback_within (c : Ctx) (fr : Frame) (h : Heap) :
    ∀ fr', (errorTraceback c fr h).frame? = some fr' → fr.Within fr' := by
  rcases errorTraceback_cases c fr h with ⟨fr1, he, hw⟩ | ⟨_, _, fr1, he, hw⟩ | ⟨fr1, he, hw⟩ |
    ⟨he, -⟩ <;> simp [he, Res.frame?] <;> exact hw

end Rlua
