import Rlua.Runtime.Interp

/-!
# The interpreter's fuel is an adequate bound

`callFn E n` runs the program with `n` levels of nested calls and gives up with `stuck` below
them. The fuel belongs to the model, not to the bridge: nothing in `util.rs` reads it. This
module is about the model only. It shows that the fuel is a bound and nothing more: a run that
finishes with some fuel finishes the same way with any more. So a result stated for the runs of
`callFn E n` that finish holds for every larger fuel as well. It says nothing of Lua's own limit
on nested C calls (`LUAI_MAXCCALLS`); the model does not have that limit (see
`Rlua.Runtime.Interp`).

The order is the usual one on partial results: `stuck` is below everything (`Res.Le`,
`Outcome.Le`). A computation is *monotone* when giving its nested calls a caller that finishes
more calls changes none of its runs that finish (`CM.Mono`). Monotonicity composes through
`bind`. It holds of every Lua API function: `lua_pcall` and `lua_call` pass the nested call's
outcome on, and the others make no call. From the C functions and the host side up to
`callFn`, the interpreter is monotone in its fuel, by induction.

## Main results

* `fuel_only_bounds`: a run of the interpreter, or a protected call of the host, that finishes
  with fuel `n` gives the same outcome with any fuel `m ≥ n`.
-/

namespace Rlua

/-! ## Partial results -/

/-- `r` ran out of fuel, or is `r'`. -/
def Res.Le {α : Type} (r r' : Res α) : Prop := r = .stuck ∨ r = r'

/-- `o` ran out of fuel, or is `o'`. -/
def Outcome.Le (o o' : Outcome) : Prop := o = .stuck ∨ o = o'

/-- Every call `call` finishes, `call'` finishes the same way. -/
def Caller.Le (call call' : Caller) : Prop :=
  ∀ hd f args base h, (call hd f args base h).Le (call' hd f args base h)

/-- A computation whose finished runs stay as they are when its nested calls finish more. -/
def CM.Mono {α : Type} (m : CM α) : Prop :=
  ∀ (c : Ctx) (call' : Caller), c.call.Le call' → ∀ fr h,
    (m c fr h).Le (m { c with call := call' } fr h)

theorem Outcome.Le.trans {o o' o'' : Outcome} (h₁ : o.Le o') (h₂ : o'.Le o'') : o.Le o'' := by
  rcases h₁ with rfl | rfl
  · exact .inl rfl
  · exact h₂

theorem Caller.Le.refl (call : Caller) : call.Le call := fun _ _ _ _ _ => .inr rfl

theorem Caller.Le.trans {call call' call'' : Caller} (h₁ : call.Le call') (h₂ : call'.Le call'') :
    call.Le call'' := fun hd f args base h =>
  (h₁ hd f args base h).trans (h₂ hd f args base h)

theorem Res.Le.toOutcome {r r' : Res Int} (hr : r.Le r') : r.toOutcome.Le r'.toOutcome := by
  rcases hr with rfl | rfl
  · exact .inl rfl
  · exact .inr rfl

namespace CM.Mono

variable {α β : Type}

/-- A computation that makes no nested call. -/
theorem of_callFree {m : CM α} (hm : ∀ (c : Ctx) (call' : Caller), m { c with call := call' } = m c) :
    m.Mono := fun c call' _ fr h => .inr (congrFun (congrFun (hm c call') fr) h).symm

theorem pure (a : α) : (Pure.pure a : CM α).Mono := of_callFree fun _ _ => rfl

theorem bind {m : CM α} {k : α → CM β} (hm : m.Mono) (hk : ∀ a, (k a).Mono) :
    (m >>= k).Mono := fun c call' hc fr h => by
  rw [CM.bind_apply, CM.bind_apply]
  rcases hm c call' hc fr h with he | he
  · rw [he]; exact .inl rfl
  · rw [← he]
    cases m c fr h with
    | ok a fr' h' => exact hk a c call' hc fr' h'
    | _ => exact .inr rfl

theorem ite {p : Prop} [Decidable p] {m₁ m₂ : CM α} (h₁ : m₁.Mono) (h₂ : m₂.Mono) :
    (if p then m₁ else m₂).Mono := by
  split <;> assumption

end CM.Mono

/-! ## The Lua API

Every function of the API but `lua_pcall` and `lua_call` makes no nested call: it does the
same whatever the caller, by definition. -/

section Api

variable {α : Type} (i j k : Int) (s : String) (f : CFn)

theorem luaGettop_mono : luaGettop.Mono := .of_callFree fun _ _ => rfl
theorem luaSettop_mono : (luaSettop i).Mono := .of_callFree fun _ _ => rfl
theorem luaPop_mono : (luaPop i).Mono := .of_callFree fun _ _ => rfl
theorem luaPushvalue_mono : (luaPushvalue i).Mono := .of_callFree fun _ _ => rfl
theorem luaInsert_mono : (luaInsert i).Mono := .of_callFree fun _ _ => rfl
theorem luaRemove_mono : (luaRemove i).Mono := .of_callFree fun _ _ => rfl
theorem luaCopy_mono : (luaCopy i j).Mono := .of_callFree fun _ _ => rfl
theorem luaPushboolean_mono : (luaPushboolean i).Mono := .of_callFree fun _ _ => rfl
theorem luaPushstring_mono : (luaPushstring s).Mono := .of_callFree fun _ _ => rfl
theorem luaPushlstring_mono : (luaPushlstring s).Mono := .of_callFree fun _ _ => rfl
theorem luaPushcfunction_mono : (luaPushcfunction f).Mono := .of_callFree fun _ _ => rfl
theorem luaPushcclosure_mono : (luaPushcclosure f i).Mono := .of_callFree fun _ _ => rfl
theorem luaPushlightuserdata_mono (p : Nat) : (luaPushlightuserdata p).Mono :=
  .of_callFree fun _ _ => rfl
theorem luaNewuserdata_mono : luaNewuserdata.Mono := .of_callFree fun _ _ => rfl
theorem luaTouserdata_mono : (luaTouserdata i).Mono := .of_callFree fun _ _ => rfl
theorem luaGetmetatable_mono : (luaGetmetatable i).Mono := .of_callFree fun _ _ => rfl
theorem luaSetmetatable_mono : (luaSetmetatable i).Mono := .of_callFree fun _ _ => rfl
theorem luaRawget_mono : (luaRawget i).Mono := .of_callFree fun _ _ => rfl
theorem luaRawequal_mono : (luaRawequal i j).Mono := .of_callFree fun _ _ => rfl
theorem luaTostring_mono : (luaTostring i).Mono := .of_callFree fun _ _ => rfl
theorem luaCheckstack_mono : (luaCheckstack i).Mono := .of_callFree fun _ _ => rfl
theorem luaLTraceback_mono (msg : Option String) : (luaLTraceback msg).Mono :=
  .of_callFree fun _ _ => rfl
theorem luaGc_mono : (luaGc i).Mono := .of_callFree fun _ _ => rfl
theorem luaError_mono : (luaError : CM α).Mono := .of_callFree fun _ _ => rfl
theorem rustPanic_mono (p : PanicPayload) : (rustPanic p : CM α).Mono := .of_callFree fun _ _ => rfl
theorem processAbort_mono : (processAbort s : CM α).Mono := .of_callFree fun _ _ => rfl
theorem vm_mono : CM.vm.Mono := .of_callFree fun _ _ => rfl
theorem keys_mono : CM.keys.Mono := .of_callFree fun _ _ => rfl
theorem ptrWrite_mono (p : Ptr) (x : Contents) : (ptrWrite p x).Mono := .of_callFree fun _ _ => rfl
theorem readWrappedError_mono (p : Ptr) : (readWrappedError p).Mono := .of_callFree fun _ _ => rfl
theorem takeWrappedPanic_mono (p : Ptr) : (takeWrappedPanic p).Mono := .of_callFree fun _ _ => rfl
theorem ptrRead_mono (w : Wrapped) (p : Ptr) : (ptrRead w p).Mono := .of_callFree fun _ _ => rfl

/-- `lua_pcall` passes on how the nested call ended. -/
theorem luaPcall_mono : (luaPcall i j k).Mono := fun c call' hc fr h => by
  have hv : indexValue { c with call := call' } fr k = indexValue c fr k := rfl
  simp only [luaPcall, hv]
  rcases hc (if k = 0 then none else some (indexValue c fr k)) (fr.callSite i.toNat).2.1
    (fr.callSite i.toNat).2.2 (fr.base + (fr.callSite i.toNat).1.length + 1) h with he | he
  · rw [he]; exact .inl rfl
  · rw [← he]; exact .inr rfl

theorem luaCall_mono : (luaCall i j).Mono := fun c call' hc fr h => by
  simp only [luaCall]
  rcases hc none (fr.callSite i.toNat).2.1 (fr.callSite i.toNat).2.2
    (fr.base + (fr.callSite i.toNat).1.length + 1) h with he | he
  · rw [he]; exact .inl rfl
  · rw [← he]; exact .inr rfl

theorem catchUnwind_mono {m : CM α} (hm : m.Mono) : (catchUnwind m).Mono :=
  fun c call' hc fr h => by
    unfold catchUnwind
    rcases hm c call' hc fr h with he | he
    · rw [he]; exact .inl rfl
    · rw [← he]; exact .inr rfl

theorem luaReplace_mono : (luaReplace i).Mono :=
  (luaCopy_mono _ _).bind fun _ => luaPop_mono _

theorem luaLError_mono : (luaLError s : CM α).Mono :=
  (luaPushstring_mono _).bind fun _ => luaError_mono

theorem luaLCheckstack_mono : (luaLCheckstack i).Mono :=
  (luaCheckstack_mono _).bind fun _ => .ite (luaLError_mono _) (.pure _)

end Api

/-! ## The helpers of `util.rs` -/

section Envelope

variable {α : Type}

theorem luaInternalPanic_mono (msg : String) : (luaInternalPanic msg : CM α).Mono :=
  (luaSettop_mono _).bind fun _ => rustPanic_mono _

theorem luaInternalAssert_mono (cond : Bool) (msg : String) :
    (luaInternalAssert cond msg).Mono :=
  .ite (.pure _) (luaInternalPanic_mono _)

theorem checkStackErr_mono (n : Int) : (checkStackErr n).Mono :=
  (luaCheckstack_mono _).bind fun _ => .ite (.pure _) (.pure _)

theorem gcGuard_mono {f : CM α} (hf : f.Mono) : (gcGuard f).Mono :=
  (luaGc_mono _).bind fun _ => .ite
    ((luaGc_mono _).bind fun _ => hf.bind fun _ => (luaGc_mono _).bind fun _ => .pure _) hf

theorem getRegistryMetatable_mono (key : Keys → Nat) : (getRegistryMetatable key).Mono :=
  keys_mono.bind fun _ => (luaPushlightuserdata_mono _).bind fun _ => luaRawget_mono _

theorem isWrappedWith_mono {getMetatable : CM Unit} (hg : getMetatable.Mono) (index : Int) :
    (isWrappedWith getMetatable index).Mono :=
  (luaTouserdata_mono _).bind fun _ => .ite (.pure _) <|
    (luaGetmetatable_mono _).bind fun _ => .ite (.pure _) <| hg.bind fun _ =>
      (luaRawequal_mono _ _).bind fun _ => (luaPop_mono _).bind fun _ => .pure _

theorem isWrappedError_mono (index : Int) : (isWrappedError index).Mono :=
  isWrappedWith_mono (getRegistryMetatable_mono _) _

theorem isWrappedPanic_mono (index : Int) : (isWrappedPanic index).Mono :=
  isWrappedWith_mono (getRegistryMetatable_mono _) _

theorem pushWrapped_mono (x : Contents) {getMetatable : CM Unit} (hg : getMetatable.Mono) :
    (pushWrapped x getMetatable).Mono :=
  (gcGuard_mono (luaNewuserdata_mono.bind fun _ => ptrWrite_mono _ _)).bind fun _ =>
    hg.bind fun _ => luaSetmetatable_mono _

theorem pushWrappedError_mono (err : Error) : (pushWrappedError err).Mono :=
  pushWrapped_mono _ (getRegistryMetatable_mono _)

theorem pushWrappedPanic_mono (p : PanicPayload) : (pushWrappedPanic p).Mono :=
  pushWrapped_mono _ (getRegistryMetatable_mono _)

theorem getUserdata_mono (index : Int) : (getUserdata index).Mono :=
  (luaTouserdata_mono _).bind fun
    | some _ => .pure _
    | none => luaInternalPanic_mono _

theorem popWrappedError_mono : popWrappedError.Mono :=
  (isWrappedError_mono _).bind fun _ => .ite (.pure _) <|
    (getUserdata_mono _).bind fun _ => (readWrappedError_mono _).bind fun _ =>
      (luaPop_mono _).bind fun _ => .pure _

theorem errorFromCode_mono (errCode : Int) (errString : String) :
    (errorFromCode errCode errString).Mono :=
  .ite (.pure _) <| .ite (.pure _) <| .ite (.pure _) <| .ite (processAbort_mono _) <|
    .ite (.pure _) (luaInternalPanic_mono _)

theorem resumeWrappedPanic_mono : resumeWrappedPanic.Mono :=
  (getUserdata_mono _).bind fun _ => (takeWrappedPanic_mono _).bind fun
    | some _ => (luaSettop_mono _).bind fun _ => rustPanic_mono _
    | none => luaInternalPanic_mono _

theorem errorFromValue_mono (errCode : Int) : (errorFromValue errCode).Mono := by
  refine .bind (gcGuard_mono ?_) fun _ => (luaPop_mono _).bind fun _ => errorFromCode_mono _ _
  exact (luaTostring_mono _).bind fun | some _ => .pure _ | none => .pure _

theorem popError_mono (errCode : Int) : (popError errCode).Mono :=
  (luaInternalAssert_mono _ _).bind fun _ => popWrappedError_mono.bind fun
    | some _ => .pure _
    | none => (isWrappedPanic_mono _).bind fun _ =>
      .ite resumeWrappedPanic_mono (errorFromValue_mono _)

theorem takeUserdata_mono (w : Wrapped) : (takeUserdata w).Mono :=
  (getRegistryMetatable_mono _).bind fun _ => (luaSetmetatable_mono _).bind fun _ =>
    (luaTouserdata_mono _).bind fun
      | none => luaInternalPanic_mono _
      | some _ => (luaPop_mono _).bind fun _ => ptrRead_mono _ _

theorem stackErrGuard_mono (change : Int) {op : CM (Except Error α)} (hop : op.Mono) :
    (stackErrGuard change op).Mono :=
  luaGettop_mono.bind fun _ => (luaInternalAssert_mono _ _).bind fun _ =>
    hop.bind fun _ => luaGettop_mono.bind fun _ =>
      .ite (luaGettop_mono.bind fun _ => (luaInternalAssert_mono _ _).bind fun _ => .pure _)
        ((luaInternalAssert_mono _ _).bind fun _ =>
          .ite ((luaSettop_mono _).bind fun _ => .pure _)
            ((CM.Mono.pure _).bind fun _ => .pure _))

end Envelope

/-! ## The C functions -/

section CFunctions

variable {α : Type}

theorem callbackError_mono {f : CM (Except Error α)} (hf : f.Mono) : (callbackError f).Mono :=
  (catchUnwind_mono hf).bind fun
    | .ok (.ok _) => .pure _
    | .ok (.error _) => (luaSettop_mono _).bind fun _ => (luaLCheckstack_mono _).bind fun _ =>
      (pushWrappedError_mono _).bind fun _ => luaError_mono
    | .error _ =>
      have raise := (pushWrappedPanic_mono _).bind fun _ => luaError_mono
      (luaSettop_mono _).bind fun _ => (luaCheckstack_mono _).bind fun _ =>
        .ite ((processAbort_mono _).bind fun _ => raise) ((CM.Mono.pure _).bind fun _ => raise)

theorem rustCallbackError_mono {f : CM (Except Error Int)} (hf : f.Mono) :
    (rustCallbackError f).Mono := by
  refine (catchUnwind_mono hf).bind fun _ => ?_
  split
  · exact .pure _
  · exact .pure _
  · exact (luaSettop_mono _).bind fun _ => (luaCheckstack_mono _).bind fun _ =>
      .ite (.pure _) ((pushWrappedError_mono _).bind fun _ => .pure _)
  · exact (luaSettop_mono _).bind fun _ => (luaCheckstack_mono _).bind fun _ =>
      .ite (processAbort_mono _) ((pushWrappedPanic_mono _).bind fun _ => .pure _)

theorem rcallShim_mono {f : CM Int} (hf : f.Mono) : (rcallShim f).Mono :=
  hf.bind fun _ => .ite luaError_mono (.ite (.of_callFree fun _ _ => rfl) (.pure _))

theorem userdataDestructor_mono (w : Wrapped) : (userdataDestructor w).Mono :=
  callbackError_mono ((takeUserdata_mono w).bind fun _ => .pure _)

theorem errorTostring_mono : errorTostring.Mono :=
  rustCallbackError_mono <| (checkStackErr_mono _).bind fun
    | .error _ => .pure _
    | .ok () => (isWrappedError_mono _).bind fun _ => .ite
      ((getUserdata_mono _).bind fun _ => vm_mono.bind fun _ =>
        (readWrappedError_mono _).bind fun _ =>
        (gcGuard_mono (luaPushlstring_mono _)).bind fun _ =>
        (luaRemove_mono _).bind fun _ => .pure _)
      (rustPanic_mono _)

theorem destructedError_mono : destructedError.Mono := rustCallbackError_mono (.pure _)

theorem captureTraceback_mono : captureTraceback.Mono :=
  (luaCheckstack_mono _).bind fun _ => .ite
    ((gcGuard_mono (luaLTraceback_mono _)).bind fun _ =>
      (luaTostring_mono _).bind fun _ => (luaPop_mono _).bind fun _ => .pure _)
    (.pure _)

theorem wrapCallbackError_mono : wrapCallbackError.Mono :=
  captureTraceback_mono.bind fun _ => popWrappedError_mono.bind fun
    | some _ => pushWrappedError_mono _
    | none => rustPanic_mono _

theorem tracebackLuaError_mono : tracebackLuaError.Mono :=
  (luaCheckstack_mono _).bind fun _ => .ite
    (gcGuard_mono ((luaTostring_mono _).bind fun _ => (luaLTraceback_mono _).bind fun _ =>
      luaRemove_mono _))
    (.pure _)

theorem errorTraceback_mono : errorTraceback.Mono :=
  have done : ∀ {m : CM Unit}, m.Mono → (m >>= fun _ => (Pure.pure 1 : CM Int)).Mono :=
    fun hm => hm.bind fun _ => .pure _
  (luaCheckstack_mono _).bind fun _ => .ite (done (.pure _)) <|
    (isWrappedError_mono _).bind fun _ => .ite (done wrapCallbackError_mono) <|
      (isWrappedPanic_mono _).bind fun _ => .ite (done tracebackLuaError_mono) (done (.pure _))

/-- How `safe_pcall` and `safe_xpcall` end a failed call. -/
theorem pcallFailed_mono :
    (isWrappedPanic (-1) >>= fun b =>
      let k := fun (_ : PUnit) => (do luaPushboolean 0; luaInsert (-2); pure 2 : CM Int)
      if b = true then luaError >>= k else pure PUnit.unit >>= k).Mono :=
  have k := (luaPushboolean_mono _).bind fun _ => (luaInsert_mono _).bind fun _ => .pure _
  (isWrappedPanic_mono _).bind fun _ =>
    .ite (luaError_mono.bind fun _ => k) ((CM.Mono.pure _).bind fun _ => k)

theorem safePcall_mono : safePcall.Mono :=
  (luaLCheckstack_mono _).bind fun _ => luaGettop_mono.bind fun _ =>
    .ite ((luaPushstring_mono _).bind fun _ => luaError_mono) <|
      (luaPcall_mono _ _ _).bind fun _ => .ite pcallFailed_mono <|
        (luaPushboolean_mono _).bind fun _ => (luaInsert_mono _).bind fun _ => luaGettop_mono

theorem xpcallMsgh_mono : xpcallMsgh.Mono :=
  (luaLCheckstack_mono _).bind fun _ => (isWrappedPanic_mono _).bind fun _ =>
    .ite (.pure _) <| (luaPushvalue_mono _).bind fun _ => (luaInsert_mono _).bind fun _ =>
      luaGettop_mono.bind fun _ => (luaCall_mono _ _).bind fun _ => luaGettop_mono

theorem safeXpcall_mono : safeXpcall.Mono :=
  have k := (luaPushvalue_mono _).bind fun _ => (luaPushcclosure_mono _ _).bind fun _ =>
    (luaCopy_mono _ _).bind fun _ => (luaReplace_mono _).bind fun _ =>
    luaGettop_mono.bind fun _ => (luaPcall_mono _ _ _).bind fun _ =>
    .ite pcallFailed_mono <| (luaPushboolean_mono _).bind fun _ =>
      (luaInsert_mono _).bind fun _ => luaGettop_mono.bind fun _ => .pure _
  (luaLCheckstack_mono _).bind fun _ => luaGettop_mono.bind fun _ =>
    .ite ((luaPushstring_mono _).bind fun _ => luaError_mono.bind fun _ => k)
      ((CM.Mono.pure _).bind fun _ => k)

theorem cfunctionBody_mono : ∀ fn : CFn, (cfunctionBody fn).Mono
  | .safePcall => safePcall_mono
  | .safeXpcall => safeXpcall_mono
  | .xpcallMsgh => xpcallMsgh_mono
  | .errorTraceback => errorTraceback_mono
  | .userdataDestructor w => userdataDestructor_mono w
  | .errorTostring => rcallShim_mono errorTostring_mono
  | .destructedError => rcallShim_mono destructedError_mono

end CFunctions

/-! ## The host side -/

section Host

theorem pushValue_mono (v : Value) : (pushValue v).Mono := .of_callFree fun _ _ => rfl

theorem pushValues_mono : ∀ vs : List Value, (pushValues vs).Mono
  | [] => .pure _
  | _ :: vs => (pushValue_mono _).bind fun _ => pushValues_mono vs

theorem popValuesAbove_mono (k : Int) : (popValuesAbove k).Mono := .of_callFree fun _ _ => rfl

theorem hostPcall_mono (f : Value) (args : List Value) : (hostPcall f args).Mono :=
  stackErrGuard_mono _ <| (checkStackErr_mono _).bind fun
    | .error _ => .pure _
    | .ok () => (luaPushcfunction_mono _).bind fun _ => luaGettop_mono.bind fun _ =>
      (pushValue_mono _).bind fun _ => (pushValues_mono _).bind fun _ =>
      (luaPcall_mono _ _ _).bind fun _ =>
      .ite ((popError_mono _).bind fun _ => .pure _)
        ((popValuesAbove_mono _).bind fun _ => (luaPop_mono _).bind fun _ => .pure _)

theorem runHost_mono (host : Host) : (runHost host).Mono := by
  induction host with
  | ok => exact .pure _
  | fail => exact .pure _
  | panic => exact rustPanic_mono _
  | call f args next onErr ihn ihe =>
    rw [runHost]
    exact (hostPcall_mono f args).bind fun | .ok rs => ihn rs | .error e => ihe e

theorem callbackBody_mono (host : List Value → Host) : (callbackBody host).Mono :=
  (popValuesAbove_mono _).bind fun _ => (runHost_mono _).bind fun
    | .error _ => .pure _
    | .ok _ => (checkStackErr_mono _).bind fun
      | .error _ => .pure _
      | .ok () => (pushValues_mono _).bind fun _ => .pure _

end Host

/-! ## The interpreter -/

section Interp

variable (E : Env) {call call' : Caller}

/-- The context of a C function run by the interpreter, with another caller. -/
theorem Env.ctx_withCall (ups : List Value) (call call' : Caller) :
    { E.ctx ups call with call := call' } = E.ctx ups call' := by
  simp only [Env.ctx]

theorem runScript_mono (hc : call.Le call') (s : Script) : ∀ regs base h,
    (runScript call s regs base h).Le (runScript call' s regs base h) := by
  induction s with
  | ret es => exact fun _ _ _ => .inr rfl
  | raise e => exact fun _ _ _ => .inr rfl
  | call f args next ih =>
    intro regs base h
    simp only [runScript]
    rcases hc none (f.eval regs) (args.map (·.eval regs)) (base + regs.length + 1) h with he | he
    · rw [he]; exact .inl rfl
    · rw [← he]
      cases call none _ _ _ h with
      | ret rs h' => exact ih _ _ _
      | _ => exact .inr rfl
  | cond e t f iht ihf =>
    intro regs base h
    simp only [runScript]
    split
    · exact iht _ _ _
    · exact ihf _ _ _

theorem invoke_mono (hc : call.Le call') (f : Value) (args : List Value) (base : Nat)
    (h : Heap) : (invoke E call f args base h).Le (invoke E call' f args base h) := by
  cases f with
  | cfunction fn =>
    have := (cfunctionBody_mono fn (E.ctx [] call) call' hc (.entry base args) h).toOutcome
    rwa [Env.ctx_withCall] at this
  | cclosure fn u =>
    have := (cfunctionBody_mono fn (E.ctx [u] call) call' hc (.entry base args) h).toOutcome
    rwa [Env.ctx_withCall] at this
  | callback id =>
    have := (callbackError_mono (callbackBody_mono (E.hosts id)) (E.ctx [] call) call' hc
      (.entry base args) h).toOutcome
    rwa [Env.ctx_withCall] at this
  | lfunction id => exact runScript_mono hc _ _ _ _
  | _ => exact .inr rfl

omit E in
theorem handle_mono (hc : call.Le call') (handler : Option Value) (base : Nat) {o o' : Outcome}
    (ho : o.Le o') : (handle call handler base o).Le (handle call' handler base o') := by
  rcases ho with rfl | rfl
  · exact .inl rfl
  cases o with
  | error v h =>
    cases handler with
    | none => exact .inr rfl
    | some m =>
      simp only [handle]
      rcases hc (some m) m [v] base h with he | he
      · rw [he]; exact .inl rfl
      · rw [← he]; exact .inr rfl
  | _ => exact .inr rfl

/-- One more level of fuel finishes every call that finished. -/
theorem callFn_mono : ∀ n, (callFn E n).Le (callFn E (n + 1))
  | 0 => fun _ _ _ _ _ => .inl rfl
  | n + 1 => fun handler f args base h =>
    handle_mono (callFn_mono n) handler base (invoke_mono E (callFn_mono n) f args base h)

theorem callFn_mono_le {n m : Nat} (hnm : n ≤ m) : (callFn E n).Le (callFn E m) := by
  induction hnm with
  | refl => exact .refl _
  | step _ ih => exact ih.trans (callFn_mono E _)

end Interp

/-- **Fuel only bounds the depth of nested calls.** A run of the interpreter that finishes with
fuel `n` (returning, raising, panicking or aborting) gives the same outcome, with the same heap,
with any fuel `m ≥ n`; so does a protected call of the host whose nested calls run with that
fuel. -/
theorem fuel_only_bounds (E : Env) {n m : Nat} (hnm : n ≤ m) :
    (∀ hd f args base h, callFn E n hd f args base h ≠ .stuck →
      callFn E m hd f args base h = callFn E n hd f args base h) ∧
    (∀ f args ups fr h, hostPcall f args (E.ctx ups (callFn E n)) fr h ≠ .stuck →
      hostPcall f args (E.ctx ups (callFn E m)) fr h =
        hostPcall f args (E.ctx ups (callFn E n)) fr h) := by
  have hle := callFn_mono_le E hnm
  refine ⟨fun hd f args base h hs => ((hle hd f args base h).resolve_left hs).symm,
    fun f args ups fr h hs => ?_⟩
  have hm := hostPcall_mono f args (E.ctx ups (callFn E n)) (callFn E m) hle fr h
  rw [Env.ctx_withCall] at hm
  exact (hm.resolve_left hs).symm

/-- A script that runs `safe_pcall` on a script that raises, and returns what it gives. -/
def pcallEnv : Env :=
  ⟨sampleVm, fun
    | 0 => .call (.lit (.cfunction .safePcall)) [.lit (.lfunction 1)] (.ret [.reg 0, .reg 1])
    | _ => .raise (.lit (.string "boom")), fun _ _ => .ok []⟩

/-- Three levels of calls are enough for the run to return `false` and the error; with ten it
returns the same. -/
example : callFn pcallEnv 10 none (.lfunction 0) [] 0 ⟨[], true⟩ =
    .ret [.boolean false, .string "boom"] ⟨[], true⟩ :=
  have h3 : callFn pcallEnv 3 none (.lfunction 0) [] 0 ⟨[], true⟩ =
      .ret [.boolean false, .string "boom"] ⟨[], true⟩ := rfl
  ((fuel_only_bounds pcallEnv (by decide : 3 ≤ 10)).1 none _ [] 0 _
    (by rw [h3]; exact fun he => by cases he)).trans h3

end Rlua
