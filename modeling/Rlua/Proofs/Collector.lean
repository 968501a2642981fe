import Rlua.Runtime.Interp
import Rlua.Proofs.EnvelopeInvariant

/-!
# The collector's flag over whole runs

`gc_guard` stops the collector around a closure and restarts it afterwards, but a closure that
raises a Lua error or panics skips the restart and leaves the collector stopped for good. The
source makes it the caller's obligation that the closure never does.

This module shows that the bridge meets the obligation, over whole runs of the interpreter:
every closure `util.rs` hands to `gc_guard` always returns, and nothing else touches the flag.
The statement is that every function of the bridge is *blind* to the flag: run from a heap
whose flag is `b`, it does what it does from any other flag and ends with the flag `b`
(`CM.GcBlind`). Blindness composes through `bind`, holds of every Lua API function but
`lua_gc`, and holds of `gc_guard f` when `f` is blind and never jumps out (`gcGuard_gcBlind`).
From the C functions and the host side up to `callFn`, the whole interpreter is blind, by
induction on the fuel.

## Main results

* `collector_flag_restored`: every run of the interpreter, and every protected call of the
  host, ends (returning, raising or panicking) with the collector's flag it started with, and
  does the same thing whatever the flag.
-/

namespace Rlua

/-! ## Blindness to the flag -/

/-- A result with the collector's flag of its heap set to `b`. -/
def Res.withGc {α : Type} (b : Bool) : Res α → Res α
  | .ok a fr h => .ok a fr { h with gcRunning := b }
  | .error v fr h => .error v fr { h with gcRunning := b }
  | .unwind p fr h => .unwind p fr { h with gcRunning := b }
  | .abort msg => .abort msg
  | .stuck => .stuck

/-- An outcome with the collector's flag of its heap set to `b`. -/
def Outcome.withGc (b : Bool) : Outcome → Outcome
  | .ret rs h => .ret rs { h with gcRunning := b }
  | .error v h => .error v { h with gcRunning := b }
  | .panic p h => .panic p { h with gcRunning := b }
  | .abort msg => .abort msg
  | .stuck => .stuck

/-- The heap a call ends with, when it ends in the running thread. -/
def Outcome.heap? : Outcome → Option Heap
  | .ret _ h | .error _ h | .panic _ h => some h
  | _ => none

/-- A caller blind to the flag: from a heap whose flag is `b`, a call does what it does from
any other flag, and ends with the flag `b`. -/
def Caller.GcBlind (call : Caller) : Prop :=
  ∀ hd f args base h b,
    call hd f args base { h with gcRunning := b } = (call hd f args base h).withGc b

/-- A computation blind to the flag whenever the calls it makes are. -/
def CM.GcBlind {α : Type} (m : CM α) : Prop :=
  ∀ c : Ctx, c.call.GcBlind → ∀ fr h b,
    m c fr { h with gcRunning := b } = (m c fr h).withGc b

/-- A run that raises a Lua error or unwinds. -/
def Res.Jumps {α : Type} : Res α → Prop
  | .error .. | .unwind .. => True
  | _ => False

/-- What `gc_guard` asks of its closure: it never raises a Lua error or panics. -/
def CM.NoJump {α : Type} (m : CM α) : Prop := ∀ c fr h, ¬ (m c fr h).Jumps

theorem Res.toOutcome_withGc (b : Bool) (r : Res Int) :
    (r.withGc b).toOutcome = r.toOutcome.withGc b := by
  cases r <;> rfl

/-- A result that keeps the flag `b` ends, if it ends in the running thread, with `b`. -/
theorem Res.heap?_gcRunning {α : Type} {r : Res α} {b : Bool} (hr : r = r.withGc b) {h' : Heap}
    (hh : r.heap? = some h') : h'.gcRunning = b := by
  cases r <;> simp only [Res.heap?, Option.some.injEq, reduceCtorEq] at hh <;> subst hh <;>
    simp only [Res.withGc, Res.ok.injEq, Res.error.injEq, Res.unwind.injEq] at hr <;>
    rw [hr.2.2]

theorem Outcome.heap?_gcRunning {o : Outcome} {b : Bool} (ho : o = o.withGc b) {h' : Heap}
    (hh : o.heap? = some h') : h'.gcRunning = b := by
  cases o <;> simp only [Outcome.heap?, Option.some.injEq, reduceCtorEq] at hh <;> subst hh <;>
    simp only [Outcome.withGc, Outcome.ret.injEq, Outcome.error.injEq,
      Outcome.panic.injEq] at ho <;>
    rw [ho.2]

/-- A blind caller, called from the flag it finds, leaves that flag. -/
theorem Caller.GcBlind.apply_self {call : Caller} (hc : call.GcBlind) (hd : Option Value)
    (f : Value) (args : List Value) (base : Nat) (h : Heap) :
    call hd f args base h = (call hd f args base h).withGc h.gcRunning :=
  hc hd f args base h h.gcRunning

namespace CM.GcBlind

variable {α β : Type}

/-- A blind computation, run from the flag it finds, leaves that flag. -/
theorem apply_self {m : CM α} (hm : m.GcBlind) {c : Ctx} (hc : c.call.GcBlind) (fr : Frame)
    (h : Heap) : m c fr h = (m c fr h).withGc h.gcRunning :=
  hm c hc fr h h.gcRunning

theorem pure (a : α) : (Pure.pure a : CM α).GcBlind := fun _ _ _ _ _ => rfl

theorem bind {m : CM α} {k : α → CM β} (hm : m.GcBlind) (hk : ∀ a, (k a).GcBlind) :
    (m >>= k).GcBlind := fun c hc fr h b => by
  rw [CM.bind_apply, CM.bind_apply, hm c hc]
  cases m c fr h <;> first | exact hk _ c hc _ _ b | rfl

theorem ite {p : Prop} [Decidable p] {m₁ m₂ : CM α} (h₁ : m₁.GcBlind)
    (h₂ : m₂.GcBlind) : (if p then m₁ else m₂).GcBlind := by
  split <;> assumption

end CM.GcBlind

namespace CM.NoJump

variable {α β : Type}

theorem pure (a : α) : (Pure.pure a : CM α).NoJump := fun _ _ _ => not_false

theorem bind {m : CM α} {k : α → CM β} (hm : m.NoJump) (hk : ∀ a, (k a).NoJump) :
    (m >>= k).NoJump := fun c fr h => by
  have := hm c fr h
  rw [CM.bind_apply]
  revert this
  cases m c fr h with
  | ok a fr' h' => exact fun _ => hk a c fr' h'
  | error | unwind => exact fun hn => (hn trivial).elim
  | abort | stuck => exact fun _ => not_false

end CM.NoJump

/-! ## `gc_guard` -/

section GcGuard

variable {α : Type} {f : CM α}

/-- Around a blind closure that never jumps out, `gc_guard` is the closure alone: when the
collector runs, it is stopped for the closure and restarted after it. -/
theorem gcGuard_eq_self (hf : f.GcBlind) (hj : f.NoJump) {c : Ctx} (hc : c.call.GcBlind)
    (fr : Frame) (h : Heap) : gcGuard f c fr h = f c fr h := by
  cases hr : h.gcRunning
  · simp [gcGuard, luaGc, luaGcIsrunning, hr]
  · have hs := hf.apply_self hc fr h
    have hj := hj c fr h
    simp only [gcGuard, luaGcIsrunning, ne_eq, luaGcStop, luaGcRestart, ite_not, CM.bind_apply,
      luaGc, ↓reduceIte, hr, Res.bind_ok, Int.reduceEq, hf c hc fr h false]
    rw [hr] at hs
    revert hs hj
    cases f c fr h with
    | ok a fr' h' => exact fun hs _ => hs.symm
    | error | unwind => exact fun _ hn => (hn trivial).elim
    | abort | stuck => exact fun _ _ => rfl

/-- `gc_guard` of a blind closure that never jumps out is blind. -/
theorem gcGuard_gcBlind (hf : f.GcBlind) (hj : f.NoJump) : (gcGuard f).GcBlind :=
  fun c hc fr h b => by rw [gcGuard_eq_self hf hj hc, gcGuard_eq_self hf hj hc, hf c hc]

end GcGuard

/-! ## The Lua API -/

section Api

variable {α : Type} (i j k : Int) (s : String) (f : CFn)

@[simp] theorem metatableOf_setGc (h : Heap) (b : Bool) (v : Value) :
    metatableOf { h with gcRunning := b } v = metatableOf h v := rfl

@[simp] theorem contentsAt_setGc (h : Heap) (b : Bool) (p : Ptr) :
    contentsAt { h with gcRunning := b } p = contentsAt h p := rfl

theorem luaGettop_gcBlind : luaGettop.GcBlind := fun _ _ _ _ _ => rfl
theorem luaSettop_gcBlind : (luaSettop i).GcBlind := fun _ _ _ _ _ => rfl
theorem luaPop_gcBlind : (luaPop i).GcBlind := fun _ _ _ _ _ => rfl
theorem luaPushvalue_gcBlind : (luaPushvalue i).GcBlind := fun _ _ _ _ _ => rfl
theorem luaInsert_gcBlind : (luaInsert i).GcBlind := fun _ _ _ _ _ => rfl
theorem luaRemove_gcBlind : (luaRemove i).GcBlind := fun _ _ _ _ _ => rfl
theorem luaCopy_gcBlind : (luaCopy i j).GcBlind := fun _ _ _ _ _ => rfl
theorem luaPushboolean_gcBlind : (luaPushboolean i).GcBlind := fun _ _ _ _ _ => rfl
theorem luaPushstring_gcBlind : (luaPushstring s).GcBlind := fun _ _ _ _ _ => rfl
theorem luaPushlstring_gcBlind : (luaPushlstring s).GcBlind := fun _ _ _ _ _ => rfl
theorem luaPushcfunction_gcBlind : (luaPushcfunction f).GcBlind := fun _ _ _ _ _ => rfl
theorem luaPushcclosure_gcBlind : (luaPushcclosure f i).GcBlind := fun _ _ _ _ _ => rfl
theorem luaPushlightuserdata_gcBlind (p : Nat) : (luaPushlightuserdata p).GcBlind :=
  fun _ _ _ _ _ => rfl
theorem luaNewuserdata_gcBlind : luaNewuserdata.GcBlind := fun _ _ _ _ _ => rfl
theorem luaTouserdata_gcBlind : (luaTouserdata i).GcBlind := fun _ _ _ _ _ => rfl
theorem luaRawget_gcBlind : (luaRawget i).GcBlind := fun _ _ _ _ _ => rfl
theorem luaRawgeti_gcBlind : (luaRawgeti i j).GcBlind := fun _ _ _ _ _ => rfl
theorem luaRawequal_gcBlind : (luaRawequal i j).GcBlind := fun _ _ _ _ _ => rfl
theorem luaTothread_gcBlind : (luaTothread i).GcBlind := fun _ _ _ _ _ => rfl
theorem luaLTraceback_gcBlind (msg : Option String) : (luaLTraceback msg).GcBlind :=
  fun _ _ _ _ _ => rfl
theorem luaError_gcBlind : (luaError : CM α).GcBlind := fun _ _ _ _ _ => rfl
theorem rustPanic_gcBlind (p : PanicPayload) : (rustPanic p : CM α).GcBlind :=
  fun _ _ _ _ _ => rfl
theorem processAbort_gcBlind : (processAbort s : CM α).GcBlind := fun _ _ _ _ _ => rfl
theorem vm_gcBlind : CM.vm.GcBlind := fun _ _ _ _ _ => rfl
theorem keys_gcBlind : CM.keys.GcBlind := fun _ _ _ _ _ => rfl

theorem luaGetmetatable_gcBlind : (luaGetmetatable i).GcBlind := fun c _ fr h b => by
  simp only [luaGetmetatable, metatableOf_setGc]
  split <;> rfl

theorem luaSetmetatable_gcBlind : (luaSetmetatable i).GcBlind := fun c _ fr h b => by
  simp only [luaSetmetatable]
  split <;> rfl

theorem luaTostring_gcBlind : (luaTostring i).GcBlind := fun c _ fr h b => by
  simp only [luaTostring]
  split <;> rfl

theorem luaCheckstack_gcBlind : (luaCheckstack i).GcBlind := fun _ _ _ _ _ => by
  simp only [luaCheckstack]
  split_ifs <;> rfl

theorem ptrWrite_gcBlind (p : Ptr) (x : Contents) : (ptrWrite p x).GcBlind := fun _ _ _ _ _ => by
  simp only [ptrWrite]
  split <;> rfl

theorem readWrappedError_gcBlind (p : Ptr) : (readWrappedError p).GcBlind := fun _ _ _ h _ => by
  simp only [readWrappedError, contentsAt_setGc]
  split <;> rfl

theorem takeWrappedPanic_gcBlind (p : Ptr) : (takeWrappedPanic p).GcBlind := fun _ _ _ h _ => by
  simp only [takeWrappedPanic, contentsAt_setGc]
  split <;> rfl

theorem ptrRead_gcBlind (k : Wrapped) (p : Ptr) : (ptrRead k p).GcBlind := fun _ _ _ h _ => by
  simp only [ptrRead, contentsAt_setGc]
  split
  · split_ifs <;> rfl
  · rfl

theorem luaPcall_gcBlind : (luaPcall i j k).GcBlind := fun c hc fr h b => by
  simp only [luaPcall]
  rw [hc]
  cases c.call _ _ _ _ h <;> rfl

theorem luaCall_gcBlind : (luaCall i j).GcBlind := fun c hc fr h b => by
  simp only [luaCall]
  rw [hc]
  cases c.call _ _ _ _ h <;> rfl

theorem catchUnwind_gcBlind {m : CM α} (hm : m.GcBlind) : (catchUnwind m).GcBlind :=
  fun c hc fr h b => by
    simp only [catchUnwind]
    rw [hm c hc]
    cases m c fr h <;> rfl

theorem luaReplace_gcBlind : (luaReplace i).GcBlind :=
  (luaCopy_gcBlind _ _).bind fun _ => luaPop_gcBlind _

theorem luaLError_gcBlind : (luaLError s : CM α).GcBlind :=
  (luaPushstring_gcBlind _).bind fun _ => luaError_gcBlind

theorem luaLCheckstack_gcBlind : (luaLCheckstack i).GcBlind :=
  (luaCheckstack_gcBlind _).bind fun _ => .ite (luaLError_gcBlind _) (.pure _)

/-! What the closures handed to `gc_guard` are made of never jumps out. -/

theorem luaPushlstring_noJump : (luaPushlstring s).NoJump := fun _ _ _ => not_false
theorem luaLTraceback_noJump (msg : Option String) : (luaLTraceback msg).NoJump :=
  fun _ _ _ => not_false
theorem luaRemove_noJump : (luaRemove i).NoJump := fun _ _ _ => not_false
theorem luaNewuserdata_noJump : luaNewuserdata.NoJump := fun _ _ _ => not_false

theorem luaTostring_noJump : (luaTostring i).NoJump := fun c fr h => by
  simp only [luaTostring]
  split <;> exact not_false

theorem ptrWrite_noJump (p : Ptr) (x : Contents) : (ptrWrite p x).NoJump := fun _ _ _ => by
  cases p <;> exact not_false

end Api

/-! ## The helpers of `util.rs` -/

section Envelope

variable {α : Type}

theorem luaInternalPanic_gcBlind (msg : String) : (luaInternalPanic msg : CM α).GcBlind :=
  (luaSettop_gcBlind _).bind fun _ => rustPanic_gcBlind _

theorem luaInternalAssert_gcBlind (cond : Bool) (msg : String) :
    (luaInternalAssert cond msg).GcBlind :=
  .ite (.pure _) (luaInternalPanic_gcBlind _)

theorem luaInternalAbort_gcBlind (msg : String) : (luaInternalAbort msg : CM α).GcBlind :=
  processAbort_gcBlind _

theorem checkStackErr_gcBlind (n : Int) : (checkStackErr n).GcBlind :=
  (luaCheckstack_gcBlind _).bind fun _ => .ite (.pure _) (.pure _)

theorem getRegistryMetatable_gcBlind (key : Keys → Nat) : (getRegistryMetatable key).GcBlind :=
  keys_gcBlind.bind fun _ => (luaPushlightuserdata_gcBlind _).bind fun _ => luaRawget_gcBlind _

theorem isWrappedWith_gcBlind {getMetatable : CM Unit} (hg : getMetatable.GcBlind)
    (index : Int) : (isWrappedWith getMetatable index).GcBlind :=
  (luaTouserdata_gcBlind _).bind fun _ => .ite (.pure _) <|
    (luaGetmetatable_gcBlind _).bind fun _ => .ite (.pure _) <| hg.bind fun _ =>
      (luaRawequal_gcBlind _ _).bind fun _ => (luaPop_gcBlind _).bind fun _ => .pure _

theorem isWrappedError_gcBlind (index : Int) : (isWrappedError index).GcBlind :=
  isWrappedWith_gcBlind (getRegistryMetatable_gcBlind _) _

theorem isWrappedPanic_gcBlind (index : Int) : (isWrappedPanic index).GcBlind :=
  isWrappedWith_gcBlind (getRegistryMetatable_gcBlind _) _

theorem pushWrapped_gcBlind (x : Contents) {getMetatable : CM Unit}
    (hg : getMetatable.GcBlind) : (pushWrapped x getMetatable).GcBlind :=
  (gcGuard_gcBlind (luaNewuserdata_gcBlind.bind fun _ => ptrWrite_gcBlind _ _)
      (luaNewuserdata_noJump.bind fun _ => ptrWrite_noJump _ _)).bind fun _ =>
    hg.bind fun _ => luaSetmetatable_gcBlind _

theorem pushWrappedError_gcBlind (err : Error) : (pushWrappedError err).GcBlind :=
  pushWrapped_gcBlind _ (getRegistryMetatable_gcBlind _)

theorem pushWrappedPanic_gcBlind (p : PanicPayload) : (pushWrappedPanic p).GcBlind :=
  pushWrapped_gcBlind _ (getRegistryMetatable_gcBlind _)

theorem getUserdata_gcBlind (index : Int) : (getUserdata index).GcBlind :=
  (luaTouserdata_gcBlind _).bind fun
    | some _ => .pure _
    | none => luaInternalPanic_gcBlind _

theorem popWrappedError_gcBlind : popWrappedError.GcBlind :=
  (isWrappedError_gcBlind _).bind fun _ => .ite (.pure _) <|
    (getUserdata_gcBlind _).bind fun _ => (readWrappedError_gcBlind _).bind fun _ =>
      (luaPop_gcBlind _).bind fun _ => .pure _

theorem errorFromCode_gcBlind (errCode : Int) (errString : String) :
    (errorFromCode errCode errString).GcBlind :=
  .ite (.pure _) <| .ite (.pure _) <| .ite (.pure _) <| .ite (luaInternalAbort_gcBlind _) <|
    .ite (.pure _) (luaInternalPanic_gcBlind _)

theorem resumeWrappedPanic_gcBlind : resumeWrappedPanic.GcBlind :=
  (getUserdata_gcBlind _).bind fun _ => (takeWrappedPanic_gcBlind _).bind fun
    | some _ => (luaSettop_gcBlind _).bind fun _ => rustPanic_gcBlind _
    | none => luaInternalPanic_gcBlind _

/-- The closure `pop_error` hands to `gc_guard`. -/
theorem errorFromValue_gcBlind (errCode : Int) : (errorFromValue errCode).GcBlind := by
  refine .bind (gcGuard_gcBlind ?_ ?_) fun _ =>
    (luaPop_gcBlind _).bind fun _ => errorFromCode_gcBlind _ _
  · exact (luaTostring_gcBlind _).bind fun | some _ => .pure _ | none => .pure _
  · exact (luaTostring_noJump _).bind fun | some _ => .pure _ | none => .pure _

theorem popError_gcBlind (errCode : Int) : (popError errCode).GcBlind :=
  (luaInternalAssert_gcBlind _ _).bind fun _ => popWrappedError_gcBlind.bind fun
    | some _ => .pure _
    | none => (isWrappedPanic_gcBlind _).bind fun _ =>
      .ite resumeWrappedPanic_gcBlind (errorFromValue_gcBlind _)

theorem takeUserdata_gcBlind (k : Wrapped) : (takeUserdata k).GcBlind :=
  (getRegistryMetatable_gcBlind _).bind fun _ => (luaSetmetatable_gcBlind _).bind fun _ =>
    (luaTouserdata_gcBlind _).bind fun
      | none => luaInternalPanic_gcBlind _
      | some _ => (luaPop_gcBlind _).bind fun _ => ptrRead_gcBlind _ _

theorem stackErrGuard_gcBlind (change : Int) {op : CM (Except Error α)} (hop : op.GcBlind) :
    (stackErrGuard change op).GcBlind :=
  luaGettop_gcBlind.bind fun _ => (luaInternalAssert_gcBlind _ _).bind fun _ =>
    hop.bind fun _ => luaGettop_gcBlind.bind fun _ =>
      .ite (luaGettop_gcBlind.bind fun _ => (luaInternalAssert_gcBlind _ _).bind fun _ => .pure _)
        ((luaInternalAssert_gcBlind _ _).bind fun _ =>
          .ite ((luaSettop_gcBlind _).bind fun _ => .pure _)
            ((CM.GcBlind.pure _).bind fun _ => .pure _))

end Envelope

/-! ## The C functions -/

section CFunctions

variable {α : Type}

theorem callbackError_gcBlind {f : CM (Except Error α)} (hf : f.GcBlind) :
    (callbackError f).GcBlind :=
  (catchUnwind_gcBlind hf).bind fun
    | .ok (.ok _) => .pure _
    | .ok (.error _) => (luaSettop_gcBlind _).bind fun _ => (luaLCheckstack_gcBlind _).bind fun _ =>
      (pushWrappedError_gcBlind _).bind fun _ => luaError_gcBlind
    | .error _ =>
      have raise := (pushWrappedPanic_gcBlind _).bind fun _ => luaError_gcBlind
      (luaSettop_gcBlind _).bind fun _ => (luaCheckstack_gcBlind _).bind fun _ =>
        .ite ((luaInternalAbort_gcBlind _).bind fun _ => raise)
          ((CM.GcBlind.pure _).bind fun _ => raise)

theorem rustCallbackError_gcBlind {f : CM (Except Error Int)} (hf : f.GcBlind) :
    (rustCallbackError f).GcBlind := by
  refine (catchUnwind_gcBlind hf).bind fun _ => ?_
  split
  · exact .pure _
  · exact .pure _
  · exact (luaSettop_gcBlind _).bind fun _ => (luaCheckstack_gcBlind _).bind fun _ =>
      .ite (.pure _) ((pushWrappedError_gcBlind _).bind fun _ => .pure _)
  · exact (luaSettop_gcBlind _).bind fun _ => (luaCheckstack_gcBlind _).bind fun _ =>
      .ite (luaInternalAbort_gcBlind _) ((pushWrappedPanic_gcBlind _).bind fun _ => .pure _)

theorem rcallShim_gcBlind {f : CM Int} (hf : f.GcBlind) : (rcallShim f).GcBlind :=
  hf.bind fun _ => .ite luaError_gcBlind (.ite (fun _ _ _ _ _ => rfl) (.pure _))

theorem userdataDestructor_gcBlind (k : Wrapped) : (userdataDestructor k).GcBlind :=
  callbackError_gcBlind ((takeUserdata_gcBlind k).bind fun _ => .pure _)

/-- `error_tostring` hands `lua_pushlstring` to `gc_guard`. -/
theorem errorTostring_gcBlind : errorTostring.GcBlind :=
  rustCallbackError_gcBlind <| (checkStackErr_gcBlind _).bind fun
    | .error _ => .pure _
    | .ok () => (isWrappedError_gcBlind _).bind fun _ => .ite
      ((getUserdata_gcBlind _).bind fun _ => vm_gcBlind.bind fun _ =>
        (readWrappedError_gcBlind _).bind fun _ =>
        (gcGuard_gcBlind (luaPushlstring_gcBlind _) (luaPushlstring_noJump _)).bind fun _ =>
        (luaRemove_gcBlind _).bind fun _ => .pure _)
      (rustPanic_gcBlind _)

theorem destructedError_gcBlind : destructedError.GcBlind := rustCallbackError_gcBlind (.pure _)

/-- `error_traceback` hands `luaL_traceback` to `gc_guard`. -/
theorem captureTraceback_gcBlind : captureTraceback.GcBlind :=
  (luaCheckstack_gcBlind _).bind fun _ => .ite
    ((gcGuard_gcBlind (luaLTraceback_gcBlind _) (luaLTraceback_noJump _)).bind fun _ =>
      (luaTostring_gcBlind _).bind fun _ => (luaPop_gcBlind _).bind fun _ => .pure _)
    (.pure _)

theorem wrapCallbackError_gcBlind : wrapCallbackError.GcBlind :=
  captureTraceback_gcBlind.bind fun _ => popWrappedError_gcBlind.bind fun
    | some _ => pushWrappedError_gcBlind _
    | none => rustPanic_gcBlind _

/-- `error_traceback` hands the conversion of a plain error to `gc_guard`. -/
theorem tracebackLuaError_gcBlind : tracebackLuaError.GcBlind := by
  refine (luaCheckstack_gcBlind _).bind fun _ => .ite (gcGuard_gcBlind ?_ ?_) (.pure _)
  · exact (luaTostring_gcBlind _).bind fun _ => (luaLTraceback_gcBlind _).bind fun _ =>
      luaRemove_gcBlind _
  · exact (luaTostring_noJump _).bind fun _ => (luaLTraceback_noJump _).bind fun _ =>
      luaRemove_noJump _

theorem errorTraceback_gcBlind : errorTraceback.GcBlind :=
  have done : ∀ {m : CM Unit}, m.GcBlind → (m >>= fun _ => (Pure.pure 1 : CM Int)).GcBlind :=
    fun hm => hm.bind fun _ => .pure _
  (luaCheckstack_gcBlind _).bind fun _ => .ite (done (.pure _)) <|
    (isWrappedError_gcBlind _).bind fun _ => .ite (done wrapCallbackError_gcBlind) <|
      (isWrappedPanic_gcBlind _).bind fun _ =>
        .ite (done tracebackLuaError_gcBlind) (done (.pure _))

/-- How `safe_pcall` and `safe_xpcall` end a failed call. -/
theorem pcallFailed_gcBlind :
    (isWrappedPanic (-1) >>= fun b =>
      let k := fun (_ : PUnit) => (do luaPushboolean 0; luaInsert (-2); pure 2 : CM Int)
      if b = true then luaError >>= k else pure PUnit.unit >>= k).GcBlind :=
  have k := (luaPushboolean_gcBlind _).bind fun _ => (luaInsert_gcBlind _).bind fun _ => .pure _
  (isWrappedPanic_gcBlind _).bind fun _ => .ite (luaError_gcBlind.bind fun _ => k)
    ((CM.GcBlind.pure _).bind fun _ => k)

theorem safePcall_gcBlind : safePcall.GcBlind :=
  (luaLCheckstack_gcBlind _).bind fun _ => luaGettop_gcBlind.bind fun _ =>
    .ite ((luaPushstring_gcBlind _).bind fun _ => luaError_gcBlind) <|
      (luaPcall_gcBlind _ _ _).bind fun _ => .ite pcallFailed_gcBlind <|
        (luaPushboolean_gcBlind _).bind fun _ => (luaInsert_gcBlind _).bind fun _ =>
          luaGettop_gcBlind

theorem xpcallMsgh_gcBlind : xpcallMsgh.GcBlind :=
  (luaLCheckstack_gcBlind _).bind fun _ => (isWrappedPanic_gcBlind _).bind fun _ =>
    .ite (.pure _) <| (luaPushvalue_gcBlind _).bind fun _ => (luaInsert_gcBlind _).bind fun _ =>
      luaGettop_gcBlind.bind fun _ => (luaCall_gcBlind _ _).bind fun _ => luaGettop_gcBlind

theorem safeXpcall_gcBlind : safeXpcall.GcBlind :=
  have k := (luaPushvalue_gcBlind _).bind fun _ => (luaPushcclosure_gcBlind _ _).bind fun _ =>
    (luaCopy_gcBlind _ _).bind fun _ => (luaReplace_gcBlind _).bind fun _ =>
    luaGettop_gcBlind.bind fun _ => (luaPcall_gcBlind _ _ _).bind fun _ =>
    .ite pcallFailed_gcBlind <| (luaPushboolean_gcBlind _).bind fun _ =>
      (luaInsert_gcBlind _).bind fun _ => luaGettop_gcBlind.bind fun _ => .pure _
  (luaLCheckstack_gcBlind _).bind fun _ => luaGettop_gcBlind.bind fun _ =>
    .ite ((luaPushstring_gcBlind _).bind fun _ => luaError_gcBlind.bind fun _ => k)
      ((CM.GcBlind.pure _).bind fun _ => k)

theorem cfunctionBody_gcBlind : ∀ fn : CFn, (cfunctionBody fn).GcBlind
  | .safePcall => safePcall_gcBlind
  | .safeXpcall => safeXpcall_gcBlind
  | .xpcallMsgh => xpcallMsgh_gcBlind
  | .errorTraceback => errorTraceback_gcBlind
  | .userdataDestructor k => userdataDestructor_gcBlind k
  | .errorTostring => rcallShim_gcBlind errorTostring_gcBlind
  | .destructedError => rcallShim_gcBlind destructedError_gcBlind

end CFunctions

/-! ## The host side -/

section Host

theorem pushValue_gcBlind (v : Value) : (pushValue v).GcBlind := fun _ _ _ _ _ => rfl

theorem pushValues_gcBlind : ∀ vs : List Value, (pushValues vs).GcBlind
  | [] => .pure _
  | _ :: vs => (pushValue_gcBlind _).bind fun _ => pushValues_gcBlind vs

theorem popValuesAbove_gcBlind (k : Int) : (popValuesAbove k).GcBlind := fun _ _ _ _ _ => rfl

theorem hostPcall_gcBlind (f : Value) (args : List Value) : (hostPcall f args).GcBlind :=
  stackErrGuard_gcBlind _ <| (checkStackErr_gcBlind _).bind fun
    | .error _ => .pure _
    | .ok () => (luaPushcfunction_gcBlind _).bind fun _ => luaGettop_gcBlind.bind fun _ =>
      (pushValue_gcBlind _).bind fun _ => (pushValues_gcBlind _).bind fun _ =>
      (luaPcall_gcBlind _ _ _).bind fun _ =>
      .ite ((popError_gcBlind _).bind fun _ => .pure _)
        ((popValuesAbove_gcBlind _).bind fun _ => (luaPop_gcBlind _).bind fun _ => .pure _)

theorem runHost_gcBlind (host : Host) : (runHost host).GcBlind := by
  induction host with
  | ok => exact .pure _
  | fail => exact .pure _
  | panic => exact rustPanic_gcBlind _
  | call f args next onErr ihn ihe =>
    rw [runHost]
    exact (hostPcall_gcBlind f args).bind fun | .ok rs => ihn rs | .error e => ihe e

theorem callbackBody_gcBlind (host : List Value → Host) : (callbackBody host).GcBlind :=
  (popValuesAbove_gcBlind _).bind fun _ => (runHost_gcBlind _).bind fun
    | .error _ => .pure _
    | .ok _ => (checkStackErr_gcBlind _).bind fun
      | .error _ => .pure _
      | .ok () => (pushValues_gcBlind _).bind fun _ => .pure _

end Host

/-! ## The interpreter -/

section Interp

variable (E : Env) {call : Caller}

theorem CM.GcBlind.toOutcome {m : CM Int} (hm : m.GcBlind) {c : Ctx} (hc : c.call.GcBlind)
    (fr : Frame) (h : Heap) (b : Bool) :
    (m c fr { h with gcRunning := b }).toOutcome = (m c fr h).toOutcome.withGc b := by
  rw [hm c hc, Res.toOutcome_withGc]

theorem runScript_gcBlind (hc : call.GcBlind) (s : Script) : ∀ regs base h b,
    runScript call s regs base { h with gcRunning := b } =
      (runScript call s regs base h).withGc b := by
  induction s with
  | ret es => intros; rfl
  | raise e => intros; rfl
  | call f args next ih =>
    intro regs base h b
    simp only [runScript]
    rw [hc]
    cases call none _ _ _ h with
    | ret rs h' => exact ih _ _ _ _
    | _ => rfl
  | cond e t f iht ihf =>
    intro regs base h b
    simp only [runScript]
    split
    · exact iht _ _ _ _
    · exact ihf _ _ _ _

theorem invoke_gcBlind (hc : call.GcBlind) (f : Value) (args : List Value) (base : Nat)
    (h : Heap) (b : Bool) :
    invoke E call f args base { h with gcRunning := b } =
      (invoke E call f args base h).withGc b := by
  cases f with
  | cfunction fn => exact (cfunctionBody_gcBlind fn).toOutcome hc _ h b
  | cclosure fn u => exact (cfunctionBody_gcBlind fn).toOutcome hc _ h b
  | callback id => exact (callbackError_gcBlind (callbackBody_gcBlind _)).toOutcome hc _ h b
  | lfunction id => exact runScript_gcBlind hc _ _ _ _ _
  | _ => rfl

theorem handle_withGc (hc : call.GcBlind) (handler : Option Value) (base : Nat) (o : Outcome)
    (b : Bool) : handle call handler base (o.withGc b) = (handle call handler base o).withGc b := by
  cases o with
  | error v h =>
    cases handler with
    | none => rfl
    | some m =>
      simp only [Outcome.withGc, handle]
      rw [hc]
      cases call (some m) m [v] base h <;> rfl
  | _ => rfl

/-- The interpreter is blind to the flag, to any depth of nested calls. -/
theorem callFn_gcBlind : ∀ n, (callFn E n).GcBlind
  | 0 => fun _ _ _ _ _ _ => rfl
  | n + 1 => fun handler f args base h b => by
    rw [callFn_succ, callFn_succ, invoke_gcBlind E (callFn_gcBlind n),
      handle_withGc (callFn_gcBlind n)]

end Interp

/-- **The collector is never left stopped.** Over every run of the interpreter, to any depth of
nested calls, and over every protected call the host makes from a C function it runs: the run
does the same whatever the collector's flag, and when it ends in the running thread (returning,
raising or panicking) the flag is the one it started with. So every `gc_guard` the bridge runs,
around `lua_tostring`, `lua_pushlstring`, `luaL_traceback` and the allocation of an envelope,
restarts the collector it stopped. -/
theorem collector_flag_restored (E : Env) (n : Nat) :
    (∀ handler f args base h b,
      callFn E n handler f args base { h with gcRunning := b } =
        (callFn E n handler f args base h).withGc b) ∧
    (∀ handler f args base h h', (callFn E n handler f args base h).heap? = some h' →
      h'.gcRunning = h.gcRunning) ∧
    (∀ f args ups fr h b,
      hostPcall f args (E.ctx ups (callFn E n)) fr { h with gcRunning := b } =
        (hostPcall f args (E.ctx ups (callFn E n)) fr h).withGc b) ∧
    (∀ f args ups fr h h', (hostPcall f args (E.ctx ups (callFn E n)) fr h).heap? = some h' →
      h'.gcRunning = h.gcRunning) := by
  have hc := callFn_gcBlind E n
  refine ⟨hc, fun handler f args base h _ hh => ?_, fun f args ups => hostPcall_gcBlind f args
    (E.ctx ups (callFn E n)) hc, fun f args ups fr h _ hh => ?_⟩
  · exact Outcome.heap?_gcRunning (hc.apply_self handler f args base h) hh
  · exact Res.heap?_gcRunning ((hostPcall_gcBlind f args).apply_self (c := E.ctx ups _) hc fr h) hh

/-- A state whose one script raises a string. -/
def stringErrorEnv : Env :=
  ⟨sampleVm, fun _ => .raise (.lit (.string "boom")), fun _ _ => .ok []⟩

/-- The host's protected call of that script with the collector running: `error_traceback` and
`pop_error` each stop and restart it, and the call ends with it running. -/
theorem collector_flag_restored_sample :
    ∃ h', (hostPcall (.lfunction 0) [] (stringErrorEnv.ctx [] (callFn stringErrorEnv 2))
      freshFrame ⟨[], true⟩).heap? = some h' ∧ h'.gcRunning = true :=
  have hh : (hostPcall (.lfunction 0) [] (stringErrorEnv.ctx [] (callFn stringErrorEnv 2))
      freshFrame ⟨[], true⟩).heap? = some ⟨[], true⟩ := rfl
  ⟨_, hh, (collector_flag_restored stringErrorEnv 2).2.2.2 _ _ _ _ _ _ hh⟩

end Rlua
