import Rlua.Util.ProtectedCall
import Rlua.Util.Guard
import Rlua.Util.Init

/-!
# The runtime around `util.rs`: scripts, host closures and nested calls

`util.rs` never runs Lua code of its own: its C functions call back into Lua through
`lua_pcall` and `lua_call`, and the binding's host closures call Lua functions through
protected calls of their own. `Ctx.call` stands for all of that. This module closes the loop
with an interpreter, so that a run can go from the host into scripts, through the protected
calls of `util.rs`, into host closures and back, to any depth:

* `Script`, a Lua function body reduced to what matters for errors: call a value and go on
  with its results, return values, raise a value, branch on a value;
* `Host`, a Rust closure of the binding as a tree: return values, return `Err`, panic, or call
  a Lua function in a protected call and go on with its results or with its `Error`;
* `hostPcall`, the binding's protected call of a Lua function (`Function::call`), with
  `error_traceback` as message handler and `pop_error` on failure, and `callbackBody`, the
  function the binding runs through `callback_error` for a host closure;
* `callFn`, the interpreter: with fuel `n`, it runs a C function of `util.rs` with
  `cfunctionBody`, a host closure behind `callback_error`, or a script, and applies the
  message handler of the enclosing protected call to an error where it is raised, as
  `luaG_errormsg` does.

The state's tables are those `init_error_metatables` leaves (`Env.ctx`), so every context the
interpreter builds is initialised.

Scope: Lua 5.3 counts nested C calls and raises a catchable "C stack overflow" error at
`LUAI_MAXCCALLS` (200) of them; the interpreter has no such count, and where Lua would raise
that error it nests on until its fuel runs out. The results built on it that hold "at every
depth" or "to any depth" therefore describe Lua only for runs that nest fewer than 200 C
calls. For the same reason, an error raised inside a message handler goes to the same handler
again, as in Lua 5.3, and where Lua stops that at its C-stack limit with `LUA_ERRERR`, the
interpreter runs out of fuel.
Scripts do not read or write tables, and host closures see only values and `Error`s. The
functions of `lua.rs` and `function.rs` the binding runs (`Function::call`,
`callback_call_impl`) are not in the excerpt: the spec says only that they go through
`check_stack_err`, `stack_err_guard`, `callback_error` and `pop_error`. The steps below, with
their stack checks and their message handler, follow `function.rs` and `lua.rs` of the rlua
release this `util.rs` comes from.
-/

namespace Rlua

/-! ## Scripts -/

/-- An operand of a script: a constant or one of its registers. -/
inductive Expr where
  | lit (v : Value)
  | reg (i : Nat)
  deriving DecidableEq, Repr

/-- The value of an operand; a register not yet set reads `nil`. -/
def Expr.eval (regs : List Value) : Expr → Value
  | .lit v => v
  | .reg i => regs.getD i .nil

/-- Lua's truth test: everything but `nil` and `false`. -/
def Value.truthy : Value → Bool
  | .nil | .boolean false => false
  | _ => true

/-- A Lua function body. Its registers start as its arguments, and each call appends its
results. -/
inductive Script where
  | ret (es : List Expr)
  | raise (e : Expr)
  | call (f : Expr) (args : List Expr) (next : Script)
  | cond (e : Expr) (t f : Script)
  deriving DecidableEq, Repr

/-- A script body run with `call` for its calls; a callee's frame starts above the
registers. A call that does not return ends the body the same way. -/
def runScript (call : Caller) : Script → List Value → Nat → Heap → Outcome
  | .ret es, regs, _, h => .ret (es.map (·.eval regs)) h
  | .raise e, regs, _, h => .error (e.eval regs) h
  | .call f args next, regs, base, h =>
    match call none (f.eval regs) (args.map (·.eval regs)) (base + regs.length + 1) h with
    | .ret rs h' => runScript call next (regs ++ rs) base h'
    | o => o
  | .cond e t f, regs, base, h =>
    if (e.eval regs).truthy then runScript call t regs base h else runScript call f regs base h

/-! ## Host closures -/

/-- A Rust closure of the binding, as the tree of what it does: `util.rs` sees only its
results, its `Err` and its panics, and the Lua functions it calls. -/
inductive Host where
  | ok (results : List Value)
  | fail (e : Error)
  | panic (p : PanicPayload)
  | call (f : Value) (args : List Value) (next : List Value → Host) (onErr : Error → Host)

/-- `lua.push_value`: pushes one value. -/
def pushValue (v : Value) : CM Unit := fun _ fr h => .ok () (fr.push v) h

/-- Pushes the values in order. -/
def pushValues : List Value → CM Unit
  | [] => pure ()
  | v :: vs => do
    pushValue v
    pushValues vs

/-- Pops the values above position `k`, bottom first (the loop of `lua.pop_value` calls). -/
def popValuesAbove (k : Int) : CM (List Value) := fun _ fr h =>
  .ok (fr.slots.drop k.toNat) (fr.withSlots (fr.slots.take k.toNat)) h

/-- The closure `Function::call` runs inside its stack guard. -/
def hostCallBody (f : Value) (args : List Value) : CM (Except Error (List Value)) := do
  match ← checkStackErr (args.length + 3) with
  | .error e => pure (.error e)
  | .ok () =>
    luaPushcfunction .errorTraceback
    let stackStart ← luaGettop
    pushValue f
    pushValues args
    let ret ← luaPcall args.length luaMultret stackStart
    if ret ≠ luaOk then
      pure (.error (← popError ret))
    else
      let results ← popValuesAbove stackStart
      luaPop 1
      pure (.ok results)

/-- `Function::call` (`function.rs`, not in the excerpt). The spec names only the helpers it
uses; the steps are those of `function.rs` in the rlua release of this `util.rs`: inside
`stack_err_guard` with no net change, after `check_stack_err(nargs + 3)` for the function, its
arguments and the handler, the host pushes `error_traceback`, the function and the
arguments, and makes a protected call with `error_traceback` as message handler. A failure
is popped with `pop_error`; results are popped, then the handler. -/
def hostPcall (f : Value) (args : List Value) : CM (Except Error (List Value)) :=
  stackErrGuard 0 (hostCallBody f args)

/-- A host closure run: a protected call goes on with its results or its `Error`; a panic
unwinds. -/
def runHost : Host → CM (Except Error (List Value))
  | .ok results => pure (.ok results)
  | .fail e => pure (.error e)
  | .panic p => rustPanic p
  | .call f args next onErr => do
    match ← hostPcall f args with
    | .ok rs => runHost (next rs)
    | .error e => runHost (onErr e)

/-- The body `callback_error` runs for a host closure (`callback_call_impl` of `lua.rs`, not
in the excerpt). The spec says only that `callback_error` wraps the closure; the steps are those
of `lua.rs` in the rlua release of this `util.rs`: the arguments are popped, the closure runs,
and its results are pushed after `check_stack_err` for them. -/
def callbackBody (host : List Value → Host) : CM (Except Error Int) := do
  let args ← popValuesAbove 0
  match ← runHost (host args) with
  | .error e => pure (.error e)
  | .ok results =>
    match ← checkStackErr results.length with
    | .error e => pure (.error e)
    | .ok () =>
      pushValues results
      pure (.ok results.length)

/-! ## Runs of the host side -/

section HostSide

variable {c : Ctx} {fr : Frame} {h : Heap}

/-- Pushing values puts them on top, in order, reaching as high as their number. -/
theorem pushValues_apply (vs : List Value) (c : Ctx) (fr : Frame) (h : Heap) :
    ∃ fr', pushValues vs c fr h = .ok () fr' h ∧ fr'.slots = fr.slots ++ vs ∧
      fr.Reach vs.length fr' := by
  induction vs generalizing fr with
  | nil => exact ⟨fr, rfl, by simp, .refl fr 0⟩
  | cons v vs ih =>
    obtain ⟨fr', he, hs, hr⟩ := ih (fr.push v)
    refine ⟨fr', by simp [pushValues, pushValue, he], by simp [hs], ?_⟩
    exact ((Frame.Reach.push fr v).mono (Nat.le_add_left 1 vs.length)).trans hr (by simp; omega)

/-- Past its stack check, the host's call pushes `error_traceback`, the callee and the
arguments, calls the callee with exactly those arguments and `error_traceback` as handler, and
goes on according to how the call ended. -/
theorem hostCallBody_eq_of_fits {f : Value} {args : List Value}
    (hfit : fr.top + (args.length + 3) ≤ fr.ciTop) :
    ∃ fr3 : Frame, fr3.slots = (fr.slots ++ [.cfunction .errorTraceback]) ++ f :: args ∧
      fr.Reach (args.length + 2) fr3 ∧
      hostCallBody f args c fr h =
        match c.call (some (.cfunction .errorTraceback)) f args (fr.base + fr.top + 2) h with
        | .ret rs h' => (do
            let results ← popValuesAbove (fr.top + 1)
            luaPop 1
            pure (.ok results) : CM (Except Error (List Value))) c
              (fr3.afterCall (fr.slots ++ [.cfunction .errorTraceback]) rs) h'
        | .error v h' => (do pure (.error (← popError luaErrRun)) : CM (Except Error (List Value)))
            c (fr3.afterCall (fr.slots ++ [.cfunction .errorTraceback]) [v]) h'
        | .panic q h' => .unwind q (fr3.withSlots (fr.slots ++ [.cfunction .errorTraceback])) h'
        | .abort msg => .abort msg
        | .stuck => .stuck := by
  have hc1 : luaCheckstack ((args.length : Int) + 3) c fr h = .ok 1 fr h := by
    simpa using luaCheckstack_of_fits (n := args.length + 3) hfit
  obtain ⟨fr3, hp, hs3, hr3⟩ :=
    pushValues_apply args c ((fr.push (.cfunction .errorTraceback)).push f) h
  have r1 : fr.Reach (args.length + 2) (fr.push (.cfunction .errorTraceback)) :=
    (Frame.Reach.push _ _).mono (by omega)
  have r2 : (fr.push (.cfunction .errorTraceback)).Reach (args.length + 1)
      ((fr.push (.cfunction .errorTraceback)).push f) := (Frame.Reach.push _ _).mono (by omega)
  have hr : fr.Reach (args.length + 2) fr3 :=
    r1.trans (r2.trans hr3 (by simp; omega)) (by simp; omega)
  have hs : fr3.slots = (fr.slots ++ [.cfunction .errorTraceback]) ++ f :: args := by simp [hs3]
  have hsite : fr3.callSite args.length = (fr.slots ++ [.cfunction .errorTraceback], f, args) :=
    Frame.callSite_of_slots hs
  have hh : indexValue c fr3 ((fr.top : Int) + 1) = .cfunction .errorTraceback := by
    rw [indexValue_of_pos c fr3 (by omega)]
    simp [hs, Frame.top, List.getD_eq_getElem?_getD, List.getElem_append_right]
  have hb : fr3.base = fr.base := hr.base
  refine ⟨fr3, hs, hr, ?_⟩
  have h0 : ¬ ((fr.slots.length : Int) + 1 = 0) := by omega
  have hbase : fr.base + (fr.slots.length + 1) + 1 = fr.base + fr.slots.length + 2 := by omega
  simp only [Frame.top] at hh ⊢
  rcases hcall : c.call (some (.cfunction .errorTraceback)) f args
      (fr.base + fr.slots.length + 2) h with ⟨rs, h'⟩ | ⟨v, h'⟩ | ⟨q, h'⟩ | msg | _ <;>
    simp [hostCallBody, checkStackErr, hc1, pushValue, hp, luaPcall, hsite, hh, h0, hb, hbase,
      Frame.top, hcall, luaErrRun, luaOk, adjustResults]

/-- Where `lua_checkstack` can find room for the call, the host's call only grows its frame
there: it runs as on the grown frame, where the call fits. -/
theorem hostCallBody_of_room {f : Value} {args : List Value}
    (hr : fr.HasRoom c.vm (args.length + 3)) :
    ∃ fr1, fr.Grows fr1 ∧ fr1.top + (args.length + 3) ≤ fr1.ciTop ∧
      hostCallBody f args c fr h = hostCallBody f args c fr1 h := by
  obtain ⟨fr1, hc1, hg, hfit⟩ := luaCheckstack_of_room (h := h) hr
  have hc1' : luaCheckstack ((args.length : Int) + 3) c fr h = .ok 1 fr1 h := by simpa using hc1
  have hc2 : luaCheckstack ((args.length : Int) + 3) c fr1 h = .ok 1 fr1 h := by
    simpa using luaCheckstack_of_fits (c := c) (h := h) hfit
  exact ⟨fr1, hg, hfit, by simp only [hostCallBody, checkStackErr, CM.bind_apply, hc1', hc2]⟩

/-- The host's call wherever `lua_checkstack` finds room for it: on the frame grown to fit, it
pushes `error_traceback`, the callee and the arguments, calls the callee with `error_traceback`
as handler, and goes on according to how the call ended. -/
theorem hostCallBody_eq {f : Value} {args : List Value}
    (hr : fr.HasRoom c.vm (args.length + 3)) :
    ∃ fr1 fr3 : Frame, fr.Grows fr1 ∧
      fr3.slots = (fr.slots ++ [.cfunction .errorTraceback]) ++ f :: args ∧
      fr1.Reach (args.length + 2) fr3 ∧
      hostCallBody f args c fr h =
        match c.call (some (.cfunction .errorTraceback)) f args (fr.base + fr.top + 2) h with
        | .ret rs h' => (do
            let results ← popValuesAbove (fr.top + 1)
            luaPop 1
            pure (.ok results) : CM (Except Error (List Value))) c
              (fr3.afterCall (fr.slots ++ [.cfunction .errorTraceback]) rs) h'
        | .error v h' => (do pure (.error (← popError luaErrRun)) : CM (Except Error (List Value)))
            c (fr3.afterCall (fr.slots ++ [.cfunction .errorTraceback]) [v]) h'
        | .panic q h' => .unwind q (fr3.withSlots (fr.slots ++ [.cfunction .errorTraceback])) h'
        | .abort msg => .abort msg
        | .stuck => .stuck := by
  obtain ⟨fr1, hg, hfit, heq⟩ := hostCallBody_of_room (f := f) (h := h) hr
  obtain ⟨fr3, hs3, hr3, he⟩ := hostCallBody_eq_of_fits (c := c) (h := h) (f := f) hfit
  have htop : fr1.top = fr.top := by simp only [Frame.top, hg.slots]
  refine ⟨fr1, fr3, hg, hg.slots ▸ hs3, hr3, ?_⟩
  rw [heq, he, htop, hg.slots, hg.base]

end HostSide

/-! ## The interpreter -/

/-- The program around the bridge: the state's parameters, the scripts' function bodies
(`Value.lfunction`) and the host closures (`Value.callback`). -/
structure Env where
  vm : Vm
  scripts : Nat → Script
  hosts : Nat → List Value → Host

/-- The context of a C function run by the interpreter: the tables after
`init_error_metatables`, the function's upvalues, and `call` for its nested calls. -/
def Env.ctx (E : Env) (upvalues : List Value) (call : Caller) : Ctx :=
  ⟨E.vm, initTables E.vm, upvalues, call⟩

theorem Env.ctx_initialised (E : Env) (upvalues : List Value) (call : Caller) :
    (E.ctx upvalues call).Initialised := by
  simp only [Ctx.Initialised, Env.ctx]

/-- One call of a value with `call` for the calls it makes. A value that is no function is
Lua's "attempt to call" error. -/
def invoke (E : Env) (call : Caller) : Value → List Value → Nat → Heap → Outcome
  | .cfunction fn, args, base, h =>
    (cfunctionBody fn (E.ctx [] call) (Frame.entry base args) h).toOutcome
  | .cclosure fn u, args, base, h =>
    (cfunctionBody fn (E.ctx [u] call) (Frame.entry base args) h).toOutcome
  | .callback id, args, base, h =>
    (callbackError (callbackBody (E.hosts id)) (E.ctx [] call) (Frame.entry base args) h).toOutcome
  | .lfunction id, args, base, h => runScript call (E.scripts id) args base h
  | v, _, _, h => .error (.string ("attempt to call a " ++ v.typeName ++ " value")) h

/-- The message handler of the enclosing protected call applied to an error where it is
raised (`luaG_errormsg`): the error becomes the handler's first result. The handler runs with
itself as handler. -/
def handle (call : Caller) (handler : Option Value) (base : Nat) : Outcome → Outcome
  | .error v h =>
    match handler with
    | none => .error v h
    | some m =>
      match call (some m) m [v] base h with
      | .ret rs h' => .error (rs.headD .nil) h'
      | o => o
  | o => o

/-- The interpreter with `n` levels of calls left. It keeps no count of nested C calls: where
Lua raises "C stack overflow" at `LUAI_MAXCCALLS`, it nests on until `n` runs out. -/
def callFn (E : Env) : Nat → Caller
  | 0 => fun _ _ _ _ _ => .stuck
  | n + 1 => fun handler f args base h =>
    handle (callFn E n) handler base (invoke E (callFn E n) f args base h)

section Equations

variable (E : Env) (call : Caller) (handler : Option Value) (base : Nat)

@[simp] theorem callFn_zero (f : Value) (args : List Value) (h : Heap) :
    callFn E 0 handler f args base h = .stuck := rfl

theorem callFn_succ (n : Nat) (f : Value) (args : List Value) (h : Heap) :
    callFn E (n + 1) handler f args base h =
      handle (callFn E n) handler base (invoke E (callFn E n) f args base h) := rfl

@[simp] theorem handle_none (o : Outcome) : handle call none base o = o := by
  cases o <;> rfl

@[simp] theorem handle_ret (rs : List Value) (h : Heap) :
    handle call handler base (.ret rs h) = .ret rs h := rfl

theorem handle_of_halts {o : Outcome} (ho : o.Halts) : handle call handler base o = o := by
  cases o <;> simp_all [Outcome.Halts, handle]

theorem handle_some_error (m v : Value) (h : Heap) :
    handle call (some m) base (.error v h) =
      match call (some m) m [v] base h with
      | .ret rs h' => .error (rs.headD .nil) h'
      | o => o := rfl

end Equations

section ScriptSteps

variable {call : Caller} {fe : Expr} {aes : List Expr} {next : Script} {regs : List Value}
  {base : Nat} {h : Heap}

/-- A script's call that returns: the body goes on with the results after its registers. -/
theorem runScript_call_of_ret {rs : List Value} {h' : Heap}
    (he : call none (fe.eval regs) (aes.map (Expr.eval regs)) (base + regs.length + 1) h =
      .ret rs h') :
    runScript call (.call fe aes next) regs base h = runScript call next (regs ++ rs) base h' := by
  simp [runScript, he]

/-- A script's call that does not return ends the body the same way. -/
theorem runScript_call_of_not_ret {o : Outcome}
    (he : call none (fe.eval regs) (aes.map (Expr.eval regs)) (base + regs.length + 1) h = o)
    (ho : ∀ rs h', o ≠ .ret rs h') : runScript call (.call fe aes next) regs base h = o := by
  cases o <;> simp_all [runScript]

/-- A branch runs the body its condition selects. -/
theorem runScript_cond (e : Expr) (t f : Script) :
    runScript call (.cond e t f) regs base h =
      runScript call (if (e.eval regs).truthy then t else f) regs base h := by
  simp only [runScript]
  split <;> simp_all

end ScriptSteps

end Rlua
