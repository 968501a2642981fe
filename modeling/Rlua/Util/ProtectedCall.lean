import Rlua.Util.Callback

/-!
# The protected calls scripts see

`safe_pcall` and `safe_xpcall` replace Lua's `pcall` and `xpcall`. They run the callee in
`lua_pcall` and report an error to the script as `false` and the error value, as Lua's own
functions do, except for a `WrappedPanic`: that one is raised again with `lua_error`, so a
captured Rust panic goes on towards the host. `xpcall_msgh`, the message handler
`safe_xpcall` installs, hands a `WrappedPanic` through untouched and every other error to the
script's handler.

The lemmas run each function on the frame it is entered with, for each way the nested call
can end, and record which pushes went past the slots the API guarantees.

`cfunctionBody` collects the C functions of `util.rs`: it is what Lua runs when it calls one.
-/

namespace Rlua

/-! ## Protected calls for scripts -/

/-- `safe_pcall`: `pcall`, except that a `WrappedPanic` is raised again instead of being
returned to the script. -/
def safePcall : CM Int := do
  luaLCheckstack 2
  let top ← luaGettop
  if top = 0 then
    luaPushstring "not enough arguments to pcall"
    luaError
  else if (← luaPcall (top - 1) luaMultret 0) ≠ luaOk then
    if ← isWrappedPanic (-1) then luaError
    luaPushboolean 0
    luaInsert (-2)
    pure 2
  else
    luaPushboolean 1
    luaInsert 1
    luaGettop

/-- `xpcall_msgh`, the message handler `safe_xpcall` installs: a `WrappedPanic` passes
untouched, anything else goes to the script's handler, its upvalue. -/
def xpcallMsgh : CM Int := do
  luaLCheckstack 2
  if ← isWrappedPanic (-1) then
    pure 1
  else
    luaPushvalue (luaUpvalueindex 1)
    luaInsert 1
    luaCall ((← luaGettop) - 1) luaMultret
    luaGettop

/-- `safe_xpcall`: `xpcall`, with the script's handler behind `xpcall_msgh`. -/
def safeXpcall : CM Int := do
  luaLCheckstack 2
  let top ← luaGettop
  if top < 2 then
    luaPushstring "not enough arguments to xpcall"
    luaError
  luaPushvalue 2
  luaPushcclosure .xpcallMsgh 1
  luaCopy 1 2
  luaReplace 1
  let res ← luaPcall ((← luaGettop) - 2) luaMultret 1
  if res ≠ luaOk then
    if ← isWrappedPanic (-1) then luaError
    luaPushboolean 0
    luaInsert (-2)
    pure 2
  else
    luaPushboolean 1
    luaInsert 2
    pure ((← luaGettop) - 1)

/-! ## `safe_pcall` on its entry frame -/

section SafePcall

variable {c : Ctx} {base : Nat} {f : Value} {args : List Value} {h : Heap}

/-- Past its checks, `safe_pcall` calls the callee with exactly the values above it and no
message handler, and goes on according to how the call ended. -/
theorem safePcall_entry :
    safePcall c (Frame.entry base (f :: args)) h =
      match c.call none f args (base + 1) h with
      | .ret rs h' => (do luaPushboolean 1; luaInsert 1; luaGettop) c
          ((Frame.entry base (f :: args)).afterCall [] rs) h'
      | .error v h' => (do
          if ← isWrappedPanic (-1) then luaError
          luaPushboolean 0
          luaInsert (-2)
          pure 2) c ((Frame.entry base (f :: args)).afterCall [] [v]) h'
      | .panic p h' => .unwind p ((Frame.entry base (f :: args)).withSlots []) h'
      | .abort msg => .abort msg
      | .stuck => .stuck := by
  have hsite : (Frame.entry base (f :: args)).callSite args.length = ([], f, args) :=
    Frame.callSite_of_slots rfl
  have h0 : ¬ ((args.length : Int) + 1 = 0) := by omega
  rcases hc : c.call none f args (base + 1) h with ⟨rs, h'⟩ | ⟨v, h'⟩ | ⟨p, h'⟩ | msg | _ <;>
    simp [safePcall, luaLCheckstack_entry, h0, luaPcall, hsite, luaErrRun, luaOk, adjustResults, hc]

/-- Results: `true` goes below them. The push of `true` goes past the guaranteed slots
exactly when the callee returned at least 21 more values than it was given. -/
theorem safePcall_of_ret {rs : List Value} {h' : Heap}
    (hf : c.call none f args (base + 1) h = .ret rs h') :
    ∃ fr', safePcall c (Frame.entry base (f :: args)) h =
        .ok ((rs.length + 1 : Nat) : Int) fr' h' ∧
      fr'.slots = .boolean true :: rs ∧ (fr'.overrun = true ↔ args.length + 21 ≤ rs.length) := by
  have hs : (((Frame.entry base (f :: args)).afterCall [] rs).push (.boolean true)).slots =
      rs ++ [.boolean true] := by simp [Frame.afterCall]
  rw [safePcall_entry, hf]
  simp [Frame.pos, Frame.insert_of_slots hs]
  simp [Frame.push, Frame.afterCall, Frame.top, Frame.withSlots, luaMinStack]
  omega

/-- An error that is no `WrappedPanic`: `false` and the error value, pushed into guaranteed
slots. -/
theorem safePcall_of_error {v : Value} {h' : Heap}
    (hf : c.call none f args (base + 1) h = .error v h')
    (hv : hasMetatable h' v (registryMetatable c Keys.panic) = false) :
    ∃ fr', safePcall c (Frame.entry base (f :: args)) h = .ok 2 fr' h' ∧
      fr'.slots = [.boolean false, v] ∧ fr'.overrun = false := by
  let fr1 := (Frame.entry base (f :: args)).afterCall [] [v]
  obtain ⟨fr2, h2, hs2, hr2⟩ := isWrappedPanic_spec c fr1 h' (-1)
  have hs3 : (fr2.push (.boolean false)).slots = [v] ++ [.boolean false] := by
    simp [hs2, fr1, Frame.afterCall]
  have hpos : (fr2.push (.boolean false)).pos (-2) = 0 := by
    simp [Frame.pos, Frame.top, hs2, fr1, Frame.afterCall]
  have hr : fr1.Reach 2 ((fr2.push (.boolean false)).insert 0) :=
    hr2.trans ((Frame.Reach.push _ _).trans (.insert _ 0 0) (by simp [Frame.top]))
      (by simp [Frame.top, hs2])
  refine ⟨(fr2.push (.boolean false)).insert 0, ?_, by simp [Frame.insert_of_slots hs3],
    Bool.eq_false_iff.mpr fun ho => ?_⟩
  · rw [safePcall_entry, hf]
    simp [h2, indexValue_neg_one (show fr1.slots = [] ++ [v] from rfl), hv, hpos]
  · simpa [fr1, Frame.afterCall] using
      hr.overrun_of_fits (by simp [fr1, Frame.afterCall, Frame.top, luaMinStack]) ho

/-- A `WrappedPanic` is raised again, from guaranteed slots. -/
theorem safePcall_of_panicEnvelope {v : Value} {h' : Heap}
    (hf : c.call none f args (base + 1) h = .error v h')
    (hv : hasMetatable h' v (registryMetatable c Keys.panic) = true) :
    ∃ fr', safePcall c (Frame.entry base (f :: args)) h = .error v fr' h' ∧
      fr'.overrun = false := by
  let fr1 := (Frame.entry base (f :: args)).afterCall [] [v]
  obtain ⟨fr2, h2, hs2, hr2⟩ := isWrappedPanic_spec c fr1 h' (-1)
  refine ⟨fr2, ?_, Bool.eq_false_iff.mpr fun ho => ?_⟩
  · rw [safePcall_entry, hf]
    simp [h2, indexValue_neg_one (show fr1.slots = [] ++ [v] from rfl), hv,
      indexValue_neg_one (show fr2.slots = [] ++ [v] from hs2)]
  · simpa [fr1, Frame.afterCall] using
      hr2.overrun_of_fits (by simp [fr1, Frame.afterCall, Frame.top, luaMinStack]) ho

/-- A panic, an abort or a stuck run of the callee is that of `safe_pcall`. -/
theorem safePcall_of_halts {o : Outcome} (hf : c.call none f args (base + 1) h = o)
    (ho : o.Halts) : (safePcall c (Frame.entry base (f :: args)) h).toOutcome = o := by
  rw [safePcall_entry, hf]
  cases o <;> simp_all [Outcome.Halts, Res.toOutcome]

end SafePcall

/-! ## `safe_xpcall` on its entry frame -/

/-- The frame `safe_xpcall` makes its protected call from: the `xpcall_msgh` closure over the
handler in the callee's place, then the callee and the arguments. Its ghost fields are those
the pushes of the shuffle leave. -/
def xpcallFrame (base : Nat) (f m : Value) (args : List Value) : Frame :=
  ((((Frame.entry base (f :: m :: args)).push m).withSlots (f :: m :: args)).push
    (.cclosure .xpcallMsgh m)).withSlots (.cclosure .xpcallMsgh m :: f :: args)

section SafeXpcall

variable {c : Ctx} {base : Nat} {f m : Value} {args : List Value} {h : Heap}

@[simp] theorem xpcallFrame_slots :
    (xpcallFrame base f m args).slots = .cclosure .xpcallMsgh m :: f :: args := rfl

@[simp] theorem xpcallFrame_base : (xpcallFrame base f m args).base = base := rfl

@[simp] theorem xpcallFrame_ciTop :
    (xpcallFrame base f m args).ciTop = args.length + 2 + luaMinStack := rfl

/-- The shuffle goes one slot above the entry height, within the `LUA_MINSTACK` slots. -/
@[simp] theorem xpcallFrame_overrun : (xpcallFrame base f m args).overrun = false := by
  simp [xpcallFrame, Frame.push, Frame.withSlots, Frame.top, luaMinStack]

/-- The checks and the shuffle of `safe_xpcall`: the protected call is made from
`xpcallFrame`. -/
theorem safeXpcall_shuffle :
    safeXpcall c (Frame.entry base (f :: m :: args)) h = (do
      let res ← luaPcall ((← luaGettop) - 2) luaMultret 1
      if res ≠ luaOk then
        if ← isWrappedPanic (-1) then luaError
        luaPushboolean 0
        luaInsert (-2)
        pure 2
      else
        luaPushboolean 1
        luaInsert 2
        pure ((← luaGettop) - 1)) c (xpcallFrame base f m args) h := by
  have h0 : ¬ ((args.length : Int) + 1 + 1 < 2) := by omega
  rw [safeXpcall, CM.bind_apply, luaLCheckstack_entry, Res.bind_ok]
  simp [h0, luaPushcclosure, luaCopy, luaReplace, indexValue_neg_one_eq, Frame.settop_neg_two_eq,
    Frame.pos, indexValue_of_pos, List.dropLast_cons_of_ne_nil, List.dropLast_append_of_ne_nil,
    List.getLast?_cons, xpcallFrame]

/-- Past its checks and its shuffle, `safe_xpcall` calls the callee with exactly the values
above the handler, with `xpcall_msgh` over the handler as message handler. -/
theorem safeXpcall_entry :
    safeXpcall c (Frame.entry base (f :: m :: args)) h =
      match c.call (some (.cclosure .xpcallMsgh m)) f args (base + 2) h with
      | .ret rs h' => (do luaPushboolean 1; luaInsert 2; pure ((← luaGettop) - 1)) c
          ((xpcallFrame base f m args).afterCall [.cclosure .xpcallMsgh m] rs) h'
      | .error v h' => (do
          if ← isWrappedPanic (-1) then luaError
          luaPushboolean 0
          luaInsert (-2)
          pure 2) c ((xpcallFrame base f m args).afterCall [.cclosure .xpcallMsgh m] [v]) h'
      | .panic p h' =>
        .unwind p ((xpcallFrame base f m args).withSlots [.cclosure .xpcallMsgh m]) h'
      | .abort msg => .abort msg
      | .stuck => .stuck := by
  have hsite : (xpcallFrame base f m args).callSite args.length =
      ([.cclosure .xpcallMsgh m], f, args) := Frame.callSite_of_slots rfl
  have htop : ((xpcallFrame base f m args).top : Int) - 2 = args.length := by
    simp [Frame.top]; omega
  have hx : indexValue c (xpcallFrame base f m args) 1 = .cclosure .xpcallMsgh m :=
    indexValue_one (show _ = _ :: (f :: args) from rfl)
  rw [safeXpcall_shuffle]
  rcases hc : c.call (some (.cclosure .xpcallMsgh m)) f args (base + 2) h with
    ⟨rs, h'⟩ | ⟨v, h'⟩ | ⟨p, h'⟩ | msg | _ <;>
    simp [luaPcall, htop, hsite, hx, hc, luaErrRun, luaOk, adjustResults]

/-- Results: `true` goes between the closure and them, and the closure is not returned. The
push of `true` goes past the guaranteed slots exactly when the callee returned at least 21
more values than it was given. -/
theorem safeXpcall_of_ret {rs : List Value} {h' : Heap}
    (hf : c.call (some (.cclosure .xpcallMsgh m)) f args (base + 2) h = .ret rs h') :
    ∃ fr', safeXpcall c (Frame.entry base (f :: m :: args)) h =
        .ok ((rs.length + 1 : Nat) : Int) fr' h' ∧
      fr'.slots = .cclosure .xpcallMsgh m :: .boolean true :: rs ∧
      (fr'.overrun = true ↔ args.length + 21 ≤ rs.length) := by
  have hs : (((xpcallFrame base f m args).afterCall [.cclosure .xpcallMsgh m] rs).push
      (.boolean true)).slots = (.cclosure .xpcallMsgh m :: rs) ++ [.boolean true] := by
    simp [Frame.afterCall]
  rw [safeXpcall_entry, hf]
  simp [Frame.pos, Frame.insert_of_slots hs]
  simp [Frame.push, Frame.afterCall, Frame.top, Frame.withSlots, luaMinStack]
  omega

/-- An error that is no `WrappedPanic`, as the message handler left it: `false` and the error
value, pushed into guaranteed slots. -/
theorem safeXpcall_of_error {v : Value} {h' : Heap}
    (hf : c.call (some (.cclosure .xpcallMsgh m)) f args (base + 2) h = .error v h')
    (hv : hasMetatable h' v (registryMetatable c Keys.panic) = false) :
    ∃ fr', safeXpcall c (Frame.entry base (f :: m :: args)) h = .ok 2 fr' h' ∧
      fr'.slots = [.cclosure .xpcallMsgh m, .boolean false, v] ∧ fr'.overrun = false := by
  let fr1 := (xpcallFrame base f m args).afterCall [.cclosure .xpcallMsgh m] [v]
  obtain ⟨fr2, h2, hs2, hr2⟩ := isWrappedPanic_spec c fr1 h' (-1)
  have hs3 : (fr2.push (.boolean false)).slots =
      [.cclosure .xpcallMsgh m, v] ++ [.boolean false] := by
    simp [hs2, fr1, Frame.afterCall]
  have hpos : (fr2.push (.boolean false)).pos (-2) = 1 := by
    simp [Frame.pos, Frame.top, hs2, fr1, Frame.afterCall]
  have hr : fr1.Reach 2 ((fr2.push (.boolean false)).insert 1) :=
    hr2.trans ((Frame.Reach.push _ _).trans (.insert _ 1 0) (by simp [Frame.top]))
      (by simp [Frame.top, hs2])
  refine ⟨(fr2.push (.boolean false)).insert 1, ?_, by simp [Frame.insert_of_slots hs3],
    Bool.eq_false_iff.mpr fun ho => ?_⟩
  · rw [safeXpcall_entry, hf]
    simp [h2, indexValue_neg_one (show fr1.slots = [.cclosure .xpcallMsgh m] ++ [v] from rfl),
      hv, hpos]
  · simpa [fr1, Frame.afterCall] using
      hr.overrun_of_fits (by simp [fr1, Frame.afterCall, Frame.top, luaMinStack]) ho

/-- A `WrappedPanic` is raised again, from guaranteed slots. -/
theorem safeXpcall_of_panicEnvelope {v : Value} {h' : Heap}
    (hf : c.call (some (.cclosure .xpcallMsgh m)) f args (base + 2) h = .error v h')
    (hv : hasMetatable h' v (registryMetatable c Keys.panic) = true) :
    ∃ fr', safeXpcall c (Frame.entry base (f :: m :: args)) h = .error v fr' h' ∧
      fr'.overrun = false := by
  let fr1 := (xpcallFrame base f m args).afterCall [.cclosure .xpcallMsgh m] [v]
  have hs1 : fr1.slots = [.cclosure .xpcallMsgh m] ++ [v] := rfl
  obtain ⟨fr2, h2, hs2, hr2⟩ := isWrappedPanic_spec c fr1 h' (-1)
  refine ⟨fr2, ?_, Bool.eq_false_iff.mpr fun ho => ?_⟩
  · rw [safeXpcall_entry, hf]
    simp [h2, indexValue_neg_one hs1, hv, indexValue_neg_one (hs2.trans hs1)]
  · simpa [fr1, Frame.afterCall] using
      hr2.overrun_of_fits (by simp [fr1, Frame.afterCall, Frame.top, luaMinStack]) ho

/-- A panic, an abort or a stuck run of the callee is that of `safe_xpcall`. -/
theorem safeXpcall_of_halts {o : Outcome}
    (hf : c.call (some (.cclosure .xpcallMsgh m)) f args (base + 2) h = o) (ho : o.Halts) :
    (safeXpcall c (Frame.entry base (f :: m :: args)) h).toOutcome = o := by
  rw [safeXpcall_entry, hf]
  cases o <;> simp_all [Outcome.Halts, Res.toOutcome]

end SafeXpcall

/-! ## `xpcall_msgh` on its entry frame

The message handler is called with the error value as its only argument, from the closure
`safe_xpcall` made, whose upvalue is the script's handler. -/

section XpcallMsgh

variable {c : Ctx} {base : Nat} {v : Value} {h : Heap}

/-- A `WrappedPanic` is returned as it is, and the user handler is not called. -/
theorem xpcallMsgh_of_panicEnvelope (hv : hasMetatable h v (registryMetatable c Keys.panic) = true) :
    ∃ fr', xpcallMsgh c (Frame.entry base [v]) h = .ok 1 fr' h ∧ fr'.slots = [v] ∧
      fr'.overrun = false := by
  obtain ⟨fr2, h2, hs2, hr2⟩ := isWrappedPanic_spec c (Frame.entry base [v]) h (-1)
  refine ⟨fr2, ?_, hs2, Bool.eq_false_iff.mpr fun ho => ?_⟩
  · simp [xpcallMsgh, luaLCheckstack_entry, h2,
      indexValue_neg_one (show (Frame.entry base [v]).slots = [] ++ [v] from rfl), hv]
  · simpa using hr2.overrun_of_fits (by simp [Frame.top, luaMinStack]) ho

/-- Past its check, `xpcall_msgh` on any other value calls the script's handler with that
value and nothing else, with no message handler of its own. -/
theorem xpcallMsgh_entry {m : Value} (hu : c.upvalues = [m])
    (hv : hasMetatable h v (registryMetatable c Keys.panic) = false) :
    ∃ fr1 : Frame, fr1.slots = [m, v] ∧ fr1.base = base ∧ fr1.overrun = false ∧
      xpcallMsgh c (Frame.entry base [v]) h =
        match c.call none m [v] (base + 1) h with
        | .ret ws h' => .ok (ws.length : Int) (fr1.afterCall [] ws) h'
        | .error v' h' => .error v' (fr1.withSlots []) h'
        | .panic p h' => .unwind p (fr1.withSlots []) h'
        | .abort msg => .abort msg
        | .stuck => .stuck := by
  obtain ⟨fr2, h2, hs2, hr2⟩ := isWrappedPanic_spec c (Frame.entry base [v]) h (-1)
  have hs3 : (fr2.push m).slots = [v] ++ [m] := by simp [hs2]
  have hsite : ((fr2.push m).insert 0).callSite 1 = ([], m, [v]) :=
    Frame.callSite_of_slots
      (show ((fr2.push m).insert 0).slots = [] ++ m :: [v] by simp [Frame.insert_of_slots hs3])
  have hr : (Frame.entry base [v]).Reach 2 ((fr2.push m).insert 0) :=
    hr2.trans ((Frame.Reach.push _ _).trans (.insert _ 0 0) (by simp [Frame.top]))
      (by simp [Frame.top, hs2])
  refine ⟨(fr2.push m).insert 0, by simp [Frame.insert_of_slots hs3], by simp [hr.base],
    Bool.eq_false_iff.mpr fun ho => ?_, ?_⟩
  · simpa using hr.overrun_of_fits (by simp [Frame.top, luaMinStack]) ho
  · have htop : (((fr2.push m).insert 0).top : Int) - 1 = 1 := by
      simp [Frame.top, Frame.insert_of_slots hs3]
    rcases hc : c.call none m [v] (base + 1) h with ⟨ws, h'⟩ | ⟨v', h'⟩ | ⟨p, h'⟩ | msg | _ <;>
      simp [xpcallMsgh, luaLCheckstack_entry, h2,
        indexValue_neg_one (show (Frame.entry base [v]).slots = [] ++ [v] from rfl), hv,
        indexValue_upvalue_one, hu, Frame.pos, htop, luaCall, hsite, hr.base, hc, adjustResults]

/-- On any other value, `xpcall_msgh` returns what the script's handler returns, and ends as
it ends. -/
theorem xpcallMsgh_of_plain {m : Value} (hu : c.upvalues = [m])
    (hv : hasMetatable h v (registryMetatable c Keys.panic) = false) :
    (xpcallMsgh c (Frame.entry base [v]) h).toOutcome = c.call none m [v] (base + 1) h := by
  obtain ⟨fr1, -, -, -, he⟩ := xpcallMsgh_entry hu hv
  rw [he]
  rcases c.call none m [v] (base + 1) h with ⟨ws, h'⟩ | ⟨v', h'⟩ | ⟨p, h'⟩ | msg | _ <;>
    simp [Res.toOutcome]

/-- `xpcall_msgh` pushes only into guaranteed slots, whatever the handler returns. -/
theorem xpcallMsgh_no_overrun {m : Value} (hu : c.upvalues = [m]) :
    ∀ fr', (xpcallMsgh c (Frame.entry base [v]) h).frame? = some fr' → fr'.overrun = false := by
  cases hv : hasMetatable h v (registryMetatable c Keys.panic)
  · obtain ⟨fr1, -, -, ho1, he⟩ := xpcallMsgh_entry hu hv
    rw [he]
    rcases c.call none m [v] (base + 1) h with ⟨ws, h'⟩ | ⟨v', h'⟩ | ⟨p, h'⟩ | msg | _ <;>
      simp [Res.frame?, Frame.afterCall, ho1]
  · obtain ⟨fr', he, -, ho⟩ := @xpcallMsgh_of_panicEnvelope c base v h hv
    simp [he, Res.frame?, ho]

end XpcallMsgh

/-- What Lua runs when it calls one of the C functions of `util.rs`. The two metamethods
pushed with `lua_pushrfunction` go through the Rust function protocol's trampoline. -/
def cfunctionBody : CFn → CM Int
  | .safePcall => safePcall
  | .safeXpcall => safeXpcall
  | .xpcallMsgh => xpcallMsgh
  | .errorTraceback => errorTraceback
  | .userdataDestructor k => userdataDestructor k
  | .errorTostring => rcallShim errorTostring
  | .destructedError => rcallShim destructedError

end Rlua
