import Rlua.Lua.Api

/-!
# Error and panic envelopes

The envelope helpers of `util.rs`, each written as the source computes it: a `WrappedError`
or `WrappedPanic` is a full userdata whose metatable is one of the tables the registry holds
under the addresses of the statics `ERROR_METATABLE_REGISTRY_KEY` and
`PANIC_METATABLE_REGISTRY_KEY`, and `is_wrapped_error` / `is_wrapped_panic` recognise one by
`lua_rawequal` against the registry's table.

`pop_error` is the host side of the protocol: it unwraps a `WrappedError`, resumes the panic of
a `WrappedPanic`, and turns any other Lua value into an `Error` according to the status code.
-/

namespace Rlua

/-! ## Internal assertions (`macros.rs`) -/

/-- `lua_internal_panic!` (`macros.rs`, not in the excerpt). Modelled from the spec and the
comments of `util.rs`: an internal error clears the stack and panics. -/
def luaInternalPanic {α : Type} (msg : String) : CM α := do
  luaSettop 0
  rustPanic (.message msg)

/-- `lua_internal_assert!`: `lua_internal_panic!` unless the condition holds. -/
def luaInternalAssert (cond : Bool) (msg : String) : CM Unit :=
  if cond then pure () else luaInternalPanic msg

/-- `lua_internal_abort!` (`macros.rs`, not in the excerpt): aborts the process. -/
def luaInternalAbort {α : Type} (msg : String) : CM α := processAbort msg

/-- A run that ended in a failed internal assertion: a panic with the stack cleared. -/
def Res.IsInternalFailure {α : Type} : Res α → Prop
  | .unwind (.message _) fr _ => fr.slots = []
  | _ => False

section Apply

variable {α : Type} (c : Ctx) (fr : Frame) (h : Heap)

@[simp] theorem luaInternalPanic_apply (msg : String) :
    (luaInternalPanic msg : CM α) c fr h = .unwind (.message msg) (fr.settop 0) h := rfl

@[simp] theorem luaInternalAssert_true (msg : String) :
    luaInternalAssert true msg = pure () := rfl

@[simp] theorem luaInternalAssert_false_apply (msg : String) :
    luaInternalAssert false msg c fr h = .unwind (.message msg) (fr.settop 0) h := rfl

theorem isInternalFailure_luaInternalPanic (msg : String) :
    ((luaInternalPanic msg : CM α) c fr h).IsInternalFailure := by
  simp [Res.IsInternalFailure, Frame.settop, Frame.withSlots]

end Apply

/-! ## Stack space -/

/-- `check_stack`: an internal assertion that `amount` more slots are available. -/
def checkStack (amount : Int) : CM Unit := do
  luaInternalAssert ((← luaCheckstack amount) != 0) "out of stack space"

/-- `check_stack_err`: `Error::StackError` instead of a panic, for user-controlled sizes. -/
def checkStackErr (amount : Int) : CM (Except Error Unit) := do
  if (← luaCheckstack amount) = 0 then pure (.error .stackError) else pure (.ok ())

/-! ## The collector guard -/

/-- `gc_guard`: runs `f` with the collector stopped, restarting it afterwards if it was
running. A jump out of `f` skips the restart, as in the source. -/
def gcGuard {α : Type} (f : CM α) : CM α := do
  if (← luaGc luaGcIsrunning) ≠ 0 then
    let _ ← luaGc luaGcStop
    let r ← f
    let _ ← luaGc luaGcRestart
    pure r
  else f

/-- A guarded computation that neither reads nor writes the collector flag returns as it
would unguarded, with the flag as it found it. -/
theorem gcGuard_ok {α : Type} {f : CM α} {c : Ctx} {fr fr' : Frame} {h h' : Heap} {a : α}
    (hf : ∀ b, f c fr { h with gcRunning := b } = .ok a fr' { h' with gcRunning := b })
    (hrun : h'.gcRunning = h.gcRunning) :
    gcGuard f c fr h = .ok a fr' h' := by
  cases hr : h.gcRunning
  · have := hf false
    rw [h.set_gcRunning_self hr, h'.set_gcRunning_self (hrun.trans hr)] at this
    simp [gcGuard, luaGc, luaGcIsrunning, hr, this]
  · simp [gcGuard, luaGc, luaGcIsrunning, luaGcStop, luaGcRestart, hr, hf,
      h'.set_gcRunning_self (hrun.trans hr)]

/-! ## Registry metatables -/

/-- `get_error_metatable` and its two siblings: the registry entry under the address of one
of the three statics. Uses 1 stack slot. -/
def getRegistryMetatable (key : Keys → Nat) : CM Unit := do
  luaPushlightuserdata (key (← CM.keys))
  luaRawget luaRegistryIndex

def getErrorMetatable : CM Unit := getRegistryMetatable Keys.error

def getPanicMetatable : CM Unit := getRegistryMetatable Keys.panic

def getDestructedUserdataMetatable : CM Unit := getRegistryMetatable Keys.destructed

/-- The value the registry holds under a static's address. -/
def registryMetatable (c : Ctx) (key : Keys → Nat) : Value :=
  c.tables.rawget registryRef (.lightUserdata (key c.vm.keys))

theorem getRegistryMetatable_apply (key : Keys → Nat) (c : Ctx) (fr : Frame) (h : Heap) :
    getRegistryMetatable key c fr h = .ok () (fr.push (registryMetatable c key)) h := by
  have hs : (fr.push (.lightUserdata (key c.vm.keys))).slots = fr.slots ++ [_] := rfl
  simp [getRegistryMetatable, luaRawget, indexValue_registry, indexValue_neg_one hs,
    Frame.setTop_push, registryMetatable]

/-! ## Recognising envelopes -/

/-- `is_wrapped_error` and `is_wrapped_panic`: a userdata whose metatable is raw-equal to the
table `getMetatable` pushes. Uses 2 stack slots. -/
def isWrappedWith (getMetatable : CM Unit) (index : Int) : CM Bool := do
  let userdata ← luaTouserdata index
  if userdata.isNone then return false
  if (← luaGetmetatable index) = 0 then return false
  getMetatable
  let res := (← luaRawequal (-1) (-2)) ≠ 0
  luaPop 2
  pure res

def isWrappedError (index : Int) : CM Bool := isWrappedWith getErrorMetatable index

def isWrappedPanic (index : Int) : CM Bool := isWrappedWith getPanicMetatable index

/-- The registry key of each envelope type's metatable. -/
def Wrapped.key : Wrapped → Keys → Nat
  | .error => Keys.error
  | .panic => Keys.panic

/-- Block `r` carries the metatable of envelope type `k` but holds no value of that type: the
bridge would read it as another type. -/
def Heap.Misfit (h : Heap) (c : Ctx) (k : Wrapped) (r : Nat) : Prop :=
  hasMetatable h (.userdata r) (registryMetatable c k.key) = true ∧
    ¬∃ x, contentsAt h (.block r) = some x ∧ x.isKind k = true

section IsWrapped

variable {c : Ctx} {fr : Frame} {h : Heap} {g : CM Unit} {mt : Value}

theorem isWrappedWith_of_none {index : Int} (hm : metatableOf h (indexValue c fr index) = none) :
    isWrappedWith g index c fr h = .ok false fr h := by
  cases hv : indexValue c fr index <;>
    simp [isWrappedWith, hv, Value.toPtr?, luaGetmetatable_of_none hm]

theorem isWrappedWith_of_some (hg : ∀ fr, g c fr h = .ok () (fr.push mt) h) {index : Int}
    {t : Nat} (hm : metatableOf h (indexValue c fr index) = some t) :
    isWrappedWith g index c fr h =
      .ok (decide (mt = .table t)) (((fr.push (.table t)).push mt).settop (-3)) h := by
  obtain ⟨r, hr⟩ := eq_userdata_of_metatableOf hm
  have hs : ((fr.push (.table t)).push mt).slots = fr.slots ++ [.table t, mt] := by simp
  have hs' : ((fr.push (.table t)).push mt).slots = (fr.slots ++ [.table t]) ++ [mt] := by simp
  simp [isWrappedWith, hr, Value.toPtr?, luaGetmetatable_of_some hm, hg, luaRawequal,
    indexValue?_neg_one hs', indexValue?_neg_two hs]

/-- The envelope test: whether the value at `index` has the metatable `g` pushes. The stack is
left as it was, after going at most 2 slots up, and the heap is not touched. -/
theorem isWrappedWith_spec (hg : ∀ fr, g c fr h = .ok () (fr.push mt) h) (index : Int) :
    ∃ fr', isWrappedWith g index c fr h = .ok (hasMetatable h (indexValue c fr index) mt) fr' h ∧
      fr'.slots = fr.slots ∧ fr.Reach 2 fr' := by
  rcases hm : metatableOf h (indexValue c fr index) with _ | t
  · exact ⟨fr, by simp [isWrappedWith_of_none hm, hasMetatable, hm], rfl, .refl fr 2⟩
  · have hs : ((fr.push (.table t)).push mt).slots = fr.slots ++ [.table t, mt] := by simp
    rw [isWrappedWith_of_some hg hm, Frame.settop_neg_three hs]
    exact ⟨((fr.push (.table t)).push mt).withSlots fr.slots, by simp [hasMetatable, hm], rfl,
      .push_push _ _ _ _⟩

theorem isWrappedError_spec (c : Ctx) (fr : Frame) (h : Heap) (index : Int) :
    ∃ fr', isWrappedError index c fr h =
      .ok (hasMetatable h (indexValue c fr index) (registryMetatable c Keys.error)) fr' h ∧
      fr'.slots = fr.slots ∧ fr.Reach 2 fr' :=
  isWrappedWith_spec (getRegistryMetatable_apply _ c · h) index

theorem isWrappedPanic_spec (c : Ctx) (fr : Frame) (h : Heap) (index : Int) :
    ∃ fr', isWrappedPanic index c fr h =
      .ok (hasMetatable h (indexValue c fr index) (registryMetatable c Keys.panic)) fr' h ∧
      fr'.slots = fr.slots ∧ fr.Reach 2 fr' :=
  isWrappedWith_spec (getRegistryMetatable_apply _ c · h) index

end IsWrapped

/-! ## Building and opening envelopes -/

/-- `push_wrapped_error` and `push_wrapped_panic`: a new userdata holding `x`, with the
metatable `getMetatable` pushes. Uses 2 stack slots. -/
def pushWrapped (x : Contents) (getMetatable : CM Unit) : CM Unit := do
  gcGuard do
    let ud ← luaNewuserdata
    ptrWrite ud x
  getMetatable
  luaSetmetatable (-2)

def pushWrappedError (err : Error) : CM Unit := pushWrapped (.wrappedError err) getErrorMetatable

def pushWrappedPanic (panic : PanicPayload) : CM Unit :=
  pushWrapped (.wrappedPanic (some panic)) getPanicMetatable

/-- The block `push_wrapped_error` or `push_wrapped_panic` allocates for `x`: its metatable
is the one the registry holds under `key`. -/
def envelopeBlock (c : Ctx) (key : Keys → Nat) (x : Contents) : Userdata :=
  Userdata.withMetatable c.tables (registryMetatable c key).tableRef? ⟨x, none, false⟩

/-- An envelope is pushed: a fresh block holding `x` whose metatable is `mt`, marked for
finalization when `mt` has `__gc`. The collector flag ends as it started. -/
theorem pushWrapped_apply {c : Ctx} {fr : Frame} {h : Heap} {g : CM Unit} {mt : Value}
    (hg : ∀ fr h, g c fr h = .ok () (fr.push mt) h) (x : Contents) :
    pushWrapped x g c fr h =
      .ok () (((fr.push (.userdata h.userdata.length)).push mt).withSlots
          (fr.slots ++ [.userdata h.userdata.length]))
        (h.alloc (Userdata.withMetatable c.tables mt.tableRef? ⟨x, none, false⟩)) := by
  have hguard : gcGuard (do let ud ← luaNewuserdata; ptrWrite ud x) c fr h =
      .ok () (fr.push (.userdata h.userdata.length)) (h.alloc ⟨x, none, false⟩) := by
    refine gcGuard_ok (fun b => ?_) rfl
    simp only [CM.bind_apply, luaNewuserdata_apply, Res.bind_ok, ptrWrite_block,
      Heap.modifyUserdata_alloc]
    rfl
  have hs : ((fr.push (.userdata h.userdata.length)).push mt).slots =
      fr.slots ++ [.userdata h.userdata.length, mt] := by simp
  simp [pushWrapped, hguard, hg, luaSetmetatable_userdata hs, Heap.modifyUserdata_alloc]

theorem pushWrappedError_apply (err : Error) (c : Ctx) (fr : Frame) (h : Heap) :
    pushWrappedError err c fr h =
      .ok () (((fr.push (.userdata h.userdata.length)).push
          (registryMetatable c Keys.error)).withSlots (fr.slots ++ [.userdata h.userdata.length]))
        (h.alloc (envelopeBlock c Keys.error (.wrappedError err))) :=
  pushWrapped_apply (getRegistryMetatable_apply _ c) _

theorem pushWrappedPanic_apply (p : PanicPayload) (c : Ctx) (fr : Frame) (h : Heap) :
    pushWrappedPanic p c fr h =
      .ok () (((fr.push (.userdata h.userdata.length)).push
          (registryMetatable c Keys.panic)).withSlots (fr.slots ++ [.userdata h.userdata.length]))
        (h.alloc (envelopeBlock c Keys.panic (.wrappedPanic (some p)))) :=
  pushWrapped_apply (getRegistryMetatable_apply _ c) _

section FreshEnvelope

variable {c : Ctx} {h : Heap} {key : Keys → Nat} {t : Nat}

/-- A fresh envelope carries the registry's table as its metatable, once the registry holds
one under the key. -/
theorem hasMetatable_envelope (ht : registryMetatable c key = .table t) (x : Contents) :
    hasMetatable (h.alloc (envelopeBlock c key x)) (.userdata h.userdata.length)
      (registryMetatable c key) = true := by
  simp only [hasMetatable, metatableOf, Heap.userdata_alloc_self, Option.some_bind]
  simp [envelopeBlock, Userdata.withMetatable, ht, Value.tableRef?]

theorem contentsAt_envelope (x : Contents) :
    contentsAt (h.alloc (envelopeBlock c key x)) (.block h.userdata.length) = some x := by
  simp only [contentsAt, Heap.userdata_alloc_self, Option.map_some']
  rfl

end FreshEnvelope

/-- `get_userdata`: the block pointer of the value at `index`, asserted non-null. -/
def getUserdata (index : Int) : CM Ptr := do
  match ← luaTouserdata index with
  | some ud => pure ud
  | none => luaInternalPanic "userdata pointer is null"

theorem getUserdata_userdata {c : Ctx} {fr : Frame} {h : Heap} {index : Int} {r : Nat}
    (hv : indexValue c fr index = .userdata r) :
    getUserdata index c fr h = .ok (.block r) fr h := by
  simp [getUserdata, hv, Value.toPtr?]

/-- `pop_wrapped_error`: clones the error out of a `WrappedError` on top and pops it; leaves
any other value in place. -/
def popWrappedError : CM (Option Error) := do
  if !(← isWrappedError (-1)) then
    pure none
  else
    let err ← readWrappedError (← getUserdata (-1))
    luaPop 1
    pure (some err)

section PopWrappedError

variable {c : Ctx} {fr : Frame} {h : Heap}

theorem popWrappedError_of_not
    (hn : hasMetatable h (indexValue c fr (-1)) (registryMetatable c Keys.error) = false) :
    ∃ fr', popWrappedError c fr h = .ok none fr' h ∧ fr'.slots = fr.slots ∧ fr.Reach 2 fr' := by
  obtain ⟨fr1, h1, hs1, hr1⟩ := isWrappedError_spec c fr h (-1)
  exact ⟨fr1, by simp [popWrappedError, h1, hn], hs1, hr1⟩

theorem popWrappedError_of_wrapped {xs : List Value} {r : Nat} {e : Error}
    (hs : fr.slots = xs ++ [.userdata r])
    (hm : hasMetatable h (.userdata r) (registryMetatable c Keys.error) = true)
    (he : contentsAt h (.block r) = some (.wrappedError e)) :
    ∃ fr', popWrappedError c fr h = .ok (some e) fr' h ∧ fr'.slots = xs ∧ fr.Reach 2 fr' := by
  obtain ⟨fr1, h1, hs1, hr1⟩ := isWrappedError_spec c fr h (-1)
  have hs1' : fr1.slots = xs ++ [.userdata r] := hs1.trans hs
  refine ⟨fr1.withSlots xs, ?_, rfl, hr1.trans (.withSlots _ _ 0) (by simp [Frame.top, hs1])⟩
  simp [popWrappedError, h1, indexValue_neg_one hs, hm, getUserdata_userdata
    (indexValue_neg_one hs1'), readWrappedError, he, Frame.settop_neg_two hs1']

/-- `pop_wrapped_error` on a block with the error metatable that holds something else. -/
theorem popWrappedError_misread {xs : List Value} {r : Nat} (hs : fr.slots = xs ++ [.userdata r])
    (hm : hasMetatable h (.userdata r) (registryMetatable c Keys.error) = true)
    (hx : ¬∃ x, contentsAt h (.block r) = some x ∧ x.isKind .error = true) :
    popWrappedError c fr h = .abort undefinedRead := by
  obtain ⟨fr1, h1, hs1, -⟩ := isWrappedError_spec c fr h (-1)
  have hv1 : indexValue c fr1 (-1) = .userdata r := indexValue_neg_one (hs1.trans hs)
  simp only [popWrappedError, CM.bind_apply, h1, indexValue_neg_one hs, hm, Res.bind_ok,
    Bool.not_true, Bool.false_eq_true, if_false, getUserdata_userdata (h := h) hv1]
  rcases hc : contentsAt h (.block r) with _ | _ | _ | _ | _ | _ <;>
    simp_all [readWrappedError, Contents.isKind]

/-- Everything `pop_wrapped_error` can do: leave the stack alone, pop an envelope and return
its error, or read a block of another type as a `WrappedError`. -/
theorem popWrappedError_cases (c : Ctx) (fr : Frame) (h : Heap) :
    (∃ fr', popWrappedError c fr h = .ok none fr' h ∧ fr'.slots = fr.slots ∧ fr.Reach 2 fr') ∨
    (∃ e fr', popWrappedError c fr h = .ok (some e) fr' h ∧
      fr'.slots = fr.slots.dropLast ∧ fr.Reach 2 fr') ∨
    (popWrappedError c fr h = .abort undefinedRead ∧ ∃ r, h.Misfit c .error r) := by
  rcases hm : hasMetatable h (indexValue c fr (-1)) (registryMetatable c Keys.error)
  · exact .inl (popWrappedError_of_not hm)
  obtain ⟨r, hr⟩ := eq_userdata_of_hasMetatable hm
  obtain ⟨xs, hs⟩ := slots_of_indexValue_neg_one hr (by simp)
  rw [hr] at hm
  by_cases hx : ∃ x, contentsAt h (.block r) = some x ∧ x.isKind .error = true
  · obtain ⟨e, he⟩ : ∃ e, contentsAt h (.block r) = some (.wrappedError e) := by
      obtain ⟨x, hx, hk⟩ := hx
      cases x <;> simp [Contents.isKind] at hk
      exact ⟨_, hx⟩
    obtain ⟨fr', h1, hs1, hr1⟩ := popWrappedError_of_wrapped hs hm he
    exact .inr (.inl ⟨e, fr', h1, by simp [hs1, hs], hr1⟩)
  · exact .inr (.inr ⟨popWrappedError_misread hs hm hx, r, hm, hx⟩)

end PopWrappedError

/-- The `match err_code` of `pop_error`: the `Error` a plain Lua error value becomes. -/
def errorFromCode (errCode : Int) (errString : String) : CM Error :=
  if errCode = luaErrRun then pure (.runtimeError errString)
  else if errCode = luaErrSyntax then
    pure (.syntaxError errString (errString.endsWith "<eof>"))
  else if errCode = luaErrErr then pure (.runtimeError errString)
  else if errCode = luaErrMem then
    luaInternalAbort "impossible Lua allocation error, aborting!"
  else if errCode = luaErrGcmm then pure (.garbageCollectorError errString)
  else luaInternalPanic "unrecognized lua error code"

/-- `pop_error` on a `WrappedPanic`: its payload is taken and the panic resumed. -/
def resumeWrappedPanic : CM Error := do
  let panic ← getUserdata (-1)
  match ← takeWrappedPanic panic with
  | some p =>
    luaSettop 0
    rustPanic p
  | none => luaInternalPanic "panic was resumed twice"

/-- `pop_error` on any other value: its string, popped and classified by `errCode`. -/
def errorFromValue (errCode : Int) : CM Error := do
  let errString ← gcGuard do
    match ← luaTostring (-1) with
    | some s => pure s
    | none => pure "<unprintable error>"
  luaPop 1
  errorFromCode errCode errString

/-- `pop_error`: the error on top of the stack after a failed protected call with status
`errCode`. A `WrappedPanic` resumes its panic; any other Lua value becomes an `Error`. -/
def popError (errCode : Int) : CM Error := do
  luaInternalAssert (errCode != luaOk && errCode != luaYield)
    "pop_error called with non-error return code"
  match ← popWrappedError with
  | some err => pure err
  | none =>
    if ← isWrappedPanic (-1) then resumeWrappedPanic else errorFromValue errCode

section PopError

variable {c : Ctx} {fr : Frame} {h : Heap} {errCode : Int}

/-- The status codes `pop_error` accepts. -/
def IsErrorCode (errCode : Int) : Prop := errCode ≠ luaOk ∧ errCode ≠ luaYield

theorem luaInternalAssert_errorCode (hc : IsErrorCode errCode) (msg : String) :
    luaInternalAssert (errCode != luaOk && errCode != luaYield) msg = pure () := by
  have : (errCode != luaOk && errCode != luaYield) = true := by simp [bne_iff_ne, hc.1, hc.2]
  rw [this]
  rfl

/-- `pop_error` on a `WrappedError`: its error, with the envelope popped. -/
theorem popError_of_wrappedError (hc : IsErrorCode errCode) {xs : List Value} {r : Nat}
    {e : Error} (hs : fr.slots = xs ++ [.userdata r])
    (hm : hasMetatable h (.userdata r) (registryMetatable c Keys.error) = true)
    (he : contentsAt h (.block r) = some (.wrappedError e)) :
    ∃ fr', popError errCode c fr h = .ok e fr' h ∧ fr'.slots = xs ∧ fr.Reach 2 fr' := by
  obtain ⟨fr', h1, hs1, hr1⟩ := popWrappedError_of_wrapped hs hm he
  exact ⟨fr', by simp [popError, luaInternalAssert_errorCode hc, h1], hs1, hr1⟩

/-- When `pop_wrapped_error` finds no envelope, `pop_error` goes on, with the stack as it was,
to resuming a panic or to converting the value. -/
theorem popError_of_none (hc : IsErrorCode errCode) {fr1 : Frame}
    (h1 : popWrappedError c fr h = .ok none fr1 h) :
    ∃ fr', fr'.slots = fr1.slots ∧ fr1.Reach 2 fr' ∧ popError errCode c fr h =
      (if hasMetatable h (indexValue c fr1 (-1)) (registryMetatable c Keys.panic) then
        resumeWrappedPanic else errorFromValue errCode) c fr' h := by
  obtain ⟨fr2, h2, hs2, hr2⟩ := isWrappedPanic_spec c fr1 h (-1)
  exact ⟨fr2, hs2, hr2, by simp only [popError, luaInternalAssert_errorCode hc, CM.bind_apply,
    CM.pure_apply, Res.bind_ok, h1, h2]⟩

/-- `pop_error` on anything but a `WrappedError`. -/
theorem popError_of_not_wrappedError (hc : IsErrorCode errCode)
    (hn : hasMetatable h (indexValue c fr (-1)) (registryMetatable c Keys.error) = false) :
    ∃ fr', fr'.slots = fr.slots ∧ fr.Reach 2 fr' ∧ popError errCode c fr h =
      (if hasMetatable h (indexValue c fr (-1)) (registryMetatable c Keys.panic) then
        resumeWrappedPanic else errorFromValue errCode) c fr' h := by
  obtain ⟨fr1, h1, hs1, hr1⟩ := popWrappedError_of_not hn
  obtain ⟨fr2, hs2, hr2, hpe⟩ := popError_of_none hc h1
  rw [indexValue_of_slots_eq hs1] at hpe
  exact ⟨fr2, hs2.trans hs1, hr1.trans hr2 (by simp [Frame.top, hs1]), hpe⟩

/-- The heap once `pop_error` has taken the payload out of the `WrappedPanic` in block `r`. -/
def Heap.takePayload (h : Heap) (r : Nat) : Heap :=
  h.modifyUserdata r fun u => { u with contents := .wrappedPanic none }

/-- Resuming a `WrappedPanic`: the payload is taken out, leaving `None`, the stack is cleared
and the panic resumed; a payload already taken is an internal failure. -/
theorem resumeWrappedPanic_apply {r : Nat} {o : Option PanicPayload}
    (hv : indexValue c fr (-1) = .userdata r)
    (hx : contentsAt h (.block r) = some (.wrappedPanic o)) :
    resumeWrappedPanic c fr h =
      .unwind (o.getD (.message "panic was resumed twice")) (fr.settop 0) (h.takePayload r) := by
  cases o <;> simp [resumeWrappedPanic, getUserdata_userdata hv, takeWrappedPanic, hx,
    Heap.takePayload]

/-- Converting any other value: its string (or a placeholder), with the value popped. -/
theorem errorFromValue_apply (c : Ctx) (fr : Frame) (h : Heap) (errCode : Int) :
    ∃ fr', fr'.slots = fr.slots.dropLast ∧ fr.Reach 0 fr' ∧ errorFromValue errCode c fr h =
      errorFromCode errCode ((indexValue c fr (-1)).tostring?.getD "<unprintable error>") c fr' h := by
  obtain ⟨v', hv'⟩ : ∃ fr1 : Frame, fr1.slots.dropLast = fr.slots.dropLast ∧ ∀ h,
      luaTostring (-1) c fr h = .ok (indexValue c fr (-1)).tostring? (fr.withSlots fr1.slots) h := by
    rcases List.eq_nil_or_concat fr.slots with hs | ⟨xs, v, hs⟩
    · refine ⟨fr, rfl, fun h => ?_⟩
      have : indexValue c fr (-1) = .nil := by
        simp [indexValue, indexValue?, luaRegistryIndex, Frame.get?, Frame.top, hs]
      simp [luaTostring, this, Value.tostring?, Frame.withSlots_self]
    · rw [List.concat_eq_append] at hs
      obtain ⟨v', hv'⟩ := luaTostring_top (c := c) hs
      exact ⟨fr.withSlots (xs ++ [v']), by simp [hs], fun h => by
        rw [hv', indexValue_neg_one hs]; rfl⟩
  have hguard : gcGuard (do
        match ← luaTostring (-1) with
        | some s => pure s
        | none => pure "<unprintable error>") c fr h =
      .ok ((indexValue c fr (-1)).tostring?.getD "<unprintable error>")
        (fr.withSlots v'.slots) h :=
    gcGuard_ok (fun b => by cases ht : (indexValue c fr (-1)).tostring? <;> simp [hv'.2, ht]) rfl
  refine ⟨(fr.withSlots v'.slots).withSlots fr.slots.dropLast, by simp, .withSlots _ _ 0, ?_⟩
  simp [errorFromValue, hguard, Frame.settop_neg_two_eq, hv'.1]

/-- Everything the `match err_code` can do: an `Error`, the allocation-failure abort, or the
internal panic on an unknown code. -/
theorem errorFromCode_cases (errCode : Int) (s : String) (c : Ctx) (fr : Frame) (h : Heap) :
    (∃ e, errorFromCode errCode s c fr h = .ok e fr h) ∨
    errorFromCode errCode s c fr h = .abort "impossible Lua allocation error, aborting!" ∨
    errorFromCode errCode s c fr h =
      .unwind (.message "unrecognized lua error code") (fr.withSlots []) h := by
  unfold errorFromCode
  repeat' split
  all_goals simp [luaInternalAbort, Frame.settop_zero]

/-- Resuming a block that holds no `WrappedPanic` reads it as another type. -/
theorem resumeWrappedPanic_misread {r : Nat} (hv : indexValue c fr (-1) = .userdata r)
    (hx : ¬∃ x, contentsAt h (.block r) = some x ∧ x.isKind .panic = true) :
    resumeWrappedPanic c fr h = .abort undefinedRead := by
  simp only [resumeWrappedPanic, CM.bind_apply, getUserdata_userdata (h := h) hv, Res.bind_ok]
  rcases hc : contentsAt h (.block r) with _ | _ | _ | _ | _ | _ <;>
    simp_all [takeWrappedPanic, Contents.isKind]

/-- Everything `pop_error` can do. It returns an `Error` with the top value popped; fails an
internal assertion with the stack cleared; resumes the panic of a `WrappedPanic` with the
stack cleared, taking its payload out; aborts on an allocation error; or reads a block with an
envelope metatable as another type. It never goes more than 2 slots above the stack it was
given. -/
theorem popError_cases (errCode : Int) (c : Ctx) (fr : Frame) (h : Heap) :
    (∃ e fr', popError errCode c fr h = .ok e fr' h ∧ fr'.slots = fr.slots.dropLast ∧
      fr.Reach 2 fr') ∨
    (∃ msg fr', popError errCode c fr h = .unwind (.message msg) fr' h ∧ fr'.slots = [] ∧
      fr.Reach 2 fr') ∨
    (∃ r o fr', hasMetatable h (.userdata r) (registryMetatable c Keys.panic) = true ∧
      contentsAt h (.block r) = some (.wrappedPanic o) ∧
      popError errCode c fr h =
        .unwind (o.getD (.message "panic was resumed twice")) fr' (h.takePayload r) ∧
      fr'.slots = [] ∧ fr.Reach 2 fr') ∨
    popError errCode c fr h = .abort "impossible Lua allocation error, aborting!" ∨
    (popError errCode c fr h = .abort undefinedRead ∧ ∃ k r, h.Misfit c k r) := by
  by_cases hc : IsErrorCode errCode
  · rcases popWrappedError_cases c fr h with ⟨fr1, h1, hs1, hr1⟩ | ⟨e, fr1, h1, hs1, hr1⟩ |
      ⟨h1, r, hmis⟩
    · obtain ⟨fr2, hs2, hr2, hpe⟩ := popError_of_none hc h1
      have hr12 : fr.Reach 2 fr2 := hr1.trans hr2 (by simp [Frame.top, hs1])
      rw [hpe]
      rcases hp : hasMetatable h (indexValue c fr1 (-1)) (registryMetatable c Keys.panic)
      · obtain ⟨fr3, hs3, hr3, he⟩ := errorFromValue_apply c fr2 h errCode
        have hr23 : fr.Reach 2 fr3 := hr12.trans hr3 (by simp [Frame.top, hs2, hs1])
        simp only [Bool.false_eq_true, if_false, he]
        rcases errorFromCode_cases errCode _ c fr3 h with ⟨e, he'⟩ | he' | he'
        · exact .inl ⟨e, fr3, he', by rw [hs3, hs2, hs1], hr23⟩
        · exact .inr (.inr (.inr (.inl he')))
        · exact .inr (.inl ⟨_, _, he', rfl, hr23.trans (.withSlots _ _ 0) (by
            simp [Frame.top, hs3, hs2, hs1]; omega)⟩)
      · obtain ⟨r, hr⟩ := eq_userdata_of_hasMetatable hp
        have hv2 : indexValue c fr2 (-1) = .userdata r := (indexValue_of_slots_eq hs2 _).trans hr
        rw [hr] at hp
        simp only [if_true]
        by_cases hx : ∃ x, contentsAt h (.block r) = some x ∧ x.isKind .panic = true
        · obtain ⟨o, ho⟩ : ∃ o, contentsAt h (.block r) = some (.wrappedPanic o) := by
            obtain ⟨x, hx, hk⟩ := hx
            cases x <;> simp [Contents.isKind] at hk
            exact ⟨_, hx⟩
          rw [resumeWrappedPanic_apply hv2 ho, Frame.settop_zero]
          exact .inr (.inr (.inl ⟨r, o, _, hp, ho, rfl, rfl,
            hr12.trans (.withSlots _ _ 0) (by simp [Frame.top, hs2, hs1])⟩))
        · exact .inr (.inr (.inr (.inr ⟨resumeWrappedPanic_misread hv2 hx, .panic, r, hp, hx⟩)))
    · exact .inl ⟨e, fr1, by simp [popError, luaInternalAssert_errorCode hc, h1], hs1, hr1⟩
    · exact .inr (.inr (.inr (.inr ⟨by simp [popError, luaInternalAssert_errorCode hc, h1],
        .error, r, hmis⟩)))
  · have : (errCode != luaOk && errCode != luaYield) = false := by
      simpa [bne_iff_ne, IsErrorCode, Decidable.imp_iff_not_or] using hc
    exact .inr (.inl ⟨"pop_error called with non-error return code", fr.withSlots [],
      by simp [popError, this, Frame.settop_zero], rfl, .withSlots _ _ 2⟩)

end PopError

/-- `take_userdata::<T>` for an envelope type `T`: installs the destructed metatable on the
userdata on top, pops it, and moves its value out. -/
def takeUserdata (k : Wrapped) : CM Contents := do
  getDestructedUserdataMetatable
  luaSetmetatable (-2)
  match ← luaTouserdata (-1) with
  | none => luaInternalPanic "userdata pointer is null"
  | some ud =>
    luaPop 1
    ptrRead k ud

/-- The block `take_userdata` leaves: the destructed metatable, and its value moved out. -/
def takenBlock (ts : Tables) (mt : Value) (u : Userdata) : Userdata :=
  { Userdata.withMetatable ts mt.tableRef? u with contents := .moved }

/-- `take_userdata` on a block holding a `T`: the value, with the block left moved-out under
the destructed metatable and popped; 1 stack slot is used. -/
theorem takeUserdata_apply {c : Ctx} {fr : Frame} {h : Heap} {k : Wrapped} {xs : List Value}
    {r : Nat} {x : Contents} (hs : fr.slots = xs ++ [.userdata r])
    (hx : contentsAt h (.block r) = some x) (hk : x.isKind k = true) :
    ∃ fr', takeUserdata k c fr h =
        .ok x fr' (h.modifyUserdata r (takenBlock c.tables (registryMetatable c Keys.destructed)))
      ∧ fr'.slots = xs ∧ fr.Reach 1 fr' := by
  have hs1 : (fr.push (registryMetatable c Keys.destructed)).slots =
      xs ++ [.userdata r, registryMetatable c Keys.destructed] := by simp [hs]
  have hs2 : ((fr.push (registryMetatable c Keys.destructed)).withSlots
      (xs ++ [.userdata r])).slots = xs ++ [.userdata r] := rfl
  have hx' : contentsAt (h.modifyUserdata r (Userdata.withMetatable c.tables
      (registryMetatable c Keys.destructed).tableRef?)) (.block r) = some x := by
    rw [contentsAt_modifyUserdata_self]
    simpa [contentsAt, Userdata.withMetatable] using hx
  refine ⟨((fr.push (registryMetatable c Keys.destructed)).withSlots
      (xs ++ [.userdata r])).withSlots xs, ?_, rfl,
    ((Frame.Reach.push _ _).trans (.withSlots _ _ 0) (by simp)).trans (.withSlots _ _ 0)
      (by simp [Frame.top, hs])⟩
  simp [takeUserdata, getDestructedUserdataMetatable, getRegistryMetatable_apply,
    luaSetmetatable_userdata hs1, indexValue_neg_one hs2, Value.toPtr?, Frame.settop_neg_two hs2,
    ptrRead, hx', hk, Heap.modifyUserdata_modifyUserdata]
  rfl

/-- Everything `take_userdata` can do: return with the top value popped, fail the null
assertion with the stack cleared, or read the block as another type. -/
theorem takeUserdata_cases (k : Wrapped) (c : Ctx) (fr : Frame) (h : Heap) :
    (∃ x fr' h', takeUserdata k c fr h = .ok x fr' h' ∧ fr'.slots = fr.slots.dropLast ∧
      fr.Reach 2 fr') ∨
    (∃ p fr' h', takeUserdata k c fr h = .unwind p fr' h' ∧ fr'.slots = [] ∧ fr.Reach 2 fr') ∨
    takeUserdata k c fr h = .abort undefinedRead := by
  let mt := registryMetatable c Keys.destructed
  obtain ⟨h1, hset⟩ : ∃ h1, luaSetmetatable (-2) c (fr.push mt) h =
      .ok () ((fr.push mt).withSlots fr.slots) h1 := by
    unfold luaSetmetatable
    split <;> exact ⟨_, by
      simp only [Frame.settop_neg_two_eq, Frame.push_slots, List.dropLast_concat]; rfl⟩
  have hr1 : fr.Reach 2 ((fr.push mt).withSlots fr.slots) :=
    ((Frame.Reach.push _ _).mono (by omega)).trans (.withSlots _ _ 0) (by simp)
  have hv := indexValue_of_slots_eq (c := c) (show ((fr.push mt).withSlots fr.slots).slots =
    fr.slots from rfl) (-1)
  have hpre : takeUserdata k c fr h = (match (indexValue c fr (-1)).toPtr? with
      | none => luaInternalPanic "userdata pointer is null"
      | some ud => do luaPop 1; ptrRead k ud) c ((fr.push mt).withSlots fr.slots) h1 := by
    simp only [takeUserdata, getDestructedUserdataMetatable, CM.bind_apply,
      getRegistryMetatable_apply, Res.bind_ok, hset, luaTouserdata_apply, hv]
  rw [hpre]
  rcases (indexValue c fr (-1)).toPtr? with _ | p
  · refine .inr (.inl ⟨_, _, _, rfl, by simp [Frame.settop_zero], ?_⟩)
    rw [Frame.settop_zero]
    exact hr1.trans (.withSlots _ _ 0) (by simp [Frame.top])
  · simp only [CM.bind_apply, luaPop_apply, Res.bind_ok]
    rcases ptrRead_cases k p c (((fr.push mt).withSlots fr.slots).settop (-1 - 1)) h1 with
      ⟨x, h', hx⟩ | hx
    · rw [show (-1 - 1 : Int) = -2 from rfl, Frame.settop_neg_two_eq] at hx ⊢
      exact .inl ⟨x, _, h', hx, by simp, hr1.trans (.withSlots _ _ 0) (by simp [Frame.top])⟩
    · exact .inr (.inr hx)

/-! ## Other helpers -/

/-- `push_string`; `safe::lua_pushlstring` (not in the excerpt) cannot fail here, since the
binding aborts on allocation failure. -/
def pushString (s : String) : CM (Except Error Unit) := do
  luaPushlstring s
  pure (.ok ())

/-- `push_userdata`, with `safe::lua_newuserdata` as the plain allocation. -/
def pushUserdata (t : Contents) : CM (Except Error Unit) := do
  let ud ← luaNewuserdata
  ptrWrite ud t
  pure (.ok ())

/-- `main_state`: the main thread, from the registry. Uses 1 stack slot. -/
def mainState : CM (Option Nat) := do
  luaRawgeti luaRegistryIndex luaRidxMainthread
  let s ← luaTothread (-1)
  luaPop 1
  pure s

end Rlua
