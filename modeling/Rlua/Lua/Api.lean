import Rlua.Lua.Value

/-!
# The Lua C API as a state monad

A C function of the bridge runs in `CM`: it reads a context (`Ctx`: the parameters of the
state, the tables, its upvalues, and the interpreter used for nested calls), and threads its
stack frame (`Frame`) and the heap (`Heap`). A run ends in one of the `Res` outcomes:

* `ok`: the function returned normally;
* `error`: `lua_error` transferred control to the enclosing protected call (a `longjmp`);
* `unwind`: a Rust panic is unwinding (caught only by `catch_unwind`);
* `abort`: the process aborted;
* `stuck`: a nested call ran out of fuel.

Tables are part of the context, not of the state: after `init_error_metatables` nothing in
`util.rs` writes a table, so the C functions cannot change them.

Each frame operation follows the Lua 5.3 manual. `lua_checkstack` grows `ci->top` up to
the state's stack limit, and a C function is entered with `LUA_MINSTACK` free slots. Two ghost
fields record how high the stack went and whether a push went past the guaranteed slots.
-/

namespace Rlua

/-! ## Constants of `lua.h` -/

def luaOk : Int := 0
def luaYield : Int := 1
def luaErrRun : Int := 2
def luaErrSyntax : Int := 3
def luaErrMem : Int := 4
def luaErrGcmm : Int := 5
def luaErrErr : Int := 6
def luaMultret : Int := -1
/-- Free slots a C function is guaranteed on entry. -/
def luaMinStack : Nat := 20
def luaRegistryIndex : Int := -1001000
def luaUpvalueindex (i : Int) : Int := luaRegistryIndex - i
def luaRidxMainthread : Int := 1
def luaGcStop : Int := 0
def luaGcRestart : Int := 1
def luaGcIsrunning : Int := 9

/-! ## Frames -/

/-- The stack frame of the running C function. `slots` are the positions `1 … top`; `base` is
the absolute position below slot 1, which `lua_checkstack` measures against the stack limit;
`ciTop` is `ci->top - base`, the slots the API guarantees. `peak` (the highest top reached)
and `overrun` (some push went past `ciTop`) are ghost state. -/
structure Frame where
  slots : List Value
  base : Nat
  ciTop : Nat
  peak : Nat
  overrun : Bool
  deriving Repr

namespace Frame

def top (fr : Frame) : Nat := fr.slots.length

/-- The frame of a C function on entry: its arguments and `LUA_MINSTACK` free slots. -/
def entry (base : Nat) (args : List Value) : Frame :=
  ⟨args, base, args.length + luaMinStack, args.length, false⟩

/-- Push one value, recording the height reached and whether the slot was guaranteed. -/
def push (fr : Frame) (v : Value) : Frame :=
  { fr with slots := fr.slots ++ [v], peak := max fr.peak (fr.top + 1),
            overrun := fr.overrun || decide (fr.ciTop < fr.top + 1) }

/-- Replace the slots by ones that do not reach higher. -/
def withSlots (fr : Frame) (vs : List Value) : Frame := { fr with slots := vs }

/-- The value at an ordinary index (`1 … top` or `-top … -1`); `none` when it is not valid. -/
def get? (fr : Frame) (idx : Int) : Option Value :=
  if 0 < idx then fr.slots[idx.toNat - 1]?
  else if 0 < -idx ∧ -idx ≤ fr.top then fr.slots[(fr.top + idx).toNat]?
  else none

/-- 0-based list position of an ordinary index. -/
def pos (fr : Frame) (idx : Int) : Nat :=
  if 0 < idx then idx.toNat - 1 else (fr.top + idx).toNat

/-- `lua_settop`: a non-negative index is the new top, a negative one counts from the top;
growth fills with `nil`. -/
def settop (fr : Frame) (idx : Int) : Frame :=
  let n := if 0 ≤ idx then idx.toNat else (fr.top + 1 + idx).toNat
  if n ≤ fr.top then fr.withSlots (fr.slots.take n)
  else (List.replicate (n - fr.top) Value.nil).foldl push fr

/-- `lua_rotate (L, idx, 1)`: the top value moves down to list position `k`. -/
def insert (fr : Frame) (k : Nat) : Frame :=
  match fr.slots.getLast? with
  | none => fr
  | some v => fr.withSlots (fr.slots.dropLast.take k ++ v :: fr.slots.dropLast.drop k)

/-- Overwrite the top value (a `lua_rawget` result, an in-place conversion). -/
def setTop (fr : Frame) (v : Value) : Frame := fr.withSlots (fr.slots.dropLast ++ [v])

/-- The values below the function of a call with `nargs` arguments, the function, and the
arguments. -/
def callSite (fr : Frame) (nargs : Nat) : List Value × Value × List Value :=
  let fpos := fr.top - nargs - 1
  (fr.slots.take fpos, (fr.slots[fpos]?).getD .nil, fr.slots.drop (fpos + 1))

/-- The frame after a call left `rs` in place of its function: `adjustresults` raises
`ci->top` to the new top when the results go past it. -/
def afterCall (fr : Frame) (below rs : List Value) : Frame :=
  { fr with slots := below ++ rs, ciTop := max fr.ciTop (below ++ rs).length }

@[simp] theorem top_entry (base : Nat) (args : List Value) : (entry base args).top = args.length :=
  rfl

@[simp] theorem slots_entry (base : Nat) (args : List Value) : (entry base args).slots = args :=
  rfl

@[simp] theorem base_entry (base : Nat) (args : List Value) : (entry base args).base = base := rfl

@[simp] theorem ciTop_entry (base : Nat) (args : List Value) :
    (entry base args).ciTop = args.length + luaMinStack := rfl

@[simp] theorem overrun_entry (base : Nat) (args : List Value) : (entry base args).overrun = false :=
  rfl

theorem withSlots_self (fr : Frame) : fr.withSlots fr.slots = fr := rfl

theorem insert_of_slots {fr : Frame} {xs : List Value} {v : Value} (hs : fr.slots = xs ++ [v])
    (k : Nat) : fr.insert k = fr.withSlots (xs.take k ++ v :: xs.drop k) := by
  simp [insert, hs]

/-- A call with `nargs` arguments takes the callee and the values above it. -/
theorem callSite_of_slots {fr : Frame} {below args : List Value} {f : Value}
    (hs : fr.slots = below ++ f :: args) : fr.callSite args.length = (below, f, args) := by
  have hpos : fr.top - args.length - 1 = below.length := by simp [top, hs]; omega
  simp [callSite, hpos, hs, List.getElem_append_right]

@[simp] theorem withSlots_slots (fr : Frame) (vs : List Value) : (fr.withSlots vs).slots = vs :=
  rfl

@[simp] theorem push_slots (fr : Frame) (v : Value) : (fr.push v).slots = fr.slots ++ [v] := rfl

@[simp] theorem withSlots_withSlots (fr : Frame) (vs ws : List Value) :
    (fr.withSlots vs).withSlots ws = fr.withSlots ws := rfl

@[simp] theorem base_withSlots (fr : Frame) (vs : List Value) : (fr.withSlots vs).base = fr.base :=
  rfl

@[simp] theorem ciTop_withSlots (fr : Frame) (vs : List Value) :
    (fr.withSlots vs).ciTop = fr.ciTop := rfl

@[simp] theorem overrun_withSlots (fr : Frame) (vs : List Value) :
    (fr.withSlots vs).overrun = fr.overrun := rfl

@[simp] theorem slots_afterCall (fr : Frame) (below rs : List Value) :
    (fr.afterCall below rs).slots = below ++ rs := rfl

@[simp] theorem top_afterCall (fr : Frame) (below rs : List Value) :
    (fr.afterCall below rs).top = below.length + rs.length := by
  simp [afterCall, top]

theorem ciTop_le_afterCall (fr : Frame) (below rs : List Value) :
    fr.ciTop ≤ (fr.afterCall below rs).ciTop :=
  Nat.le_max_left _ _

@[simp] theorem base_afterCall (fr : Frame) (below rs : List Value) :
    (fr.afterCall below rs).base = fr.base := rfl

@[simp] theorem overrun_afterCall (fr : Frame) (below rs : List Value) :
    (fr.afterCall below rs).overrun = fr.overrun := rfl

/-- A negative index `-k` reads the `k`-th value from the top. -/
theorem get?_neg {fr : Frame} {xs ys : List Value} (hs : fr.slots = xs ++ ys) (k : Nat)
    (hk0 : 0 < k) (hk : k ≤ ys.length) : fr.get? (-(k : Int)) = ys[ys.length - k]? := by
  have hidx : ((fr.top : Int) + -(k : Int)).toNat = xs.length + (ys.length - k) := by
    simp only [top, hs, List.length_append]; omega
  have hpos : ¬ (0 : Int) < -(k : Int) := by omega
  have hvalid : 0 < -(-(k : Int)) ∧ -(-(k : Int)) ≤ (fr.top : Int) := by
    simp only [top, hs, List.length_append]; omega
  rw [get?, if_neg hpos, if_pos hvalid, hidx, hs,
    List.getElem?_append_right (Nat.le_add_right _ _), Nat.add_sub_cancel_left]

theorem get?_neg_one {fr : Frame} {xs ys : List Value} (hs : fr.slots = xs ++ ys)
    (h : 1 ≤ ys.length) : fr.get? (-1) = ys[ys.length - 1]? := by
  simpa using get?_neg hs 1 (by decide) h

theorem get?_neg_two {fr : Frame} {xs ys : List Value} (hs : fr.slots = xs ++ ys)
    (h : 2 ≤ ys.length) : fr.get? (-2) = ys[ys.length - 2]? := by
  simpa using get?_neg hs 2 (by decide) h

theorem get?_neg_three {fr : Frame} {xs ys : List Value} (hs : fr.slots = xs ++ ys)
    (h : 3 ≤ ys.length) : fr.get? (-3) = ys[ys.length - 3]? := by
  simpa using get?_neg hs 3 (by decide) h

theorem get?_neg_four {fr : Frame} {xs ys : List Value} (hs : fr.slots = xs ++ ys)
    (h : 4 ≤ ys.length) : fr.get? (-4) = ys[ys.length - 4]? := by
  simpa using get?_neg hs 4 (by decide) h

/-- `lua_settop(L, -(n+1))`, that is `lua_pop(L, n)`, drops the top `n` values. -/
theorem settop_neg {fr : Frame} {xs ys : List Value} (hs : fr.slots = xs ++ ys) :
    fr.settop (-((ys.length : Int) + 1)) = fr.withSlots xs := by
  have hneg : ¬ (0 : Int) ≤ -((ys.length : Int) + 1) := by omega
  have hn : ((fr.top : Int) + 1 + -((ys.length : Int) + 1)).toNat = xs.length := by
    simp only [top, hs, List.length_append]; omega
  have hle : xs.length ≤ fr.top := by simp [top, hs]
  simp only [settop, hneg, if_false, hn, hle, if_true, hs, List.take_left]

theorem settop_neg_two {fr : Frame} {xs : List Value} {a : Value} (hs : fr.slots = xs ++ [a]) :
    fr.settop (-2) = fr.withSlots xs := by
  simpa using settop_neg hs

theorem settop_neg_three {fr : Frame} {xs : List Value} {a b : Value}
    (hs : fr.slots = xs ++ [a, b]) : fr.settop (-3) = fr.withSlots xs := by
  simpa using settop_neg hs

/-- A positive index `k` reads slot `k`. -/
theorem get?_pos {fr : Frame} {k : Int} (hk : 0 < k) : fr.get? k = fr.slots[k.toNat - 1]? := by
  simp [get?, hk]

theorem settop_of_le {fr : Frame} {n : Int} (h0 : 0 ≤ n) (hn : n ≤ fr.top) :
    fr.settop n = fr.withSlots (fr.slots.take n.toNat) := by
  have : n.toNat ≤ fr.top := by omega
  simp [settop, h0, this]

theorem settop_zero (fr : Frame) : fr.settop 0 = fr.withSlots [] := by
  simp [settop]

/-- `lua_pop(L, 1)` drops the top value, on an empty stack too. -/
theorem settop_neg_two_eq (fr : Frame) : fr.settop (-2) = fr.withSlots fr.slots.dropLast := by
  rcases List.eq_nil_or_concat fr.slots with hs | ⟨xs, a, hs⟩
  · simp [settop, top, hs]
  · rw [List.concat_eq_append] at hs
    rw [settop_neg_two hs, hs, List.dropLast_concat]

theorem withSlots_take_eq {fr : Frame} {n : Int} (hn : (fr.top : Int) = n) :
    fr.withSlots (fr.slots.take n.toNat) = fr := by
  rw [List.take_of_length_le (by simp only [top] at hn; omega), withSlots_self]

@[simp] theorem top_push (fr : Frame) (v : Value) : (fr.push v).top = fr.top + 1 := by
  simp [top, push]

@[simp] theorem top_withSlots (fr : Frame) (vs : List Value) :
    (fr.withSlots vs).top = vs.length := rfl

theorem setTop_push (fr : Frame) (k v : Value) : (fr.push k).setTop v = fr.push v := by
  simp [setTop, push, withSlots]

/-! ### Ghost accounting -/

/-- `fr'` is `fr` after pushes that went at most `k` slots above `fr`'s top: the same base
and guaranteed slots, and ghost fields that record no higher push. -/
structure Reach (fr : Frame) (k : Nat) (fr' : Frame) : Prop where
  base : fr'.base = fr.base
  ciTop : fr'.ciTop = fr.ciTop
  peak : fr'.peak ≤ max fr.peak (fr.top + k)
  overrun : fr'.overrun = true → fr.overrun = true ∨ fr.ciTop < fr.top + k

theorem Reach.refl (fr : Frame) (k : Nat) : fr.Reach k fr :=
  ⟨rfl, rfl, Nat.le_max_left _ _, .inl⟩

theorem Reach.mono {fr fr' : Frame} {k k' : Nat} (h : fr.Reach k fr') (hk : k ≤ k') :
    fr.Reach k' fr' where
  base := h.base
  ciTop := h.ciTop
  peak := by have := h.peak; omega
  overrun := fun ho => (h.overrun ho).imp_right fun _ => by omega

theorem Reach.trans {fr fr' fr'' : Frame} {k j : Nat} (h1 : fr.Reach k fr')
    (h2 : fr'.Reach j fr'') (hj : fr'.top + j ≤ fr.top + k) : fr.Reach k fr'' where
  base := h2.base.trans h1.base
  ciTop := h2.ciTop.trans h1.ciTop
  peak := by have := h1.peak; have := h2.peak; omega
  overrun := fun h => (h2.overrun h).elim h1.overrun fun _ => by have := h1.ciTop; omega

theorem Reach.push (fr : Frame) (v : Value) : fr.Reach 1 (fr.push v) where
  base := rfl
  ciTop := rfl
  peak := Nat.le_refl _
  overrun := fun h => by simpa [Frame.push] using h

theorem Reach.withSlots (fr : Frame) (vs : List Value) (k : Nat) :
    fr.Reach k (fr.withSlots vs) :=
  ⟨rfl, rfl, Nat.le_max_left _ _, .inl⟩

theorem Reach.insert (fr : Frame) (j k : Nat) : fr.Reach k (fr.insert j) := by
  unfold Frame.insert
  split
  · exact .refl fr k
  · exact .withSlots fr _ k

/-- Within guaranteed slots, no push overruns. -/
theorem Reach.overrun_of_fits {fr fr' : Frame} {k : Nat} (hr : fr.Reach k fr')
    (hk : fr.top + k ≤ fr.ciTop) (ho : fr'.overrun = true) : fr.overrun = true :=
  (hr.overrun ho).resolve_right (by omega)

/-- `fr'` is reached from `fr` by operations that never pushed past the guaranteed slots:
guaranteed slots were only added, and no new overrun is recorded. -/
structure Within (fr fr' : Frame) : Prop where
  base : fr'.base = fr.base
  ciTop : fr.ciTop ≤ fr'.ciTop
  overrun : fr'.overrun = true → fr.overrun = true

theorem Within.refl (fr : Frame) : fr.Within fr := ⟨rfl, Nat.le_refl _, id⟩

theorem Within.trans {fr fr' fr'' : Frame} (h1 : fr.Within fr') (h2 : fr'.Within fr'') :
    fr.Within fr'' :=
  ⟨h2.base.trans h1.base, Nat.le_trans h1.ciTop h2.ciTop, fun h => h1.overrun (h2.overrun h)⟩

theorem Within.withSlots (fr : Frame) (vs : List Value) : fr.Within (fr.withSlots vs) :=
  ⟨rfl, Nat.le_refl _, id⟩

theorem Reach.within {fr fr' : Frame} {k : Nat} (hr : fr.Reach k fr') (hk : fr.top + k ≤ fr.ciTop) :
    fr.Within fr' :=
  ⟨hr.base, hr.ciTop ▸ Nat.le_refl _, hr.overrun_of_fits hk⟩

/-- Two pushes followed by any shrinking of the slots. -/
theorem Reach.push_push (fr : Frame) (a b : Value) (vs : List Value) :
    fr.Reach 2 (((fr.push a).push b).withSlots vs) :=
  (((Reach.push _ _).mono (by omega)).trans (.push _ _) (by simp)).trans (.withSlots _ _ 0)
    (by simp)

end Frame

/-! ## Outcomes -/

/-- How a run of C code ends; see the module header. `error` and `unwind` keep the frame as
it was at the jump, for the ghost accounting. -/
inductive Res (α : Type) where
  | ok (a : α) (fr : Frame) (h : Heap)
  | error (v : Value) (fr : Frame) (h : Heap)
  | unwind (p : PanicPayload) (fr : Frame) (h : Heap)
  | abort (msg : String)
  | stuck

namespace Res

def bind {α β : Type} (r : Res α) (k : α → Frame → Heap → Res β) : Res β :=
  match r with
  | .ok a fr h => k a fr h
  | .error v fr h => .error v fr h
  | .unwind p fr h => .unwind p fr h
  | .abort msg => .abort msg
  | .stuck => .stuck

variable {α β : Type} {k : α → Frame → Heap → Res β}

@[simp] theorem bind_ok (a : α) (fr : Frame) (h : Heap) : (ok a fr h).bind k = k a fr h := rfl
@[simp] theorem bind_error (v : Value) (fr : Frame) (h : Heap) :
    (error v fr h : Res α).bind k = .error v fr h := rfl
@[simp] theorem bind_unwind (p : PanicPayload) (fr : Frame) (h : Heap) :
    (unwind p fr h : Res α).bind k = .unwind p fr h := rfl
@[simp] theorem bind_abort (msg : String) : (abort msg : Res α).bind k = .abort msg := rfl
@[simp] theorem bind_stuck : (stuck : Res α).bind k = .stuck := rfl

end Res

/-- The frame a run ends with, when it ends in the running thread: it returned, or jumped
out to a protected call or to `catch_unwind`. -/
def Res.frame? {α : Type} : Res α → Option Frame
  | .ok _ fr _ | .error _ fr _ | .unwind _ fr _ => some fr
  | _ => none

/-- How a call of a Lua value ends, seen from its caller. -/
inductive Outcome where
  | ret (vals : List Value) (h : Heap)
  | error (v : Value) (h : Heap)
  | panic (p : PanicPayload) (h : Heap)
  | abort (msg : String)
  | stuck

/-- The outcomes nothing in the bridge resumes from: a panic (caught only by the host), an
abort, and a run out of fuel. -/
def Outcome.Halts : Outcome → Prop
  | .panic _ _ | .abort _ | .stuck => True
  | .ret _ _ | .error _ _ => False

/-- How a run of a C function looks to its caller: the top `n` values of its frame are its
results (`luaD_poscall`); an error or a panic goes on. -/
def Res.toOutcome : Res Int → Outcome
  | .ok n fr h => .ret (fr.slots.drop (fr.top - n.toNat)) h
  | .error v _ h => .error v h
  | .unwind p _ h => .panic p h
  | .abort msg => .abort msg
  | .stuck => .stuck

/-- Nested calls: message handler, callee, arguments, the callee's base, heap. -/
abbrev Caller := Option Value → Value → List Value → Nat → Heap → Outcome

/-- What the running C function reads but never writes. -/
structure Ctx where
  vm : Vm
  tables : Tables
  upvalues : List Value
  call : Caller

/-- A context in the sample state with no tables, no upvalues and no nested calls: enough for a
run that reads none of them. -/
def bareCtx : Ctx := ⟨sampleVm, [], [], fun _ _ _ _ _ => .stuck⟩

/-! ## The monad -/

/-- C code run against a Lua state. -/
def CM (α : Type) : Type := Ctx → Frame → Heap → Res α

namespace CM

def pure {α : Type} (a : α) : CM α := fun _ fr h => .ok a fr h

def bind {α β : Type} (m : CM α) (k : α → CM β) : CM β :=
  fun c fr h => (m c fr h).bind fun a => k a c

instance : Monad CM where
  pure := CM.pure
  bind := CM.bind

variable {α β : Type}

@[simp] theorem pure_apply (a : α) (c : Ctx) (fr : Frame) (h : Heap) :
    (Pure.pure a : CM α) c fr h = .ok a fr h := rfl

@[simp] theorem bind_apply (m : CM α) (k : α → CM β) (c : Ctx) (fr : Frame) (h : Heap) :
    (m >>= k) c fr h = (m c fr h).bind fun a => k a c := rfl

/-- Returning a value after a run ends in the frame the run ended in. -/
@[simp] theorem frame?_bind_pure (r : Res α) (b : β) (c : Ctx) :
    (r.bind fun _ => (Pure.pure b : CM β) c).frame? = r.frame? := by
  cases r <;> rfl

/-- The parameters of the running state. -/
def vm : CM Vm := fun c fr h => .ok c.vm fr h

/-- The registry keys of the running state. -/
def keys : CM Keys := fun c fr h => .ok c.vm.keys fr h

end CM

/-! ## Stack primitives -/

/-- The value at an index, pseudo-indices included: the registry, and the upvalues of the
running C closure. An invalid index reads `none`. -/
def indexValue? (c : Ctx) (fr : Frame) (idx : Int) : Option Value :=
  if idx = luaRegistryIndex then some (.table registryRef)
  else if idx < luaRegistryIndex then c.upvalues[(luaRegistryIndex - idx - 1).toNat]?
  else fr.get? idx

/-- The value at an index, `nil` when the index is not valid. -/
def indexValue (c : Ctx) (fr : Frame) (idx : Int) : Value := (indexValue? c fr idx).getD .nil

section IndexValue

variable {c : Ctx} {fr : Frame} {xs : List Value} {a b : Value}

theorem indexValue?_neg_one (hs : fr.slots = xs ++ [a]) : indexValue? c fr (-1) = some a := by
  simp [indexValue?, luaRegistryIndex, Frame.get?_neg_one hs (by simp)]

theorem indexValue_neg_one (hs : fr.slots = xs ++ [a]) : indexValue c fr (-1) = a := by
  simp [indexValue, indexValue?_neg_one hs]

theorem indexValue?_neg_two (hs : fr.slots = xs ++ [a, b]) : indexValue? c fr (-2) = some a := by
  simp [indexValue?, luaRegistryIndex, Frame.get?_neg_two hs (by simp)]

theorem indexValue_neg_two (hs : fr.slots = xs ++ [a, b]) : indexValue c fr (-2) = a := by
  simp [indexValue, indexValue?_neg_two hs]

theorem indexValue_one (hs : fr.slots = a :: xs) : indexValue c fr 1 = a := by
  simp [indexValue, indexValue?, luaRegistryIndex, Frame.get?, hs]

theorem indexValue_registry : indexValue c fr luaRegistryIndex = .table registryRef := by
  simp [indexValue, indexValue?]

/-- What an index reads depends on the slots only. -/
theorem indexValue_of_slots_eq {fr' : Frame} (hs : fr'.slots = fr.slots) (idx : Int) :
    indexValue c fr' idx = indexValue c fr idx := by
  simp [indexValue, indexValue?, Frame.get?, Frame.top, hs]

/-- The top value, `nil` on an empty stack. -/
theorem indexValue_neg_one_eq (c : Ctx) (fr : Frame) :
    indexValue c fr (-1) = fr.slots.getLast?.getD .nil := by
  rcases List.eq_nil_or_concat fr.slots with hs | ⟨xs, v, hs⟩
  · simp [indexValue, indexValue?, luaRegistryIndex, Frame.get?, Frame.top, hs]
  · rw [List.concat_eq_append] at hs
    simp [indexValue_neg_one hs, hs]

/-- A positive index counts from the bottom of the frame. -/
theorem indexValue_of_pos (c : Ctx) (fr : Frame) {k : Int} (hk : 0 < k) :
    indexValue c fr k = fr.slots.getD (k.toNat - 1) .nil := by
  have h1 : k ≠ luaRegistryIndex := by simp [luaRegistryIndex]; omega
  have h2 : ¬ k < luaRegistryIndex := by simp [luaRegistryIndex]; omega
  simp [indexValue, indexValue?, h1, h2, Frame.get?, hk, List.getD_eq_getElem?_getD]

/-- The first upvalue of the running C closure. -/
theorem indexValue_upvalue_one (c : Ctx) (fr : Frame) :
    indexValue c fr (luaUpvalueindex 1) = c.upvalues.getD 0 .nil := by
  simp [indexValue, indexValue?, luaUpvalueindex, luaRegistryIndex, List.getD_eq_getElem?_getD]

/-- A non-`nil` value read at `-1` is the last slot. -/
theorem slots_of_indexValue_neg_one (hv : indexValue c fr (-1) = a) (ha : a ≠ .nil) :
    ∃ xs, fr.slots = xs ++ [a] := by
  rcases hs : fr.slots.getLast? with _ | b
  · rw [List.getLast?_eq_none_iff] at hs
    simp [indexValue, indexValue?, luaRegistryIndex, Frame.get?, Frame.top, hs] at hv
    exact absurd hv.symm ha
  · obtain ⟨ys, hys⟩ := List.getLast?_eq_some_iff.1 hs
    exact ⟨ys, by rw [hys, ← indexValue_neg_one hys, hv]⟩

end IndexValue

def luaGettop : CM Int := fun _ fr h => .ok fr.top fr h

def luaSettop (idx : Int) : CM Unit := fun _ fr h => .ok () (fr.settop idx) h

def luaPop (n : Int) : CM Unit := luaSettop (-n - 1)

def luaPushvalue (idx : Int) : CM Unit := fun c fr h => .ok () (fr.push (indexValue c fr idx)) h

def luaInsert (idx : Int) : CM Unit := fun _ fr h => .ok () (fr.insert (fr.pos idx)) h

def luaRemove (idx : Int) : CM Unit :=
  fun _ fr h => .ok () (fr.withSlots (fr.slots.eraseIdx (fr.pos idx))) h

def luaCopy (fromidx toidx : Int) : CM Unit := fun c fr h =>
  .ok () (fr.withSlots (fr.slots.set (fr.pos toidx) (indexValue c fr fromidx))) h

/-- `lua_replace`, a macro for `lua_copy(L, -1, idx); lua_pop(L, 1)` in Lua 5.3. -/
def luaReplace (idx : Int) : CM Unit := do
  luaCopy (-1) idx
  luaPop 1

def luaPushboolean (b : Int) : CM Unit := fun _ fr h => .ok () (fr.push (.boolean (b ≠ 0))) h

def luaPushstring (s : String) : CM Unit := fun _ fr h => .ok () (fr.push (.string s)) h

def luaPushlstring (s : String) : CM Unit := luaPushstring s

def luaPushlightuserdata (p : Nat) : CM Unit :=
  fun _ fr h => .ok () (fr.push (.lightUserdata p)) h

def luaPushcfunction (f : CFn) : CM Unit := fun _ fr h => .ok () (fr.push (.cfunction f)) h

/-- `lua_pushcclosure` with one upvalue, the only form `util.rs` uses: pops the upvalue and
pushes the closure. -/
def luaPushcclosure (f : CFn) (n : Int) : CM Unit := fun c fr h =>
  .ok () ((fr.settop (-n - 1)).push (.cclosure f (indexValue c fr (-1)))) h

/-! ## Userdata and metatables -/

/-- A pointer from `lua_touserdata`: a full userdata block or a light pointer. -/
inductive Ptr where
  | block (r : Nat)
  | light (p : Nat)
  deriving DecidableEq, Repr

/-- `lua_newuserdata`: allocates an uninitialised block with no metatable and pushes it. -/
def luaNewuserdata : CM Ptr := fun _ fr h =>
  .ok (.block h.userdata.length) (fr.push (.userdata h.userdata.length))
    (h.alloc ⟨.uninit, none, false⟩)

/-- The pointer `lua_touserdata` returns for a value: full and light userdata only. -/
def Value.toPtr? : Value → Option Ptr
  | .userdata r => some (.block r)
  | .lightUserdata p => some (.light p)
  | _ => none

def luaTouserdata (idx : Int) : CM (Option Ptr) := fun c fr h =>
  .ok (indexValue c fr idx).toPtr? fr h

/-- The table a metatable argument refers to; any other value clears the metatable. -/
def Value.tableRef? : Value → Option Nat
  | .table t => some t
  | _ => none

/-- The metatable of a value. Only full userdata carry one here: nothing in the bridge sets the
metatable of another type. -/
def metatableOf (h : Heap) : Value → Option Nat
  | .userdata r => (h.userdata[r]?).bind (·.meta)
  | _ => none

/-- Whether a metatable has a `__gc` field. -/
def hasGc (ts : Tables) : Option Nat → Bool
  | some t => ts.rawget t (.string "__gc") != .nil
  | none => false

/-- A block given the metatable `mt`, marked for finalization when `mt` has `__gc`. -/
def Userdata.withMetatable (ts : Tables) (mt : Option Nat) (u : Userdata) : Userdata :=
  { u with meta := mt, toFinalize := u.toFinalize || hasGc ts mt }

/-- Whether `v` has the table `mt` as its metatable. -/
def hasMetatable (h : Heap) (v mt : Value) : Bool :=
  match metatableOf h v with
  | some t => decide (mt = .table t)
  | none => false

theorem eq_userdata_of_metatableOf {h : Heap} {v : Value} {t : Nat}
    (ht : metatableOf h v = some t) : ∃ r, v = .userdata r := by
  cases v <;> simp_all [metatableOf]

theorem eq_userdata_of_hasMetatable {h : Heap} {v mt : Value} (hm : hasMetatable h v mt = true) :
    ∃ r, v = .userdata r := by
  unfold hasMetatable at hm
  split at hm
  · exact eq_userdata_of_metatableOf ‹_›
  · cases hm

/-- A value has at most one metatable. -/
theorem hasMetatable_table_inj {h : Heap} {v : Value} {t t' : Nat}
    (ht : hasMetatable h v (.table t) = true) (ht' : hasMetatable h v (.table t') = true) :
    t = t' := by
  unfold hasMetatable at ht ht'
  split at ht <;> simp_all

def luaGetmetatable (idx : Int) : CM Int := fun c fr h =>
  match metatableOf h (indexValue c fr idx) with
  | some t => .ok 1 (fr.push (.table t)) h
  | none => .ok 0 fr h

/-- `lua_setmetatable`: pops a table (or `nil`) and makes it the metatable of the value at
`idx`. A metatable with `__gc` marks the object for finalization (`luaC_checkfinalizer`). -/
def luaSetmetatable (idx : Int) : CM Unit := fun c fr h =>
  let mt := (indexValue c fr (-1)).tableRef?
  match indexValue c fr idx with
  | .userdata r =>
    .ok () (fr.settop (-2)) (h.modifyUserdata r (Userdata.withMetatable c.tables mt))
  | _ => .ok () (fr.settop (-2)) h

/-- `lua_rawget`: replaces the key on top by its value in the table at `idx`. -/
def luaRawget (idx : Int) : CM Unit := fun c fr h =>
  let v := match indexValue c fr idx with
    | .table t => c.tables.rawget t (indexValue c fr (-1))
    | _ => .nil
  .ok () (fr.setTop v) h

def luaRawgeti (idx : Int) (n : Int) : CM Unit := fun c fr h =>
  let v := match indexValue c fr idx with
    | .table t => c.tables.rawget t (.integer n)
    | _ => .nil
  .ok () (fr.push v) h

/-- `lua_rawequal`: 1 when both indices are valid and hold primitively equal values. -/
def luaRawequal (i1 i2 : Int) : CM Int := fun c fr h =>
  .ok (match indexValue? c fr i1, indexValue? c fr i2 with
    | some a, some b => if a = b then 1 else 0
    | _, _ => 0) fr h

/-- The string `lua_tostring` gives for a value: strings, and numbers converted. -/
def Value.tostring? : Value → Option String
  | .string s => some s
  | .integer i => some (toString i)
  | _ => none

/-- `lua_tostring`: strings, and integers converted in place; `NULL` for other values. -/
def luaTostring (idx : Int) : CM (Option String) := fun c fr h =>
  match indexValue c fr idx with
  | .integer i =>
    .ok (some (toString i)) (fr.withSlots (fr.slots.set (fr.pos idx) (.string (toString i)))) h
  | v => .ok v.tostring? fr h

/-- `lua_tostring` changes at most the slot it converts. -/
theorem luaTostring_spec (c : Ctx) (fr : Frame) (idx : Int) :
    ∃ vs : List Value, vs.length = fr.slots.length ∧ ∀ h,
      luaTostring idx c fr h = .ok (indexValue c fr idx).tostring? (fr.withSlots vs) h := by
  cases hv : indexValue c fr idx
  case integer i =>
    exact ⟨fr.slots.set (fr.pos idx) (.string (toString i)), List.length_set ..,
      fun h => by simp [luaTostring, hv, Value.tostring?]⟩
  all_goals exact ⟨fr.slots, rfl, fun h => by simp [luaTostring, hv, Frame.withSlots_self]⟩

/-- `lua_tostring` of the top value: its string, and the top slot possibly converted. -/
theorem luaTostring_top {c : Ctx} {fr : Frame} {xs : List Value} {v : Value}
    (hs : fr.slots = xs ++ [v]) :
    ∃ v', ∀ h, luaTostring (-1) c fr h = .ok v.tostring? (fr.withSlots (xs ++ [v'])) h := by
  have hpos : fr.pos (-1) = xs.length := by
    rw [Frame.pos, if_neg (by decide)]
    simp only [Frame.top, hs, List.length_append, List.length_singleton]; omega
  cases v
  case integer i =>
    exact ⟨.string (toString i), fun h => by
      simp [luaTostring, indexValue_neg_one hs, hpos, hs, Value.tostring?]⟩
  all_goals exact ⟨_, fun h => by
    rw [← hs, Frame.withSlots_self]; simp [luaTostring, indexValue_neg_one hs]⟩

def luaTothread (idx : Int) : CM (Option Nat) := fun c fr h =>
  .ok (match indexValue c fr idx with
    | .thread r => some r
    | _ => none) fr h

/-! ## Stack space, errors, collector -/

/-- `lua_checkstack`: 1 when `n` more slots are guaranteed, growing `ci->top` within the stack
limit; 0 when the stack cannot grow that far. -/
def luaCheckstack (n : Int) : CM Int := fun c fr h =>
  if fr.top + n.toNat ≤ fr.ciTop then .ok 1 fr h
  else if fr.base + fr.top + n.toNat ≤ c.vm.maxStack then
    .ok 1 { fr with ciTop := fr.top + n.toNat } h
  else .ok 0 fr h

/-- `lua_error`: raises the value on top of the stack. -/
def luaError {α : Type} : CM α := fun c fr h => .error (indexValue c fr (-1)) fr h

/-- `luaL_error` from a C function: the message carries no position prefix. -/
def luaLError {α : Type} (msg : String) : CM α := do
  luaPushstring msg
  luaError

/-- `luaL_checkstack` with a `NULL` message. -/
def luaLCheckstack (n : Int) : CM Unit := do
  if (← luaCheckstack n) = 0 then luaLError "stack overflow"

/-- Whether `lua_checkstack(L, n)` can guarantee `n` more slots: they are guaranteed already,
or the stack can grow that far. -/
def Frame.HasRoom (vm : Vm) (fr : Frame) (n : Nat) : Prop :=
  fr.top + n ≤ fr.ciTop ∨ fr.base + fr.top + n ≤ vm.maxStack

/-- `fr'` is `fr` with possibly more guaranteed slots. -/
structure Frame.Grows (fr fr' : Frame) : Prop where
  slots : fr'.slots = fr.slots
  base : fr'.base = fr.base
  peak : fr'.peak = fr.peak
  overrun : fr'.overrun = fr.overrun
  ciTop : fr.ciTop ≤ fr'.ciTop

theorem Frame.Grows.within {fr fr' : Frame} (hg : fr.Grows fr') : fr.Within fr' :=
  ⟨hg.base, hg.ciTop, fun h => hg.overrun ▸ h⟩

section Checkstack

variable {c : Ctx} {fr : Frame} {h : Heap} {n : Nat}

theorem luaCheckstack_of_room (hr : fr.HasRoom c.vm n) :
    ∃ fr', luaCheckstack n c fr h = .ok 1 fr' h ∧ fr.Grows fr' ∧ fr'.top + n ≤ fr'.ciTop := by
  by_cases h1 : fr.top + n ≤ fr.ciTop
  · exact ⟨fr, by simp [luaCheckstack, h1], ⟨rfl, rfl, rfl, rfl, Nat.le_refl _⟩, h1⟩
  · have h2 : fr.base + fr.top + n ≤ c.vm.maxStack := hr.resolve_left h1
    exact ⟨{ fr with ciTop := fr.top + n }, by simp [luaCheckstack, h1, h2],
      ⟨rfl, rfl, rfl, rfl, by simp only; omega⟩, by simp [Frame.top]⟩

theorem luaCheckstack_of_not_room (hr : ¬ fr.HasRoom c.vm n) :
    luaCheckstack n c fr h = .ok 0 fr h := by
  simp only [Frame.HasRoom, not_or] at hr
  simp [luaCheckstack, hr.1, hr.2]

theorem luaLCheckstack_of_room (hr : fr.HasRoom c.vm n) :
    ∃ fr', luaLCheckstack n c fr h = .ok () fr' h ∧ fr.Grows fr' ∧ fr'.top + n ≤ fr'.ciTop := by
  obtain ⟨fr', h1, hg, hn⟩ := luaCheckstack_of_room (h := h) hr
  exact ⟨fr', by simp [luaLCheckstack, h1], hg, hn⟩

theorem luaCheckstack_of_fits (hk : fr.top + n ≤ fr.ciTop) : luaCheckstack n c fr h = .ok 1 fr h := by
  simp [luaCheckstack, hk]

theorem luaLCheckstack_of_fits (hk : fr.top + n ≤ fr.ciTop) :
    luaLCheckstack n c fr h = .ok () fr h := by
  simp [luaLCheckstack, luaCheckstack_of_fits hk]

/-- A C function can always reserve 2 slots on entry. -/
theorem luaLCheckstack_entry (c : Ctx) (base : Nat) (args : List Value) (h : Heap) :
    luaLCheckstack 2 c (Frame.entry base args) h = .ok () (Frame.entry base args) h :=
  luaLCheckstack_of_fits (by simp [luaMinStack])

theorem luaLCheckstack_of_not_room (hr : ¬ fr.HasRoom c.vm n) :
    luaLCheckstack n c fr h =
      .error (.string "stack overflow") (fr.push (.string "stack overflow")) h := by
  have hs : (fr.push (.string "stack overflow")).slots = fr.slots ++ [_] := rfl
  simp [luaLCheckstack, luaCheckstack_of_not_room hr, luaLError, luaPushstring, luaError,
    indexValue_neg_one hs]

end Checkstack

def luaGc (what : Int) : CM Int := fun _ fr h =>
  if what = luaGcIsrunning then .ok (if h.gcRunning then 1 else 0) fr h
  else if what = luaGcStop then .ok 0 fr { h with gcRunning := false }
  else if what = luaGcRestart then .ok 0 fr { h with gcRunning := true }
  else .ok 0 fr h

/-- `luaL_traceback` of the running thread: pushes the message followed by a traceback. -/
def luaLTraceback (msg : Option String) : CM Unit :=
  fun c fr h => .ok () (fr.push (.string (c.vm.traceback msg))) h

/-! ## Calls -/

/-- Results adjusted to `nresults`, as `luaD_poscall` leaves them. -/
def adjustResults (nresults : Int) (rs : List Value) : List Value :=
  if nresults = luaMultret then rs
  else (rs ++ List.replicate nresults.toNat Value.nil).take nresults.toNat

/-- `lua_pcall`. On an error the message handler at `msgh` (if any) has been applied by the
callee and the error object replaces the function and its arguments. A Rust panic is not
caught by Lua. -/
def luaPcall (nargs nresults msgh : Int) : CM Int := fun c fr h =>
  let site := fr.callSite nargs.toNat
  let handler := if msgh = 0 then none else some (indexValue c fr msgh)
  match c.call handler site.2.1 site.2.2 (fr.base + site.1.length + 1) h with
  | .ret rs h' => .ok luaOk (fr.afterCall site.1 (adjustResults nresults rs)) h'
  | .error v h' => .ok luaErrRun (fr.afterCall site.1 [v]) h'
  | .panic p h' => .unwind p (fr.withSlots site.1) h'
  | .abort msg => .abort msg
  | .stuck => .stuck

/-- `lua_call`: an error propagates to the enclosing protected call. -/
def luaCall (nargs nresults : Int) : CM Unit := fun c fr h =>
  let site := fr.callSite nargs.toNat
  match c.call none site.2.1 site.2.2 (fr.base + site.1.length + 1) h with
  | .ret rs h' => .ok () (fr.afterCall site.1 (adjustResults nresults rs)) h'
  | .error v h' => .error v (fr.withSlots site.1) h'
  | .panic p h' => .unwind p (fr.withSlots site.1) h'
  | .abort msg => .abort msg
  | .stuck => .stuck

/-! ## The Rust side -/

/-- `panic!` / `resume_unwind`. -/
def rustPanic {α : Type} (p : PanicPayload) : CM α := fun _ fr h => .unwind p fr h

/-- `catch_unwind`: a panic becomes `Err`; a Lua error jumps straight through. -/
def catchUnwind {α : Type} (m : CM α) : CM (Except PanicPayload α) := fun c fr h =>
  match m c fr h with
  | .ok a fr' h' => .ok (.ok a) fr' h'
  | .unwind p fr' h' => .ok (.error p) fr' h'
  | .error v fr' h' => .error v fr' h'
  | .abort msg => .abort msg
  | .stuck => .stuck

/-- `std::process::abort`. -/
def processAbort {α : Type} (msg : String) : CM α := fun _ _ _ => .abort msg

/-- What a read of a userdata block as the wrong Rust type amounts to. -/
def undefinedRead : String := "undefined behaviour: userdata read as another type"

/-- The Rust value in a userdata block. -/
def contentsAt (h : Heap) : Ptr → Option Contents
  | .block r => (h.userdata[r]?).map (·.contents)
  | .light _ => none

/-- Whether contents are a value of the given envelope type. -/
def Contents.isKind : Contents → Wrapped → Bool
  | .wrappedError _, .error => true
  | .wrappedPanic _, .panic => true
  | _, _ => false

/-- `ptr::write` into a userdata block. -/
def ptrWrite (p : Ptr) (x : Contents) : CM Unit := fun _ fr h =>
  match p with
  | .block r => .ok () fr (h.modifyUserdata r fun u => { u with contents := x })
  | .light _ => .abort undefinedRead

/-- The `Error` inside a `*mut WrappedError` (`(*ud).0`, cloned or displayed). -/
def readWrappedError (p : Ptr) : CM Error := fun _ fr h =>
  match contentsAt h p with
  | some (.wrappedError e) => .ok e fr h
  | _ => .abort undefinedRead

/-- `(*ud).0.take()` through a `*mut WrappedPanic`. -/
def takeWrappedPanic (p : Ptr) : CM (Option PanicPayload) := fun _ fr h =>
  match p, contentsAt h p with
  | .block r, some (.wrappedPanic o) =>
    .ok o fr (h.modifyUserdata r fun u => { u with contents := .wrappedPanic none })
  | _, _ => .abort undefinedRead

theorem contentsAt_modifyUserdata_self (h : Heap) (r : Nat) (f : Userdata → Userdata) :
    contentsAt (h.modifyUserdata r f) (.block r) = (h.userdata[r]?).map fun u => (f u).contents := by
  simp [contentsAt, Heap.userdata_modifyUserdata, Function.comp_def]

/-- `ptr::read` of an envelope of type `k` out of a block, which is left moved-out. -/
def ptrRead (k : Wrapped) (p : Ptr) : CM Contents := fun _ fr h =>
  match p, contentsAt h p with
  | .block r, some x =>
    if x.isKind k then .ok x fr (h.modifyUserdata r fun u => { u with contents := .moved })
    else .abort undefinedRead
  | _, _ => .abort undefinedRead

theorem ptrRead_cases (k : Wrapped) (p : Ptr) (c : Ctx) (fr : Frame) (h : Heap) :
    (∃ x h', ptrRead k p c fr h = .ok x fr h') ∨ ptrRead k p c fr h = .abort undefinedRead := by
  unfold ptrRead
  split
  · split
    · exact .inl ⟨_, _, rfl⟩
    · exact .inr rfl
  · exact .inr rfl

/-! ## Evaluation lemmas

One `rfl` lemma per primitive, so that proofs about the bridge rewrite a call of a primitive
instead of unfolding it. -/

section Apply

variable (c : Ctx) (fr : Frame) (h : Heap)

@[simp] theorem luaGettop_apply : luaGettop c fr h = .ok (fr.top : Int) fr h := rfl
@[simp] theorem luaSettop_apply (idx : Int) : luaSettop idx c fr h = .ok () (fr.settop idx) h :=
  rfl
@[simp] theorem luaPop_apply (n : Int) : luaPop n c fr h = .ok () (fr.settop (-n - 1)) h := rfl
@[simp] theorem luaPushvalue_apply (idx : Int) :
    luaPushvalue idx c fr h = .ok () (fr.push (indexValue c fr idx)) h := rfl
@[simp] theorem luaInsert_apply (idx : Int) :
    luaInsert idx c fr h = .ok () (fr.insert (fr.pos idx)) h := rfl
@[simp] theorem luaPushboolean_apply (b : Int) :
    luaPushboolean b c fr h = .ok () (fr.push (.boolean (b ≠ 0))) h := rfl
@[simp] theorem luaPushstring_apply (s : String) :
    luaPushstring s c fr h = .ok () (fr.push (.string s)) h := rfl
@[simp] theorem luaPushlightuserdata_apply (p : Nat) :
    luaPushlightuserdata p c fr h = .ok () (fr.push (.lightUserdata p)) h := rfl
@[simp] theorem luaPushcfunction_apply (f : CFn) :
    luaPushcfunction f c fr h = .ok () (fr.push (.cfunction f)) h := rfl
@[simp] theorem luaError_apply {α : Type} :
    (luaError : CM α) c fr h = .error (indexValue c fr (-1)) fr h := rfl
@[simp] theorem rustPanic_apply {α : Type} (p : PanicPayload) :
    (rustPanic p : CM α) c fr h = .unwind p fr h := rfl
@[simp] theorem processAbort_apply {α : Type} (msg : String) :
    (processAbort msg : CM α) c fr h = .abort msg := rfl
@[simp] theorem vm_apply : CM.vm c fr h = .ok c.vm fr h := rfl
@[simp] theorem keys_apply : CM.keys c fr h = .ok c.vm.keys fr h := rfl
@[simp] theorem luaTouserdata_apply (idx : Int) :
    luaTouserdata idx c fr h = .ok (indexValue c fr idx).toPtr? fr h := rfl
@[simp] theorem luaNewuserdata_apply :
    luaNewuserdata c fr h = .ok (.block h.userdata.length) (fr.push (.userdata h.userdata.length))
      (h.alloc ⟨.uninit, none, false⟩) := rfl
@[simp] theorem luaPushlstring_apply (s : String) :
    luaPushlstring s c fr h = .ok () (fr.push (.string s)) h := rfl

variable {c fr h}

theorem luaGetmetatable_of_none {idx : Int} (hm : metatableOf h (indexValue c fr idx) = none) :
    luaGetmetatable idx c fr h = .ok 0 fr h := by
  simp [luaGetmetatable, hm]

theorem luaGetmetatable_of_some {idx : Int} {t : Nat}
    (hm : metatableOf h (indexValue c fr idx) = some t) :
    luaGetmetatable idx c fr h = .ok 1 (fr.push (.table t)) h := by
  simp [luaGetmetatable, hm]

/-- `lua_setmetatable(L, -2)` on a userdata below the new metatable. -/
theorem luaSetmetatable_userdata {xs : List Value} {r : Nat} {mt : Value}
    (hs : fr.slots = xs ++ [.userdata r, mt]) :
    luaSetmetatable (-2) c fr h = .ok () (fr.withSlots (xs ++ [.userdata r]))
      (h.modifyUserdata r (Userdata.withMetatable c.tables mt.tableRef?)) := by
  have hs' : fr.slots = (xs ++ [.userdata r]) ++ [mt] := by simp [hs]
  simp [luaSetmetatable, indexValue_neg_one hs', indexValue_neg_two hs, Frame.settop_neg_two hs']

theorem ptrWrite_block (r : Nat) (x : Contents) :
    ptrWrite (.block r) x c fr h = .ok () fr (h.modifyUserdata r fun u => { u with contents := x }) :=
  rfl

end Apply

end Rlua
