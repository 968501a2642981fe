import Rlua.Util.Callback

/-!
# Building the registry metatables

`init_error_metatables` is the one place that writes tables: it creates the error, panic and
destructed-userdata metatables and stores them in the registry under the three static keys.
It runs in `InitM`, where the tables are state; the frame operations it shares with the C
functions are lifted from `CM`.

`initTables_eq` computes the tables it leaves. Everything after it reads them only, through
the `tables` of `Ctx`.
-/

namespace Rlua

/-- The state `init_error_metatables` changes: the main thread's frame and the tables. -/
structure InitState where
  frame : Frame
  tables : Tables

/-- Code that may also write tables. It fails only on a failed internal assertion. -/
def InitM (α : Type) : Type := Vm → InitState → Option (α × InitState)

namespace InitM

def pure {α : Type} (a : α) : InitM α := fun _ st => some (a, st)

def bind {α β : Type} (m : InitM α) (k : α → InitM β) : InitM β := fun vm st =>
  match m vm st with
  | some (a, st') => k a vm st'
  | none => none

instance : Monad InitM where
  pure := InitM.pure
  bind := InitM.bind

/-- No call is made while the metatables are built. -/
def noCalls : Caller := fun _ _ _ _ _ => .stuck

/-- A frame operation of `CM`, run against the tables built so far. -/
def lift {α : Type} (m : CM α) : InitM α := fun vm st =>
  match m ⟨vm, st.tables, [], noCalls⟩ st.frame ⟨[], true⟩ with
  | .ok a fr _ => some (a, { st with frame := fr })
  | _ => none

instance : MonadLift CM InitM := ⟨InitM.lift⟩

variable {α β : Type} (vm : Vm) (st : InitState)

@[simp] theorem pure_apply (a : α) : (Pure.pure a : InitM α) vm st = some (a, st) := rfl

@[simp] theorem bind_apply (m : InitM α) (k : α → InitM β) :
    (m >>= k) vm st = match m vm st with
      | some (a, st') => k a vm st'
      | none => none := rfl

@[simp] theorem lift_apply (m : CM α) :
    (liftM m : InitM α) vm st =
      match m ⟨vm, st.tables, [], noCalls⟩ st.frame ⟨[], true⟩ with
      | .ok a fr _ => some (a, { st with frame := fr })
      | _ => none := rfl

end InitM

/-- `lua_newtable`: a fresh empty table, pushed. -/
def luaNewtable : InitM Unit := fun _ st =>
  some ((), ⟨st.frame.push (.table st.tables.length), st.tables ++ [[]]⟩)

/-- `lua_rawset`: `t[k] = v` for the table `t` at `idx`, the key below the top and the value
on top; pops both. -/
def luaRawset (idx : Int) : InitM Unit := fun vm st =>
  let c : Ctx := ⟨vm, st.tables, [], InitM.noCalls⟩
  match indexValue c st.frame idx with
  | .table t =>
    some ((), ⟨st.frame.settop (-3), st.tables.modify
      (fun tbl => tbl.rawset (indexValue c st.frame (-2)) (indexValue c st.frame (-1))) t⟩)
  | _ => none

/-- `safe::lua_pushrfunction(..).unwrap()` (`safe.rs`, not in the excerpt): pushes the Rust
function as a Lua function value. -/
def luaPushrfunction (f : CFn) : InitM Unit := liftM (luaPushcfunction f)

/-- The events the destructed-userdata metatable answers with `destructed_error`. -/
def destructedEvents : List String :=
  ["__add", "__sub", "__mul", "__div", "__mod", "__pow", "__unm", "__idiv", "__band", "__bor",
   "__bxor", "__bnot", "__shl", "__shr", "__concat", "__len", "__eq", "__lt", "__le", "__index",
   "__newindex", "__call", "__tostring", "__pairs", "__ipairs"]

/-- The loop of `init_error_metatables` over `destructedEvents`: each method is set, in the
table below the top, to the function on top. -/
def setDestructedEvents : List String → InitM Unit
  | [] => pure ()
  | method :: methods => do
    luaPushstring method
    luaPushvalue (-2)
    luaRawset (-4)
    setDestructedEvents methods

/-- `init_error_metatables`, "Create error metatable". -/
def createErrorMetatable : InitM Unit := do
  luaPushlightuserdata (← CM.keys).error
  luaNewtable
  luaPushstring "__gc"
  luaPushcfunction (.userdataDestructor .error)
  luaRawset (-3)
  luaPushstring "__tostring"
  luaPushrfunction .errorTostring
  luaRawset (-3)
  luaPushstring "__metatable"
  luaPushboolean 0
  luaRawset (-3)
  luaRawset luaRegistryIndex

/-- `init_error_metatables`, "Create panic metatable". -/
def createPanicMetatable : InitM Unit := do
  luaPushlightuserdata (← CM.keys).panic
  luaNewtable
  luaPushstring "__gc"
  luaPushcfunction (.userdataDestructor .panic)
  luaRawset (-3)
  luaPushstring "__metatable"
  luaPushboolean 0
  luaRawset (-3)
  luaRawset luaRegistryIndex

/-- `init_error_metatables`, "Create destructed userdata metatable". -/
def createDestructedMetatable : InitM Unit := do
  luaPushlightuserdata (← CM.keys).destructed
  luaNewtable
  luaPushrfunction .destructedError
  setDestructedEvents destructedEvents
  luaPop 1
  luaRawset luaRegistryIndex

/-- `init_error_metatables`, section by section. -/
def initErrorMetatables : InitM Unit := do
  checkStack 8
  createErrorMetatable
  createPanicMetatable
  createDestructedMetatable

/-! ## The tables after initialisation -/

/-- The tables of a fresh state: the registry, holding the main thread at
`LUA_RIDX_MAINTHREAD` and the globals at `LUA_RIDX_GLOBALS`, and the empty globals. -/
def freshTables : Tables :=
  [[(.integer luaRidxMainthread, .thread 0), (.integer 2, .table 1)], []]

/-- The main thread's frame before any call. -/
def freshFrame : Frame := Frame.entry 0 []

/-- The tables once `init_error_metatables` has run on a fresh state. -/
def initTables (vm : Vm) : Tables :=
  match initErrorMetatables vm ⟨freshFrame, freshTables⟩ with
  | some (_, st) => st.tables
  | none => freshTables

def errorMetatableRef : Nat := 2
def panicMetatableRef : Nat := 3
def destructedMetatableRef : Nat := 4

/-- The error metatable as built: `__gc`, `__tostring`, and `__metatable = false`. -/
def errorMetatable : Table :=
  [(.string "__metatable", .boolean false), (.string "__tostring", .cfunction .errorTostring),
   (.string "__gc", .cfunction (.userdataDestructor .error))]

/-- The panic metatable as built: `__gc` and `__metatable = false`. -/
def panicMetatable : Table :=
  [(.string "__metatable", .boolean false),
   (.string "__gc", .cfunction (.userdataDestructor .panic))]

/-- The destructed-userdata metatable as built: every event of `destructedEvents`, and no
`__gc` or `__metatable`. -/
def destructedMetatable : Table :=
  destructedEvents.reverse.map fun m => (.string m, .cfunction .destructedError)

/-- The registry after initialisation. -/
def initRegistry (keys : Keys) : Table :=
  [(.lightUserdata keys.destructed, .table destructedMetatableRef),
   (.lightUserdata keys.panic, .table panicMetatableRef),
   (.lightUserdata keys.error, .table errorMetatableRef),
   (.integer luaRidxMainthread, .thread 0), (.integer 2, .table 1)]

/-- One pass of the event loop sets each method, in the table `t` below the function `f` on
top, to `f`, and leaves the stack as it found it. -/
theorem setDestructedEvents_apply (vm : Vm) (ms : List String) (st : InitState)
    (xs : List Value) (t : Nat) (f : Value) (hs : st.frame.slots = xs ++ [.table t, f]) :
    ∃ fr', setDestructedEvents ms vm st = some ((), ⟨fr', st.tables.modify
        (fun tbl => ms.reverse.map (fun m => (Value.string m, f)) ++ tbl) t⟩) ∧
      fr'.slots = st.frame.slots := by
  induction ms generalizing st with
  | nil =>
    refine ⟨st.frame, ?_, rfl⟩
    simp only [setDestructedEvents, InitM.pure_apply, List.reverse_nil, List.map_nil,
      List.nil_append]
    exact congrArg _ (congrArg _ (by rw [show (fun tbl : Table => tbl) = id from rfl,
      List.modify_id]))
  | cons m ms ih =>
    have hs1 : (st.frame.push (.string m)).slots = xs ++ [.table t, f, .string m] := by
      simp [hs]
    have hs2 : ((st.frame.push (.string m)).push f).slots =
        xs ++ [.table t, f, .string m, f] := by
      simp [hs]
    have hs3 : (((st.frame.push (.string m)).push f).settop (-3)).slots = st.frame.slots := by
      rw [Frame.settop_neg_three (show _ = (xs ++ [.table t, f]) ++ [.string m, f] by simp [hs])]
      simp [hs]
    obtain ⟨fr', hrun, hfr'⟩ := ih ⟨((st.frame.push (.string m)).push f).settop (-3),
      st.tables.modify (·.rawset (.string m) f) t⟩ (hs3.trans hs)
    refine ⟨fr', ?_, hfr'.trans hs3⟩
    simp only [setDestructedEvents, InitM.bind_apply, InitM.lift_apply, luaPushstring_apply,
      luaPushvalue_apply, indexValue, indexValue?, luaRegistryIndex,
      Frame.get?_neg_two hs1 (by simp)]
    simp [luaRawset, indexValue, indexValue?, luaRegistryIndex,
      Frame.get?_neg_four hs2 (by simp), Frame.get?_neg_two hs2 (by simp),
      Frame.get?_neg_one hs2 (by simp)]
    rw [hrun]
    simp [List.modify_modify_eq, Function.comp_def, Table.rawset]

section Blocks

/-! Each section of `init_error_metatables`, run on an empty stack, adds its metatable and
registers it, and leaves the stack empty. -/

variable (vm : Vm) {fr : Frame} (h0 : fr.slots = [])
include h0

theorem createErrorMetatable_apply :
    ∃ fr', createErrorMetatable vm ⟨fr, freshTables⟩ =
      some ((), ⟨fr', (initRegistry vm.keys).drop 2 :: [[], errorMetatable]⟩) ∧
      fr'.slots = [] := by
  obtain ⟨slots, base, ciTop, peak, overrun⟩ := fr
  subst h0
  simp [createErrorMetatable, luaNewtable, luaRawset, luaPushrfunction, freshTables, indexValue,
    indexValue?, Frame.get?, Frame.settop, Frame.withSlots, Frame.push, Frame.top, Table.rawset,
    luaRegistryIndex, errorMetatable, initRegistry, registryRef, List.modify, errorMetatableRef]

theorem createPanicMetatable_apply :
    ∃ fr', createPanicMetatable vm ⟨fr, (initRegistry vm.keys).drop 2 :: [[], errorMetatable]⟩ =
      some ((), ⟨fr', (initRegistry vm.keys).drop 1 :: [[], errorMetatable, panicMetatable]⟩) ∧
      fr'.slots = [] := by
  obtain ⟨slots, base, ciTop, peak, overrun⟩ := fr
  subst h0
  simp [createPanicMetatable, luaNewtable, luaRawset, indexValue, indexValue?, Frame.get?,
    Frame.settop, Frame.withSlots, Frame.push, Frame.top, Table.rawset, luaRegistryIndex,
    panicMetatable, initRegistry, registryRef, List.modify, panicMetatableRef]

theorem createDestructedMetatable_apply :
    ∃ fr', createDestructedMetatable vm
        ⟨fr, (initRegistry vm.keys).drop 1 :: [[], errorMetatable, panicMetatable]⟩ =
      some ((), ⟨fr', [initRegistry vm.keys, [], errorMetatable, panicMetatable,
        destructedMetatable]⟩) ∧ fr'.slots = [] := by
  obtain ⟨fr3, hrun, hs3⟩ := setDestructedEvents_apply vm destructedEvents
    ⟨((fr.push (.lightUserdata vm.keys.destructed)).push (.table 4)).push
        (.cfunction .destructedError),
      (initRegistry vm.keys).drop 1 :: [[], errorMetatable, panicMetatable, []]⟩
    [.lightUserdata vm.keys.destructed] 4 (.cfunction .destructedError) (by simp [h0])
  have hs3' : fr3.slots =
      [.lightUserdata vm.keys.destructed, .table 4] ++ [.cfunction .destructedError] := by
    simp [hs3, h0]
  have hs4 : (fr3.withSlots [.lightUserdata vm.keys.destructed, .table 4]).slots =
      [] ++ [.lightUserdata vm.keys.destructed, .table 4] := rfl
  refine ⟨(fr3.settop (-2)).settop (-3), ?_, ?_⟩
  · simp only [createDestructedMetatable, InitM.bind_apply, InitM.lift_apply, keys_apply,
      luaPushlightuserdata_apply, CM.bind_apply, Res.bind_ok, luaNewtable, luaPushrfunction,
      luaPushcfunction_apply, List.length_nil, List.length_cons, List.cons_append,
      List.nil_append, luaPop_apply, hrun]
    simp [Frame.settop_neg_two hs3', luaRawset, indexValue, indexValue?, luaRegistryIndex,
      Frame.get?_neg_two hs4 (by simp), Frame.get?_neg_one hs4 (by simp), registryRef,
      List.modify, initRegistry, destructedMetatable, destructedMetatableRef, Table.rawset]
  · simp [Frame.settop, Frame.top, hs3, h0, Frame.withSlots]

end Blocks

/-- The tables `init_error_metatables` leaves: the registry with the three metatables under
their keys, the globals, and the three metatables. -/
theorem initTables_eq (vm : Vm) :
    initTables vm =
      [initRegistry vm.keys, [], errorMetatable, panicMetatable, destructedMetatable] := by
  obtain ⟨fr1, h1, hs1⟩ := createErrorMetatable_apply vm (show freshFrame.slots = [] from rfl)
  obtain ⟨fr2, h2, hs2⟩ := createPanicMetatable_apply vm hs1
  obtain ⟨fr3, h3, -⟩ := createDestructedMetatable_apply vm hs2
  have hcheck : checkStack 8 ⟨vm, freshTables, [], InitM.noCalls⟩ freshFrame ⟨[], true⟩ =
      .ok () freshFrame ⟨[], true⟩ := rfl
  unfold initTables initErrorMetatables
  simp only [InitM.bind_apply, InitM.lift_apply]
  rw [hcheck]
  simp only [h1, h2, h3]

/-! ## The registry the C functions see -/

/-- A context whose tables are those `init_error_metatables` left. -/
def Ctx.Initialised (c : Ctx) : Prop := c.tables = initTables c.vm

/-- The context of a C function of the bridge in that state, once the metatables are built. -/
def sampleCtx : Ctx := ⟨sampleVm, initTables sampleVm, [], InitM.noCalls⟩

theorem sampleCtx_initialised : sampleCtx.Initialised := by
  simp only [Ctx.Initialised, sampleCtx]

section Initialised

variable {c : Ctx} (hc : c.Initialised)
include hc

theorem tables_of_initialised :
    c.tables = [initRegistry c.vm.keys, [], errorMetatable, panicMetatable, destructedMetatable] :=
  hc.trans (initTables_eq c.vm)

theorem registryMetatable_error : registryMetatable c Keys.error = .table errorMetatableRef := by
  have := c.vm.keys.error_ne_destructed
  have := c.vm.keys.error_ne_panic
  simp_all [registryMetatable, tables_of_initialised hc, Tables.rawget, registryRef,
    initRegistry, Table.rawget, eq_comm]

theorem registryMetatable_panic : registryMetatable c Keys.panic = .table panicMetatableRef := by
  have := c.vm.keys.panic_ne_destructed
  simp_all [registryMetatable, tables_of_initialised hc, Tables.rawget, registryRef,
    initRegistry, Table.rawget, eq_comm]

theorem registryMetatable_destructed :
    registryMetatable c Keys.destructed = .table destructedMetatableRef := by
  simp [registryMetatable, tables_of_initialised hc, Tables.rawget, registryRef, initRegistry,
    Table.rawget]

/-- The `__gc` fields of the three metatables: the finalizer of each envelope type, and none
for the destructed metatable. -/
theorem rawget_gc_metatables :
    c.tables.rawget errorMetatableRef (.string "__gc") =
        .cfunction (.userdataDestructor .error) ∧
      c.tables.rawget panicMetatableRef (.string "__gc") =
        .cfunction (.userdataDestructor .panic) ∧
      c.tables.rawget destructedMetatableRef (.string "__gc") = .nil := by
  refine ⟨?_, ?_, ?_⟩ <;>
    simp [tables_of_initialised hc, Tables.rawget, errorMetatableRef, panicMetatableRef,
      destructedMetatableRef, errorMetatable, panicMetatable, destructedMetatable, Table.rawget]

/-- The error and panic metatables finalize their userdata; the destructed one does not. -/
theorem hasGc_metatables :
    hasGc c.tables (some errorMetatableRef) = true ∧
      hasGc c.tables (some panicMetatableRef) = true ∧
      hasGc c.tables (some destructedMetatableRef) = false := by
  obtain ⟨he, hp, hd⟩ := rawget_gc_metatables hc
  simp [hasGc, he, hp, hd]

end Initialised

end Rlua
