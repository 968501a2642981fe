import Mathlib.Logic.Relation
import Rlua.Proofs.EnvelopeInvariant
import Rlua.Proofs.TypedErrors

/-!
# Destructed userdata stay inert

When the collector finalizes an envelope, `userdata_destructor` moves its value out and puts
the block under the destructed-userdata metatable. From then on the block is a tombstone: every
event that metatable lists is answered by `destructed_error`, which raises
`Error::CallbackDestructed` without touching any block, and the block has no `__gc` left, so it
is never finalized again.

This module proves that the tombstone lasts: over every run of the envelope machine of
`Rlua.Proofs.EnvelopeInvariant` that follows the finalizer, the block stays moved out, under the
destructed metatable and unmarked. Event dispatch is Lua's `luaT_gettmbyobj`: the field of the
value's metatable named by the event.

## Main results

* `destructed_userdata_stays_inert`: after the finalizer of a block, in every later heap, the
  block is a tombstone, each listed event dispatches to `destructed_error`, `__gc` to nothing
  and the collector has nothing to run on it; and `destructed_error`, whatever its arguments,
  raises the `WrappedError` of `CallbackDestructed`, only adding that envelope to the heap.
-/

namespace Rlua

/-- The metamethod Lua's `luaT_gettmbyobj` finds for an event on a value: the field of the
value's metatable named by the event, `nil` without a metatable. -/
def metamethod (ts : Tables) (h : Heap) (v : Value) (event : String) : Value :=
  match metatableOf h v with
  | some t => ts.rawget t (.string event)
  | none => .nil

/-- Block `r` is a tombstone: moved out, under the destructed metatable, and unmarked. -/
def Heap.Destructed (h : Heap) (r : Nat) : Prop :=
  ∃ u : Userdata, h.userdata[r]? = some u ∧ u.meta = some destructedMetatableRef ∧
    u.contents = .moved ∧ u.toFinalize = false

/-- Looking up a method in a table that sets each of `ms` to `f`. -/
theorem Table.rawget_map_of_mem {ms : List String} {m : String} (f : Value) (hm : m ∈ ms) :
    Table.rawget (ms.map fun m => (Value.string m, f)) (.string m) = f := by
  induction ms with
  | nil => cases hm
  | cons m' ms ih =>
    by_cases he : m' = m
    · simp [Table.rawget, he]
    · simp only [List.map_cons, Table.rawget, Value.string.injEq, he, if_false]
      exact ih (List.mem_of_ne_of_mem (Ne.symm he) hm)

section Tombstone

variable {c : Ctx} (hc : c.Initialised) {h h' : Heap} {r : Nat}
include hc

/-- Every event of the destructed metatable dispatches to `destructed_error`, and `__gc` to
nothing. -/
theorem metamethod_destructed (hd : h.Destructed r) :
    (∀ ev ∈ destructedEvents, metamethod c.tables h (.userdata r) ev = .cfunction .destructedError) ∧
      metamethod c.tables h (.userdata r) "__gc" = .nil := by
  obtain ⟨u, hu, hm, -, -⟩ := hd
  have ht : metatableOf h (.userdata r) = some destructedMetatableRef := by
    simp [metatableOf, hu, hm]
  refine ⟨fun ev hev => ?_, ?_⟩
  · simp only [metamethod, ht, tables_of_initialised hc, Tables.rawget, destructedMetatableRef,
      destructedMetatable]
    exact Table.rawget_map_of_mem _ (List.mem_reverse.mpr hev)
  · simp only [metamethod, ht]
    exact (rawget_gc_metatables hc).2.2

/-- A finalizer leaves its block a tombstone. -/
theorem finalizer_destructed (hs : h.Sound) {base : Nat} {res : Res Int}
    (hf : finalizer c r base h = some res) (hh : res.heap? = some h') : h'.Destructed r := by
  obtain ⟨u, fr', hu, -, rfl⟩ := finalizer_apply hc hs hf
  simp only [Res.heap?, Option.some.injEq] at hh
  subst hh
  have hsu := takenBlock_sound hc u
  refine ⟨_, by simp [Heap.userdata_modifyUserdata, hu], (hsu.moved rfl).1, rfl,
    (hsu.moved rfl).2⟩

end Tombstone

section Persist

variable {c : Ctx} {h h' : Heap} {r : Nat}

/-- The collector has nothing to run on a tombstone. -/
theorem finalizer_of_destructed (hd : h.Destructed r) (base : Nat) : finalizer c r base h = none := by
  obtain ⟨u, hu, -, -, hfin⟩ := hd
  simp [finalizer, hu, hfin]

/-- A heap write other than a finalizer keeps a tombstone: it adds a block after it, or takes
the payload out of a `WrappedPanic`, which a tombstone is not. -/
theorem HeapEffect.destructed (hd : h.Destructed r) : HeapEffect c h h' → h'.Destructed r
  | .same hu => by
    obtain ⟨u, hr, hrest⟩ := hd
    exact ⟨u, by rw [hu, hr], hrest⟩
  | .wrapError _ hu | .wrapPanic _ hu => by
    obtain ⟨u, hr, hrest⟩ := hd
    have hlt : r < h.userdata.length := (List.getElem?_eq_some_iff.mp hr).1
    exact ⟨u, by rw [hu, Heap.userdata_alloc, if_neg (by omega), hr], hrest⟩
  | .takePayload i _ hx hu => by
    obtain ⟨u, hr, hm, hmv, hfin⟩ := hd
    have hi : i ≠ r := by
      rintro rfl
      simp [contentsAt, hr, hmv] at hx
    exact ⟨u, by rw [hu, Heap.takePayload, Heap.userdata_modifyUserdata, if_neg hi, hr], hm, hmv,
      hfin⟩

/-- A finalizer of another block keeps a tombstone. -/
theorem finalizer_keeps_destructed (hc : c.Initialised) (hs : h.Sound) (hd : h.Destructed r)
    {r' base : Nat} {res : Res Int} (hf : finalizer c r' base h = some res)
    (hh : res.heap? = some h') : h'.Destructed r := by
  have hne : r' ≠ r := by
    rintro rfl
    rw [finalizer_of_destructed hd] at hf
    cases hf
  obtain ⟨-, fr', -, -, rfl⟩ := finalizer_apply hc hs hf
  simp only [Res.heap?, Option.some.injEq] at hh
  subst hh
  obtain ⟨u, hr, hrest⟩ := hd
  exact ⟨u, by rw [Heap.userdata_modifyUserdata, if_neg hne, hr], hrest⟩

/-- Every step of the machine keeps a tombstone. -/
theorem Step.destructed (hc : c.Initialised) (hs : h.Sound) (hd : h.Destructed r) :
    Step c h h' → h'.Destructed r
  | .run op fr hh => ((op.run_effect c fr h).heap _ hh).destructed hd
  | .finalize _ _ hf hh => finalizer_keeps_destructed hc hs hd hf hh

/-- Every run of the machine from a reachable heap keeps a tombstone. -/
theorem Reachable.destructed (hc : c.Initialised) (hr : Reachable c h) (hd : h.Destructed r)
    {h2 : Heap} (hsteps : Relation.ReflTransGen (Step c) h h2) : h2.Destructed r := by
  have hrun : Reachable c h2 ∧ h2.Destructed r := by
    induction hsteps with
    | refl => exact ⟨hr, hd⟩
    | tail _ hstep ih => exact ⟨ih.1.step hstep, hstep.destructed hc (ih.1.sound hc) ih.2⟩
  exact hrun.2

end Persist

/-- `destructed_error`, whatever its arguments: the `WrappedError` of `CallbackDestructed` is
raised, and the only change to the heap is that new envelope. -/
theorem invoke_destructedError (E : Env) (call : Caller) (args : List Value) (base : Nat)
    (h : Heap) :
    invoke E call (.cfunction .destructedError) args base h =
      .error (.userdata h.userdata.length)
        (h.alloc (envelopeBlock (E.ctx [] call) Keys.error (.wrappedError .callbackDestructed))) := by
  have hc2 : luaCheckstack 2 (E.ctx [] call) ((Frame.entry base args).withSlots []) h =
      .ok 1 ((Frame.entry base args).withSlots []) h :=
    luaCheckstack_of_fits (by simp [Frame.top, luaMinStack])
  simp only [invoke, cfunctionBody, rcallShim, destructedError, CM.bind_apply,
    rustCallbackError_of_err (show (pure (.error .callbackDestructed) : CM (Except Error Int))
      (E.ctx [] call) (Frame.entry base args) h = .ok (.error .callbackDestructed) _ h from rfl)
      (by decide)]
  simp [hc2, pushWrappedError_apply, rcallErr, Res.toOutcome, Frame.settop_zero,
    indexValue_neg_one_eq]

/-- Destructed userdata stay inert, for a context whose metatables `init_error_metatables`
built, a heap the bridge reached, and the finalizer of any block `r`: in every heap any run of
the machine reaches afterwards,

1. block `r` is moved out, under the destructed metatable and unmarked, so no operation reads
   its old value;
2. each event the destructed metatable lists dispatches to `destructed_error` on it;
3. `__gc` dispatches to nothing, and the collector has nothing to run on it;

and `destructed_error`, called with any arguments, raises the `WrappedError` of
`CallbackDestructed`, the new envelope being its only change to the heap.

The destructed metatable sets no `__metatable` field, so in Lua `getmetatable` hands it to a
script, which can then change its fields for every destructed block. The scripts of this model
(`Script`) read and write no tables, so that is outside the model: the theorem speaks of runs
whose scripts leave that table alone. -/
theorem destructed_userdata_stays_inert :
    (∀ (c : Ctx) (h : Heap) (r base : Nat) (res : Res Int) (h1 : Heap), c.Initialised →
      Reachable c h → finalizer c r base h = some res → res.heap? = some h1 →
      ∀ h2, Relation.ReflTransGen (Step c) h1 h2 →
        h2.Destructed r ∧
        (∀ ev ∈ destructedEvents,
          metamethod c.tables h2 (.userdata r) ev = .cfunction .destructedError) ∧
        metamethod c.tables h2 (.userdata r) "__gc" = .nil ∧
        ∀ base', finalizer c r base' h2 = none) ∧
    (∀ (E : Env) (call : Caller) (args : List Value) (base : Nat) (h : Heap),
      (invoke E call (.cfunction .destructedError) args base h).CarriesError
        (· = .callbackDestructed) False ∧
      ∃ u, invoke E call (.cfunction .destructedError) args base h =
        .error (.userdata h.userdata.length) (h.alloc u)) := by
  refine ⟨fun c h r base res h1 hc hr hf hh h2 hsteps => ?_, fun E call args base h => ?_⟩
  · have hr1 : Reachable c h1 := hr.step (.finalize r base hf hh)
    have hd := hr1.destructed hc (finalizer_destructed hc (hr.sound hc) hf hh) hsteps
    exact ⟨hd, (metamethod_destructed hc hd).1, (metamethod_destructed hc hd).2,
      finalizer_of_destructed hd⟩
  · rw [invoke_destructedError]
    exact ⟨.error (isErrorEnvelope_fresh E [] call h _) rfl, _, rfl⟩

/-- A heap with one `WrappedError` envelope, marked for finalization. -/
def envelopeHeap : Heap := ⟨[⟨.wrappedError .stackError, some errorMetatableRef, true⟩], true⟩

/-- The collector finalizes that envelope; afterwards its `__index` is `destructed_error`. -/
theorem destructed_userdata_stays_inert_sample :
    ∃ res h1, finalizer sampleCtx 0 0 envelopeHeap = some res ∧ res.heap? = some h1 ∧
      metamethod sampleCtx.tables h1 (.userdata 0) "__index" = .cfunction .destructedError := by
  have hreach : Reachable sampleCtx envelopeHeap := by
    refine (Reachable.init true).step (.run (.pushWrappedError .stackError) freshFrame ?_)
    simp [Op.run, pushWrappedError_apply, Res.heap?, Heap.alloc,
      envelopeBlock_error sampleCtx_initialised, envelopeHeap]
  have hf : finalizer sampleCtx 0 0 envelopeHeap = some (cfunctionBody (.userdataDestructor .error)
      { sampleCtx with upvalues := [] } (Frame.entry 0 [.userdata 0])
      (envelopeHeap.modifyUserdata 0 fun u => { u with toFinalize := false })) := by
    simp [finalizer, envelopeHeap, (rawget_gc_metatables sampleCtx_initialised).1]
  obtain ⟨-, fr', -, -, hres⟩ := finalizer_apply sampleCtx_initialised
    (hreach.sound sampleCtx_initialised) hf
  refine ⟨_, _, hf, by rw [hres]; rfl, ?_⟩
  exact ((destructed_userdata_stays_inert.1 sampleCtx envelopeHeap 0 0 _ _ sampleCtx_initialised
    hreach hf (by rw [hres]; rfl) _ .refl).2.1 "__index" (by decide))

end Rlua
