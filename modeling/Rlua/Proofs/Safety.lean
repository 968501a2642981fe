import Rlua.Runtime.Interp
import Rlua.Proofs.EnvelopeInvariant
import Mathlib.Data.List.Infix

/-!
# The C functions keep the heap sound

`Rlua.Proofs.EnvelopeInvariant` shows that the operations of `util.rs` on envelopes keep every
userdata block consistent with its metatable (`Heap.Sound`), and that on such heaps no operation
reads a block as another Rust type. This module shows the same of every C function of the
bridge run as a whole, whatever the nested calls it makes do, provided they do the same;
`Rlua.Proofs.SafeRuns` closes the loop through the interpreter.

The one thing a program must not do is call a finalizer itself: the `__gc` field of the error
and panic metatables is `userdata_destructor`, which moves the value out of the block it is
given, whatever the block holds. Lua hides the metatables from scripts behind `__metatable`;
here a program is *clean* when it never names a finalizer, and then no value in flight is one
(`Value.Clean`): the bridge never hands its metatables, or their fields, out.

`CM.Safe P m` says that `m`, run from a clean frame on a sound heap `h`, keeps the frame clean
and the heap sound, raises only clean values, returns a result satisfying `P`, does not read a
block as another type, and changes the blocks of `h` only by taking a panic payload out
(`Heap.Grows`). It also never lowers the frame's guaranteed slots, and it aborts the process only
where a trampoline finds no room for a panic's envelope, which needs a frame that started with
fewer than two guaranteed slots. It composes through `bind`, like a program logic with one rule
per combinator.
It holds of every Lua API function the bridge uses but the four that write or read blocks; the
functions that use those are proved from their specifications in `Rlua.Util.Envelope` and
`Rlua.Util.Callback`.

## Main results

* `cfunctionBody_safe`: every C function of `util.rs` a program can call keeps the invariant.
-/

namespace Rlua

/-! ## Clean values -/

/-- The C functions a program may call: all but the finalizers of the error and panic
metatables, which only the collector runs. -/
def CFn.Callable : CFn → Prop
  | .userdataDestructor _ => False
  | _ => True

/-- A value that is no finalizer, also as the upvalue of a C closure. -/
def Value.Clean : Value → Prop
  | .cfunction f => f.Callable
  | .cclosure f u => f.Callable ∧ u.Clean
  | _ => True

instance : DecidablePred CFn.Callable
  | .userdataDestructor _ => isFalse not_false
  | .safePcall | .safeXpcall | .xpcallMsgh | .errorTraceback | .errorTostring
  | .destructedError => isTrue trivial

instance Value.instDecidableClean : DecidablePred Value.Clean
  | .cfunction f => inferInstanceAs (Decidable f.Callable)
  | .cclosure f u =>
    have := Value.instDecidableClean u
    inferInstanceAs (Decidable (f.Callable ∧ u.Clean))
  | .nil | .boolean _ | .integer _ | .string _ | .lightUserdata _ | .table _ | .userdata _
  | .thread _ | .callback _ | .lfunction _ => isTrue trivial

/-- A frame whose slots are clean. -/
def Frame.Clean (fr : Frame) : Prop := ∀ v ∈ fr.slots, v.Clean

section CleanFrames

variable {fr : Frame} {v : Value} {vs : List Value}

theorem Frame.Clean.withSlots (hvs : ∀ v ∈ vs, v.Clean) : (fr.withSlots vs).Clean := hvs

/-- A frame whose slots come from a clean frame, or are clean. -/
theorem Frame.Clean.of_mem {fr' : Frame} (hf : fr.Clean)
    (hm : ∀ v ∈ fr'.slots, v ∈ fr.slots ∨ v.Clean) : fr'.Clean := fun v hv =>
  (hm v hv).elim (hf v) id

theorem Frame.Clean.of_slots_eq {fr' : Frame} (hf : fr.Clean) (hs : fr'.slots = fr.slots) :
    fr'.Clean := fun v hv => hf v (hs ▸ hv)

theorem Frame.Clean.dropLast {fr' : Frame} (hf : fr.Clean) (hs : fr'.slots = fr.slots.dropLast) :
    fr'.Clean := fun v hv => hf v (List.mem_of_mem_dropLast (hs ▸ hv))

theorem Frame.Clean.push (hf : fr.Clean) (hv : v.Clean) : (fr.push v).Clean :=
  hf.of_mem fun w hw => by
    simp only [Frame.push_slots, List.mem_append, List.mem_singleton] at hw
    rcases hw with hw | rfl
    exacts [.inl hw, .inr hv]

theorem Frame.foldl_push_slots (k : Nat) (fr : Frame) :
    ((List.replicate k Value.nil).foldl Frame.push fr).slots =
      fr.slots ++ List.replicate k .nil := by
  induction k generalizing fr with
  | zero => simp
  | succ k ih => simp [List.replicate_succ, ih]

theorem Frame.ciTop_foldl_push (vs : List Value) (fr : Frame) :
    (vs.foldl Frame.push fr).ciTop = fr.ciTop := by
  induction vs generalizing fr with
  | nil => rfl
  | cons v vs ih => exact ih (fr.push v)

/-- No stack operation gives up guaranteed slots. -/
theorem Frame.ciTop_settop (fr : Frame) (idx : Int) : (fr.settop idx).ciTop = fr.ciTop := by
  unfold Frame.settop
  dsimp only
  generalize (if 0 ≤ idx then idx.toNat else (fr.top + 1 + idx).toNat) = n
  split
  · rfl
  · exact Frame.ciTop_foldl_push _ _

theorem Frame.ciTop_insert (fr : Frame) (k : Nat) : (fr.insert k).ciTop = fr.ciTop := by
  unfold Frame.insert
  split <;> rfl

theorem Frame.Clean.settop (hf : fr.Clean) (idx : Int) : (fr.settop idx).Clean :=
  hf.of_mem fun w hw => by
    unfold Frame.settop at hw
    dsimp only at hw
    generalize (if 0 ≤ idx then idx.toNat else (fr.top + 1 + idx).toNat) = n at hw
    split at hw
    · exact .inl (List.mem_of_mem_take hw)
    · rw [Frame.foldl_push_slots, List.mem_append] at hw
      exact hw.imp id fun hw => by rw [List.eq_of_mem_replicate hw]; trivial

theorem Frame.Clean.insert (hf : fr.Clean) (k : Nat) : (fr.insert k).Clean :=
  hf.of_mem fun w hw => by
    unfold Frame.insert at hw
    split at hw
    · exact .inl hw
    · rename_i u hu
      refine .inl ?_
      simp only [Frame.withSlots_slots, List.mem_append, List.mem_cons] at hw
      rcases hw with hw | rfl | hw
      · exact List.mem_of_mem_dropLast (List.mem_of_mem_take hw)
      · exact List.mem_of_mem_getLast? hu
      · exact List.mem_of_mem_dropLast (List.mem_of_mem_drop hw)

theorem Frame.Clean.eraseIdx (hf : fr.Clean) (k : Nat) :
    (fr.withSlots (fr.slots.eraseIdx k)).Clean :=
  hf.of_mem fun _ hw => .inl (List.mem_of_mem_eraseIdx hw)

theorem Frame.Clean.set (hf : fr.Clean) (k : Nat) (hv : v.Clean) :
    (fr.withSlots (fr.slots.set k v)).Clean :=
  hf.of_mem fun _ hw => by
    rcases List.mem_or_eq_of_mem_set hw with hw | rfl
    exacts [.inl hw, .inr hv]

theorem Frame.Clean.setTop (hf : fr.Clean) (hv : v.Clean) : (fr.setTop v).Clean :=
  hf.of_mem fun w hw => by
    simp only [Frame.setTop, Frame.withSlots_slots, List.mem_append,
      List.mem_singleton] at hw
    rcases hw with hw | rfl
    exacts [.inl (List.mem_of_mem_dropLast hw), .inr hv]

/-- The parts of a call site of a clean frame are clean. -/
theorem Frame.Clean.callSite (hf : fr.Clean) (n : Nat) :
    (∀ v ∈ (fr.callSite n).1, v.Clean) ∧ (fr.callSite n).2.1.Clean ∧
      ∀ v ∈ (fr.callSite n).2.2, v.Clean := by
  refine ⟨fun v hv => hf v (List.mem_of_mem_take hv), ?_,
    fun v hv => hf v (List.mem_of_mem_drop hv)⟩
  simp only [Frame.callSite]
  cases hx : fr.slots[fr.top - n - 1]? with
  | none => trivial
  | some v => exact hf v (List.getElem?_mem hx)

theorem Frame.Clean.afterCall {below rs : List Value} (hb : ∀ v ∈ below, v.Clean)
    (hrs : ∀ v ∈ rs, v.Clean) : (fr.afterCall below rs).Clean := fun v hv => by
  simp only [Frame.slots_afterCall, List.mem_append] at hv
  exact hv.elim (hb v) (hrs v)

theorem adjustResults_clean {rs : List Value} (hrs : ∀ v ∈ rs, v.Clean) (n : Int) :
    ∀ v ∈ adjustResults n rs, v.Clean := fun v hv => by
  unfold adjustResults at hv
  split at hv
  · exact hrs v hv
  · rcases List.mem_append.1 (List.mem_of_mem_take hv) with hv | hv
    · exact hrs v hv
    · rw [List.eq_of_mem_replicate hv]; trivial

end CleanFrames

/-! ## What a run may do to the blocks it finds -/

/-- A block as a run may leave it: unchanged, or a `WrappedPanic` whose payload was taken. -/
def Userdata.Evolves (u u' : Userdata) : Prop :=
  u' = u ∨ ∃ o, u.contents = .wrappedPanic o ∧ u' = { u with contents := .wrappedPanic none }

/-- Every block of `h` is still in `h'`, at the same place, at most with its panic payload
taken; `h'` may hold new blocks after them. -/
def Heap.Grows (h h' : Heap) : Prop :=
  ∀ (r : Nat) (u : Userdata), h.userdata[r]? = some u →
    ∃ u', h'.userdata[r]? = some u' ∧ u.Evolves u'

theorem Userdata.Evolves.trans {u u' u'' : Userdata} (h₁ : u.Evolves u') (h₂ : u'.Evolves u'') :
    u.Evolves u'' := by
  rcases h₁ with rfl | ⟨o, ho, rfl⟩
  · exact h₂
  · rcases h₂ with rfl | ⟨_, _, rfl⟩
    · exact .inr ⟨o, ho, rfl⟩
    · exact .inr ⟨o, ho, rfl⟩

namespace Heap.Grows

variable {h h' h'' : Heap}

protected theorem rfl : h.Grows h := fun _ u hu => ⟨u, hu, .inl rfl⟩

theorem trans (h₁ : h.Grows h') (h₂ : h'.Grows h'') : h.Grows h'' := fun r u hu => by
  obtain ⟨u', hu', he⟩ := h₁ r u hu
  obtain ⟨u'', hu'', he'⟩ := h₂ r u' hu'
  exact ⟨u'', hu'', he.trans he'⟩

end Heap.Grows

/-- A `WrappedError` keeps its error. -/
theorem Heap.Grows.wrappedError {h h' : Heap} (hg : h.Grows h') {r : Nat} {e : Error}
    (hx : contentsAt h (.block r) = some (.wrappedError e)) :
    contentsAt h' (.block r) = some (.wrappedError e) := by
  obtain ⟨u, hu, hc⟩ := Option.map_eq_some'.1 hx
  obtain ⟨u', hu', rfl | ⟨o, ho, -⟩⟩ := hg r u hu
  · simp [contentsAt, hu', hc]
  · rw [ho] at hc; cases hc

/-- A taken payload is never put back. -/
theorem Heap.Grows.payloadTaken {h h' : Heap} (hg : h.Grows h') {r : Nat}
    (hx : contentsAt h (.block r) = some (.wrappedPanic none)) :
    contentsAt h' (.block r) = some (.wrappedPanic none) := by
  obtain ⟨u, hu, hc⟩ := Option.map_eq_some'.1 hx
  obtain ⟨u', hu', rfl | ⟨_, -, rfl⟩⟩ := hg r u hu
  · simp [contentsAt, hu', hc]
  · simp [contentsAt, hu']

/-- Every block keeps its metatable. -/
theorem Heap.Grows.metatableOf {h h' : Heap} (hg : h.Grows h') {v : Value} {t : Nat}
    (hm : metatableOf h v = some t) : metatableOf h' v = some t := by
  obtain ⟨r, rfl⟩ := eq_userdata_of_metatableOf hm
  obtain ⟨u, hu, hmeta⟩ := Option.bind_eq_some.1 hm
  obtain ⟨u', hu', rfl | ⟨_, -, rfl⟩⟩ := hg r u hu <;> simp [Rlua.metatableOf, hu', hmeta]

/-- What an operation of the bridge does to the blocks: nothing, a new envelope after them, or
a payload taken. -/
theorem HeapEffect.grows {c : Ctx} {h h' : Heap} : HeapEffect c h h' → h.Grows h'
  | .same hu => fun r u hr => ⟨u, hu ▸ hr, .inl rfl⟩
  | .wrapError _ hu | .wrapPanic _ hu => fun r u hr =>
    ⟨u, by rw [hu, Heap.alloc, List.getElem?_append_left (List.getElem?_eq_some_iff.1 hr).1, hr],
      .inl rfl⟩
  | .takePayload i o hx hu => fun r u hr => by
    rw [hu, Heap.takePayload]
    by_cases hri : r = i
    · subst hri
      have hc : u.contents = .wrappedPanic o := by
        simpa only [contentsAt, hr, Option.map_some', Option.some.injEq] using hx
      exact ⟨{ u with contents := .wrappedPanic none },
        by simp [Heap.userdata_modifyUserdata, hr], .inr ⟨o, hc, rfl⟩⟩
    · exact ⟨u, by simp [Heap.userdata_modifyUserdata, Ne.symm hri, hr], .inl rfl⟩

/-! ## Safe runs -/

/-- The messages with which the trampolines abort when a cleared stack has no room for a
panic's envelope. -/
def stackAborts : List String :=
  ["not enough stack space to propagate panic", "not enough stack space to throw rust panic"]

/-- A run from the heap `h₀` and a frame with `k` guaranteed slots that keeps the invariant: the
frame clean and still with `k` guaranteed slots, the heap sound and grown from `h₀`, every value
it raises clean, a result satisfying `P`, no block read as another type, and an abort only for
lack of room to raise a panic, from fewer than two guaranteed slots. An inductive predicate, so
that stating it of a concrete run does not make the elaborator evaluate the run. -/
inductive Res.Safe {α : Type} (h₀ : Heap) (k : Nat) (P : α → Prop) : Res α → Prop
  | ok {a : α} {fr : Frame} {h : Heap} :
    P a → fr.Clean → k ≤ fr.ciTop → h.Sound → h₀.Grows h → Res.Safe h₀ k P (.ok a fr h)
  | error {v : Value} {fr : Frame} {h : Heap} :
    v.Clean → fr.Clean → k ≤ fr.ciTop → h.Sound → h₀.Grows h → Res.Safe h₀ k P (.error v fr h)
  | unwind {p : PanicPayload} {fr : Frame} {h : Heap} :
    fr.Clean → k ≤ fr.ciTop → h.Sound → h₀.Grows h → Res.Safe h₀ k P (.unwind p fr h)
  | abort {msg : String} : k < 2 → msg ∈ stackAborts → Res.Safe h₀ k P (.abort msg)
  | stuck : Res.Safe h₀ k P .stuck

/-- How a call from the heap `h₀` ends when it keeps the invariant: clean results or error
value, a sound heap grown from `h₀`, no block read as another type, and no abort. -/
inductive Outcome.Safe (h₀ : Heap) : Outcome → Prop
  | ret {vs : List Value} {h : Heap} :
    (∀ v ∈ vs, v.Clean) → h.Sound → h₀.Grows h → Outcome.Safe h₀ (.ret vs h)
  | error {v : Value} {h : Heap} : v.Clean → h.Sound → h₀.Grows h → Outcome.Safe h₀ (.error v h)
  | panic {p : PanicPayload} {h : Heap} : h.Sound → h₀.Grows h → Outcome.Safe h₀ (.panic p h)
  | stuck : Outcome.Safe h₀ .stuck

/-- A caller whose calls of clean values, with a clean handler and clean arguments, from a
sound heap, keep the invariant. -/
def Caller.Safe (call : Caller) : Prop :=
  ∀ hd f args base h, (∀ m ∈ hd, m.Clean) → f.Clean → (∀ v ∈ args, v.Clean) → h.Sound →
    (call hd f args base h).Safe h

/-- The context of a C function of a clean program: the metatables built, safe nested calls,
clean upvalues, and a clean value for the protocol's stack error. -/
structure Ctx.Safe (c : Ctx) : Prop where
  initialised : c.Initialised
  call : c.call.Safe
  upvalues : ∀ v ∈ c.upvalues, v.Clean
  stackError : c.vm.rcallStackError.Clean

/-- A computation that keeps the invariant, with a result satisfying `P`. -/
def CM.Safe {α : Type} (P : α → Prop) (m : CM α) : Prop :=
  ∀ c : Ctx, c.Safe → ∀ fr h, fr.Clean → h.Sound → (m c fr h).Safe h fr.ciTop P

/-- A run safe from a heap that an earlier run grew from `h₀`, and from a frame with more
guaranteed slots, is safe from `h₀` and fewer slots. -/
theorem Res.Safe.weaken {α : Type} {P : α → Prop} {h₀ h : Heap} {k k' : Nat} {r : Res α}
    (hr : r.Safe h k P) (hg : h₀.Grows h) (hk : k' ≤ k) : r.Safe h₀ k' P := by
  cases hr with
  | ok ha hf hci hh hg' => exact .ok ha hf (hk.trans hci) hh (hg.trans hg')
  | error hv hf hci hh hg' => exact .error hv hf (hk.trans hci) hh (hg.trans hg')
  | unwind hf hci hh hg' => exact .unwind hf (hk.trans hci) hh (hg.trans hg')
  | abort hci hm => exact .abort (Nat.lt_of_le_of_lt hk hci) hm
  | stuck => exact .stuck

theorem Outcome.Safe.weaken {h₀ h : Heap} {o : Outcome} (ho : o.Safe h) (hg : h₀.Grows h) :
    o.Safe h₀ := by
  cases ho with
  | ret hvs hh hg' => exact .ret hvs hh (hg.trans hg')
  | error hv hh hg' => exact .error hv hh (hg.trans hg')
  | panic hh hg' => exact .panic hh (hg.trans hg')
  | stuck => exact .stuck

/-- A C function run from two guaranteed slots or more ends as a safe call. -/
theorem Res.Safe.toOutcome {h₀ : Heap} {k : Nat} {r : Res Int} (hr : r.Safe h₀ k fun _ => True)
    (hk : 2 ≤ k) : r.toOutcome.Safe h₀ := by
  cases hr with
  | ok _ hf _ hh hg => exact .ret (fun v hv => hf v (List.mem_of_mem_drop hv)) hh hg
  | error hv _ _ hh hg => exact .error hv hh hg
  | unwind _ _ hh hg => exact .panic hh hg
  | abort hci _ => exact absurd hk (Nat.not_le_of_lt hci)
  | stuck => exact .stuck

/-- What an index reads in a clean frame of a safe context is clean. -/
theorem indexValue_clean {c : Ctx} (hc : c.Safe) {fr : Frame} (hf : fr.Clean) (idx : Int) :
    (indexValue c fr idx).Clean := by
  unfold indexValue indexValue?
  split
  · trivial
  · split
    · cases hx : c.upvalues[(luaRegistryIndex - idx - 1).toNat]? with
      | none => trivial
      | some v => exact hc.upvalues v (List.getElem?_mem hx)
    · unfold Frame.get?
      split
      · cases hx : fr.slots[idx.toNat - 1]? with
        | none => trivial
        | some v => exact hf v (List.getElem?_mem hx)
      · split
        · cases hx : fr.slots[(↑fr.top + idx).toNat]? with
          | none => trivial
          | some v => exact hf v (List.getElem?_mem hx)
        · trivial

/-- Sequencing at the level of results: a safe run followed by a continuation that is safe from
every state the run can end in. -/
theorem Res.Safe.bind {α β : Type} {P : α → Prop} {Q : β → Prop} {h₀ : Heap} {k : Nat}
    {r : Res α} {kont : α → Frame → Heap → Res β} (hr : r.Safe h₀ k P)
    (hk : ∀ a fr h, P a → fr.Clean → k ≤ fr.ciTop → h.Sound → h₀.Grows h →
      (kont a fr h).Safe h₀ k Q) :
    (r.bind kont).Safe h₀ k Q := by
  cases hr with
  | ok ha hf hci hh hg => exact hk _ _ _ ha hf hci hh hg
  | error hv hf hci hh hg => exact .error hv hf hci hh hg
  | unwind hf hci hh hg => exact .unwind hf hci hh hg
  | abort hci hm => exact .abort hci hm
  | stuck => exact .stuck

/-- A first step whose result is known, followed by a safe run. -/
theorem Res.Safe.bind_of_ok {α β : Type} {Q : β → Prop} {h₀ : Heap} {k : Nat} {m : CM α}
    {kont : α → CM β} {c : Ctx} {fr fr' : Frame} {h h' : Heap} {a : α}
    (hm : m c fr h = .ok a fr' h') (hk : (kont a c fr' h').Safe h₀ k Q) :
    ((m >>= kont) c fr h).Safe h₀ k Q := by
  rw [CM.bind_apply, hm]
  exact hk

namespace CM.Safe

variable {α β : Type} {P : α → Prop} {Q : β → Prop}

theorem pure {a : α} (ha : P a) : (Pure.pure a : CM α).Safe P :=
  fun _ _ _ _ hf hh => .ok ha hf (Nat.le_refl _) hh .rfl

theorem bind {m : CM α} {k : α → CM β} (hm : m.Safe P) (hk : ∀ a, P a → (k a).Safe Q) :
    (m >>= k).Safe Q := fun c hc fr h hf hh =>
  (hm c hc fr h hf hh).bind fun a _ _ ha hf' hci hh' hg =>
    (hk a ha c hc _ _ hf' hh').weaken hg hci

/-- Sequencing with a continuation that ignores the result. -/
theorem seq {m : CM α} {k : α → CM β} (hm : m.Safe fun _ => True) (hk : ∀ a, (k a).Safe Q) :
    (m >>= k).Safe Q :=
  hm.bind fun a _ => hk a

theorem ite {p : Prop} [Decidable p] {m₁ m₂ : CM α} (h₁ : m₁.Safe P) (h₂ : m₂.Safe P) :
    (if p then m₁ else m₂).Safe P := by
  split <;> assumption

/-- A branch that is never taken needs no proof. -/
theorem ite_neg {p : Prop} [Decidable p] {m₁ m₂ : CM α} (hp : ¬p) (h₂ : m₂.Safe P) :
    (if p then m₁ else m₂).Safe P := by
  rw [if_neg hp]
  exact h₂

end CM.Safe

/-! ## The Lua API

Every function of the Lua API the bridge uses keeps the invariant, except the four that write
or read blocks (`lua_newuserdata`, `ptr::write`, `lua_setmetatable` and the reads through a
pointer), and `lua_rawget` on a table that is not the registry. Those appear only inside the
helpers of `util.rs` treated in the next section, from their specifications. -/

section Api

variable {α : Type} {P : α → Prop} (i j k : Int) (s : String)

theorem luaGettop_safe : luaGettop.Safe fun _ => True :=
  fun _ _ _ _ hf hh => .ok trivial hf (Nat.le_refl _) hh .rfl

theorem luaSettop_safe : (luaSettop i).Safe fun _ => True :=
  fun _ _ fr _ hf hh => .ok trivial (hf.settop i) (fr.ciTop_settop i).ge hh .rfl

theorem luaPop_safe : (luaPop i).Safe fun _ => True := luaSettop_safe _

theorem luaPushvalue_safe : (luaPushvalue i).Safe fun _ => True :=
  fun _ hc _ _ hf hh => .ok trivial (hf.push (indexValue_clean hc hf i)) (Nat.le_refl _) hh .rfl

theorem luaInsert_safe : (luaInsert i).Safe fun _ => True :=
  fun _ _ fr _ hf hh => .ok trivial (hf.insert _) (fr.ciTop_insert _).ge hh .rfl

theorem luaRemove_safe : (luaRemove i).Safe fun _ => True :=
  fun _ _ _ _ hf hh => .ok trivial (hf.eraseIdx _) (Nat.le_refl _) hh .rfl

theorem luaCopy_safe : (luaCopy i j).Safe fun _ => True :=
  fun _ hc _ _ hf hh => .ok trivial (hf.set _ (indexValue_clean hc hf i)) (Nat.le_refl _) hh .rfl

theorem luaReplace_safe : (luaReplace i).Safe fun _ => True :=
  (luaCopy_safe _ _).seq fun _ => luaPop_safe _

theorem luaPushboolean_safe : (luaPushboolean i).Safe fun _ => True :=
  fun _ _ _ _ hf hh => .ok trivial (hf.push trivial) (Nat.le_refl _) hh .rfl

theorem luaPushstring_safe : (luaPushstring s).Safe fun _ => True :=
  fun _ _ _ _ hf hh => .ok trivial (hf.push trivial) (Nat.le_refl _) hh .rfl

theorem luaPushlstring_safe : (luaPushlstring s).Safe fun _ => True := luaPushstring_safe s

theorem luaPushlightuserdata_safe (p : Nat) : (luaPushlightuserdata p).Safe fun _ => True :=
  fun _ _ _ _ hf hh => .ok trivial (hf.push trivial) (Nat.le_refl _) hh .rfl

theorem luaPushcfunction_safe {f : CFn} (hf : f.Callable) :
    (luaPushcfunction f).Safe fun _ => True :=
  fun _ _ _ _ hfr hh => .ok trivial (hfr.push hf) (Nat.le_refl _) hh .rfl

theorem luaPushcclosure_safe {f : CFn} (hf : f.Callable) :
    (luaPushcclosure f i).Safe fun _ => True :=
  fun _ hc fr _ hfr hh => .ok trivial ((hfr.settop _).push ⟨hf, indexValue_clean hc hfr (-1)⟩)
    (fr.ciTop_settop _).ge hh .rfl

theorem luaTouserdata_safe : (luaTouserdata i).Safe fun _ => True :=
  fun _ _ _ _ hf hh => .ok trivial hf (Nat.le_refl _) hh .rfl

theorem luaGetmetatable_safe : (luaGetmetatable i).Safe fun _ => True := fun c _ fr h hf hh => by
  unfold luaGetmetatable
  split
  · exact .ok trivial (hf.push trivial) (Nat.le_refl _) hh .rfl
  · exact .ok trivial hf (Nat.le_refl _) hh .rfl

theorem luaRawequal_safe : (luaRawequal i j).Safe fun _ => True :=
  fun _ _ _ _ hf hh => .ok trivial hf (Nat.le_refl _) hh .rfl

theorem luaTostring_safe : (luaTostring i).Safe fun _ => True := fun c _ fr h hf hh => by
  unfold luaTostring
  split
  · exact .ok trivial (hf.set _ trivial) (Nat.le_refl _) hh .rfl
  · exact .ok trivial hf (Nat.le_refl _) hh .rfl

/-- `lua_checkstack` only adds guaranteed slots. -/
theorem luaCheckstack_safe : (luaCheckstack i).Safe fun _ => True := fun _ _ fr _ hf hh => by
  unfold luaCheckstack
  split_ifs with h1
  · exact .ok trivial hf (Nat.le_refl _) hh .rfl
  · exact .ok trivial hf (Nat.le_of_lt (Nat.lt_of_not_le h1)) hh .rfl
  · exact .ok trivial hf (Nat.le_refl _) hh .rfl

theorem luaError_safe : (luaError : CM α).Safe P :=
  fun _ hc _ _ hf hh => .error (indexValue_clean hc hf (-1)) hf (Nat.le_refl _) hh .rfl

theorem luaLError_safe : (luaLError s : CM α).Safe P :=
  (luaPushstring_safe _).seq fun _ => luaError_safe

theorem luaLCheckstack_safe : (luaLCheckstack i).Safe fun _ => True :=
  (luaCheckstack_safe _).seq fun _ => .ite (luaLError_safe _) (.pure trivial)

/-- The collector's flag is no part of the invariant. -/
theorem luaGc_safe : (luaGc i).Safe fun _ => True := fun _ _ _ _ hf hh => by
  unfold luaGc
  split_ifs <;> exact .ok trivial hf (Nat.le_refl _) hh .rfl

theorem luaLTraceback_safe (msg : Option String) : (luaLTraceback msg).Safe fun _ => True :=
  fun _ _ _ _ hf hh => .ok trivial (hf.push trivial) (Nat.le_refl _) hh .rfl

theorem handler_clean {c : Ctx} (hc : c.Safe) {fr : Frame} (hf : fr.Clean) (msgh : Int) :
    ∀ m ∈ (if msgh = 0 then none else some (indexValue c fr msgh)), Value.Clean m := by
  intro m hm
  split at hm
  · cases hm
  · cases hm
    exact indexValue_clean hc hf msgh

/-- A protected call ends with `LUA_OK` or `LUA_ERRRUN`: never with an allocation error. -/
theorem luaPcall_safe : (luaPcall i j k).Safe fun r => r ≠ luaErrMem := fun c hc fr h hf hh => by
  obtain ⟨hb, hfn, hargs⟩ := hf.callSite i.toNat
  have ho := hc.call _ _ _ (fr.base + (fr.callSite i.toNat).1.length + 1) h
    (handler_clean hc hf k) hfn hargs hh
  unfold luaPcall
  dsimp only
  generalize c.call _ _ _ _ h = o at ho ⊢
  cases ho with
  | ret hrs hh' hg =>
    exact .ok (by decide) (Frame.Clean.afterCall hb (adjustResults_clean hrs j))
      (Nat.le_max_left _ _) hh' hg
  | error hv hh' hg =>
    exact .ok (by decide) (Frame.Clean.afterCall hb (by simpa using hv)) (Nat.le_max_left _ _)
      hh' hg
  | panic hh' hg => exact .unwind (Frame.Clean.withSlots hb) (Nat.le_refl _) hh' hg
  | stuck => exact .stuck

theorem luaCall_safe : (luaCall i j).Safe fun _ => True := fun c hc fr h hf hh => by
  obtain ⟨hb, hfn, hargs⟩ := hf.callSite i.toNat
  have ho := hc.call none _ _ (fr.base + (fr.callSite i.toNat).1.length + 1) h
    (fun _ hm => by cases hm) hfn hargs hh
  unfold luaCall
  dsimp only
  generalize c.call _ _ _ _ h = o at ho ⊢
  cases ho with
  | ret hrs hh' hg =>
    exact .ok trivial (Frame.Clean.afterCall hb (adjustResults_clean hrs j))
      (Nat.le_max_left _ _) hh' hg
  | error hv hh' hg => exact .error hv (Frame.Clean.withSlots hb) (Nat.le_refl _) hh' hg
  | panic hh' hg => exact .unwind (Frame.Clean.withSlots hb) (Nat.le_refl _) hh' hg
  | stuck => exact .stuck

theorem rustPanic_safe (p : PanicPayload) : (rustPanic p : CM α).Safe P :=
  fun _ _ _ _ hf hh => .unwind hf (Nat.le_refl _) hh .rfl

theorem catchUnwind_safe {m : CM α} (hm : m.Safe fun _ => True) :
    (catchUnwind m).Safe fun _ => True := fun c hc fr h hf hh => by
  have hr := hm c hc fr h hf hh
  unfold catchUnwind
  generalize m c fr h = r at hr ⊢
  cases hr with
  | ok _ hf' hci hh' hg => exact .ok trivial hf' hci hh' hg
  | error hv hf' hci hh' hg => exact .error hv hf' hci hh' hg
  | unwind hf' hci hh' hg => exact .ok trivial hf' hci hh' hg
  | abort hci hm => exact .abort hci hm
  | stuck => exact .stuck

theorem vm_safe : CM.vm.Safe fun _ => True :=
  fun _ _ _ _ hf hh => .ok trivial hf (Nat.le_refl _) hh .rfl

/-- The trampolines clear the stack and ask for two slots before raising a panic: only a frame
that started with fewer than two guaranteed slots can refuse, and there they abort. -/
theorem clearAndCheck_safe {msg : String} (hmsg : msg ∈ stackAborts) {k : Int → CM α}
    (h0 : ∀ c fr h, k 0 c fr h = .abort msg) (hk : ∀ r, r ≠ 0 → (k r).Safe P) :
    (luaSettop 0 >>= fun _ => luaCheckstack 2 >>= k).Safe P := fun c hc fr h hf hh => by
  have hf0 : (fr.withSlots []).Clean := Frame.Clean.withSlots fun _ hv => by cases hv
  simp only [CM.bind_apply, luaSettop_apply, Res.bind_ok, Frame.settop_zero]
  by_cases hr : (fr.withSlots []).HasRoom c.vm 2
  · obtain ⟨fr', hc2, hg, -⟩ := luaCheckstack_of_room (h := h) hr
    rw [show ((2 : Nat) : Int) = 2 from rfl] at hc2
    rw [hc2, Res.bind_ok]
    exact (hk 1 (by decide) c hc fr' h (hf0.of_slots_eq hg.slots) hh).weaken .rfl hg.ciTop
  · have hc2 := luaCheckstack_of_not_room (h := h) hr
    rw [show ((2 : Nat) : Int) = 2 from rfl] at hc2
    rw [hc2, Res.bind_ok, h0]
    simp only [Frame.HasRoom, Frame.top_withSlots, Frame.ciTop_withSlots, List.length_nil,
      not_or] at hr
    exact .abort (by omega) hmsg

end Api

/-! ## The helpers of `util.rs` -/

/-- A table whose values are clean gives clean values. -/
theorem Table.rawget_clean {t : Table} (ht : ∀ p ∈ t, p.2.Clean) (k : Value) :
    (t.rawget k).Clean := by
  induction t with
  | nil => trivial
  | cons p t ih =>
    simp only [Table.rawget]
    split
    · exact ht p (List.mem_cons_self _ _)
    · exact ih fun q hq => ht q (List.mem_cons_of_mem _ hq)

/-- The registry holds only tables and the main thread, so whatever a key finds there is
clean. -/
theorem registryMetatable_clean {c : Ctx} (hc : c.Initialised) (key : Keys → Nat) :
    (registryMetatable c key).Clean := by
  rw [registryMetatable, tables_of_initialised hc]
  exact Table.rawget_clean (t := initRegistry c.vm.keys) (by simp [initRegistry, Value.Clean]) _

/-- On a sound heap, a block under the error metatable holds a `WrappedError`. -/
theorem Heap.Sound.wrappedError {c : Ctx} (hc : c.Initialised) {h : Heap} (hs : h.Sound)
    {r : Nat} (hm : hasMetatable h (.userdata r) (registryMetatable c Keys.error) = true) :
    ∃ e, contentsAt h (.block r) = some (.wrappedError e) := by
  by_contra hx
  refine hs.not_misfit hc .error r ⟨hm, fun ⟨x, hx', hk⟩ => hx ?_⟩
  cases x <;> simp only [Contents.isKind, Bool.false_eq_true] at hk
  exact ⟨_, hx'⟩

/-- On a sound heap, a block under the panic metatable holds a `WrappedPanic`. -/
theorem Heap.Sound.wrappedPanic {c : Ctx} (hc : c.Initialised) {h : Heap} (hs : h.Sound)
    {r : Nat} (hm : hasMetatable h (.userdata r) (registryMetatable c Keys.panic) = true) :
    ∃ o, contentsAt h (.block r) = some (.wrappedPanic o) := by
  by_contra hx
  refine hs.not_misfit hc .panic r ⟨hm, fun ⟨x, hx', hk⟩ => hx ?_⟩
  cases x <;> simp only [Contents.isKind, Bool.false_eq_true] at hk
  exact ⟨_, hx'⟩

section Envelope

variable {α : Type} {P : α → Prop}

theorem luaInternalPanic_safe (msg : String) : (luaInternalPanic msg : CM α).Safe P :=
  (luaSettop_safe _).seq fun _ => rustPanic_safe _

theorem luaInternalAssert_safe (cond : Bool) (msg : String) :
    (luaInternalAssert cond msg).Safe fun _ => True :=
  .ite (.pure trivial) (luaInternalPanic_safe _)

theorem checkStackErr_safe (n : Int) : (checkStackErr n).Safe fun _ => True :=
  (luaCheckstack_safe _).seq fun _ => .ite (.pure trivial) (.pure trivial)

theorem gcGuard_safe {f : CM α} (hf : f.Safe P) : (gcGuard f).Safe P :=
  (luaGc_safe _).seq fun _ =>
    .ite ((luaGc_safe _).seq fun _ => hf.bind fun _ ha => (luaGc_safe _).seq fun _ => .pure ha) hf

theorem getRegistryMetatable_safe (key : Keys → Nat) :
    (getRegistryMetatable key).Safe fun _ => True := fun c hc fr h hf hh => by
  rw [getRegistryMetatable_apply]
  exact .ok trivial (hf.push (registryMetatable_clean hc.initialised key)) (Nat.le_refl _) hh .rfl

theorem isWrappedWith_safe {getMetatable : CM Unit} (hg : getMetatable.Safe fun _ => True)
    (index : Int) : (isWrappedWith getMetatable index).Safe fun _ => True :=
  (luaTouserdata_safe _).seq fun _ => .ite (.pure trivial) <|
    (luaGetmetatable_safe _).seq fun _ => .ite (.pure trivial) <| hg.seq fun _ =>
      (luaRawequal_safe _ _).seq fun _ => (luaPop_safe _).seq fun _ => .pure trivial

theorem isWrappedError_safe (index : Int) : (isWrappedError index).Safe fun _ => True :=
  isWrappedWith_safe (getRegistryMetatable_safe _) _

theorem isWrappedPanic_safe (index : Int) : (isWrappedPanic index).Safe fun _ => True :=
  isWrappedWith_safe (getRegistryMetatable_safe _) _

/-- The envelope `push_wrapped_error` builds is sound, and only its block is pushed. -/
theorem pushWrappedError_safe (e : Error) : (pushWrappedError e).Safe fun _ => True :=
  fun c hc fr h hf hh => by
    rw [pushWrappedError_apply]
    exact .ok trivial (Frame.Clean.withSlots fun v hv =>
        (List.mem_append.1 hv).elim (hf v) fun hv => by cases List.mem_singleton.1 hv; trivial)
      (Nat.le_refl _) ((HeapEffect.wrapError e rfl).sound hc.initialised hh)
      (HeapEffect.wrapError e rfl).grows

theorem pushWrappedPanic_safe (p : PanicPayload) : (pushWrappedPanic p).Safe fun _ => True :=
  fun c hc fr h hf hh => by
    rw [pushWrappedPanic_apply]
    exact .ok trivial (Frame.Clean.withSlots fun v hv =>
        (List.mem_append.1 hv).elim (hf v) fun hv => by cases List.mem_singleton.1 hv; trivial)
      (Nat.le_refl _) ((HeapEffect.wrapPanic p rfl).sound hc.initialised hh)
      (HeapEffect.wrapPanic p rfl).grows

theorem getUserdata_safe (index : Int) : (getUserdata index).Safe fun _ => True :=
  (luaTouserdata_safe _).seq fun
    | some _ => .pure trivial
    | none => luaInternalPanic_safe _

/-- `pop_wrapped_error` reads only blocks under the error metatable, which hold a
`WrappedError` on a sound heap. -/
theorem popWrappedError_safe : popWrappedError.Safe fun _ => True := fun c hc fr h hf hh => by
  rcases popWrappedError_cases c fr h with ⟨_, he, hs, hr⟩ | ⟨_, _, he, hs, hr⟩ | ⟨-, r, hmis⟩
  · rw [he]; exact .ok trivial (hf.of_slots_eq hs) hr.ciTop.ge hh .rfl
  · rw [he]; exact .ok trivial (hf.dropLast hs) hr.ciTop.ge hh .rfl
  · exact absurd hmis (hh.not_misfit hc.initialised _ _)

/-- Only `LUA_ERRMEM` makes the `match err_code` abort. -/
theorem errorFromCode_safe {errCode : Int} (hcode : errCode ≠ luaErrMem) (errString : String) :
    (errorFromCode errCode errString).Safe fun _ => True :=
  .ite (.pure trivial) <| .ite (.pure trivial) <| .ite (.pure trivial) <|
    .ite_neg hcode <| .ite (.pure trivial) (luaInternalPanic_safe _)

/-- `pop_error` takes the payload out of a `WrappedPanic` only, reads no block as another type
on a sound heap, and aborts on no status but `LUA_ERRMEM`. -/
theorem popError_safe {errCode : Int} (hcode : errCode ≠ luaErrMem) :
    (popError errCode).Safe fun _ => True := fun c hc fr h hf hh => by
  by_cases hec : IsErrorCode errCode
  · rcases popWrappedError_cases c fr h with ⟨fr1, h1, hs1, hr1⟩ | ⟨e, fr1, h1, hs1, hr1⟩ |
      ⟨-, r, hmis⟩
    · obtain ⟨fr2, hs2, hr2, hpe⟩ := popError_of_none hec h1
      have hf2 : fr2.Clean := hf.of_slots_eq (hs2.trans hs1)
      have hk2 : fr.ciTop ≤ fr2.ciTop := by rw [hr2.ciTop, hr1.ciTop]
      rw [hpe]
      split
      · rename_i hp
        obtain ⟨r, hv⟩ := eq_userdata_of_hasMetatable hp
        rw [hv] at hp
        obtain ⟨o, ho⟩ := hh.wrappedPanic hc.initialised hp
        have heff : HeapEffect c h (h.takePayload r) := .takePayload r o ho rfl
        rw [resumeWrappedPanic_apply ((indexValue_of_slots_eq hs2 _).trans hv) ho]
        exact .unwind (hf2.settop 0) ((fr2.ciTop_settop 0).symm ▸ hk2)
          (heff.sound hc.initialised hh) heff.grows
      · obtain ⟨fr3, hs3, hr3, he⟩ := errorFromValue_apply c fr2 h errCode
        rw [he]
        exact (errorFromCode_safe hcode _ c hc fr3 h (hf2.dropLast hs3) hh).weaken .rfl
          (hr3.ciTop.symm ▸ hk2)
    · have he : popError errCode c fr h = .ok e fr1 h := by
        simp [popError, luaInternalAssert_errorCode hec, h1]
      rw [he]
      exact .ok trivial (hf.dropLast hs1) hr1.ciTop.ge hh .rfl
    · exact absurd hmis (hh.not_misfit hc.initialised _ _)
  · have hfalse : (errCode != luaOk && errCode != luaYield) = false := by
      simpa [bne_iff_ne, IsErrorCode, Decidable.imp_iff_not_or] using hec
    have he : popError errCode c fr h =
        .unwind (.message "pop_error called with non-error return code") (fr.withSlots []) h := by
      simp [popError, hfalse, Frame.settop_zero]
    rw [he]
    exact .unwind (Frame.Clean.withSlots fun _ hv => by cases hv) (Nat.le_refl _) hh .rfl

theorem stackErrGuard_safe (change : Int) {op : CM (Except Error α)} {P : Except Error α → Prop}
    (hop : op.Safe P) : (stackErrGuard change op).Safe P :=
  luaGettop_safe.seq fun _ => (luaInternalAssert_safe _ _).seq fun _ =>
    hop.bind fun _ ha => luaGettop_safe.seq fun _ =>
      .ite (luaGettop_safe.seq fun _ => (luaInternalAssert_safe _ _).seq fun _ => .pure ha)
        ((luaInternalAssert_safe _ _).seq fun _ =>
          .ite ((luaSettop_safe _).seq fun _ => .pure ha)
            ((CM.Safe.pure trivial).seq fun _ => .pure ha))

end Envelope

/-! ## The C functions -/

section CFunctions

variable {α : Type}

theorem callbackError_safe {f : CM (Except Error α)} (hf : f.Safe fun _ => True) :
    (callbackError f).Safe fun _ => True :=
  (catchUnwind_safe hf).seq fun
    | .ok (.ok _) => .pure trivial
    | .ok (.error _) => (luaSettop_safe _).seq fun _ => (luaLCheckstack_safe _).seq fun _ =>
      (pushWrappedError_safe _).seq fun _ => luaError_safe
    | .error _ => clearAndCheck_safe (List.mem_cons_self _ _) (fun _ _ _ => rfl) fun _ hr =>
      .ite_neg hr <| (CM.Safe.pure trivial).seq fun _ =>
        (pushWrappedPanic_safe _).seq fun _ => luaError_safe

theorem rustCallbackError_safe {f : CM (Except Error Int)} (hf : f.Safe fun _ => True) :
    (rustCallbackError f).Safe fun _ => True := by
  refine (catchUnwind_safe hf).seq fun _ => ?_
  split
  · exact .pure trivial
  · exact .pure trivial
  · exact (luaSettop_safe _).seq fun _ => (luaCheckstack_safe _).seq fun _ =>
      .ite (.pure trivial) ((pushWrappedError_safe _).seq fun _ => .pure trivial)
  · exact clearAndCheck_safe (List.mem_cons_of_mem _ (List.mem_singleton_self _))
      (fun _ _ _ => rfl) fun _ hr =>
        .ite_neg hr <| (pushWrappedPanic_safe _).seq fun _ => .pure trivial

/-- The shim raises the protocol's stack error, which the context keeps clean. -/
theorem rcallShim_safe {f : CM Int} (hf : f.Safe fun _ => True) :
    (rcallShim f).Safe fun _ => True :=
  hf.seq fun _ => .ite luaError_safe
    (.ite (fun _ hc _ _ hfr hh => .error hc.stackError hfr (Nat.le_refl _) hh .rfl)
      (.pure trivial))

/-- `error_tostring` reads the block on top only after `is_wrapped_error` found it under the
error metatable, so on a sound heap the read finds a `WrappedError`. -/
theorem errorTostringBody_safe : errorTostringBody.Safe fun _ => True := fun c hc fr h hf hh => by
  by_cases hr : fr.HasRoom c.vm 2
  · obtain ⟨fr2, hc2, hg, -⟩ := luaCheckstack_of_room (h := h) hr
    rw [show ((2 : Nat) : Int) = 2 from rfl] at hc2
    obtain ⟨fr3, h3, hs3, hr3⟩ := isWrappedError_spec c fr2 h (-1)
    have hf3 : fr3.Clean := hf.of_slots_eq (hs3.trans hg.slots)
    have hk3 : fr.ciTop ≤ fr3.ciTop := hr3.ciTop.symm ▸ hg.ciTop
    simp only [errorTostringBody, checkStackErr, CM.bind_apply, hc2, Res.bind_ok, Int.reduceEq,
      ↓reduceIte, CM.pure_apply, h3]
    split
    · rename_i hm
      obtain ⟨r, hv⟩ := eq_userdata_of_hasMetatable hm
      rw [hv] at hm
      obtain ⟨e, he⟩ := hh.wrappedError hc.initialised hm
      have hv3 : indexValue c fr3 (-1) = .userdata r := (indexValue_of_slots_eq hs3 _).trans hv
      have hread : readWrappedError (.block r) c fr3 h = .ok e fr3 h := by
        simp [readWrappedError, he]
      exact .bind_of_ok (getUserdata_userdata hv3) <| .bind_of_ok rfl <| .bind_of_ok hread <|
        (((gcGuard_safe (luaPushlstring_safe _)).seq fun _ => (luaRemove_safe _).seq fun _ =>
          .pure trivial) c hc fr3 h hf3 hh).weaken .rfl hk3
    · exact .unwind hf3 hk3 hh .rfl
  · have hc2 := luaCheckstack_of_not_room (h := h) hr
    rw [show ((2 : Nat) : Int) = 2 from rfl] at hc2
    simp only [errorTostringBody, checkStackErr, CM.bind_apply, hc2, Res.bind_ok, ↓reduceIte,
      CM.pure_apply]
    exact .ok trivial hf (Nat.le_refl _) hh .rfl

theorem errorTostring_safe : errorTostring.Safe fun _ => True :=
  rustCallbackError_safe errorTostringBody_safe

theorem destructedError_safe : destructedError.Safe fun _ => True :=
  rustCallbackError_safe (.pure trivial)

theorem captureTraceback_safe : captureTraceback.Safe fun _ => True :=
  (luaCheckstack_safe _).seq fun _ => .ite
    ((gcGuard_safe (luaLTraceback_safe _)).seq fun _ =>
      (luaTostring_safe _).seq fun _ => (luaPop_safe _).seq fun _ => .pure trivial)
    (.pure trivial)

theorem wrapCallbackError_safe : wrapCallbackError.Safe fun _ => True :=
  captureTraceback_safe.seq fun _ => popWrappedError_safe.seq fun
    | some _ => pushWrappedError_safe _
    | none => rustPanic_safe _

theorem tracebackLuaError_safe : tracebackLuaError.Safe fun _ => True :=
  (luaCheckstack_safe _).seq fun _ => .ite
    (gcGuard_safe ((luaTostring_safe _).seq fun _ => (luaLTraceback_safe _).seq fun _ =>
      luaRemove_safe _))
    (.pure trivial)

theorem errorTraceback_safe : errorTraceback.Safe fun _ => True :=
  have done : ∀ {m : CM Unit}, (m.Safe fun _ => True) →
      (m >>= fun _ => (Pure.pure 1 : CM Int)).Safe fun _ => True :=
    fun hm => hm.seq fun _ => .pure trivial
  (luaCheckstack_safe _).seq fun _ => .ite (done (.pure trivial)) <|
    (isWrappedError_safe _).seq fun _ => .ite (done wrapCallbackError_safe) <|
      (isWrappedPanic_safe _).seq fun _ =>
        .ite (done tracebackLuaError_safe) (done (.pure trivial))

/-- How `safe_pcall` and `safe_xpcall` end a failed call. -/
theorem pcallFailed_safe :
    (isWrappedPanic (-1) >>= fun b =>
      let k := fun (_ : PUnit) => (do luaPushboolean 0; luaInsert (-2); pure 2 : CM Int)
      if b = true then luaError >>= k else pure PUnit.unit >>= k).Safe fun _ => True :=
  have k := (luaPushboolean_safe _).seq fun _ => (luaInsert_safe _).seq fun _ => .pure trivial
  (isWrappedPanic_safe _).seq fun _ => .ite (luaError_safe.seq fun _ => k)
    ((CM.Safe.pure trivial).seq fun _ => k)

theorem safePcall_safe : safePcall.Safe fun _ => True :=
  (luaLCheckstack_safe _).seq fun _ => luaGettop_safe.seq fun _ =>
    .ite ((luaPushstring_safe _).seq fun _ => luaError_safe) <|
      (luaPcall_safe _ _ _).bind fun _ _ => .ite pcallFailed_safe <|
        (luaPushboolean_safe _).seq fun _ => (luaInsert_safe _).seq fun _ => luaGettop_safe

theorem xpcallMsgh_safe : xpcallMsgh.Safe fun _ => True :=
  (luaLCheckstack_safe _).seq fun _ => (isWrappedPanic_safe _).seq fun _ =>
    .ite (.pure trivial) <| (luaPushvalue_safe _).seq fun _ => (luaInsert_safe _).seq fun _ =>
      luaGettop_safe.seq fun _ => (luaCall_safe _ _).seq fun _ => luaGettop_safe

/-- `safe_xpcall` wraps the script's handler in a closure of `xpcall_msgh`, a callable
function. -/
theorem safeXpcall_safe : safeXpcall.Safe fun _ => True :=
  have k := (luaPushvalue_safe _).seq fun _ => (luaPushcclosure_safe (f := .xpcallMsgh) _ trivial).seq fun _ =>
    (luaCopy_safe _ _).seq fun _ => (luaReplace_safe _).seq fun _ =>
    luaGettop_safe.seq fun _ => (luaPcall_safe _ _ _).bind fun _ _ =>
    .ite pcallFailed_safe <| (luaPushboolean_safe _).seq fun _ =>
      (luaInsert_safe _).seq fun _ => luaGettop_safe.seq fun _ => .pure trivial
  (luaLCheckstack_safe _).seq fun _ => luaGettop_safe.seq fun _ =>
    .ite ((luaPushstring_safe _).seq fun _ => luaError_safe.seq fun _ => k)
      ((CM.Safe.pure trivial).seq fun _ => k)

/-- Every C function a program can call keeps the invariant. -/
theorem cfunctionBody_safe : ∀ fn : CFn, fn.Callable → (cfunctionBody fn).Safe fun _ => True
  | .safePcall, _ => safePcall_safe
  | .safeXpcall, _ => safeXpcall_safe
  | .xpcallMsgh, _ => xpcallMsgh_safe
  | .errorTraceback, _ => errorTraceback_safe
  | .userdataDestructor _, hf => hf.elim
  | .errorTostring, _ => rcallShim_safe errorTostring_safe
  | .destructedError, _ => rcallShim_safe destructedError_safe

end CFunctions

end Rlua
