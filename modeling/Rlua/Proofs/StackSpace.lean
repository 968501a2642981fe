import Rlua.Util.ProtectedCall
import Rlua.Util.Init

/-!
# Stack space of the protected calls scripts see

`safe_pcall`, `safe_xpcall` and `xpcall_msgh` each start with `luaL_checkstack(state, 2)` and
push only a few values of their own: the boolean that tells the script how the call went, the
handler and its `xpcall_msgh` closure, and the metatable test of `is_wrapped_panic`. A C
function is entered with `LUA_MINSTACK` guaranteed slots, and a protected call with
`LUA_MULTRET` leaves its results on the stack with no free slot above them. The `overrun`
ghost field of a frame records a push past the guaranteed slots, which the API forbids and a
release build of Lua does not check.

Over every nested-call semantics (`Ctx.call` is arbitrary here), every callee, every argument
list and every result list:

* the success paths of `safe_pcall` and `safe_xpcall` return `true` and every result of the
  callee, and push `true` past the guaranteed slots exactly when the callee returned at least
  21 more values than it was given: the reservation of 2 slots was made before the call and
  the results used it up;
* every other path of the two, and every path of `xpcall_msgh`, pushes only into guaranteed
  slots.

## Main results

* `protected_calls_stack_space`, with `protected_calls_stack_space_sample`, a callee of no
  arguments returning 21 values, at which the success push of `safe_pcall` overruns.
-/

namespace Rlua

section NoResults

variable {c : Ctx} {base : Nat} {f m : Value} {args : List Value} {h : Heap}

/-- When the callee returns no results, `safe_pcall` pushes only into guaranteed slots. -/
theorem safePcall_no_overrun (hnr : ∀ rs h', c.call none f args (base + 1) h ≠ .ret rs h') :
    ∀ fr', (safePcall c (Frame.entry base (f :: args)) h).frame? = some fr' →
      fr'.overrun = false := by
  rcases hf : c.call none f args (base + 1) h with ⟨rs, h'⟩ | ⟨v, h'⟩ | ⟨p, h'⟩ | msg | _
  · exact absurd hf (hnr rs h')
  · cases hv : hasMetatable h' v (registryMetatable c Keys.panic)
    · obtain ⟨fr', he, -, ho⟩ := safePcall_of_error hf hv
      simp [he, Res.frame?, ho]
    · obtain ⟨fr', he, ho⟩ := safePcall_of_panicEnvelope hf hv
      simp [he, Res.frame?, ho]
  all_goals rw [safePcall_entry, hf]; simp [Res.frame?]

/-- When the callee returns no results, `safe_xpcall` pushes only into guaranteed slots. -/
theorem safeXpcall_no_overrun
    (hnr : ∀ rs h', c.call (some (.cclosure .xpcallMsgh m)) f args (base + 2) h ≠ .ret rs h') :
    ∀ fr', (safeXpcall c (Frame.entry base (f :: m :: args)) h).frame? = some fr' →
      fr'.overrun = false := by
  rcases hf : c.call (some (.cclosure .xpcallMsgh m)) f args (base + 2) h with
    ⟨rs, h'⟩ | ⟨v, h'⟩ | ⟨p, h'⟩ | msg | _
  · exact absurd hf (hnr rs h')
  · cases hv : hasMetatable h' v (registryMetatable c Keys.panic)
    · obtain ⟨fr', he, -, ho⟩ := safeXpcall_of_error hf hv
      simp [he, Res.frame?, ho]
    · obtain ⟨fr', he, ho⟩ := safeXpcall_of_panicEnvelope hf hv
      simp [he, Res.frame?, ho]
  all_goals rw [safeXpcall_entry, hf]; simp [Res.frame?]

end NoResults

/-- Where the pushes of `safe_pcall`, `safe_xpcall` and `xpcall_msgh` land: past the
guaranteed slots exactly on the success path of a callee that returned at least 21 more values
than it was given, and nowhere else. On that path the script receives `true` and every result
of the callee, in order: the top `rs.length + 1` slots. -/
theorem protected_calls_stack_space :
    (∀ (c : Ctx) (base : Nat) (f : Value) (args rs : List Value) (h h' : Heap),
      c.call none f args (base + 1) h = .ret rs h' →
      ∃ fr', safePcall c (Frame.entry base (f :: args)) h =
          .ok ((rs.length + 1 : Nat) : Int) fr' h' ∧ fr'.slots = .boolean true :: rs ∧
        (fr'.overrun = true ↔ args.length + 21 ≤ rs.length)) ∧
    (∀ (c : Ctx) (base : Nat) (f m : Value) (args rs : List Value) (h h' : Heap),
      c.call (some (.cclosure .xpcallMsgh m)) f args (base + 2) h = .ret rs h' →
      ∃ fr', safeXpcall c (Frame.entry base (f :: m :: args)) h =
          .ok ((rs.length + 1 : Nat) : Int) fr' h' ∧
        fr'.slots = .cclosure .xpcallMsgh m :: .boolean true :: rs ∧
        (fr'.overrun = true ↔ args.length + 21 ≤ rs.length)) ∧
    (∀ (c : Ctx) (base : Nat) (f : Value) (args : List Value) (h : Heap),
      (∀ rs h', c.call none f args (base + 1) h ≠ .ret rs h') →
      ∀ fr', (safePcall c (Frame.entry base (f :: args)) h).frame? = some fr' →
        fr'.overrun = false) ∧
    (∀ (c : Ctx) (base : Nat) (f m : Value) (args : List Value) (h : Heap),
      (∀ rs h', c.call (some (.cclosure .xpcallMsgh m)) f args (base + 2) h ≠ .ret rs h') →
      ∀ fr', (safeXpcall c (Frame.entry base (f :: m :: args)) h).frame? = some fr' →
        fr'.overrun = false) ∧
    (∀ (c : Ctx) (base : Nat) (v m : Value) (h : Heap), c.upvalues = [m] →
      ∀ fr', (xpcallMsgh c (Frame.entry base [v]) h).frame? = some fr' →
        fr'.overrun = false) :=
  ⟨fun _ _ _ _ _ _ _ hf => safePcall_of_ret hf, fun _ _ _ _ _ _ _ _ hf => safeXpcall_of_ret hf,
    fun _ _ _ _ _ hnr => safePcall_no_overrun hnr, fun _ _ _ _ _ _ hnr => safeXpcall_no_overrun hnr,
    fun _ _ _ _ _ hu => xpcallMsgh_no_overrun hu⟩

/-- A callee that takes no arguments and returns 21 values. -/
def manyResultsCtx : Ctx :=
  { sampleCtx with call := fun _ _ _ _ h => .ret (List.replicate 21 .nil) h }

/-- At that callee `safe_pcall` hands the script `true` and the 21 results, and its push of
`true` goes past the guaranteed slots. -/
theorem protected_calls_stack_space_sample :
    ∃ fr', safePcall manyResultsCtx (Frame.entry 0 [.lfunction 0]) ⟨[], true⟩ =
        .ok ((21 + 1 : Nat) : Int) fr' ⟨[], true⟩ ∧
      fr'.slots = .boolean true :: List.replicate 21 .nil ∧ fr'.overrun = true := by
  obtain ⟨fr', he, hs, ho⟩ := protected_calls_stack_space.1 manyResultsCtx 0 (.lfunction 0) []
    (List.replicate 21 .nil) ⟨[], true⟩ ⟨[], true⟩ rfl
  exact ⟨fr', by simpa using he, hs, ho.2 (by simp)⟩

end Rlua
