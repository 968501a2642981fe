import Rlua.Util.Envelope

/-!
# Stack guards

`stack_guard` and `stack_err_guard` bracket an operation with a check of the stack depth: the
caller declares the change `Δ` the operation makes, and the guard asserts that the top moved
from `D` to `E = D + Δ`. On an `Err` result, `stack_err_guard` accepts a higher stack and cuts
it back to `E`.

## Main results

* `stackGuard_of_ok`: for every operation that returns, `stack_guard` returns its result exactly
  when `E ≥ 0` and the operation left depth `E`, and fails its internal assertion otherwise.
* `stackErrGuard_of_ok`: the same for `stack_err_guard`, whose failure conditions are `E < 0`,
  an `Ok` at a depth other than `E`, or an `Err` below `E`; when it returns, the result is the
  operation's and the stack is the operation's cut to its first `E` values.
-/

namespace Rlua

/-- `stack_guard`: runs `op` and asserts that it moved the top by `change`. -/
def stackGuard {α : Type} (change : Int) (op : CM α) : CM α := do
  let expected := (← luaGettop) + change
  luaInternalAssert (decide (expected ≥ 0)) "too many stack values would be popped"
  let res ← op
  let top ← luaGettop
  luaInternalAssert (decide ((← luaGettop) = expected))
    ("expected stack to be " ++ toString expected ++ ", got " ++ toString top)
  pure res

/-- `stack_err_guard`: as `stack_guard` on `Ok`; on `Err` the stack may be higher than
expected, and is cut back to the expected top. -/
def stackErrGuard {α : Type} (change : Int) (op : CM (Except Error α)) :
    CM (Except Error α) := do
  let expected := (← luaGettop) + change
  luaInternalAssert (decide (expected ≥ 0)) "too many stack values would be popped"
  let res ← op
  let top ← luaGettop
  if res.isOk then
    luaInternalAssert (decide ((← luaGettop) = expected))
      ("expected stack to be " ++ toString expected ++ ", got " ++ toString top)
  else
    luaInternalAssert (decide (top ≥ expected))
      (toString (top - expected) ++ " too many stack values popped")
    if top > expected then luaSettop expected
  pure res

section Spec

variable {α : Type} (change : Int) (c : Ctx) (fr : Frame) (h : Heap)

/-- `stack_guard` around an operation that returns: the operation's result when the depth
went from `D` to `D + change ≥ 0`, an internal assertion failure otherwise. -/
theorem stackGuard_of_ok {op : CM α} {a : α} {fr' : Frame} {h' : Heap}
    (hop : op c fr h = .ok a fr' h') :
    (0 ≤ (fr.top : Int) + change ∧ (fr'.top : Int) = fr.top + change →
      stackGuard change op c fr h = .ok a fr' h') ∧
    (¬(0 ≤ (fr.top : Int) + change ∧ (fr'.top : Int) = fr.top + change) →
      (stackGuard change op c fr h).IsInternalFailure) := by
  constructor
  · rintro ⟨hE, hT⟩
    simp [stackGuard, hE, hT, hop]
  · intro hn
    by_cases hE : 0 ≤ (fr.top : Int) + change
    · have hT : ¬ (fr'.top : Int) = fr.top + change := fun hT => hn ⟨hE, hT⟩
      simp [stackGuard, hE, hT, hop, Res.IsInternalFailure, Frame.settop, Frame.withSlots]
    · simp [stackGuard, hE, Res.IsInternalFailure, Frame.settop, Frame.withSlots]

/-- When `stack_err_guard` fails its assertion, for an operation that returned `res` at
depth `top` from entry depth `d`. -/
def ErrGuardFails (d : Nat) (change : Int) (res : Except Error α) (top : Nat) : Prop :=
  (d : Int) + change < 0 ∨ (res.isOk ∧ (top : Int) ≠ d + change) ∨
    (res.isOk = false ∧ (top : Int) < d + change)

/-- `stack_err_guard` around an operation that returns: an internal assertion failure exactly
under `ErrGuardFails`; otherwise the operation's result, with its stack cut to the expected
depth. -/
theorem stackErrGuard_of_ok {op : CM (Except Error α)} {res : Except Error α} {fr' : Frame}
    {h' : Heap} (hop : op c fr h = .ok res fr' h') :
    (ErrGuardFails fr.top change res fr'.top →
      (stackErrGuard change op c fr h).IsInternalFailure) ∧
    (¬ ErrGuardFails fr.top change res fr'.top →
      stackErrGuard change op c fr h =
        .ok res (fr'.withSlots (fr'.slots.take ((fr.top : Int) + change).toNat)) h') := by
  simp only [ErrGuardFails]
  by_cases hE' : (fr.top : Int) + change < 0
  · refine ⟨fun _ => ?_, fun hn => absurd (Or.inl hE') hn⟩
    have hE : ¬ 0 ≤ (fr.top : Int) + change := by omega
    simp [stackErrGuard, hE, Res.IsInternalFailure, Frame.settop, Frame.withSlots]
  · have hE : 0 ≤ (fr.top : Int) + change := by omega
    cases res with
    | ok x =>
      by_cases hT : (fr'.top : Int) = fr.top + change
      · simp [stackErrGuard, Except.isOk, Except.toBool, hE, hE', hT, hop,
          Frame.withSlots_take_eq hT]
      · simp [stackErrGuard, Except.isOk, Except.toBool, hE, hT, hop, Res.IsInternalFailure,
          Frame.settop, Frame.withSlots]
    | error e =>
      rcases Int.lt_trichotomy (fr'.top : Int) (fr.top + change) with hT | hT | hT
      · have : ¬ (fr.top : Int) + change ≤ fr'.top := by omega
        simp [stackErrGuard, Except.isOk, Except.toBool, hE, hT, this, hop,
          Res.IsInternalFailure, Frame.settop, Frame.withSlots]
      · simp [stackErrGuard, Except.isOk, Except.toBool, hE, hE', hT, hop,
          Frame.withSlots_take_eq hT]
      · have hle : (fr.top : Int) + change ≤ fr'.top := by omega
        have hn : ¬ (fr'.top : Int) < fr.top + change := by omega
        simp [stackErrGuard, Except.isOk, Except.toBool, hE, hE', hT, hle, hn, hop,
          Frame.settop_of_le hE hle]

/-- A jump out of the operation (a Lua error, a panic, an abort, a run out of fuel) goes
through `stack_err_guard` as it is. -/
theorem stackErrGuard_of_not_ok {op : CM (Except Error α)} {r : Res (Except Error α)}
    (hop : op c fr h = r) (hr : ∀ a fr' h', r ≠ .ok a fr' h')
    (hE : 0 ≤ (fr.top : Int) + change) : stackErrGuard change op c fr h = r := by
  cases r with
  | ok a fr' h' => exact absurd rfl (hr a fr' h')
  | _ => simp [stackErrGuard, hE, hop]

end Spec

/-- The stack guards check the declared change for every operation that returns, from any
depth `D` and for any change `Δ`, with `E = D + Δ`. `stack_guard` returns the operation's
result exactly when `E ≥ 0` and the operation left depth `E`, and fails its internal
assertion otherwise. `stack_err_guard` fails its assertion exactly when `E < 0`, or on `Ok`
at a depth other than `E`, or on `Err` below `E`; otherwise it returns the operation's result
with depth `E`, keeping the bottom `E` values the operation left. -/
theorem stack_guards_enforce_declared_change (change : Int) (c : Ctx) (fr : Frame) (h : Heap) :
    (∀ {α : Type} (op : CM α) (a : α) (fr' : Frame) (h' : Heap), op c fr h = .ok a fr' h' →
      (0 ≤ (fr.top : Int) + change ∧ (fr'.top : Int) = fr.top + change →
        stackGuard change op c fr h = .ok a fr' h') ∧
      (¬(0 ≤ (fr.top : Int) + change ∧ (fr'.top : Int) = fr.top + change) →
        (stackGuard change op c fr h).IsInternalFailure)) ∧
    (∀ {α : Type} (op : CM (Except Error α)) (res : Except Error α) (fr' : Frame) (h' : Heap),
      op c fr h = .ok res fr' h' →
      (ErrGuardFails fr.top change res fr'.top →
        (stackErrGuard change op c fr h).IsInternalFailure) ∧
      (¬ ErrGuardFails fr.top change res fr'.top →
        ∃ fr'', stackErrGuard change op c fr h = .ok res fr'' h' ∧
          (fr''.top : Int) = fr.top + change ∧
          fr''.slots = fr'.slots.take ((fr.top : Int) + change).toNat)) := by
  refine ⟨fun op a fr' h' hop => stackGuard_of_ok change c fr h hop,
    fun op res fr' h' hop => ⟨(stackErrGuard_of_ok change c fr h hop).1, fun hn => ?_⟩⟩
  refine ⟨_, (stackErrGuard_of_ok change c fr h hop).2 hn, ?_, rfl⟩
  have hE : 0 ≤ (fr.top : Int) + change := by simp only [ErrGuardFails] at hn; omega
  have hle : (fr.top : Int) + change ≤ fr'.top := by
    cases hok : res.isOk <;> simp [ErrGuardFails, hok] at hn <;> omega
  simp only [Frame.withSlots, Frame.top, List.length_take] at hE hle ⊢
  omega

/-- On the stack `[1, 2]`: `stack_guard` with change 1 around one push returns what the push
did, and with change 0 fails its assertion; `stack_err_guard` with change -1 around a push that
returns `Err` cuts the stack to `[1]`. -/
theorem stack_guards_enforce_declared_change_sample :
    stackGuard 1 (luaPushboolean 1) bareCtx (Frame.entry 0 [.integer 1, .integer 2]) ⟨[], true⟩ =
        .ok () ((Frame.entry 0 [.integer 1, .integer 2]).push (.boolean true)) ⟨[], true⟩ ∧
      (stackGuard 0 (luaPushboolean 1) bareCtx (Frame.entry 0 [.integer 1, .integer 2])
        ⟨[], true⟩).IsInternalFailure ∧
      ∃ fr'', stackErrGuard (-1) (luaPushboolean 1 >>= fun _ => pure (.error .stackError) :
          CM (Except Error Unit)) bareCtx (Frame.entry 0 [.integer 1, .integer 2]) ⟨[], true⟩ =
        .ok (.error .stackError) fr'' ⟨[], true⟩ ∧ fr''.slots = [.integer 1] := by
  have hpush : luaPushboolean 1 bareCtx (Frame.entry 0 [.integer 1, .integer 2]) ⟨[], true⟩ =
      .ok () ((Frame.entry 0 [.integer 1, .integer 2]).push (.boolean true)) ⟨[], true⟩ := rfl
  refine ⟨((stack_guards_enforce_declared_change 1 _ _ _).1 _ () _ _ hpush).1
      ⟨by decide, by decide⟩,
    ((stack_guards_enforce_declared_change 0 _ _ _).1 _ () _ _ hpush).2 (by decide), ?_⟩
  have hop : (luaPushboolean 1 >>= fun _ => pure (.error .stackError) : CM (Except Error Unit))
      bareCtx (Frame.entry 0 [.integer 1, .integer 2]) ⟨[], true⟩ = .ok (.error .stackError)
        ((Frame.entry 0 [.integer 1, .integer 2]).push (.boolean true)) ⟨[], true⟩ := rfl
  obtain ⟨fr'', he, -, hs⟩ := ((stack_guards_enforce_declared_change (-1) _ _ _).2 _ _ _ _ hop).2
    (by simp [ErrGuardFails, Frame.top, Except.isOk, Except.toBool])
  exact ⟨fr'', he, hs.trans rfl⟩

end Rlua
