import Rlua.Util.Init

/-!
# The typed-error round trip

An `Error` crosses Lua inside a `WrappedError` envelope: `push_wrapped_error` (or
`callback_error`, when its closure returns `Err`) builds it, and the host side opens it again
with `pop_wrapped_error` or `pop_error`. Once `init_error_metatables` has run, the error comes
back unchanged, whatever it is, from any stack, and the stack below the envelope is left
exactly as it was. `error_traceback`, the host's message handler, replaces the envelope by one
holding a `CallbackError` whose cause is the original error.

## Main results

* `wrapped_error_round_trip`: the four paths an error takes through an envelope.
-/

namespace Rlua

section RoundTrip

variable {c : Ctx} (hc : c.Initialised) {h : Heap} {fr : Frame} {xs : List Value} {e : Error}
include hc

/-- `pop_wrapped_error` opens an envelope `push_wrapped_error` made. -/
theorem popWrappedError_fresh (hs : fr.slots = xs ++ [.userdata h.userdata.length]) :
    ∃ fr', popWrappedError c fr (h.alloc (envelopeBlock c Keys.error (.wrappedError e))) =
      .ok (some e) fr' (h.alloc (envelopeBlock c Keys.error (.wrappedError e))) ∧
      fr'.slots = xs := by
  obtain ⟨fr', hp, hs', -⟩ := popWrappedError_of_wrapped hs
    (hasMetatable_envelope (registryMetatable_error hc) _) (contentsAt_envelope _)
  exact ⟨fr', hp, hs'⟩

/-- `pop_error` opens an envelope `push_wrapped_error` made, for every error code. -/
theorem popError_fresh {errCode : Int} (hcode : IsErrorCode errCode)
    (hs : fr.slots = xs ++ [.userdata h.userdata.length]) :
    ∃ fr', popError errCode c fr (h.alloc (envelopeBlock c Keys.error (.wrappedError e))) =
      .ok e fr' (h.alloc (envelopeBlock c Keys.error (.wrappedError e))) ∧ fr'.slots = xs := by
  obtain ⟨fr', hp, hs', -⟩ := popError_of_wrappedError hcode hs
    (hasMetatable_envelope (registryMetatable_error hc) _) (contentsAt_envelope _)
  exact ⟨fr', hp, hs'⟩

/-- `error_traceback`, called as a message handler on an envelope, returns a new envelope
holding a `CallbackError` around the error. -/
theorem errorTraceback_fresh (base : Nat) :
    ∃ tb fr', errorTraceback c (Frame.entry base [.userdata h.userdata.length])
        (h.alloc (envelopeBlock c Keys.error (.wrappedError e))) =
      .ok 1 fr' ((h.alloc (envelopeBlock c Keys.error (.wrappedError e))).alloc
        (envelopeBlock c Keys.error (.wrappedError (.callbackError tb e)))) ∧
      fr'.slots = [.userdata (h.userdata.length + 1)] := by
  let h1 := h.alloc (envelopeBlock c Keys.error (.wrappedError e))
  let fr0 := Frame.entry base [.userdata h.userdata.length]
  have hc0 : luaCheckstack 2 c fr0 h1 = .ok 1 fr0 h1 := by
    simp [luaCheckstack, fr0, Frame.entry, Frame.top, luaMinStack]
  obtain ⟨fr2, h2, hs2, -⟩ := isWrappedError_spec c fr0 h1 1
  have hm : hasMetatable h1 (indexValue c fr0 1) (registryMetatable c Keys.error) = true := by
    rw [indexValue_one (show fr0.slots = _ :: [] from rfl)]
    exact hasMetatable_envelope (registryMetatable_error hc) _
  obtain ⟨tb, fr3, h3, hs3⟩ := wrapCallbackError_apply (show fr2.slots = [] ++ _ from hs2)
    (hasMetatable_envelope (registryMetatable_error hc) _) (contentsAt_envelope (.wrappedError e))
  refine ⟨tb, fr3, ?_, by simpa [h1] using hs3⟩
  simp [errorTraceback, hc0, h2, hm, h3]

end RoundTrip

/-- The envelope round trip, after `init_error_metatables`, for every error `e`, stack and
heap:

* `push_wrapped_error(e)` then `pop_wrapped_error` returns `Some(e)`, with the stack and the
  collector's flag as they were;
* the same with `pop_error`, for every error code other than `LUA_OK` and `LUA_YIELD`;
* when `callback_error`'s closure returns `Err(e)`, the value it raises gives `e` back to
  `pop_error` on any host stack that has it on top, and pops only it;
* when the envelope goes through `error_traceback` as a message handler first, `pop_error`
  returns a `CallbackError` whose cause is `e`. -/
theorem wrapped_error_round_trip {c : Ctx} (hc : c.Initialised) (e : Error) (fr : Frame)
    (h : Heap) :
    (∃ fr' h', (do pushWrappedError e; popWrappedError) c fr h = .ok (some e) fr' h' ∧
      fr'.slots = fr.slots ∧ h'.gcRunning = h.gcRunning) ∧
    (∀ errCode, IsErrorCode errCode → ∃ fr' h',
      (do pushWrappedError e; popError errCode) c fr h = .ok e fr' h' ∧
      fr'.slots = fr.slots ∧ h'.gcRunning = h.gcRunning) ∧
    (∀ {α : Type} (f : CM (Except Error α)) (fr1 : Frame) (h1 : Heap),
      f c fr h = .ok (.error e) fr1 h1 → (fr1.withSlots []).HasRoom c.vm 2 →
      ∃ v frE hE, callbackError f c fr h = .error v frE hE ∧ hE.gcRunning = h1.gcRunning ∧
        ∀ errCode, IsErrorCode errCode → ∀ (frH : Frame) (xs : List Value),
          frH.slots = xs ++ [v] → ∃ frH', popError errCode c frH hE = .ok e frH' hE ∧
            frH'.slots = xs) ∧
    (∀ base errCode, IsErrorCode errCode →
      ∃ tb v frT hT, errorTraceback c (Frame.entry base [.userdata h.userdata.length])
          (h.alloc (envelopeBlock c Keys.error (.wrappedError e))) = .ok 1 frT hT ∧
        frT.slots = [v] ∧ ∀ (frH : Frame) (xs : List Value), frH.slots = xs ++ [v] →
          ∃ frH', popError errCode c frH hT = .ok (.callbackError tb e) frH' hT ∧
            frH'.slots = xs) := by
  have hs1 : (((fr.push (.userdata h.userdata.length)).push
      (registryMetatable c Keys.error)).withSlots
        (fr.slots ++ [.userdata h.userdata.length])).slots =
      fr.slots ++ [.userdata h.userdata.length] := rfl
  refine ⟨?_, fun errCode hcode => ?_, fun f fr1 h1 hf hr => ?_, fun base errCode hcode => ?_⟩
  · obtain ⟨fr', hp, hs'⟩ := popWrappedError_fresh hc (e := e) hs1
    exact ⟨fr', _, by simp [pushWrappedError_apply, hp]; rfl, hs', by simp⟩
  · obtain ⟨fr', hp, hs'⟩ := popError_fresh hc (e := e) hcode hs1
    exact ⟨fr', _, by simp [pushWrappedError_apply, hp]; rfl, hs', by simp⟩
  · obtain ⟨frE, hE, -, -⟩ := callbackError_of_err hf hr
    exact ⟨_, frE, _, hE, by simp, fun errCode hcode frH xs hs => popError_fresh hc hcode hs⟩
  · obtain ⟨tb, frT, hT, hsT⟩ := errorTraceback_fresh hc (e := e) (h := h) base
    exact ⟨tb, _, frT, _, hT, hsT, fun frH xs hs =>
      popError_fresh hc hcode (by simpa using hs)⟩

theorem wrapped_error_round_trip_sample :
    sampleCtx.Initialised ∧
    ∃ fr' h', (do pushWrappedError .stackError; popWrappedError) sampleCtx freshFrame
        ⟨[], true⟩ = .ok (some .stackError) fr' h' ∧
      fr'.slots = freshFrame.slots ∧ h'.gcRunning = true :=
  ⟨sampleCtx_initialised,
    (wrapped_error_round_trip sampleCtx_initialised .stackError freshFrame ⟨[], true⟩).1⟩

end Rlua
