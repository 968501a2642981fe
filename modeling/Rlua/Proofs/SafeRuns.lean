import Rlua.Proofs.Safety
import Rlua.Proofs.Collector

/-!
# No block read as another type, over every run

`Rlua.Proofs.Safety` shows, function by function, that the C functions of `util.rs` keep the
invariant `CM.Safe`: a clean stack, a sound heap, and no block read as another Rust type. This
module closes the loop through the rest of the runtime: the binding's host closures and its
protected call, and the interpreter that runs scripts, host closures and the C functions inside
one another to any depth.

The premise is on the program (`Env.Clean`): its scripts and host closures never name a
finalizer, and the protocol's stack error is no finalizer either. Then every value the
interpreter passes around is clean, by induction on the fuel, and so is every heap reached
from one with no userdata, whatever runs and finalizers led there.

## Main results

* `callFn_safe`: every run of the interpreter of a clean program, called with clean values on a
  sound heap, ends with a sound heap, clean results, and no block read as another type.
* `no_undefined_behaviour`: every heap a clean program reaches is sound, and from it no run of
  the interpreter, no protected call of the host and no finalizer reads a block as another type.
* `runs_only_take_payloads`: within such runs, the blocks already there change only by a panic
  payload taken out, so a panic is resumed at most once.
* `no_process_abort`: no such run aborts the process; the `lua_internal_abort!` calls of
  `util.rs` are never reached.
-/

namespace Rlua

/-! ## Clean programs -/

/-- An operand that is no finalizer. -/
def Expr.Clean : Expr → Prop
  | .lit v => v.Clean
  | .reg _ => True

/-- A script whose constants are clean: every value it calls, passes, returns or raises is
clean once its registers are. -/
def Script.Clean : Script → Prop
  | .ret es => ∀ e ∈ es, e.Clean
  | .raise e => e.Clean
  | .call f args next => f.Clean ∧ (∀ e ∈ args, e.Clean) ∧ next.Clean
  | .cond _ t f => t.Clean ∧ f.Clean

/-- A host closure that calls and returns only clean values, whatever clean results and errors
its protected calls give it. -/
inductive Host.Clean : Host → Prop
  | ok {results : List Value} : (∀ v ∈ results, v.Clean) → Host.Clean (.ok results)
  | fail (e : Error) : Host.Clean (.fail e)
  | panic (p : PanicPayload) : Host.Clean (.panic p)
  | call {f : Value} {args : List Value} {next : List Value → Host} {onErr : Error → Host} :
    f.Clean → (∀ v ∈ args, v.Clean) → (∀ rs, (∀ v ∈ rs, v.Clean) → (next rs).Clean) →
    (∀ e, (onErr e).Clean) → Host.Clean (.call f args next onErr)

/-- A program that never names a finalizer: its scripts, its host closures on clean arguments,
and the value the protocol's shim raises are clean. -/
structure Env.Clean (E : Env) : Prop where
  scripts : ∀ id, (E.scripts id).Clean
  hosts : ∀ id args, (∀ v ∈ args, v.Clean) → (E.hosts id args).Clean
  stackError : E.vm.rcallStackError.Clean

/-- The results of the host's protected call, when it succeeds, are clean. -/
def ResultsClean : Except Error (List Value) → Prop
  | .ok rs => ∀ v ∈ rs, v.Clean
  | .error _ => True

theorem Env.Clean.ctx {E : Env} (hE : E.Clean) {ups : List Value} {call : Caller}
    (hc : call.Safe) (hups : ∀ v ∈ ups, v.Clean) : (E.ctx ups call).Safe :=
  ⟨E.ctx_initialised ups call, hc, hups, hE.stackError⟩

/-! ## The host side -/

section Host

theorem pushValue_safe {v : Value} (hv : v.Clean) : (pushValue v).Safe fun _ => True :=
  fun _ _ _ _ hf hh => .ok trivial (hf.push hv) (Nat.le_refl _) hh .rfl

theorem pushValues_safe : ∀ {vs : List Value}, (∀ v ∈ vs, v.Clean) →
    (pushValues vs).Safe fun _ => True
  | [], _ => .pure trivial
  | _ :: _, hvs => (pushValue_safe (hvs _ (List.mem_cons_self _ _))).seq fun _ =>
    pushValues_safe fun w hw => hvs w (List.mem_cons_of_mem _ hw)

theorem popValuesAbove_safe (k : Int) : (popValuesAbove k).Safe fun rs => ∀ v ∈ rs, v.Clean :=
  fun _ _ _ _ hf hh => .ok (fun v hv => hf v (List.mem_of_mem_drop hv))
    (Frame.Clean.withSlots fun v hv => hf v (List.mem_of_mem_take hv)) (Nat.le_refl _) hh .rfl

/-- The host's protected call of a clean function with clean arguments keeps the invariant and
returns clean results. -/
theorem hostPcall_safe {f : Value} {args : List Value} (hf : f.Clean)
    (hargs : ∀ v ∈ args, v.Clean) : (hostPcall f args).Safe ResultsClean :=
  stackErrGuard_safe _ <| (checkStackErr_safe _).seq fun
    | .error _ => .pure trivial
    | .ok () => (luaPushcfunction_safe (f := .errorTraceback) trivial).seq fun _ =>
      luaGettop_safe.seq fun _ => (pushValue_safe hf).seq fun _ =>
      (pushValues_safe hargs).seq fun _ => (luaPcall_safe _ _ _).bind fun _ hret =>
      .ite ((popError_safe hret).seq fun _ => .pure trivial)
        ((popValuesAbove_safe _).bind fun _ hrs => (luaPop_safe _).seq fun _ => .pure hrs)

theorem runHost_safe {host : Host} (hh : host.Clean) : (runHost host).Safe ResultsClean := by
  induction hh with
  | ok hrs => exact .pure hrs
  | fail => exact .pure trivial
  | panic p => exact rustPanic_safe p
  | call hf hargs _ _ ihn ihe =>
    rw [runHost]
    exact (hostPcall_safe hf hargs).bind fun
      | .ok rs, hrs => ihn rs hrs
      | .error e, _ => ihe e

theorem callbackBody_safe {host : List Value → Host}
    (hhost : ∀ args, (∀ v ∈ args, v.Clean) → (host args).Clean) :
    (callbackBody host).Safe fun _ => True :=
  (popValuesAbove_safe _).bind fun args hargs => (runHost_safe (hhost args hargs)).bind fun
    | .error _, _ => .pure trivial
    | .ok _, hrs => (checkStackErr_safe _).seq fun
      | .error _ => .pure trivial
      | .ok () => (pushValues_safe hrs).seq fun _ => .pure trivial

end Host

/-! ## The interpreter -/

section Interp

variable {E : Env} (hE : E.Clean) {call : Caller}

theorem Expr.eval_clean {regs : List Value} (hregs : ∀ v ∈ regs, v.Clean) :
    ∀ {e : Expr}, e.Clean → (e.eval regs).Clean
  | .lit _, he => he
  | .reg i, _ => by
    simp only [Expr.eval, List.getD_eq_getElem?_getD]
    cases hx : regs[i]? with
    | none => trivial
    | some v => exact hregs v (List.getElem?_mem hx)

/-- A clean script run with clean registers and safe calls keeps the invariant: one case per
constructor, the call case by the induction hypothesis on what follows it. -/
theorem runScript_safe (hc : call.Safe) {s : Script} (hs : s.Clean) :
    ∀ {regs : List Value} (base : Nat) {h : Heap}, (∀ v ∈ regs, v.Clean) → h.Sound →
      (runScript call s regs base h).Safe h := by
  induction s with
  | ret es =>
    intro regs _ _ hregs hh
    refine .ret (fun v hv => ?_) hh .rfl
    obtain ⟨e, he, rfl⟩ := List.mem_map.1 hv
    exact Expr.eval_clean hregs (hs e he)
  | raise e =>
    intro regs _ _ hregs hh
    exact .error (Expr.eval_clean hregs hs) hh .rfl
  | call f args next ih =>
    intro regs base h hregs hh
    obtain ⟨hf, hargs, hnext⟩ := hs
    have ho := hc none (f.eval regs) (args.map (·.eval regs)) (base + regs.length + 1) h
      (fun _ hm => by cases hm) (Expr.eval_clean hregs hf) (fun v hv => by
        obtain ⟨e, he, rfl⟩ := List.mem_map.1 hv
        exact Expr.eval_clean hregs (hargs e he)) hh
    simp only [runScript]
    generalize call none _ _ _ h = o at ho ⊢
    cases ho with
    | ret hrs hh' hg =>
      exact (ih hnext base (fun v hv => (List.mem_append.1 hv).elim (hregs v) (hrs v)) hh').weaken hg
    | error hv hh' hg => exact .error hv hh' hg
    | panic hh' hg => exact .panic hh' hg
    | stuck => exact .stuck
  | cond e t f iht ihf =>
    intro regs base h hregs hh
    simp only [runScript]
    split
    · exact iht hs.1 base hregs hh
    · exact ihf hs.2 base hregs hh

include hE

/-- One call of a clean value: a callable C function, a C closure with a clean upvalue, a host
closure behind `callback_error`, a script, or Lua's "attempt to call" error. A C function is
entered with `LUA_MINSTACK` guaranteed slots, so it never aborts. -/
theorem invoke_safe (hc : call.Safe) {f : Value} {args : List Value} (base : Nat) {h : Heap}
    (hf : f.Clean) (hargs : ∀ v ∈ args, v.Clean) (hh : h.Sound) :
    (invoke E call f args base h).Safe h := by
  have hk : 2 ≤ (Frame.entry base args).ciTop := by
    simp only [Frame.ciTop_entry, luaMinStack]; omega
  cases f with
  | cfunction fn =>
    exact (cfunctionBody_safe fn hf _ (hE.ctx hc (fun _ hv => by cases hv)) (.entry base args) h
      hargs hh).toOutcome hk
  | cclosure fn u =>
    exact (cfunctionBody_safe fn hf.1 _ (hE.ctx hc (by simpa using hf.2)) (.entry base args) h
      hargs hh).toOutcome hk
  | callback id =>
    exact (callbackError_safe (callbackBody_safe (hE.hosts id)) _
      (hE.ctx hc (fun _ hv => by cases hv)) (.entry base args) h hargs hh).toOutcome hk
  | lfunction id => exact runScript_safe hc (hE.scripts id) base hargs hh
  | _ => exact .error trivial hh .rfl

omit hE in
/-- The message handler of a protected call, applied to a clean error, gives a clean error. -/
theorem handle_safe (hc : call.Safe) {handler : Option Value} (hd : ∀ m ∈ handler, m.Clean)
    (base : Nat) {h₀ : Heap} {o : Outcome} (ho : o.Safe h₀) :
    (handle call handler base o).Safe h₀ := by
  cases ho with
  | @error v h hv hh hg =>
    cases handler with
    | none => exact .error hv hh hg
    | some m =>
      refine Outcome.Safe.weaken ?_ hg
      have ho' := hc (some m) m [v] base h hd (hd m rfl) (by simpa using hv) hh
      rw [handle_some_error]
      generalize call (some m) m [v] base h = o' at ho' ⊢
      cases ho' with
      | @ret rs _ hrs hh' hg' =>
        refine .error ?_ hh' hg'
        cases rs with
        | nil => trivial
        | cons r _ => exact hrs r (List.mem_cons_self _ _)
      | error hv' hh' hg' => exact .error hv' hh' hg'
      | panic hh' hg' => exact .panic hh' hg'
      | stuck => exact .stuck
  | ret hvs hh hg => exact .ret hvs hh hg
  | panic hh hg => exact .panic hh hg
  | stuck => exact .stuck

/-- **The interpreter of a clean program keeps the invariant**, to any depth of nested calls:
by induction on the fuel, each level's calls being safe by the level below. -/
theorem callFn_safe : ∀ n, (callFn E n).Safe
  | 0 => fun _ _ _ _ _ _ _ _ _ => .stuck
  | n + 1 => fun _ _ _ base _ hd hf hargs hh =>
    handle_safe (callFn_safe n) hd base (invoke_safe hE (callFn_safe n) base hf hargs hh)

end Interp

/-! ## Reachable heaps -/

theorem Outcome.Safe.sound {h₀ : Heap} {o : Outcome} (ho : o.Safe h₀) {h : Heap}
    (hh : o.heap? = some h) : h.Sound := by
  cases ho <;> simp only [Outcome.heap?, Option.some.injEq, reduceCtorEq] at hh <;> subst hh <;>
    assumption

theorem Outcome.Safe.ne_abort {h₀ : Heap} {o : Outcome} (ho : o.Safe h₀) (msg : String) :
    o ≠ .abort msg := by
  cases ho <;> exact fun he => by cases he

theorem Res.Safe.sound {α : Type} {P : α → Prop} {h₀ : Heap} {k : Nat} {r : Res α}
    (hr : r.Safe h₀ k P) {h : Heap} (hh : r.heap? = some h) : h.Sound := by
  cases hr <;> simp only [Res.heap?, Option.some.injEq, reduceCtorEq] at hh <;> subst hh <;>
    assumption

theorem Res.Safe.ne_undefinedRead {α : Type} {P : α → Prop} {h₀ : Heap} {k : Nat} {r : Res α}
    (hr : r.Safe h₀ k P) : r ≠ .abort undefinedRead := by
  cases hr with
  | abort _ hm =>
    rintro ⟨⟩
    simp [stackAborts, undefinedRead] at hm
  | _ => exact fun he => by cases he

/-- A run from two guaranteed slots or more never aborts. -/
theorem Res.Safe.ne_abort {α : Type} {P : α → Prop} {h₀ : Heap} {k : Nat} {r : Res α}
    (hr : r.Safe h₀ k P) (hk : 2 ≤ k) (msg : String) : r ≠ .abort msg := by
  cases hr with
  | abort hci _ => exact absurd hk (Nat.not_le_of_lt hci)
  | _ => exact fun he => by cases he

theorem Outcome.Safe.grows {h₀ : Heap} {o : Outcome} (ho : o.Safe h₀) {h : Heap}
    (hh : o.heap? = some h) : h₀.Grows h := by
  cases ho <;> simp only [Outcome.heap?, Option.some.injEq, reduceCtorEq] at hh <;> subst hh <;>
    assumption

theorem Res.Safe.grows {α : Type} {P : α → Prop} {h₀ : Heap} {k : Nat} {r : Res α}
    (hr : r.Safe h₀ k P) {h : Heap} (hh : r.heap? = some h) : h₀.Grows h := by
  cases hr <;> simp only [Res.heap?, Option.some.injEq, reduceCtorEq] at hh <;> subst hh <;>
    assumption

/-- The heaps a program reaches from a state with no userdata: runs of the interpreter called
with clean values, protected calls of the host with clean values from a clean stack, and the
collector finalizing a block, in any order and any number. -/
inductive Env.Reachable (E : Env) : Heap → Prop
  | init (b : Bool) : E.Reachable ⟨[], b⟩
  | call {n : Nat} {hd : Option Value} {f : Value} {args : List Value} {base : Nat}
      {h h' : Heap} : E.Reachable h → (∀ m ∈ hd, m.Clean) → f.Clean → (∀ v ∈ args, v.Clean) →
      (callFn E n hd f args base h).heap? = some h' → E.Reachable h'
  | host {n : Nat} {f : Value} {args ups : List Value} {fr : Frame} {h h' : Heap} :
      E.Reachable h → f.Clean → (∀ v ∈ args, v.Clean) → (∀ v ∈ ups, v.Clean) → fr.Clean →
      (hostPcall f args (E.ctx ups (callFn E n)) fr h).heap? = some h' → E.Reachable h'
  | finalize {n r base : Nat} {res : Res Int} {h h' : Heap} :
      E.Reachable h → finalizer (E.ctx [] (callFn E n)) r base h = some res →
      res.heap? = some h' → E.Reachable h'

/-- Every heap a clean program reaches is sound. -/
theorem Env.Reachable.sound {E : Env} (hE : E.Clean) {h : Heap} (hr : E.Reachable h) :
    h.Sound := by
  induction hr with
  | init b => intro r u hu; simp at hu
  | call _ hd hf hargs hh ih => exact (callFn_safe hE _ _ _ _ _ _ hd hf hargs ih).sound hh
  | host _ hf hargs hups hfr hh ih =>
    exact (hostPcall_safe hf hargs _ (hE.ctx (callFn_safe hE _) hups) _ _ hfr ih).sound hh
  | finalize _ hfin hh ih => exact finalizer_sound (E.ctx_initialised _ _) ih hfin hh

/-- **No block is ever read as another type.** In every heap a clean program reaches from one
with no userdata, by runs of its scripts and host closures through the C functions of
`util.rs`, protected calls of the host and finalizers run by the collector: every block is
consistent with its metatable, and from that heap no run of the interpreter, no protected call
of the host and no finalizer reads a block as another Rust type. -/
theorem no_undefined_behaviour (E : Env) (hE : E.Clean) {h : Heap} (hr : E.Reachable h) :
    h.Sound ∧
    (∀ n hd f args base, (∀ m ∈ hd, Value.Clean m) → f.Clean → (∀ v ∈ args, v.Clean) →
      callFn E n hd f args base h ≠ .abort undefinedRead) ∧
    (∀ n f args ups fr, f.Clean → (∀ v ∈ args, v.Clean) → (∀ v ∈ ups, v.Clean) → fr.Clean →
      hostPcall f args (E.ctx ups (callFn E n)) fr h ≠ .abort undefinedRead) ∧
    (∀ n r base res, finalizer (E.ctx [] (callFn E n)) r base h = some res →
      res ≠ .abort undefinedRead) := by
  have hs := hr.sound hE
  refine ⟨hs, fun n hd f args base hhd hf hargs => ?_, fun n f args ups fr hf hargs hups hfr => ?_,
    fun n r base res hfin => ?_⟩
  · exact (callFn_safe hE n hd f args base h hhd hf hargs hs).ne_abort _
  · exact (hostPcall_safe hf hargs _ (hE.ctx (callFn_safe hE n) hups) fr h hfr hs).ne_undefinedRead
  · obtain ⟨_, _, -, -, rfl⟩ := finalizer_apply (E.ctx_initialised _ _) hs hfin
    exact fun he => by cases he

/-- A program whose one host closure fails with a runtime error. -/
def failingHostEnv : Env :=
  ⟨sampleVm, fun _ => .ret [], fun _ _ => .fail (.runtimeError "boom")⟩

theorem failingHostEnv_clean : failingHostEnv.Clean :=
  ⟨fun _ _ he => (by cases he), fun _ _ _ => .fail _, trivial⟩

/-- Each call of the failing closure, from any heap, adds the envelope of its error. -/
theorem failingHostEnv_call (h : Heap) :
    (callFn failingHostEnv 1 none (.callback 0) [] 0 h).heap? =
      some (h.alloc (envelopeBlock (failingHostEnv.ctx [] (callFn failingHostEnv 0)) Keys.error
        (.wrappedError (.runtimeError "boom")))) := by
  have hbody : callbackBody (failingHostEnv.hosts 0)
      (failingHostEnv.ctx [] (callFn failingHostEnv 0)) (Frame.entry 0 []) h =
      .ok (.error (.runtimeError "boom")) ((Frame.entry 0 []).withSlots []) h := rfl
  obtain ⟨_, hcb, -, -⟩ := callbackError_of_err hbody (.inl (by decide))
  simp [callFn_succ, invoke, hcb, Res.toOutcome, Outcome.heap?]

/-- A call of that closure leaves its error's envelope in the heap; the heap is sound, and
calling the closure again from it reads no block as another type. -/
theorem no_undefined_behaviour_sample :
    ∃ h : Heap, (callFn failingHostEnv 1 none (.callback 0) [] 0 ⟨[], true⟩).heap? = some h ∧
      h.userdata.length = 1 ∧ h.Sound ∧
      ∀ n, callFn failingHostEnv n none (.callback 0) [] 0 h ≠ .abort undefinedRead := by
  have hrun := failingHostEnv_call ⟨[], true⟩
  have hs := no_undefined_behaviour failingHostEnv failingHostEnv_clean
    (.call (f := .callback 0) (.init true) (fun _ hm => by cases hm) trivial
      (fun _ hv => by cases hv) hrun)
  exact ⟨_, hrun, rfl, hs.1, fun n => hs.2.1 n none _ [] 0 (fun _ hm => by cases hm) trivial
    (fun _ hv => by cases hv)⟩

/-- **Within a run, envelopes only lose their panic payload.** From every heap a clean program
reaches, every run of the interpreter and every protected call of the host that ends in the
running thread (returning, raising or panicking) leaves every block it found at its place, with
its metatable, its mark and its contents, except that a `WrappedPanic` may have its payload
taken; new blocks come after them. So a `WrappedError` keeps its error until the collector
finalizes it (`Heap.Grows.wrappedError`), and a panic payload that `pop_error` has taken is
never put back (`Heap.Grows.payloadTaken`): each panic is resumed at most once.

The runs here are the bridge's own operations. `Env.Reachable` runs finalizers only between
whole runs, while Lua's collector can also run them at an allocation point inside a run, where
`userdata_destructor` moves a block out; such a finalizer is a step of its own
(`Env.Reachable.finalize`), and this theorem says nothing about the runs it interrupts. -/
theorem runs_only_take_payloads (E : Env) (hE : E.Clean) {h : Heap} (hr : E.Reachable h) :
    (∀ n hd f args base h', (∀ m ∈ hd, Value.Clean m) → f.Clean → (∀ v ∈ args, v.Clean) →
      (callFn E n hd f args base h).heap? = some h' → h.Grows h') ∧
    (∀ n f args ups fr h', f.Clean → (∀ v ∈ args, v.Clean) → (∀ v ∈ ups, v.Clean) → fr.Clean →
      (hostPcall f args (E.ctx ups (callFn E n)) fr h).heap? = some h' → h.Grows h') := by
  have hs := hr.sound hE
  exact ⟨fun n hd f args base _ hhd hf hargs hh =>
      (callFn_safe hE n hd f args base h hhd hf hargs hs).grows hh,
    fun n f args ups fr _ hf hargs hups hfr hh =>
      (hostPcall_safe hf hargs _ (hE.ctx (callFn_safe hE n) hups) fr h hfr hs).grows hh⟩

/-- Two calls of the failing closure: the second keeps the envelope the first made, and adds its
own. -/
theorem runs_only_take_payloads_sample :
    ∃ h h' : Heap, (callFn failingHostEnv 1 none (.callback 0) [] 0 ⟨[], true⟩).heap? = some h ∧
      (callFn failingHostEnv 1 none (.callback 0) [] 0 h).heap? = some h' ∧
      h.userdata.length = 1 ∧ h'.userdata.length = 2 ∧ h.Grows h' := by
  have h1 := failingHostEnv_call ⟨[], true⟩
  have h2 := failingHostEnv_call (Heap.alloc ⟨[], true⟩ (envelopeBlock
    (failingHostEnv.ctx [] (callFn failingHostEnv 0)) Keys.error (.wrappedError (.runtimeError "boom"))))
  have hr : failingHostEnv.Reachable _ := .call (f := .callback 0) (.init true)
    (fun _ hm => by cases hm) trivial (fun _ hv => by cases hv) h1
  exact ⟨_, _, h1, h2, rfl, rfl, (runs_only_take_payloads failingHostEnv failingHostEnv_clean hr).1
    1 none (.callback 0) [] 0 _ (fun _ hm => by cases hm) trivial (fun _ hv => by cases hv) h2⟩

/-- **A clean program never aborts the process.** From every heap it reaches, no run of the
interpreter, no protected call of the host from a stack with Lua's `LUA_MINSTACK` guaranteed
slots, and no finalizer ends in an abort: the `lua_internal_abort!` calls of `util.rs` are never
reached. `pop_error` never sees `LUA_ERRMEM`, since a protected call ends only with `LUA_OK` or
`LUA_ERRRUN`; and a caught panic always finds room for its envelope, since a C function is
entered with `LUA_MINSTACK` guaranteed slots, no operation gives any up, and the trampolines ask
for two on a cleared stack. -/
theorem no_process_abort (E : Env) (hE : E.Clean) {h : Heap} (hr : E.Reachable h) :
    (∀ n hd f args base msg, (∀ m ∈ hd, Value.Clean m) → f.Clean → (∀ v ∈ args, v.Clean) →
      callFn E n hd f args base h ≠ .abort msg) ∧
    (∀ n f args ups fr msg, f.Clean → (∀ v ∈ args, v.Clean) → (∀ v ∈ ups, v.Clean) →
      fr.Clean → luaMinStack ≤ fr.ciTop →
      hostPcall f args (E.ctx ups (callFn E n)) fr h ≠ .abort msg) ∧
    (∀ n r base res msg, finalizer (E.ctx [] (callFn E n)) r base h = some res →
      res ≠ .abort msg) := by
  have hs := hr.sound hE
  refine ⟨fun n hd f args base msg hhd hf hargs => ?_,
    fun n f args ups fr msg hf hargs hups hfr hk => ?_, fun n r base res msg hfin => ?_⟩
  · exact (callFn_safe hE n hd f args base h hhd hf hargs hs).ne_abort msg
  · exact (hostPcall_safe hf hargs _ (hE.ctx (callFn_safe hE n) hups) fr h hfr hs).ne_abort
      (Nat.le_trans (by decide) hk) msg
  · obtain ⟨_, _, -, -, rfl⟩ := finalizer_apply (E.ctx_initialised _ _) hs hfin
    exact fun he => by cases he

/-- A program whose one host closure panics. -/
def panickingHostEnv : Env :=
  ⟨sampleVm, fun _ => .ret [], fun _ _ => .panic (.message "boom")⟩

theorem panickingHostEnv_clean : panickingHostEnv.Clean :=
  ⟨fun _ _ he => (by cases he), fun _ _ _ => .panic _, trivial⟩

/-- Each call of the panicking closure, from any heap, adds the envelope of its panic. -/
theorem panickingHostEnv_call (h : Heap) :
    (callFn panickingHostEnv 1 none (.callback 0) [] 0 h).heap? =
      some (h.alloc (envelopeBlock (panickingHostEnv.ctx [] (callFn panickingHostEnv 0)) Keys.panic
        (.wrappedPanic (some (.message "boom"))))) := by
  have hbody : callbackBody (panickingHostEnv.hosts 0)
      (panickingHostEnv.ctx [] (callFn panickingHostEnv 0)) (Frame.entry 0 []) h =
      .unwind (.message "boom") ((Frame.entry 0 []).withSlots []) h := rfl
  obtain ⟨_, hcb, -, -⟩ := callbackError_of_panic hbody (.inl (by decide))
  simp [callFn_succ, invoke, hcb, Res.toOutcome, Outcome.heap?]

/-- A call of the panicking closure leaves the envelope of its panic in the heap; from that heap,
calling the closure again, by the interpreter or by the host from a C function's fresh stack,
never aborts the process. -/
theorem no_process_abort_sample :
    ∃ h : Heap, (callFn panickingHostEnv 1 none (.callback 0) [] 0 ⟨[], true⟩).heap? = some h ∧
      h.userdata.length = 1 ∧
      (∀ n msg, callFn panickingHostEnv n none (.callback 0) [] 0 h ≠ .abort msg) ∧
      ∀ n msg, hostPcall (.callback 0) [] (panickingHostEnv.ctx [] (callFn panickingHostEnv n))
        (Frame.entry 0 []) h ≠ .abort msg := by
  have hrun := panickingHostEnv_call ⟨[], true⟩
  have hs := no_process_abort panickingHostEnv panickingHostEnv_clean
    (.call (f := .callback 0) (.init true) (fun _ hm => by cases hm) trivial
      (fun _ hv => by cases hv) hrun)
  exact ⟨_, hrun, rfl,
    fun n msg => hs.1 n none _ [] 0 msg (fun _ hm => by cases hm) trivial (fun _ hv => by cases hv),
    fun n msg => hs.2.1 n _ [] [] _ msg trivial (fun _ hv => by cases hv) (fun _ hv => by cases hv)
      (fun _ hv => by cases hv) (Nat.le_add_left _ _)⟩

end Rlua
