import Mathlib.Data.Nat.Defs

/-!
# Values, heap objects and errors of the Lua bridge

`util.rs` of rlua talks to a Lua 5.3 state through the C API. This module fixes the data the
rest of the development manipulates:

* `Value`, the tagged values on the Lua stack. Tables, full userdata and threads are references
  into the state, so `rawequal` is structural equality of `Value`.
* `Userdata`, a full userdata block: the Rust value written into it (`Contents`), its
  metatable and whether the collector will finalize it.
* `Error`, the binding's error type, and `PanicPayload`, the opaque payload of a Rust panic.

Tables are association lists read first-match, which is all `lua_rawget` and `lua_rawset` need.
Nothing here imports the C API; `Rlua.Lua.Api` builds the stack machine on top of it.
-/

namespace Rlua

/-- The binding's `Error` (`error.rs` is not in the excerpt). Modelled from the spec: the
closed set of variants of its data model, where `cause` is the shared `Arc<Error>` of a
`CallbackError`. -/
inductive Error where
  | runtimeError (msg : String)
  | syntaxError (message : String) (incompleteInput : Bool)
  | garbageCollectorError (msg : String)
  | stackError
  | callbackError (traceback : String) (cause : Error)
  | callbackDestructed
  deriving DecidableEq, Repr

/-- A Rust panic payload, `Box<Any + Send>`. The bridge never looks inside one; panics raised
by the binding itself carry their message. -/
inductive PanicPayload where
  | boxed (id : Nat)
  | message (msg : String)
  deriving DecidableEq, Repr

/-- The two envelope types of `util.rs`, `WrappedError` and `WrappedPanic`. -/
inductive Wrapped where
  | error
  | panic
  deriving DecidableEq, Repr

/-- The C functions of `util.rs` that are handed to Lua as function values. -/
inductive CFn where
  | safePcall
  | safeXpcall
  | xpcallMsgh
  | errorTraceback
  | userdataDestructor (k : Wrapped)
  | errorTostring
  | destructedError
  deriving DecidableEq, Repr

/-- A Lua value. `callback` is a Rust closure registered by the binding and run through
`callback_error`; `lfunction` is a Lua function of the running scripts. A C closure carries
its upvalue: the only closure `util.rs` creates has one, and closures are never updated. -/
inductive Value where
  | nil
  | boolean (b : Bool)
  | integer (i : Int)
  | string (s : String)
  | lightUserdata (p : Nat)
  | table (r : Nat)
  | userdata (r : Nat)
  | thread (r : Nat)
  | cfunction (f : CFn)
  | cclosure (f : CFn) (upvalue : Value)
  | callback (id : Nat)
  | lfunction (id : Nat)
  deriving DecidableEq, Repr

/-- Type name used in Lua's "attempt to call" message. -/
def Value.typeName : Value → String
  | .nil => "nil"
  | .boolean _ => "boolean"
  | .integer _ => "number"
  | .string _ => "string"
  | .lightUserdata _ | .userdata _ => "userdata"
  | .table _ => "table"
  | .thread _ => "thread"
  | .cfunction _ | .cclosure _ _ | .callback _ | .lfunction _ => "function"

/-- The Rust value stored in a userdata block. `uninit` is a block fresh from
`lua_newuserdata`, `moved` one whose value `ptr::read` has taken out. -/
inductive Contents where
  | uninit
  | wrappedError (e : Error)
  | wrappedPanic (p : Option PanicPayload)
  | foreign (tag : Nat)
  | moved
  deriving DecidableEq, Repr

/-- A full userdata block: its contents, its metatable (a table reference) and the collector's
mark that it has a finalizer pending (`luaC_checkfinalizer`). -/
structure Userdata where
  contents : Contents
  meta : Option Nat
  toFinalize : Bool
  deriving DecidableEq, Repr

/-- A table as its raw entries; the first entry with a key wins. -/
abbrev Table := List (Value × Value)

/-- `lua_rawget` on a table. -/
def Table.rawget : Table → Value → Value
  | [], _ => .nil
  | (k', v) :: t, k => if k' = k then v else Table.rawget t k

/-- `lua_rawset` on a table: the new entry shadows any older one. -/
def Table.rawset (t : Table) (k v : Value) : Table := (k, v) :: t

@[simp] theorem Table.rawget_nil (k : Value) : Table.rawget [] k = .nil := rfl

@[simp] theorem Table.rawget_rawset_self (t : Table) (k v : Value) :
    (t.rawset k v).rawget k = v := by
  simp [Table.rawset, Table.rawget]

theorem Table.rawget_rawset_ne (t : Table) {k k' : Value} (v : Value) (h : k' ≠ k) :
    (t.rawset k' v).rawget k = t.rawget k := by
  simp [Table.rawset, Table.rawget, h]

/-- All tables of the state; reference `0` is the registry. -/
abbrev Tables := List Table

/-- Reference of the registry table. -/
def registryRef : Nat := 0

/-- Raw lookup in table `r`; a dangling reference reads as empty. -/
def Tables.rawget (ts : Tables) (r : Nat) (k : Value) : Value :=
  ((ts[r]?).getD []).rawget k

/-- What the C functions of the bridge allocate and update: the userdata blocks and the
collector's running flag. -/
structure Heap where
  userdata : List Userdata
  gcRunning : Bool
  deriving DecidableEq, Repr

/-- The heap with userdata block `r` replaced by `f` applied to it. -/
def Heap.modifyUserdata (h : Heap) (r : Nat) (f : Userdata → Userdata) : Heap :=
  { h with userdata := h.userdata.modify f r }

/-- The heap with a new userdata block, at reference `h.userdata.length`. -/
def Heap.alloc (h : Heap) (u : Userdata) : Heap := { h with userdata := h.userdata ++ [u] }

namespace Heap

@[simp] theorem gcRunning_modifyUserdata (h : Heap) (r : Nat) (f : Userdata → Userdata) :
    (h.modifyUserdata r f).gcRunning = h.gcRunning := rfl

@[simp] theorem gcRunning_alloc (h : Heap) (u : Userdata) : (h.alloc u).gcRunning = h.gcRunning :=
  rfl

@[simp] theorem userdata_alloc_self (h : Heap) (u : Userdata) :
    (h.alloc u).userdata[h.userdata.length]? = some u := by
  simp [alloc]

@[simp] theorem length_alloc (h : Heap) (u : Userdata) :
    (h.alloc u).userdata.length = h.userdata.length + 1 := by
  simp [alloc]

theorem modifyUserdata_alloc (h : Heap) (u : Userdata) (f : Userdata → Userdata) :
    (h.alloc u).modifyUserdata h.userdata.length f = h.alloc (f u) := by
  simp [alloc, modifyUserdata, List.modify_eq_take_cons_drop]

theorem set_gcRunning_self (h : Heap) {b : Bool} (hb : h.gcRunning = b) :
    { h with gcRunning := b } = h := by
  subst hb; rfl

theorem modifyUserdata_modifyUserdata (h : Heap) (r : Nat) (f g : Userdata → Userdata) :
    (h.modifyUserdata r f).modifyUserdata r g = h.modifyUserdata r (g ∘ f) := by
  simp [modifyUserdata, List.modify_modify_eq]

theorem userdata_alloc (h : Heap) (u : Userdata) (r : Nat) :
    (h.alloc u).userdata[r]? =
      if r = h.userdata.length then some u else h.userdata[r]? := by
  simp only [alloc, List.getElem?_append]
  split
  · rw [if_neg (by omega)]
  · split
    · subst_vars; simp
    · rw [List.getElem?_eq_none (by simp; omega), List.getElem?_eq_none (by omega)]

theorem userdata_modifyUserdata (h : Heap) (r : Nat) (f : Userdata → Userdata) (r' : Nat) :
    (h.modifyUserdata r f).userdata[r']? =
      if r = r' then f <$> h.userdata[r']? else h.userdata[r']? := by
  simp only [modifyUserdata, List.getElem?_modify]
  split <;> simp

theorem eq_of_getElem?_alloc {h : Heap} {u v : Userdata} {i : Nat}
    (hv : (h.alloc u).userdata[i]? = some v) :
    (i = h.userdata.length ∧ v = u) ∨ h.userdata[i]? = some v := by
  rw [userdata_alloc] at hv
  split at hv
  · exact .inl ⟨‹_›, (Option.some.inj hv).symm⟩
  · exact .inr hv

theorem eq_of_getElem?_modifyUserdata {h : Heap} {r i : Nat} {f : Userdata → Userdata}
    {u : Userdata} (hu : (h.modifyUserdata r f).userdata[i]? = some u) :
    (i = r ∧ ∃ v, h.userdata[r]? = some v ∧ u = f v) ∨ h.userdata[i]? = some u := by
  rw [userdata_modifyUserdata] at hu
  split at hu
  · rename_i hri
    subst hri
    obtain ⟨v, hv, rfl⟩ : ∃ v, h.userdata[r]? = some v ∧ f v = u := by simpa using hu
    exact .inl ⟨rfl, v, hv, rfl⟩
  · exact .inr hu

end Heap

/-- The addresses of the three statics `util.rs` uses as registry keys (its lines 617-619).
They are three distinct statics, so their addresses differ. -/
structure Keys where
  error : Nat
  panic : Nat
  destructed : Nat
  error_ne_panic : error ≠ panic
  error_ne_destructed : error ≠ destructed
  panic_ne_destructed : panic ≠ destructed

/-- The fixed parameters of the Lua state the bridge runs in. `traceback` is the text
`luaL_traceback` produces for a message, `display` the `Display` impl of `Error`
(`error.rs`, not in the excerpt), `rcallStackError` the value the Rust-function shim raises
for `RCALL_STACK_ERR` (`safe.rs`, not in the excerpt). -/
structure Vm where
  keys : Keys
  maxStack : Nat
  traceback : Option String → String
  display : Error → String
  rcallStackError : Value

/-- A concrete state to run the model on: three distinct key addresses, Lua's default stack
limit `LUAI_MAXSTACK`, and fixed texts. -/
def sampleVm : Vm :=
  ⟨⟨1, 2, 3, by decide, by decide, by decide⟩, 1000000, fun _ => "stack traceback",
    fun _ => "error", .string "stack error"⟩

end Rlua
