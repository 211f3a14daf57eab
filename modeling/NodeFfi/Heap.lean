import Mathlib.Data.List.Basic
import Mathlib.Logic.Function.Basic

/-! JavaScript objects as the type resolver and the variadic cache see them: the own
properties they read or write, a `[[Prototype]]` link, and property reads that walk the
prototype chain. A prototype is always an older object, so every chain is finite. -/
namespace NodeFfi

/-- An `ffi_type *` as `Type` returns it: one of the static types `bindings.FFI_TYPES`
exposes (by address), or a struct type `Type` built, kept with its `elements` buffer,
NULL terminator included. -/
inductive FfiType where
  | native (addr : Nat)
  | struct (elements : List (Option FfiType))
  deriving Repr

mutual
def FfiType.decEq : (a b : FfiType) → Decidable (a = b)
  | .native x, .native y =>
    if h : x = y then isTrue (h ▸ rfl) else isFalse fun e => FfiType.noConfusion e h
  | .native _, .struct _ => isFalse FfiType.noConfusion
  | .struct _, .native _ => isFalse FfiType.noConfusion
  | .struct xs, .struct ys =>
    match FfiType.decSlots xs ys with
    | isTrue h => isTrue (h ▸ rfl)
    | isFalse h => isFalse fun e => FfiType.noConfusion e h
def FfiType.decSlots : (xs ys : List (Option FfiType)) → Decidable (xs = ys)
  | [], [] => isTrue rfl
  | [], _ :: _ => isFalse List.noConfusion
  | _ :: _, [] => isFalse List.noConfusion
  | x :: xs, y :: ys =>
    match FfiType.decSlot x y, FfiType.decSlots xs ys with
    | isTrue h₁, isTrue h₂ => isTrue (h₁ ▸ h₂ ▸ rfl)
    | isFalse h₁, _ => isFalse fun e => List.noConfusion e fun h _ => h₁ h
    | _, isFalse h₂ => isFalse fun e => List.noConfusion e fun _ h => h₂ h
def FfiType.decSlot : (x y : Option FfiType) → Decidable (x = y)
  | none, none => isTrue rfl
  | none, some _ => isFalse Option.noConfusion
  | some _, none => isFalse Option.noConfusion
  | some a, some b =>
    match FfiType.decEq a b with
    | isTrue h => isTrue (h ▸ rfl)
    | isFalse h => isFalse fun e => Option.noConfusion e h
end

instance : DecidableEq FfiType := FfiType.decEq

/-- A JavaScript error object: its constructor name, its `message`, and its `code` (empty when
the code sets none). -/
structure JsError where
  name : String
  message : String
  code : String := ""
  deriving DecidableEq, Repr

def typeError (message : String) : JsError := { name := "TypeError", message }

/-- The own properties of an object that the code reads or writes; `none` is an absent
property. `ffiType` may hold a falsy value (`some none`), as `cur.ffi_type = undefined`
leaves it; `fields` is each field's `type`, in `Object.keys` order; `ffiId` is `_ffiId`. -/
structure Obj where
  proto : Option Nat := none
  indirection : Option Nat := none
  size : Option Nat := none
  name : Option String := none
  ffiType : Option (Option FfiType) := none
  type : Option Nat := none
  fixedLength : Option Nat := none
  fields : Option (List Nat) := none
  ffiId : Option String := none
  deriving DecidableEq, Repr

/-- The object with its `ffi_type` cache erased: what `Type` never writes. -/
def Obj.shape (o : Obj) : Obj := { o with ffiType := none }

theorem Obj.eq_of_shape_eq {o o' : Obj} (e : o'.shape = o.shape) :
    o' = { o with ffiType := o'.ffiType } := by
  cases o; cases o'; simp_all [Obj.shape]

/-- A heap of objects; a prototype is always an older object. -/
structure Heap where
  objs : Nat → Obj
  proto_lt : ∀ i p, (objs i).proto = some p → p < i

namespace Heap

/-- A heap from the list of its objects, checked once by `decide`. -/
def ofList (l : List Obj) (hl : ∀ i < l.length, ((l.getD i {}).proto.all (· < i)) = true) :
    Heap where
  objs i := l.getD i {}
  proto_lt i p hp := by
    change (l.getD i {}).proto = some p at hp
    by_cases hi : i < l.length
    · have h₁ := hl i hi
      rw [hp] at h₁
      simpa using h₁
    · simp [List.getD_eq_getElem?_getD, List.getElem?_eq_none (Nat.le_of_not_lt hi)] at hp

theorem ofList_ffiId {l : List Obj} (hl : ∀ i < l.length, ((l.getD i {}).proto.all (· < i)) = true)
    (h : ∀ o ∈ l, o.ffiId = none) (i : Nat) : ((ofList l hl).objs i).ffiId = none := by
  change (l.getD i {}).ffiId = none
  rw [List.getD_eq_getElem?_getD]
  cases e : l[i]? with
  | none => rfl
  | some o => exact h o (List.getElem?_mem e)

def chainFrom (h : Heap) : Nat → Nat → List Nat
  | 0, _ => []
  | fuel+1, i => i :: match (h.objs i).proto with
    | none => []
    | some p => h.chainFrom fuel p

/-- The prototype chain of `i`; `i + 1` bounds its length. -/
def chain (h : Heap) (i : Nat) : List Nat := h.chainFrom (i+1) i

/-- The property read `o.p`: the first own `p` along the prototype chain. -/
def get {α : Type} (h : Heap) (p : Obj → Option α) (i : Nat) : Option α :=
  (h.chain i).findSome? fun c => p (h.objs c)

theorem get_ofList_of_le {α : Type} {l : List Obj}
    {hl : ∀ i < l.length, ((l.getD i {}).proto.all (· < i)) = true} {p : Obj → Option α}
    (hp : p {} = none) {i : Nat} (hi : l.length ≤ i) : (ofList l hl).get p i = none := by
  simp [get, chain, chainFrom, ofList, List.getElem?_eq_none hi, hp]

def modify (h : Heap) (i : Nat) (f : Obj → Obj) (hf : ∀ o, (f o).proto = o.proto) : Heap where
  objs := Function.update h.objs i (f (h.objs i))
  proto_lt j p hp := by
    by_cases hj : j = i
    · subst hj; rw [Function.update_same, hf] at hp; exact h.proto_lt j p hp
    · rw [Function.update_noteq hj] at hp; exact h.proto_lt j p hp

/-- `o.ffi_type = v` -/
def setFfiType (h : Heap) (i : Nat) (v : Option FfiType) : Heap :=
  h.modify i (fun o => { o with ffiType := some v }) fun _ => rfl

def setFfiId (h : Heap) (i : Nat) (s : String) : Heap :=
  h.modify i (fun o => { o with ffiId := some s }) fun _ => rfl

@[simp] theorem setFfiType_objs (h : Heap) (i : Nat) (v : Option FfiType) :
    (h.setFfiType i v).objs = Function.update h.objs i { h.objs i with ffiType := some v } := rfl

@[simp] theorem setFfiId_objs (h : Heap) (i : Nat) (s : String) :
    (h.setFfiId i s).objs = Function.update h.objs i { h.objs i with ffiId := some s } := rfl

theorem chainFrom_congr {h h' : Heap} (hp : ∀ i, (h'.objs i).proto = (h.objs i).proto) :
    ∀ fuel i, h'.chainFrom fuel i = h.chainFrom fuel i
  | 0, _ => rfl
  | fuel+1, i => by simp only [chainFrom, hp, chainFrom_congr hp fuel]

theorem chain_congr {h h' : Heap} (hp : ∀ i, (h'.objs i).proto = (h.objs i).proto) (i : Nat) :
    h'.chain i = h.chain i :=
  chainFrom_congr hp _ i

theorem chain_head (h : Heap) (i : Nat) : ∃ cs, h.chain i = i :: cs := ⟨_, rfl⟩

theorem get_setFfiId {α : Type} (h : Heap) (t : Nat) (s : String) {p : Obj → Option α}
    (hp : ∀ o, p { o with ffiId := some s } = p o) (i : Nat) :
    (h.setFfiId t s).get p i = h.get p i := by
  have hc : (h.setFfiId t s).chain i = h.chain i :=
    chain_congr (fun j => by by_cases hj : j = t <;> simp [hj, Function.update_noteq]) i
  simp only [get, hc]
  congr 1
  funext c
  by_cases hct : c = t
  · subst hct; simp [hp]
  · simp [Function.update_noteq hct]

end Heap

/-- `h'` differs from `h` at most in `ffi_type` caches. -/
def SameShape (h h' : Heap) : Prop := ∀ i, (h'.objs i).shape = (h.objs i).shape

namespace SameShape

theorem refl (h : Heap) : SameShape h h := fun _ => rfl

theorem trans {h₁ h₂ h₃ : Heap} (h₁₂ : SameShape h₁ h₂) (h₂₃ : SameShape h₂ h₃) :
    SameShape h₁ h₃ := fun i => (h₂₃ i).trans (h₁₂ i)

theorem setFfiType (h : Heap) (i : Nat) (v : Option FfiType) :
    SameShape h (h.setFfiType i v) := by
  intro j
  by_cases hj : j = i
  · subst hj; simp [Obj.shape]
  · simp [Function.update_noteq hj]

theorem proto {h h' : Heap} (hs : SameShape h h') (i : Nat) :
    (h'.objs i).proto = (h.objs i).proto :=
  have e := congrArg Obj.proto (hs i); e

theorem ffiId {h h' : Heap} (hs : SameShape h h') (i : Nat) :
    (h'.objs i).ffiId = (h.objs i).ffiId :=
  have e := congrArg Obj.ffiId (hs i); e

theorem chain {h h' : Heap} (hs : SameShape h h') (i : Nat) : h'.chain i = h.chain i :=
  Heap.chain_congr hs.proto i

theorem get {α : Type} {h h' : Heap} (hs : SameShape h h') (p : Obj → Option α)
    (hp : ∀ o, p o.shape = p o) (i : Nat) : h'.get p i = h.get p i := by
  simp only [Heap.get, hs.chain]
  congr 1
  funext c
  rw [← hp (h'.objs c), hs c, hp]

end SameShape

end NodeFfi
