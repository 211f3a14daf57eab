import NodeFfi.Heap

/-! `Type` of `lib/type.js`: the `ffi_type *` for a "ref" type descriptor. Its nested calls
for struct fields are bounded by `fuel`, the JavaScript stack, so a descriptor graph with a
cycle through struct fields ends in a `RangeError`. `ffiTypes` is `bindings.FFI_TYPES`. -/
namespace NodeFfi

/-- The `RangeError` of an exhausted stack. -/
def rangeError : JsError := { name := "RangeError", message := "Maximum call stack size exceeded" }

/-- The error `assert(value, message)` throws. -/
def assertionError (message : String) : JsError := { name := "AssertionError", message }

namespace Heap

/-- `o.ffi_type` as a truth value: `none` when absent or falsy. -/
def ffiTypeOf (h : Heap) (i : Nat) : Option FfiType := (h.get Obj.ffiType i).join

/-- `o.name` when it is truthy. -/
def nameOf (h : Heap) (i : Nat) : Option String := (h.get Obj.name i).filter (· ≠ "")

/-- `field.type.fixedLength`, where an absent one fails `> 0` as 0 does. -/
def fixedLengthOf (h : Heap) (i : Nat) : Nat := (h.get Obj.fixedLength i).getD 0

def label (h : Heap) (i : Nat) : String := (h.nameOf i).getD "[object Object]"

def nameKey (h : Heap) (i : Nat) : String := (h.get Obj.name i).getD "undefined"

end Heap

namespace SameShape

theorem fixedLengthOf {h h' : Heap} (hs : SameShape h h') (i : Nat) :
    h'.fixedLengthOf i = h.fixedLengthOf i := by
  simp only [Heap.fixedLengthOf, hs.get Obj.fixedLength (fun _ => rfl)]

theorem get_type {h h' : Heap} (hs : SameShape h h') (i : Nat) :
    h'.get Obj.type i = h.get Obj.type i :=
  hs.get Obj.type (fun _ => rfl) i

theorem nameKey {h h' : Heap} (hs : SameShape h h') (i : Nat) : h'.nameKey i = h.nameKey i := by
  simp only [Heap.nameKey, hs.get Obj.name (fun _ => rfl)]

theorem nameOf {h h' : Heap} (hs : SameShape h h') (i : Nat) : h'.nameOf i = h.nameOf i := by
  simp only [Heap.nameOf, hs.get Obj.name (fun _ => rfl)]

end SameShape

/-- A result of code that reads and writes a state `σ` (the heap, or the whole process): the
state after it, and a value or the exception it threw. -/
abbrev Js (σ α : Type) := σ × Except JsError α

/-- Sequencing: an exception propagates, with the state as the throwing code left it. -/
def Js.bind {σ α β : Type} (r : Js σ α) (k : σ → α → Js σ β) : Js σ β :=
  match r with
  | (h, .error e) => (h, .error e)
  | (h, .ok a) => k h a

@[simp] theorem Js.bind_ok {σ α β : Type} (h : σ) (a : α) (k : σ → α → Js σ β) :
    Js.bind (h, .ok a) k = k h a := rfl

@[simp] theorem Js.bind_error {σ α β : Type} (h : σ) (e : JsError) (k : σ → α → Js σ β) :
    Js.bind (h, .error e) k = (h, .error e) := rfl

theorem Js.bind_assoc {σ α β γ : Type} (r : Js σ α) (k₁ : σ → α → Js σ β)
    (k₂ : σ → β → Js σ γ) :
    Js.bind (Js.bind r k₁) k₂ = Js.bind r fun h a => Js.bind (k₁ h a) k₂ := by
  rcases r with ⟨h, _ | a⟩ <;> rfl

theorem Js.bind_eq_ok {σ α β : Type} {r : Js σ α} {k : σ → α → Js σ β} {s : σ} {b : β}
    (h : Js.bind r k = (s, .ok b)) : ∃ s' a, r = (s', .ok a) ∧ k s' a = (s, .ok b) := by
  rcases r with ⟨s', _ | a⟩
  · simp at h
  · exact ⟨s', a, rfl, h⟩

theorem Js.bind_eq_error {σ α β : Type} {r : Js σ α} {k : σ → α → Js σ β} {s : σ} {e : JsError}
    (h : Js.bind r k = (s, .error e)) :
    r = (s, .error e) ∨ ∃ s' a, r = (s', .ok a) ∧ k s' a = (s, .error e) := by
  rcases r with ⟨s', _ | a⟩
  · exact .inl (by simpa using h)
  · exact .inr ⟨s', a, rfl, h⟩

theorem Js.error_bind {σ α β : Type} (P : JsError → Prop) {r : Js σ α} {k : σ → α → Js σ β}
    (hr : ∀ s e, r = (s, .error e) → P e) (hk : ∀ s a s' e, k s a = (s', .error e) → P e)
    {s : σ} {e : JsError} (h : Js.bind r k = (s, .error e)) : P e := by
  rcases Js.bind_eq_error h with h | ⟨s', a, -, h⟩
  exacts [hr _ _ h, hk _ _ _ _ h]

theorem Js.rel_bind {σ α β : Type} (R : σ → σ → Prop) (htrans : ∀ {a b c}, R a b → R b c → R a c)
    {s₀ : σ} {r : Js σ α} {k : σ → α → Js σ β} (hr : R s₀ r.1) (hk : ∀ s a, R s (k s a).1) :
    R s₀ (Js.bind r k).1 := by
  rcases r with ⟨s, _ | a⟩
  exacts [hr, htrans hr (hk s a)]

theorem Js.sameShape_bind {α β : Type} {h₀ : Heap} {r : Js Heap α} {k : Heap → α → Js Heap β}
    (hr : SameShape h₀ r.1) (hk : ∀ h a, SameShape h (k h a).1) :
    SameShape h₀ (Js.bind r k).1 :=
  Js.rel_bind SameShape SameShape.trans hr hk

/-- `ref.coerceType` on a value that is not a string: an object with `size` and
`indirection`, or a `TypeError`. -/
def coerceType (h : Heap) : Option Nat → Except JsError Nat
  | some t =>
    if (h.get Obj.size t).isSome ∧ (h.get Obj.indirection t).isSome then .ok t
    else .error (typeError ("could not determine a proper \"type\" from: " ++ h.label t))
  | none => .error (typeError "could not determine a proper \"type\" from: undefined")

theorem coerceType_ok {h : Heap} {t t' : Nat} (e : coerceType h (some t) = .ok t') : t' = t := by
  simp only [coerceType] at e
  split_ifs at e
  exact (Except.ok.inj e).symm

/-- `types.map(ref.coerceType)`: each type in order, the first that fails throwing. -/
def coerceTypes (h : Heap) : List Nat → Except JsError (List Nat)
  | [] => .ok []
  | t :: ts => (coerceType h (some t)).bind fun t => (coerceTypes h ts).map (t :: ·)

theorem coerceTypes_ok {h : Heap} : ∀ {ts ts' : List Nat}, coerceTypes h ts = .ok ts' → ts' = ts
  | [], _, e => by cases e; rfl
  | t :: ts, _, e => by
    simp only [coerceTypes] at e
    rcases hc : coerceType h (some t) with e' | t'
    · rw [hc] at e
      cases e
    · rcases hs : coerceTypes h ts with e' | ts'
      · rw [hc, hs] at e
        cases e
      · rw [hc, hs] at e
        cases e
        rw [coerceType_ok hc, coerceTypes_ok hs]

theorem coerceType_setFfiId (h : Heap) (t : Nat) (s : String) (a : Option Nat) :
    coerceType (h.setFfiId t s) a = coerceType h a := by
  cases a <;> simp only [coerceType, Heap.label, Heap.nameOf,
    @Heap.get_setFfiId _ h t s Obj.size (fun _ => rfl),
    @Heap.get_setFfiId _ h t s Obj.indirection (fun _ => rfl),
    @Heap.get_setFfiId _ h t s Obj.name (fun _ => rfl)]

theorem SameShape.coerceType {h h' : Heap} (hs : SameShape h h') (a : Option Nat) :
    NodeFfi.coerceType h' a = NodeFfi.coerceType h a := by
  cases a <;> simp only [NodeFfi.coerceType, Heap.label, hs.nameOf, hs.get Obj.size (fun _ => rfl),
    hs.get Obj.indirection (fun _ => rfl)]

/-- The `elements` buffer of a struct `ffi_type` being filled: its pointer slots, the next
`index`, and the slots written so far, in order. -/
structure Elements where
  slots : List (Option FfiType)
  index : Nat
  written : List Nat
  deriving DecidableEq, Repr

/-- `elements.writePointer(p, (index++) * ref.sizeof.pointer)`. The native write does not
check the offset; a slot past the end is modelled as a `RangeError`. -/
def Elements.writePointer (b : Elements) (p : Option FfiType) : Except JsError Elements :=
  if b.index < b.slots.length then
    .ok ⟨b.slots.set b.index p, b.index + 1, b.written ++ [b.index]⟩
  else .error { name := "RangeError", message := "pointer slot out of bounds" }

/-- The inner loop `for (j = 0; j < fixedLength; j++)` writing one pointer. -/
def Elements.writeRepeat (b : Elements) (p : FfiType) : Nat → Except JsError Elements
  | 0 => .ok b
  | n+1 => (b.writePointer (some p)).bind fun b' => b'.writeRepeat p n

/-- The counting loop: `numElements` grows by `fixedLength` for a fixed-length array field
and by 1 for any other field. -/
def countElements (h : Heap) : Nat → List Nat → Nat
  | numElements, [] => numElements
  | numElements, f :: fs =>
    countElements h
      (if 0 < h.fixedLengthOf f then numElements + h.fixedLengthOf f else numElements + 1) fs

/-- The filling loop: resolve each field's `ffi_type` (its element type's, for a fixed-length
array) with `res`, the nested `Type`, and write it `fixedLength` times, or once. -/
def fillElements (res : Heap → Option Nat → Js Heap FfiType) :
    Heap → Elements → List Nat → Js Heap Elements
  | h, b, [] => (h, .ok b)
  | h, b, f :: fs =>
    if 0 < h.fixedLengthOf f then
      Js.bind (res h (h.get Obj.type f)) fun h p =>
        Js.bind (h, b.writeRepeat p (h.fixedLengthOf f)) fun h b => fillElements res h b fs
    else
      Js.bind (res h (some f)) fun h p =>
        Js.bind (h, b.writePointer (some p)) fun h b => fillElements res h b fs

/-- The struct branch: count, allocate `numElements + 1` zeroed pointer slots, fill them,
write the NULL terminator, and cache the new `ffi_type` on the type. -/
def structType (res : Heap → Option Nat → Js Heap FfiType) (h : Heap) (t : Nat) (fs : List Nat) :
    Js Heap FfiType :=
  Js.bind (fillElements res h ⟨List.replicate (countElements h 0 fs + 1) none, 0, []⟩ fs)
    fun h b => Js.bind (h, b.writePointer none) fun h b =>
      (h.setFfiType t (some (.struct b.slots)), .ok (.struct b.slots))

theorem fillElements_sameShape {res : Heap → Option Nat → Js Heap FfiType}
    (hres : ∀ h a, SameShape h (res h a).1) :
    ∀ h b fs, SameShape h (fillElements res h b fs).1
  | h, _, [] => SameShape.refl h
  | h, b, f :: fs => by
    unfold fillElements
    split <;> exact Js.sameShape_bind (hres _ _) fun h' _ =>
      Js.sameShape_bind (SameShape.refl h') fun h'' b' => fillElements_sameShape hres h'' b' fs

theorem structType_sameShape {res : Heap → Option Nat → Js Heap FfiType}
    (hres : ∀ h a, SameShape h (res h a).1) (h : Heap) (t : Nat) (fs : List Nat) :
    SameShape h (structType res h t fs).1 :=
  Js.sameShape_bind (fillElements_sameShape hres _ _ _) fun h' _ =>
    Js.sameShape_bind (SameShape.refl h') fun h'' _ => SameShape.setFfiType h'' t _

section
variable (ffiTypes : String → Option FfiType)

/-- `while (!ret && cur) { ret = cur.ffi_type = FFI_TYPES[cur.name]; cur = proto }` over the
prototype chain left. -/
def nameWalk : Heap → List Nat → Heap × Option FfiType
  | h, [] => (h, none)
  | h, c :: cs =>
    match ffiTypes (h.nameKey c) with
    | some r => (h.setFfiType c (some r), some r)
    | none => nameWalk (h.setFfiType c none) cs

/-- The name branch: a `CString` is a pointer; any other name is looked up along the chain. -/
def nameBranch (h : Heap) (t : Nat) : Heap × Option FfiType :=
  match h.nameOf t with
  | none => (h, none)
  | some n =>
    if n = "CString" then (h.setFfiType t (ffiTypes "pointer"), ffiTypes "pointer")
    else nameWalk ffiTypes h (h.chain t)

/-- `Type(type)`, with `fuel` the stack depth left for nested calls. -/
def typeOf : Nat → Heap → Option Nat → Js Heap FfiType
  | 0, h, _ => (h, .error rangeError)
  | fuel+1, h, arg =>
    Js.bind (h, coerceType h arg) fun h t =>
      let indirection := (h.get Obj.indirection t).getD 0
      if indirection < 1 then
        (h, .error (assertionError ("invalid \"type\" given: " ++ h.label t)))
      else
        let ret := if indirection = 1 then h.ffiTypeOf t else ffiTypes "pointer"
        let ret := ret <|> if (h.get Obj.type t).isSome then ffiTypes "pointer" else none
        match ret, h.get Obj.fields t with
        | some r, _ => (h, .ok r)
        | none, some fs => structType (typeOf fuel) h t fs
        | none, none =>
          match nameBranch ffiTypes h t with
          | (h', some r) => (h', .ok r)
          | (h', none) => (h', .error (assertionError
              ("Could not determine the `ffi_type` instance for type: " ++ h'.label t)))

theorem nameWalk_sameShape : ∀ h cs, SameShape h (nameWalk ffiTypes h cs).1
  | h, [] => SameShape.refl h
  | h, c :: cs => by
    unfold nameWalk
    split
    · exact SameShape.setFfiType h c _
    · exact (SameShape.setFfiType h c none).trans (nameWalk_sameShape _ cs)

theorem nameBranch_sameShape (h : Heap) (t : Nat) : SameShape h (nameBranch ffiTypes h t).1 := by
  unfold nameBranch
  split
  · exact SameShape.refl h
  · split
    · exact SameShape.setFfiType h t _
    · exact nameWalk_sameShape ffiTypes h _

theorem typeOf_sameShape : ∀ fuel h arg, SameShape h (typeOf ffiTypes fuel h arg).1
  | 0, h, _ => SameShape.refl h
  | fuel+1, h, arg => by
    unfold typeOf
    refine Js.sameShape_bind (SameShape.refl h) fun h t => ?_
    dsimp only
    split
    · exact SameShape.refl h
    · split
      · exact SameShape.refl h
      · exact structType_sameShape (typeOf_sameShape fuel) h t _
      · have hb := nameBranch_sameShape ffiTypes h t
        split <;> rename_i heq <;> rw [heq] at hb <;> exact hb

/-- What `Type` can throw: a `RangeError` (an exhausted stack, or a write past the `elements`
buffer), the `TypeError` of `ref.coerceType`, or an `AssertionError`. -/
def TypeThrows (e : JsError) : Prop :=
  e.name = "RangeError" ∨ e.name = "TypeError" ∨ e.name = "AssertionError"

theorem coerceType_throws {h : Heap} {a : Option Nat} {e : JsError}
    (he : coerceType h a = .error e) : TypeThrows e := by
  unfold coerceType at he
  split at he
  · split_ifs at he
    cases he
    exact .inr (.inl rfl)
  · cases he
    exact .inr (.inl rfl)

theorem coerceTypes_throws {h : Heap} {e : JsError} :
    ∀ {ts : List Nat}, coerceTypes h ts = .error e → TypeThrows e
  | [], he => by cases he
  | t :: ts, he => by
    simp only [coerceTypes] at he
    rcases hc : coerceType h (some t) with e' | t' <;> rw [hc] at he
    · cases he
      exact coerceType_throws hc
    · rcases hs : coerceTypes h ts with e' | ts' <;> rw [hs] at he <;> cases he
      exact coerceTypes_throws hs

def slotError : JsError := { name := "RangeError", message := "pointer slot out of bounds" }

theorem Elements.writePointer_eq_error {b : Elements} {p : Option FfiType} {e : JsError}
    (he : b.writePointer p = .error e) : e = slotError := by
  unfold Elements.writePointer at he
  split_ifs at he
  cases he
  rfl

theorem Elements.writeRepeat_eq_error {p : FfiType} {e : JsError} :
    ∀ n (b : Elements), b.writeRepeat p n = .error e → e = slotError
  | 0, _, he => by cases he
  | n+1, b, he => by
    rw [Elements.writeRepeat] at he
    rcases hw : b.writePointer (some p) with e' | b' <;> rw [hw] at he
    · cases he
      exact Elements.writePointer_eq_error hw
    · exact Elements.writeRepeat_eq_error n b' he

theorem Elements.writePointer_throws {b : Elements} {p : Option FfiType} {e : JsError}
    (he : b.writePointer p = .error e) : TypeThrows e := by
  rw [Elements.writePointer_eq_error he]
  exact .inl rfl

theorem Elements.writeRepeat_throws {p : FfiType} {e : JsError} (n : Nat) (b : Elements)
    (he : b.writeRepeat p n = .error e) : TypeThrows e := by
  rw [Elements.writeRepeat_eq_error n b he]
  exact .inl rfl

theorem fillElements_throws {res : Heap → Option Nat → Js Heap FfiType}
    (hres : ∀ h a h' e, res h a = (h', .error e) → TypeThrows e) :
    ∀ h b fs h' e, fillElements res h b fs = (h', .error e) → TypeThrows e
  | _, _, [], _, _, he => by cases he
  | h, b, f :: fs, _, _, he => by
    have hrest : ∀ s (r : Except JsError Elements) s' e, (∀ e, r = .error e → TypeThrows e) →
        Js.bind (s, r) (fun h b => fillElements res h b fs) = (s', .error e) → TypeThrows e :=
      fun s r s' e hr => Js.error_bind TypeThrows (fun _ e he => hr e (Prod.mk.inj he).2)
        fun _ _ _ _ he => fillElements_throws hres _ _ fs _ _ he
    unfold fillElements at he
    split at he
    · exact Js.error_bind TypeThrows (hres _ _)
        (fun _ _ _ _ => hrest _ _ _ _ fun _ => Elements.writeRepeat_throws _ _) he
    · exact Js.error_bind TypeThrows (hres _ _)
        (fun _ _ _ _ => hrest _ _ _ _ fun _ => Elements.writePointer_throws) he

theorem structType_throws {res : Heap → Option Nat → Js Heap FfiType}
    (hres : ∀ h a h' e, res h a = (h', .error e) → TypeThrows e) {h : Heap} {t : Nat}
    {fs : List Nat} {h' : Heap} {e : JsError} (he : structType res h t fs = (h', .error e)) :
    TypeThrows e :=
  Js.error_bind TypeThrows (fun _ _ => fillElements_throws hres _ _ _ _ _)
    (fun _ _ _ _ => Js.error_bind TypeThrows
      (fun _ _ he => Elements.writePointer_throws (Prod.mk.inj he).2)
      fun _ _ _ _ he => by cases he) he

/-- Everything `Type` throws is a `RangeError`, a `TypeError` or an `AssertionError`. -/
theorem typeOf_throws :
    ∀ fuel h arg h' e, typeOf ffiTypes fuel h arg = (h', .error e) → TypeThrows e
  | 0, _, _, _, _, he => by
    cases he
    exact .inl rfl
  | fuel+1, h, arg, _, _, he => by
    unfold typeOf at he
    refine Js.error_bind TypeThrows (fun _ _ he => coerceType_throws (Prod.mk.inj he).2)
      (fun h t _ _ he => ?_) he
    dsimp only at he
    split at he
    · cases he
      exact .inr (.inr rfl)
    split at he
    · cases he
    · exact structType_throws (typeOf_throws fuel) he
    · split at he
      · cases he
      · cases he
        exact .inr (.inr rfl)

/-- After `Type`, whether it returned or threw, every object is the one before with at most its
own `ffi_type` replaced. -/
theorem typeOf_writes_only_ffiType (fuel : Nat) (h : Heap) (arg : Option Nat) (i : Nat) :
    ∃ v, (typeOf ffiTypes fuel h arg).1.objs i = { h.objs i with ffiType := v } :=
  ⟨_, Obj.eq_of_shape_eq (typeOf_sameShape ffiTypes fuel h arg i)⟩

end

/-- A `bindings.FFI_TYPES` for concrete runs: a few of the names the bindings register, each
at its own address. -/
def exampleFfiTypes : String → Option FfiType
  | "void" => some (.native 0)
  | "int" => some (.native 4)
  | "pointer" => some (.native 8)
  | "double" => some (.native 9)
  | _ => none

/-- Descriptors as ref-napi, ref-array and ref-struct build them: `Object.prototype` (0),
`int` (1), `double` (2), `Array('double', 20)` (3), the test's `arst` struct (4),
`Array('int', 2)` (5), `Array(Array('int', 2), 3)` (6), a struct of one such field (7),
a custom `HANDLE` type carrying its own `ffi_type` (8), and `Object.create(HANDLE)` with
`ffi_type = undefined` (9). -/
def exampleHeap : Heap := Heap.ofList
  [{},
   { proto := some 0, indirection := some 1, size := some 4, name := some "int",
     ffiType := some (some (.native 4)) },
   { proto := some 0, indirection := some 1, size := some 8, name := some "double",
     ffiType := some (some (.native 9)) },
   { proto := some 0, indirection := some 1, size := some 160, type := some 2,
     fixedLength := some 20 },
   { proto := some 0, indirection := some 1, size := some 168, fields := some [1, 3] },
   { proto := some 0, indirection := some 1, size := some 8, type := some 1,
     fixedLength := some 2 },
   { proto := some 0, indirection := some 1, size := some 24, type := some 5,
     fixedLength := some 3 },
   { proto := some 0, indirection := some 1, size := some 24, fields := some [6] },
   { proto := some 0, indirection := some 1, size := some 8, name := some "HANDLE",
     ffiType := some (some (.native 8)) },
   { proto := some 8, ffiType := some none }] (by decide)

end NodeFfi
