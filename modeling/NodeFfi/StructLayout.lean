import NodeFfi.Type

/-! The struct branch of `Type` against what it is for: the flat, NULL-terminated list of
member types libffi reads. The filling loop refines `flattenFields`, which expands every
fixed-length array field into `fixedLength` copies of its element type, once. -/
namespace NodeFfi

namespace Elements

/-- A buffer whose slots are `pre`, then `k` untouched NULL slots, each slot of `pre` written
once, in order. -/
def filled (pre : List FfiType) (k : Nat) : Elements :=
  ⟨pre.map some ++ List.replicate k none, pre.length, List.range pre.length⟩

theorem filled_nil (k : Nat) : filled [] k = ⟨List.replicate k none, 0, []⟩ := rfl

theorem writePointer_filled (pre : List FfiType) (k : Nat) (p : Option FfiType) :
    (filled pre (k+1)).writePointer p =
      .ok ⟨pre.map some ++ p :: List.replicate k none, pre.length + 1,
        List.range (pre.length + 1)⟩ := by
  have hlt : (filled pre (k+1)).index < (filled pre (k+1)).slots.length := by simp [filled]
  rw [writePointer, if_pos hlt]
  simp only [filled, List.range_succ]
  rw [List.set_append_right _ _ (by simp)]
  simp [List.replicate_succ]

theorem writePointer_some_filled (pre : List FfiType) (k : Nat) (p : FfiType) :
    (filled pre (k+1)).writePointer (some p) = .ok (filled (pre ++ [p]) k) := by
  rw [writePointer_filled]; simp [filled]

theorem writeRepeat_filled (pre : List FfiType) (p : FfiType) :
    ∀ n k, (filled pre (n + k)).writeRepeat p n = .ok (filled (pre ++ List.replicate n p) k)
  | 0, k => by simp [writeRepeat]
  | n+1, k => by
    rw [show n + 1 + k = n + k + 1 by omega, writeRepeat, writePointer_some_filled]
    simp only [Except.bind, writeRepeat_filled _ p n k, List.append_assoc, List.singleton_append,
      List.replicate_succ]

end Elements

/-- The number of slots a field takes: `fixedLength` for a fixed-length array, else one. -/
def fieldSlots (h : Heap) (f : Nat) : Nat :=
  if 0 < h.fixedLengthOf f then h.fixedLengthOf f else 1

/-- The type a field's slots point to: the element type of a fixed-length array. -/
def fieldType (h : Heap) (f : Nat) : Option Nat :=
  if 0 < h.fixedLengthOf f then h.get Obj.type f else some f

theorem countElements_add (h : Heap) : ∀ a fs, countElements h a fs = a + countElements h 0 fs
  | a, [] => by simp [countElements]
  | a, f :: fs => by
    rw [countElements, countElements, countElements_add h _ fs, countElements_add h (ite _ _ _) fs]
    split <;> omega

theorem countElements_cons (h : Heap) (f : Nat) (fs : List Nat) :
    countElements h 0 (f :: fs) = fieldSlots h f + countElements h 0 fs := by
  rw [countElements, countElements_add, fieldSlots]
  split <;> omega

theorem SameShape.countElements {h h' : Heap} (hs : SameShape h h') :
    ∀ fs, NodeFfi.countElements h' 0 fs = NodeFfi.countElements h 0 fs
  | [] => rfl
  | f :: fs => by
    rw [countElements_cons, countElements_cons, SameShape.countElements hs fs, fieldSlots,
      fieldSlots, hs.fixedLengthOf]

/-- What the filling loop writes, as a list: each field's `ffi_type` from `res`, repeated
`fieldSlots` times. -/
def flattenFields (res : Heap → Option Nat → Js Heap FfiType) :
    Heap → List Nat → Js Heap (List FfiType)
  | h, [] => (h, .ok [])
  | h, f :: fs =>
    Js.bind (res h (fieldType h f)) fun h' p =>
      Js.bind (flattenFields res h' fs) fun h'' ps =>
        (h'', .ok (List.replicate (fieldSlots h f) p ++ ps))

section
variable {res : Heap → Option Nat → Js Heap FfiType} (hres : ∀ h a, SameShape h (res h a).1)
include hres

theorem fillElements_filled :
    ∀ h fs pre k, fillElements res h (Elements.filled pre (countElements h 0 fs + k)) fs =
      Js.bind (flattenFields res h fs) fun h ps => (h, .ok (Elements.filled (pre ++ ps) k))
  | h, [], pre, k => by simp [fillElements, flattenFields, countElements]
  | h, f :: fs, pre, k => by
    rw [countElements_cons, Nat.add_assoc]
    rw [flattenFields, Js.bind_assoc, fillElements]
    rcases hr : res h (fieldType h f) with ⟨h', _ | p⟩
    · by_cases hL : 0 < h.fixedLengthOf f <;> simp_all [fieldType]
    have hs : SameShape h h' := by simpa [hr] using hres h (fieldType h f)
    have ih := fillElements_filled h' fs (pre ++ List.replicate (fieldSlots h f) p) k
    rw [hs.countElements] at ih
    by_cases hL : 0 < h.fixedLengthOf f
    · simp only [fieldType, fieldSlots, hL, if_true] at hr ih ⊢
      simp [hr, hs.fixedLengthOf, Elements.writeRepeat_filled, ih, Js.bind_assoc]
    · simp only [fieldType, fieldSlots, hL, if_false, List.replicate_one] at hr ih ⊢
      simp [hr, Nat.add_comm 1, Elements.writePointer_some_filled, ih, Js.bind_assoc]

theorem flattenFields_length :
    ∀ h fs {h' : Heap} {ps : List FfiType}, flattenFields res h fs = (h', .ok ps) →
      ps.length = countElements h 0 fs
  | h, [], _, _, e => by simp [flattenFields] at e; simp [← e.2, countElements]
  | h, f :: fs, h', ps, e => by
    rw [flattenFields] at e
    rcases hr : res h (fieldType h f) with ⟨h₁, _ | p⟩
    · simp [hr] at e
    rcases hf : flattenFields res h₁ fs with ⟨h₂, _ | qs⟩
    · simp [hr, hf] at e
    simp only [hr, hf, Js.bind_ok, Prod.mk.injEq, Except.ok.injEq] at e
    have hs : SameShape h h₁ := by simpa [hr] using hres h (fieldType h f)
    rw [← e.2, List.length_append, List.length_replicate, flattenFields_length h₁ fs hf,
      hs.countElements, countElements_cons]

/-- The struct branch builds the flattened member list followed by one NULL, and caches the
new `ffi_type` on the type. -/
theorem structType_eq (h : Heap) (t : Nat) (fs : List Nat) :
    structType res h t fs = Js.bind (flattenFields res h fs) fun h ps =>
      (h.setFfiType t (some (.struct (ps.map some ++ [none]))),
        .ok (.struct (ps.map some ++ [none]))) := by
  rw [structType, ← Elements.filled_nil, fillElements_filled hres h fs [] 1, Js.bind_assoc]
  simp [Elements.writePointer_filled]

end

/-- The struct branch on the test's `arst` struct, with the nested `Type` as resolver. -/
theorem arst_struct_type :
    (∀ h a, SameShape h (typeOf exampleFfiTypes 2 h a).1) ∧
    structType (typeOf exampleFfiTypes 2) exampleHeap 4 [1, 3] =
      Js.bind (flattenFields (typeOf exampleFfiTypes 2) exampleHeap [1, 3]) fun h ps =>
        (h.setFfiType 4 (some (.struct (ps.map some ++ [none]))),
          .ok (.struct (ps.map some ++ [none]))) :=
  ⟨typeOf_sameShape exampleFfiTypes 2,
    structType_eq (typeOf_sameShape exampleFfiTypes 2) exampleHeap 4 [1, 3]⟩

section
variable (ffiTypes : String → Option FfiType)

/-- The two loops of the struct branch agree, for every field list: the filling loop writes
exactly the `n` slots `0, …, n - 1`, in order, where `n` is what the counting loop computed,
each with a pointer; the buffer has `n + 1` slots and the NULL terminator goes to slot `n`. -/
theorem struct_loops_agree (fuel : Nat) (h : Heap) (fs : List Nat) {h' : Heap} {b : Elements}
    (hfill : fillElements (typeOf ffiTypes fuel) h
      ⟨List.replicate (countElements h 0 fs + 1) none, 0, []⟩ fs = (h', .ok b)) :
    b.written = List.range (countElements h 0 fs) ∧ b.index = countElements h 0 fs ∧
      b.slots.length = countElements h 0 fs + 1 ∧
      (∀ i < countElements h 0 fs, ∃ p, b.slots[i]? = some (some p)) ∧
      b.writePointer none =
        .ok ⟨b.slots, countElements h 0 fs + 1, List.range (countElements h 0 fs + 1)⟩ := by
  have hres := typeOf_sameShape ffiTypes fuel
  rw [← Elements.filled_nil, fillElements_filled hres h fs [] 1] at hfill
  rcases hf : flattenFields (typeOf ffiTypes fuel) h fs with ⟨h₁, _ | ps⟩
  · simp [hf] at hfill
  simp only [hf, Js.bind_ok, List.nil_append, Prod.mk.injEq, Except.ok.injEq] at hfill
  obtain ⟨-, rfl⟩ := hfill
  rw [← flattenFields_length hres h fs hf]
  refine ⟨rfl, rfl, by simp [Elements.filled], fun i hi => ?_, ?_⟩
  · refine ⟨ps[i], ?_⟩
    rw [Elements.filled, List.getElem?_append_left (by simpa using hi)]
    simp [hi]
  · rw [Elements.writePointer_filled]; simp [Elements.filled]

/-- The by-value layout of a field type: a fixed-length array of length `L` lays out `L` copies
of its element type's layout, at every depth, and any other type `t` is one member, its
`ffi_type` `leaf t`. `depth` bounds the nesting. -/
def nestedExpand (h : Heap) (leaf : Nat → FfiType) : Nat → Nat → List FfiType
  | 0, _ => []
  | depth+1, t =>
    if 0 < h.fixedLengthOf t then
      match h.get Obj.type t with
      | some e => (List.replicate (h.fixedLengthOf t) (nestedExpand h leaf depth e)).flatten
      | none => []
    else [leaf t]

/-- A struct whose one field is `Array(Array('int', 2), 3)`: the expansion is six `int`
slots, but the code resolves the inner array with `Type`, whose "ref-array" branch answers
`pointer`, and writes three `pointer` slots. -/
theorem nested_array_field_as_pointers :
    (typeOf exampleFfiTypes 3 exampleHeap (some 1)).2 = .ok (.native 4) ∧
    nestedExpand exampleHeap (fun _ => .native 4) 3 6 = List.replicate 6 (.native 4) ∧
    (typeOf exampleFfiTypes 3 exampleHeap (some 7)).2 =
      .ok (.struct (List.replicate 3 (some (.native 8)) ++ [none])) :=
  ⟨rfl, rfl, rfl⟩

/-- The test's `arst` struct, `{ num: 'int', array: Array('double', 20) }`: 21 member slots. -/
theorem arst_loops_agree :
    fillElements (typeOf exampleFfiTypes 2) exampleHeap
        ⟨List.replicate (countElements exampleHeap 0 [1, 3] + 1) none, 0, []⟩ [1, 3] =
      ((fillElements (typeOf exampleFfiTypes 2) exampleHeap
        ⟨List.replicate (countElements exampleHeap 0 [1, 3] + 1) none, 0, []⟩ [1, 3]).1,
        .ok (Elements.filled (.native 4 :: List.replicate 20 (.native 9)) 1)) ∧
    (Elements.filled (.native 4 :: List.replicate 20 (.native 9)) 1).written =
      List.range (countElements exampleHeap 0 [1, 3]) :=
  have e : fillElements (typeOf exampleFfiTypes 2) exampleHeap
        ⟨List.replicate (countElements exampleHeap 0 [1, 3] + 1) none, 0, []⟩ [1, 3] =
      ((fillElements (typeOf exampleFfiTypes 2) exampleHeap
        ⟨List.replicate (countElements exampleHeap 0 [1, 3] + 1) none, 0, []⟩ [1, 3]).1,
        .ok (Elements.filled (.native 4 :: List.replicate 20 (.native 9)) 1)) := rfl
  ⟨e, (struct_loops_agree exampleFfiTypes 2 exampleHeap [1, 3] e).1⟩

end

end NodeFfi
