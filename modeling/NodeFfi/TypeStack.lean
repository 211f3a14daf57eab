import NodeFfi.StructLayout

/-! How deep the JavaScript stack has to be for `Type`, which recurses only from a struct into
its fields: a call that did not overflow answers the same on any deeper stack; when a rank drops
from each struct to its fields, a stack deeper than the rank never overflows; and structs that
hold one another by value as first fields overflow every stack. -/
namespace NodeFfi

theorem Js.bind_mono {σ α β : Type} {E : JsError} {r r' : Js σ α} {k k' : σ → α → Js σ β}
    (hr : r.2 ≠ .error E → r' = r) (hk : ∀ s a, (k s a).2 ≠ .error E → k' s a = k s a)
    (h : (Js.bind r k).2 ≠ .error E) : Js.bind r' k' = Js.bind r k := by
  rcases r with ⟨s, e | a⟩
  · rw [hr (by simpa using h), Js.bind_error, Js.bind_error]
  · rw [hr (by simp), Js.bind_ok, Js.bind_ok]
    exact hk s a h

theorem fillElements_cons (res : Heap → Option Nat → Js Heap FfiType) (h : Heap) (b : Elements)
    (f : Nat) (fs : List Nat) :
    fillElements res h b (f :: fs) = Js.bind (res h (fieldType h f)) fun h' p =>
      Js.bind (h', if 0 < h.fixedLengthOf f then b.writeRepeat p (h'.fixedLengthOf f)
        else b.writePointer (some p)) fun h'' b => fillElements res h'' b fs := by
  rw [fillElements, fieldType]
  split_ifs <;> rfl

theorem SameShape.fieldType {h h' : Heap} (hs : SameShape h h') (f : Nat) :
    NodeFfi.fieldType h' f = NodeFfi.fieldType h f := by
  rw [NodeFfi.fieldType, NodeFfi.fieldType, hs.fixedLengthOf, hs.get_type]

section
variable (P : JsError → Prop) (hslot : P slotError) {res : Heap → Option Nat → Js Heap FfiType}
  (hs : ∀ h a, SameShape h (res h a).1)
include hslot hs

theorem fillElements_error {h₀ : Heap} : ∀ fs h b, SameShape h₀ h →
    (∀ h, SameShape h₀ h → ∀ f ∈ fs, ∀ h' e, res h (fieldType h f) = (h', .error e) → P e) →
    ∀ h' e, fillElements res h b fs = (h', .error e) → P e
  | [], _, _, _, _, _, _, he => by cases he
  | f :: fs, h, b, hs₀, hres, h', e, he => by
    rw [fillElements_cons] at he
    rcases Js.bind_eq_error he with he | ⟨h₁, p, hp, he⟩
    · exact hres h hs₀ f (List.mem_cons_self _ _) _ _ he
    have hs₁ : SameShape h₀ h₁ := hs₀.trans (by simpa [hp] using hs h (fieldType h f))
    rcases Js.bind_eq_error he with he | ⟨h₂, b', hb, he⟩
    · have he := (Prod.mk.inj he).2
      split_ifs at he
      · exact Elements.writeRepeat_eq_error _ _ he ▸ hslot
      · exact Elements.writePointer_eq_error he ▸ hslot
    · obtain rfl := (Prod.mk.inj hb).1
      exact fillElements_error fs h₁ b' hs₁
        (fun h hs f hf => hres h hs f (List.mem_cons_of_mem _ hf)) _ _ he

theorem structType_error {h : Heap} {t : Nat} {fs : List Nat}
    (hres : ∀ h', SameShape h h' → ∀ f ∈ fs, ∀ h'' e,
      res h' (fieldType h' f) = (h'', .error e) → P e)
    {h' : Heap} {e : JsError} (he : structType res h t fs = (h', .error e)) : P e :=
  Js.error_bind P (fillElements_error P hslot hs fs h _ (SameShape.refl h) hres)
    (fun _ _ _ _ he => Js.error_bind P
      (fun _ _ he => Elements.writePointer_eq_error (Prod.mk.inj he).2 ▸ hslot)
      (fun _ _ _ _ he => by cases he) he) he

end

theorem fillElements_mono {res res' : Heap → Option Nat → Js Heap FfiType}
    (hres : ∀ h a, (res h a).2 ≠ .error rangeError → res' h a = res h a) :
    ∀ h b fs, (fillElements res h b fs).2 ≠ .error rangeError →
      fillElements res' h b fs = fillElements res h b fs
  | _, _, [], _ => rfl
  | h, b, f :: fs, hne => by
    simp only [fillElements_cons] at hne ⊢
    exact Js.bind_mono (hres _ _) (fun h _ hne => Js.bind_mono (fun _ => rfl)
      (fun h b hne => fillElements_mono hres h b fs hne) hne) hne

theorem structType_mono {res res' : Heap → Option Nat → Js Heap FfiType}
    (hres : ∀ h a, (res h a).2 ≠ .error rangeError → res' h a = res h a) (h : Heap) (t : Nat)
    (fs : List Nat) (hne : (structType res h t fs).2 ≠ .error rangeError) :
    structType res' h t fs = structType res h t fs :=
  Js.bind_mono (fillElements_mono hres _ _ _) (fun _ _ _ => rfl) hne

/-- A rank on the arguments of `Type` that drops from every struct `Type` can build to each
argument its field loop passes to the nested `Type`: a field's type, or a fixed-length array
field's element type. A struct here has fields, indirection 1 and no `type`, whatever
`ffi_type` caches it sees; a pointer to a struct inherits its fields but resolves to `pointer`.
Such a rank says that no struct contains itself by value. -/
def NestingRank (h : Heap) (rank : Option Nat → Nat) : Prop :=
  ∀ t fs, (h.get Obj.indirection t).getD 0 = 1 → (h.get Obj.type t).isSome = false →
    h.get Obj.fields t = some fs → ∀ f ∈ fs, rank (fieldType h f) < rank (some t)

theorem NestingRank.of_sameShape {h h' : Heap} {rank : Option Nat → Nat}
    (hr : NestingRank h rank) (hs : SameShape h h') : NestingRank h' rank :=
  fun t fs hi hty hfs f hf => by
    rw [hs.fieldType]
    rw [hs.get Obj.indirection (fun _ => rfl)] at hi
    rw [hs.get_type] at hty
    exact hr t fs hi hty (by rwa [hs.get Obj.fields (fun _ => rfl)] at hfs) f hf

section
variable (ffiTypes : String → Option FfiType)

/-- A `Type` call that did not overflow the stack answers the same, from the same heap, on any
deeper stack. -/
theorem typeOf_fuel_mono : ∀ n k h arg, (typeOf ffiTypes n h arg).2 ≠ .error rangeError →
    typeOf ffiTypes (n + k) h arg = typeOf ffiTypes n h arg
  | 0, _, _, _, hne => absurd rfl hne
  | n+1, k, h, arg, hne => by
    rw [Nat.add_right_comm]
    unfold typeOf at hne ⊢
    refine Js.bind_mono (fun _ => rfl) (fun h t hne => ?_) hne
    dsimp only at hne ⊢
    split_ifs at hne ⊢
    · rfl
    all_goals
      split
      next => rfl
      next fs hret hfs =>
        simp only [hret, hfs] at hne
        exact structType_mono (fun h a hne => typeOf_fuel_mono n k h a hne) _ _ _ hne
      next => rfl

/-- With a `pointer` entry in `FFI_TYPES` and a nesting rank, a stack deeper than the rank of
`Type`'s argument never overflows. -/
theorem typeOf_no_overflow (hp : (ffiTypes "pointer").isSome) {rank : Option Nat → Nat} :
    ∀ n h arg, NestingRank h rank → rank arg < n →
      ∀ h' e, typeOf ffiTypes n h arg = (h', .error e) → e ≠ rangeError
  | 0, _, _, _, hn, _, _, _ => absurd hn (Nat.not_lt_zero _)
  | n+1, h, arg, hr, hn, h', e, he => by
    unfold typeOf at he
    rcases Js.bind_eq_error he with he | ⟨_, t, ht, hb⟩
    -- `ref.coerceType` throws a `TypeError`
    · have he := (Prod.mk.inj he).2
      unfold coerceType at he
      split at he
      · split_ifs at he; cases he; simp [typeError, rangeError]
      · cases he; simp [typeError, rangeError]
    obtain rfl := (Prod.mk.inj ht).1
    have ht := (Prod.mk.inj ht).2
    obtain rfl : arg = some t := by
      cases arg with
      | none => cases ht
      | some t' => rw [coerceType_ok ht]
    dsimp only at hb
    split_ifs at hb
    · cases hb; simp [assertionError, rangeError]
    all_goals
      split at hb
      · cases hb
      -- the struct branch, entered only at indirection 1 with no `type`: each nested call is
      -- on an argument of lower rank
      · rename_i fs hret hfs
        have hlt : ∀ f ∈ fs, rank (fieldType h f) < n := fun f hf =>
          Nat.lt_of_lt_of_le (hr t fs (by simp_all) (by simp_all) hfs f hf) (Nat.lt_succ_iff.mp hn)
        exact structType_error (· ≠ rangeError) (by simp [slotError, rangeError])
          (typeOf_sameShape ffiTypes n) (fun h₁ hs f hf _ _ he => typeOf_no_overflow hp n h₁ _
            (hr.of_sameShape hs) (hs.fieldType f ▸ hlt f hf) _ _ he) hb
      · split at hb
        · cases hb
        · cases hb; simp [assertionError, rangeError]

/-- When no struct contains itself by value, as a nesting rank witnesses, `Type` on a stack
deeper than its argument's rank never overflows, and answers the same, from the same heap, on
every deeper stack; `FFI_TYPES` has a `pointer` entry, as the bindings' always has. -/
theorem typeOf_stack_depth (hp : (ffiTypes "pointer").isSome) {rank : Option Nat → Nat} {h : Heap}
    (hr : NestingRank h rank) {arg : Option Nat} {n : Nat} (hn : rank arg < n) (k : Nat) :
    (typeOf ffiTypes n h arg).2 ≠ .error rangeError ∧
      typeOf ffiTypes (n + k) h arg = typeOf ffiTypes n h arg := by
  have hne : (typeOf ffiTypes n h arg).2 ≠ .error rangeError := fun he =>
    typeOf_no_overflow ffiTypes hp n h arg hr hn _ _ (Prod.ext rfl he) rfl
  exact ⟨hne, typeOf_fuel_mono ffiTypes n k h arg hne⟩

/-- Types whose `Type` call goes into the struct branch and, from its first field, into a type
of the set again: a `size`, indirection 1, no truthy `ffi_type`, no `type`, and a first field
whose slots point to a type of the set. -/
def FirstFieldCycle (h : Heap) (S : Nat → Prop) : Prop :=
  ∀ t, S t → (h.get Obj.size t).isSome ∧ h.get Obj.indirection t = some 1 ∧
    h.ffiTypeOf t = none ∧ h.get Obj.type t = none ∧
    ∃ f fs u, h.get Obj.fields t = some (f :: fs) ∧ fieldType h f = some u ∧ S u

/-- Structs that hold one another by value as first fields, a struct holding itself among
them, make `Type` overflow the stack at every depth, before it writes any cache. -/
theorem typeOf_cycle_overflows {h : Heap} {S : Nat → Prop} (hc : FirstFieldCycle h S) :
    ∀ n t, S t → typeOf ffiTypes n h (some t) = (h, .error rangeError)
  | 0, _, _ => rfl
  | n+1, t, ht => by
    obtain ⟨hsz, hind, hff, hty, f, fs, u, hfs, hfu, hu⟩ := hc t ht
    have hco : coerceType h (some t) = .ok t := by simp [coerceType, hsz, hind]
    simp [typeOf, hco, hind, hff, hty, hfs, structType, fillElements_cons, hfu,
      typeOf_cycle_overflows hc n u hu]

end

/-- A linked list node, `Struct({ value: 'int', next: ref.refType(node) })`: `Object.prototype`
(0), `int` (1), the struct (2), and `node*` (3), made by `Object.create(node)` with indirection 2,
which inherits the struct's fields. -/
def listHeap : Heap := Heap.ofList
  [{},
   { proto := some 0, indirection := some 1, size := some 4, name := some "int",
     ffiType := some (some (.native 4)) },
   { proto := some 0, indirection := some 1, size := some 16, fields := some [1, 3] },
   { proto := some 2, indirection := some 2 }] (by decide)

def listRank (a : Option Nat) : Nat := if a = some 2 then 1 else 0

theorem listHeap_nestingRank : NestingRank listHeap listRank := by
  intro t fs hi hty hfs f hf
  have hlow : ∀ t < 4, (listHeap.get Obj.indirection t).getD 0 = 1 →
      (listHeap.get Obj.type t).isSome = false → ∀ fs ∈ listHeap.get Obj.fields t, ∀ f ∈ fs,
      listRank (fieldType listHeap f) < listRank (some t) := by decide
  rcases Nat.lt_or_ge t 4 with ht | ht
  · exact hlow t ht hi hty fs hfs f hf
  · rw [listHeap, Heap.get_ofList_of_le rfl ht] at hfs
    cases hfs

theorem node_type_any_depth :
    (exampleFfiTypes "pointer").isSome ∧ NestingRank listHeap listRank ∧ listRank (some 2) < 2 ∧
      (typeOf exampleFfiTypes 2 listHeap (some 2)).2 ≠ .error rangeError ∧
      typeOf exampleFfiTypes (2 + 62) listHeap (some 2) =
        typeOf exampleFfiTypes 2 listHeap (some 2) :=
  ⟨rfl, listHeap_nestingRank, by decide,
    typeOf_stack_depth exampleFfiTypes rfl listHeap_nestingRank
      (by decide : listRank (some 2) < 2) 62⟩

example : (typeOf exampleFfiTypes 1 listHeap (some 2)).2 = .error rangeError := rfl

def structRingHeap : Heap := Heap.ofList
  [{},
   { proto := some 0, indirection := some 1, size := some 8, name := some "A",
     fields := some [2] },
   { proto := some 0, indirection := some 1, size := some 8, name := some "B",
     fields := some [1] }] (by decide)

theorem struct_ring_overflows :
    FirstFieldCycle structRingHeap (fun t => t = 1 ∨ t = 2) ∧
      typeOf exampleFfiTypes 1000 structRingHeap (some 1) = (structRingHeap, .error rangeError) :=
  have hc : FirstFieldCycle structRingHeap (fun t => t = 1 ∨ t = 2) := by
    rintro t (rfl | rfl)
    exacts [⟨rfl, rfl, rfl, rfl, 2, [], 2, rfl, rfl, .inr rfl⟩,
      ⟨rfl, rfl, rfl, rfl, 1, [], 1, rfl, rfl, .inl rfl⟩]
  ⟨hc, typeOf_cycle_overflows exampleFfiTypes hc 1000 1 (.inl rfl)⟩

end NodeFfi
