import NodeFfi.Type

/-! The `ffi_type` properties `Type` writes as a cache. A second `Type` call on a type answers
what the first did, from the cache. But the name lookup writes
`cur.ffi_type = FFI_TYPES[cur.name]` on every object of the chain it walks, whether the lookup
finds a type or not, so a prototype that carried its own `ffi_type` can lose it, and an
earlier `Type` call can change what a later one answers. -/
namespace NodeFfi

theorem Heap.ffiTypeOf_of_own {h : Heap} {t : Nat} {v : Option FfiType}
    (hv : (h.objs t).ffiType = some v) : h.ffiTypeOf t = v := by
  obtain ⟨cs, hc⟩ := h.chain_head t
  simp [Heap.ffiTypeOf, Heap.get, hc, hv]

section
variable (ffiTypes : String → Option FfiType)

theorem nameWalk_snd :
    ∀ h cs, (nameWalk ffiTypes h cs).2 = cs.findSome? fun c => ffiTypes (h.nameKey c)
  | h, [] => rfl
  | h, c :: cs => by
    rw [nameWalk, List.findSome?_cons]
    split <;> rename_i heq <;> simp only [heq]
    simp only [nameWalk_snd, (SameShape.setFfiType h c none).nameKey]

theorem nameWalk_ffiType : ∀ h cs i,
    ((nameWalk ffiTypes h cs).1.objs i).ffiType = (h.objs i).ffiType ∨
    ((nameWalk ffiTypes h cs).1.objs i).ffiType = some none ∨
    ((nameWalk ffiTypes h cs).1.objs i).ffiType = some (nameWalk ffiTypes h cs).2
  | h, [], i => .inl rfl
  | h, c :: cs, i => by
    unfold nameWalk
    split <;> rename_i r heq
    · by_cases hi : i = c
      · subst hi; simp
      · simp [Function.update_noteq hi]
    · rcases nameWalk_ffiType (h.setFfiType c none) cs i with e | e | e
      · by_cases hi : i = c
        · subst hi; simp_all
        · simp_all [Function.update_noteq hi]
      · exact .inr (.inl e)
      · exact .inr (.inr e)

/-- The name branch, when it answers, leaves on the type its answer or `undefined`. -/
theorem nameBranch_ffiTypeOf {h : Heap} {t : Nat} {h' : Heap} {r : FfiType}
    (e : nameBranch ffiTypes h t = (h', some r)) :
    h'.ffiTypeOf t = none ∨ h'.ffiTypeOf t = some r := by
  unfold nameBranch at e
  split at e
  · simp at e
  split_ifs at e
  · simp only [Prod.mk.injEq] at e
    obtain ⟨rfl, hr⟩ := e
    exact .inr (Heap.ffiTypeOf_of_own (by simp [hr]))
  obtain ⟨cs, hc⟩ := h.chain_head t
  rw [hc, nameWalk] at e
  split at e
  · simp only [Prod.mk.injEq, Option.some.injEq] at e
    obtain ⟨rfl, rfl⟩ := e
    exact .inr (Heap.ffiTypeOf_of_own (by simp))
  · have hw := nameWalk_ffiType ffiTypes (h.setFfiType t none) cs t
    rw [e] at hw
    rcases hw with hw | hw | hw
    · exact .inl (Heap.ffiTypeOf_of_own (by simpa using hw))
    · exact .inl (Heap.ffiTypeOf_of_own hw)
    · exact .inr (Heap.ffiTypeOf_of_own hw)

theorem nameBranch_snd_sameShape {h h' : Heap} (hs : SameShape h h') (t : Nat) :
    (nameBranch ffiTypes h' t).2 = (nameBranch ffiTypes h t).2 := by
  simp only [nameBranch, hs.nameOf, hs.chain]
  split
  · rfl
  · split_ifs
    · rfl
    · simp only [nameWalk_snd, hs.nameKey]

theorem structType_ffiTypeOf {res : Heap → Option Nat → Js Heap FfiType} {h : Heap} {t : Nat}
    {fs : List Nat} {h' : Heap} {r : FfiType} (e : structType res h t fs = (h', .ok r)) :
    h'.ffiTypeOf t = some r := by
  obtain ⟨_, _, -, e⟩ := Js.bind_eq_ok e
  obtain ⟨_, _, -, e⟩ := Js.bind_eq_ok e
  simp only [Prod.mk.injEq, Except.ok.injEq] at e
  obtain ⟨rfl, rfl⟩ := e
  exact Heap.ffiTypeOf_of_own (by simp)

/-- Once `Type(t)` answered `r`, a second `Type(t)` on the heap it left answers `r` from what the
first cached, with one stack frame: the struct branch and the name lookup both leave on `t`
either `r` or a falsy `ffi_type` that sends the second call down the same lookup. `FFI_TYPES`
has a `pointer` entry, as the bindings' always has. A `Type` call on another type in between
can undo this (below). -/
theorem typeOf_cached (hp : (ffiTypes "pointer").isSome) {fuel : Nat} {h h' : Heap}
    {arg : Option Nat} {r : FfiType} (e : typeOf ffiTypes fuel h arg = (h', .ok r)) (fuel' : Nat) :
    (typeOf ffiTypes (fuel' + 1) h' arg).2 = .ok r := by
  have hs : SameShape h h' := by simpa [e] using typeOf_sameShape ffiTypes fuel h arg
  obtain ⟨p, hp⟩ := Option.isSome_iff_exists.mp hp
  cases fuel with
  | zero => simp [typeOf] at e
  | succ fuel =>
  obtain ⟨_, t, ht, e⟩ := Js.bind_eq_ok e
  simp only [Prod.mk.injEq] at ht
  obtain ⟨rfl, ht⟩ := ht
  unfold typeOf
  rw [hs.coerceType, ht, Js.bind_ok]
  dsimp only at e ⊢
  rw [hs.get Obj.indirection (fun _ => rfl), hs.get Obj.type (fun _ => rfl),
    hs.get Obj.fields (fun _ => rfl)]
  split_ifs at e ⊢ with h1 h2 h3
  · simp at e
  -- a `ref-array` type
  · cases hf : h.ffiTypeOf t <;> simp_all
  -- a type with indirection 1: its own `ffi_type`, a struct, or a name
  · simp only [Option.orElse_none] at e ⊢
    rcases hf : h.ffiTypeOf t with _ | a
    · rcases hfs : h.get Obj.fields t with _ | fs <;> simp only [hf, hfs] at e
      · rcases hn : nameBranch ffiTypes h t with ⟨h₁, _ | r₁⟩ <;>
          simp only [hn, Prod.mk.injEq, Except.ok.injEq, reduceCtorEq, and_false] at e
        obtain ⟨rfl, rfl⟩ := e
        have hv := nameBranch_snd_sameShape ffiTypes hs t
        rcases nameBranch_ffiTypeOf ffiTypes hn with hf' | hf' <;> simp only [hf']
        rcases hn' : nameBranch ffiTypes h₁ t with ⟨_, _ | _⟩ <;> simp_all
      · simp [structType_ffiTypeOf e]
    · simp_all
  -- a pointer type
  all_goals simp_all

/-- `Type(arst)` builds the struct `ffi_type`; a second call answers it without resolving the
fields again. -/
theorem arst_type_cached :
    (exampleFfiTypes "pointer").isSome ∧
    (typeOf exampleFfiTypes 1 (typeOf exampleFfiTypes 3 exampleHeap (some 4)).1 (some 4)).2 =
      .ok (.struct (some (.native 4) :: List.replicate 20 (some (.native 9)) ++ [none])) :=
  ⟨rfl, @typeOf_cached exampleFfiTypes rfl 3 exampleHeap _ (some 4) _ rfl 0⟩

end

/-- `HANDLE` carries its own `ffi_type`; `Object.create(HANDLE)` with `ffi_type = undefined`
walks the chain with `HANDLE`'s name, finds nothing, and on its way writes `undefined` over
`HANDLE.ffi_type`: afterwards `Type(HANDLE)` throws where it answered `pointer` before. -/
theorem handle_type_lost_after_derived_lookup :
    (typeOf exampleFfiTypes 1 exampleHeap (some 8)).2 = .ok (.native 8) ∧
    (typeOf exampleFfiTypes 1 exampleHeap (some 9)).2 = .error (assertionError
      "Could not determine the `ffi_type` instance for type: HANDLE") ∧
    (typeOf exampleFfiTypes 1 (typeOf exampleFfiTypes 1 exampleHeap (some 9)).1 (some 8)).2 =
      .error (assertionError "Could not determine the `ffi_type` instance for type: HANDLE") :=
  ⟨rfl, rfl, rfl⟩

end NodeFfi
