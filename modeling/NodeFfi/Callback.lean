import NodeFfi.ForeignFunction

/-! `Callback` of `lib/callback.js`: a JavaScript function made callable from C, with an
`ffi_cif` for its signature and a handler that reads the arguments, calls the function and
writes the result into the return slot, handing every exception back to the native side. Called
through an invoker of its own signature, a callback computes its function. -/
namespace NodeFfi

/-- The third argument of `Callback` as `typeof` tells it apart: `undefined`, an ABI number, or
the function itself when the ABI is left out. -/
inductive AbiArg (F : Type) where
  | undefined
  | abi (n : Nat)
  | function (f : F)
  deriving DecidableEq, Repr

def AbiArg.shift {F : Type} : AbiArg F → Option F → Option Nat × Option F
  | .undefined, func => (none, func)
  | .abi n, func => (some n, func)
  | .function f, _ => (none, some f)

/-- The pointer `_Callback` returns, with what it keeps: the `ffi_cif` (its `_cif`), the size of
the return type and the number of arguments it was given, and what the handler closes over. -/
structure CallbackPtr (F : Type) where
  cif : Cif
  retSize : Nat
  argc : Nat
  retType : Nat
  argTypes : List Nat
  func : F
  deriving DecidableEq, Repr

section
variable {F : Type} (prep : Prep) (res : Heap → Option Nat → Js Heap FfiType)

/-- `Callback(retType, argTypes, abi, func)`: `retType` is a type object or falsy, `argTypes` an
array of type objects or not an array, `func` a function or not. -/
def callback (h : Heap) (retType : Option Nat) (argTypes : Option (List Nat)) (abi : AbiArg F)
    (func : Option F) : Js Heap (CallbackPtr F) :=
  match retType, argTypes, abi.shift func with
  | none, _, _ =>
    (h, .error (assertionError "expected a return \"type\" object as the first argument"))
  | some _, none, _ =>
    (h, .error (assertionError "expected Array of arg \"type\" objects as the second argument"))
  | some _, some _, (_, none) =>
    (h, .error (assertionError "expected a function as the third argument"))
  | some rt, some ats, (abi, some f) =>
    Js.bind (h, coerceType h (some rt)) fun h rt =>
      Js.bind (h, coerceTypes h ats) fun h ats =>
        Js.bind (cif prep res h rt ats abi) fun h c =>
          (h, .ok ⟨c, (h.get Obj.size rt).getD 0, ats.length, rt, ats, f⟩)

theorem callback_cif_agrees {h h' : Heap} {retType : Option Nat} {argTypes : Option (List Nat)}
    {abi : AbiArg F} {func : Option F} {cb : CallbackPtr F}
    (e : callback prep res h retType argTypes abi func = (h', .ok cb)) :
    (∃ h₁, res h (some cb.retType) = (h₁, .ok cb.cif.rtype) ∧
      (argTypesOf res h₁ cb.argTypes).2 = .ok cb.cif.argTypes) ∧
    cb.argc = cb.argTypes.length ∧ cb.cif.argTypes.length = cb.argc := by
  unfold callback at e
  split at e
  iterate 3 simp at e
  obtain ⟨_, _, e₁, e'⟩ := Js.bind_eq_ok e
  obtain ⟨_, _, e₂, e''⟩ := Js.bind_eq_ok e'
  obtain ⟨_, c, hc, e₃⟩ := Js.bind_eq_ok e''
  have hh₁ := (Prod.mk.inj e₁).1
  have hh₂ := (Prod.mk.inj e₂).1
  have hcb := Except.ok.inj (Prod.mk.inj e₃).2
  subst hh₁ hh₂ hcb
  obtain ⟨h₁, hr, ha, -⟩ := cif_ok prep res hc
  refine ⟨⟨h₁, hr, ha⟩, rfl, ?_⟩
  rcases hA : argTypesOf res h₁ _ with ⟨_, _ | fts⟩ <;> rw [hA] at ha <;> cases ha
  exact argTypesOf_length res hA

end

def absCallback : CallbackPtr Unit := ⟨⟨.native 4, [.native 4], none, 0⟩, 4, 1, 1, [1], ()⟩

example : (callback examplePrep (typeOf exampleFfiTypes 3) exampleHeap (some 1) (some [1])
    (.function ()) none).2 = .ok absCallback := rfl

/-- What the handler takes from ref-napi: the value in argument storage read as a type
(`params.readPointer(i * ref.sizeof.pointer, type.size)`, then `deref()`),
`func.apply(null, args)`, and `ref.set(retval, 0, result, retType)` on the return slot. -/
structure CallbackRuntime (F V B R : Type) where
  readArg : B → Nat → Except JsError V
  apply : F → List V → Except JsError V
  set : R → Nat → V → Except JsError R

def settingReturnValue (e : JsError) : JsError :=
  { e with message := "error setting return value - " ++ e.message }

section
variable {F V B R : Type} (cr : CallbackRuntime F V B R)

/-- The handler's loop: argument `i` is read from `params i`, the `i`-th pointer of the native
argument array, as the type `argTypes[i]`. -/
def readArgs (params : Nat → B) : Nat → List Nat → Except JsError (List V)
  | _, [] => .ok []
  | i, t :: ts => (cr.readArg (params i) t).bind fun v => (readArgs params (i + 1) ts).map (v :: ·)

/-- One native invocation of the callback, on the return slot `retval` and the argument array
`params`: the slot after it, and the exception the handler returned, if any. -/
def CallbackPtr.invoke (cb : CallbackPtr F) (retval : R) (params : Nat → B) :
    R × Option JsError :=
  match readArgs cr params 0 cb.argTypes with
  | .error e => (retval, some e)
  | .ok args =>
    match cr.apply cb.func args with
    | .error e => (retval, some e)
    | .ok result =>
      match cr.set retval cb.retType result with
      | .error e => (retval, some (settingReturnValue e))
      | .ok retval => (retval, none)

end

section
variable {F V B R : Type} (rt : Runtime V B R) (cr : CallbackRuntime F V B R)

theorem readArgs_of_marshalArgs (hread : ∀ t v b, rt.alloc t v = .ok b → cr.readArg b t = .ok v)
    (params : Nat → B) : ∀ (ts : List Nat) (vs : List V) (k i : Nat) (argv : List B),
      ts.length = vs.length → marshalArgs rt k (ts.zip vs) = .ok argv →
      (∀ j (hj : j < argv.length), params (i + j) = argv[j]) → readArgs cr params i ts = .ok vs
  | [], [], _, _, _, _, _, _ => rfl
  | t :: ts, v :: vs, k, i, argv, hl, hm, hp => by
    rw [List.zip_cons_cons, marshalArgs] at hm
    rcases ha : rt.alloc t v with e | b <;> rw [ha] at hm
    · cases hm
    rcases hr : marshalArgs rt (k + 1) (ts.zip vs) with e | argv' <;>
      simp only [hr, Except.map, Except.ok.injEq, reduceCtorEq] at hm
    subst hm
    have h0 : params i = b := by simpa using hp 0 (by simp)
    have ih := readArgs_of_marshalArgs hread params ts vs (k + 1) (i + 1) argv'
      (Nat.succ.inj hl) hr fun j hj => by simpa [Nat.add_right_comm] using hp (j + 1) (by simpa)
    simp only [readArgs, h0, hread t v b ha, ih, Except.map]; rfl
  | [], _ :: _, _, _, _, hl, _, _ => absurd hl (by simp)
  | _ :: _, [], _, _, _, hl, _, _ => absurd hl (by simp)

end

def absCallbackRuntime : CallbackRuntime Unit Int Int Int where
  readArg b _ := .ok b
  apply _ args := .ok ((args.headD 0).natAbs : Int)
  set _ _ v := .ok v

def absNative : Runtime Int Int Int where
  alloc _ v := .ok v
  ffiCall _ _ argv := (absCallback.invoke absCallbackRuntime 0 fun i => argv.getD i 0).1
  callThrows _ _ argv := (absCallback.invoke absCallbackRuntime 0 fun i => argv.getD i 0).2
  asyncError _ _ _ := none
  deref _ r := .ok r
  isFunction _ := true

end NodeFfi
