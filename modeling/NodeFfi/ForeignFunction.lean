import NodeFfi.Cif
import Mathlib.Data.List.Zip

/-! `ForeignFunction` of `lib/_foreign_function.js`: `proxy` marshals its arguments, calls the
function through the `ffi_cif` and reads the result back; `proxy.async` runs the call on the
thread pool. Both marshal with one loop but number a failing argument differently. -/
namespace NodeFfi

/-- What the bindings report about the platform: `ref.sizeof.pointer`, `ref.sizeof.long` and
`FFI_ARG_SIZE`. libffi's `ffi_arg` is never narrower than `long`. -/
structure Platform where
  pointerSize : Nat
  longSize : Nat
  ffiArgSize : Nat
  long_pos : 0 < longSize
  long_le_ffiArg : longSize ≤ ffiArgSize

/-- `returnType.size >= ref.sizeof.long ? returnType.size : FFI_ARG_SIZE` -/
def resultSize (p : Platform) (size : Nat) : Nat :=
  if p.longSize ≤ size then size else p.ffiArgSize

/-- `assert(resultSize > 0)` never fails. -/
theorem resultSize_pos (p : Platform) (size : Nat) : 0 < resultSize p size := by
  have := p.long_pos
  have := p.long_le_ffiArg
  unfold resultSize; split <;> omega

/-- `resultSize` is never below the return type's size nor below `sizeof(long)`, and it is
`FFI_ARG_SIZE` for a type narrower than `long`. It is at least `FFI_ARG_SIZE` for every type
narrower than `ffi_arg` exactly on the platforms where `long` is as wide as `ffi_arg`. -/
theorem resultSize_bounds (p : Platform) :
    (∀ size, size ≤ resultSize p size ∧ p.longSize ≤ resultSize p size ∧
      (size < p.longSize → resultSize p size = p.ffiArgSize)) ∧
    ((∀ size, size < p.ffiArgSize → p.ffiArgSize ≤ resultSize p size) ↔
      p.longSize = p.ffiArgSize) := by
  have := p.long_le_ffiArg
  refine ⟨fun size => ?_, ⟨fun h => ?_, fun h size _ => ?_⟩⟩
  · unfold resultSize; split <;> omega
  · by_contra hne
    have hlt := h p.longSize (by omega)
    simp [resultSize] at hlt
    omega
  · unfold resultSize; split <;> omega

/-- 64-bit Windows (LLP64): 8-byte pointers, a 4-byte `long` and an 8-byte `ffi_arg`. -/
def llp64 : Platform := ⟨8, 4, 8, by decide, by decide⟩

def lp64 : Platform := ⟨8, 8, 8, by decide, by decide⟩

structure Proxy where
  cif : Cif
  funcPtr : Nat
  returnType : Nat
  argTypes : List Nat
  resultSize : Nat
  deriving DecidableEq, Repr

/-- `ForeignFunction(cif, funcPtr, returnType, argTypes)`; an absent `size` fails `>=` as 0 does. -/
def foreignFunction (p : Platform) (h : Heap) (cif : Cif) (funcPtr returnType : Nat)
    (argTypes : List Nat) : Proxy :=
  ⟨cif, funcPtr, returnType, argTypes, resultSize p ((h.get Obj.size returnType).getD 0)⟩

/-- On LLP64 an invoker returning `int` gets a 4-byte result buffer, whatever its call interface,
function and argument types, while libffi writes an integral result narrower than `ffi_arg`
through a full 8-byte `ffi_arg`. -/
theorem llp64_int_result_buffer_too_small (cif : Cif) (funcPtr : Nat) (argTypes : List Nat) :
    (foreignFunction llp64 exampleHeap cif funcPtr 1 argTypes).resultSize = 4 ∧
      4 < llp64.ffiArgSize :=
  ⟨rfl, by decide⟩

/-- Modelled from the spec: `ForeignFunction(funcPtr, returnType, argTypes, abi)` of
`lib/foreign_function.js`, which `lib/library.js` calls and which is not in the sources. The
spec builds the invoker from the call interface of its signature; as the variadic twin in
`lib/foreign_function_var.js` does, the types are coerced, `CIF` is prepared for them, and
`_ForeignFunction` is made with the coerced types. -/
def ffiForeignFunction (p : Platform) (prep : Prep) (res : Heap → Option Nat → Js Heap FfiType)
    (h : Heap) (funcPtr returnType : Nat) (argTypes : List Nat) (abi : Option Nat) :
    Js Heap Proxy :=
  Js.bind (h, coerceType h (some returnType)) fun h rt =>
    Js.bind (h, coerceTypes h argTypes) fun h ats =>
      Js.bind (cif prep res h rt ats abi) fun h c => (h, .ok (foreignFunction p h c funcPtr rt ats))

section
variable (p : Platform) (prep : Prep) (res : Heap → Option Nat → Js Heap FfiType)

theorem ffiForeignFunction_ok {h h' : Heap} {funcPtr returnType : Nat} {argTypes : List Nat}
    {abi : Option Nat} {ff : Proxy}
    (e : ffiForeignFunction p prep res h funcPtr returnType argTypes abi = (h', .ok ff)) :
    ∃ c, cif prep res h returnType argTypes abi = (h', .ok c) ∧
      ff = foreignFunction p h' c funcPtr returnType argTypes := by
  obtain ⟨_, _, e₁, k₁⟩ := Js.bind_eq_ok e
  obtain ⟨_, _, e₂, k₂⟩ := Js.bind_eq_ok k₁
  obtain ⟨_, c, hc, k₃⟩ := Js.bind_eq_ok k₂
  obtain ⟨rfl, hrt⟩ := Prod.mk.inj e₁
  obtain ⟨rfl, hat⟩ := Prod.mk.inj e₂
  obtain rfl := coerceType_ok hrt
  obtain rfl := coerceTypes_ok hat
  have hh := (Prod.mk.inj k₃).1
  have hff := Except.ok.inj (Prod.mk.inj k₃).2
  subst hh hff
  exact ⟨c, hc, rfl⟩

theorem ffiForeignFunction_rel (R : Heap → Heap → Prop) (hrefl : ∀ h, R h h)
    (htrans : ∀ {a b c}, R a b → R b c → R a c) (hres : ∀ h t, R h (res h (some t)).1) (h : Heap)
    (funcPtr returnType : Nat) (argTypes : List Nat) (abi : Option Nat) :
    R h (ffiForeignFunction p prep res h funcPtr returnType argTypes abi).1 :=
  Js.rel_bind R htrans (hrefl h) fun h _ => Js.rel_bind R htrans (hrefl h) fun h _ =>
    Js.rel_bind R htrans (cif_rel prep res R hrefl htrans hres h _ _ abi) fun h _ => hrefl h

theorem ffiForeignFunction_throws (hres : ∀ h a h' e, res h a = (h', .error e) → TypeThrows e)
    {h h' : Heap} {funcPtr returnType : Nat} {argTypes : List Nat} {abi : Option Nat} {e : JsError}
    (he : ffiForeignFunction p prep res h funcPtr returnType argTypes abi = (h', .error e)) :
    CifThrows e := by
  refine Js.error_bind CifThrows (fun _ _ h => .inl (coerceType_throws (Prod.mk.inj h).2))
    (fun _ _ _ _ he => ?_) he
  refine Js.error_bind CifThrows (fun _ _ h => .inl (coerceTypes_throws (Prod.mk.inj h).2))
    (fun _ _ _ _ he => ?_) he
  exact Js.error_bind CifThrows (fun _ _ h => cif_throws prep res hres h)
    (fun _ _ _ _ he => by cases he) he

end

/-- What the invoker takes from ref-napi and the bindings: `ref.alloc(type, value)` (the
storage it fills); `ffi_call` through a `ffi_cif`, the result storage it fills and the exception
it rethrows, one a JavaScript callback the native code called returned to it; the error
`ffi_call_async` hands its completion; `result.deref()` for a return type; and
`typeof v === 'function'`. -/
structure Runtime (V B R : Type) where
  alloc : Nat → V → Except JsError B
  ffiCall : Cif → Nat → List B → R
  callThrows : Cif → Nat → List B → Option JsError
  asyncError : Cif → Nat → List B → Option JsError
  deref : Nat → R → Except JsError V
  isFunction : V → Bool

/-- How a call through `proxy` ends: an exception before the native call, or `ffi_call`
reached with the argument storage, then the value read back, or what `ffi_call` rethrew or
reading back threw. -/
inductive CallRun (B V : Type) where
  | throws (e : JsError)
  | calls (argv : List B) (ret : Except JsError V)

inductive CallbackCall (V : Type) where
  | error (e : JsError)
  | value (v : V)
  deriving DecidableEq, Repr

/-- How `proxy.async` ends: a synchronous exception; `callback(e)` scheduled by
`process.nextTick`; or `ffi_call_async` reached, with the callback invocations of its
completion. -/
inductive AsyncRun (B V : Type) where
  | throws (e : JsError)
  | nextTick (e : JsError)
  | callsAsync (argv : List B) (callbacks : List (CallbackCall V))
  deriving DecidableEq, Repr

def arityError (expected got : Nat) : JsError :=
  typeError ("Expected " ++ toString expected ++ " arguments, got " ++ toString got)

def settingArgument (i : Nat) (e : JsError) : JsError :=
  { e with message := "error setting argument " ++ toString i ++ " - " ++ e.message }

section
variable {V B R : Type} (rt : Runtime V B R)

/-- The `try` block of both proxies: `ref.alloc(argTypes[i], arguments[i])` for each `i`, in
order; the first that throws stops the loop, with its index. -/
def marshalArgs : Nat → List (Nat × V) → Except (Nat × JsError) (List B)
  | _, [] => .ok []
  | i, (t, v) :: rest =>
    match rt.alloc t v with
    | .error e => .error (i, e)
    | .ok b => (marshalArgs (i + 1) rest).map (b :: ·)

/-- `proxy(...arguments)` -/
def Proxy.call (ff : Proxy) (arguments : List V) : CallRun B V :=
  if arguments.length ≠ ff.argTypes.length then
    .throws (arityError ff.argTypes.length arguments.length)
  else
    match marshalArgs rt 0 (ff.argTypes.zip arguments) with
    | .error (i, e) => .throws (settingArgument (i + 1) e)
    | .ok argv => .calls argv (match rt.callThrows ff.cif ff.funcPtr argv with
      | some e => .error e
      | none => rt.deref ff.returnType (rt.ffiCall ff.cif ff.funcPtr argv))

/-- The completion of `ffi_call_async`: `callback(err)`, or `callback(null, result.deref())`;
when `deref` throws, the exception leaves the completion and `callback` is not called. -/
def Proxy.completion (ff : Proxy) (argv : List B) : List (CallbackCall V) :=
  match rt.asyncError ff.cif ff.funcPtr argv with
  | some e => [.error e]
  | none =>
    match rt.deref ff.returnType (rt.ffiCall ff.cif ff.funcPtr argv) with
    | .ok v => [.value v]
    | .error _ => []

/-- `proxy.async(...arguments)`, the callback last. -/
def Proxy.async (ff : Proxy) (arguments : List V) : AsyncRun B V :=
  if arguments.length ≠ ff.argTypes.length + 1 then
    .throws (arityError (ff.argTypes.length + 1) arguments.length)
  else if !(arguments.getLast?.any rt.isFunction) then
    .throws (typeError ("Expected a callback function as argument number: " ++
      toString (arguments.length - 1)))
  else
    match marshalArgs rt 0 (ff.argTypes.zip arguments) with
    | .error (i, e) => .nextTick (settingArgument i e)
    | .ok argv => .callsAsync argv (ff.completion rt argv)

theorem marshalArgs_first_error {t : Nat} {v : V} {e : JsError} :
    ∀ (i : Nat) (pre post : List (Nat × V)), (∀ p ∈ pre, ∃ b, rt.alloc p.1 p.2 = .ok b) →
      rt.alloc t v = .error e → marshalArgs rt i (pre ++ (t, v) :: post) = .error (i + pre.length, e)
  | i, [], post, _, he => by simp [marshalArgs, he]
  | i, (t', v') :: pre, post, hpre, he => by
    obtain ⟨b, hb⟩ := hpre (t', v') (List.mem_cons_self _ _)
    have ih := marshalArgs_first_error (i + 1) pre post
      (fun p hp => hpre p (List.mem_cons_of_mem _ hp)) he
    rw [List.cons_append, marshalArgs, hb]
    simp only [ih, Except.map, List.length_cons]
    congr 2; omega

theorem completion_length (ff : Proxy) (argv : List B) :
    (ff.completion rt argv).length ≤ 1 ∧
      ((rt.asyncError ff.cif ff.funcPtr argv).isSome ∨
        (rt.deref ff.returnType (rt.ffiCall ff.cif ff.funcPtr argv)).isOk →
        (ff.completion rt argv).length = 1) := by
  unfold Proxy.completion
  split
  · simp
  · split <;> simp_all [Except.isOk, Except.toBool]

end

theorem settingArgument_ne_arityError (i : Nat) (e : JsError) (n m : Nat) :
    settingArgument i e ≠ arityError n m := by
  intro h
  have := congrArg (fun e : JsError => e.message.data.head?) h
  simp [settingArgument, arityError, typeError] at this

section
variable {V B R : Type} (rt : Runtime V B R)

theorem zip_append_callback (ff : Proxy) {args : List V} (cb : V)
    (hn : args.length = ff.argTypes.length) : ff.argTypes.zip (args ++ [cb]) = ff.argTypes.zip args := by
  simpa using @List.zip_append _ _ ff.argTypes [] args [cb] hn.symm

/-- `proxy.async(...args, cb)` against `proxy(...args)`. It throws at once exactly when `proxy`
throws its arity error or `cb` is not a function. Otherwise it reaches `ffi_call_async` exactly
when `proxy` reaches `ffi_call`, with the same argument storage; when argument `k` is the first
that fails to marshal, neither reaches the native call, and both report the same error, which
`proxy` numbers `k + 1` and `proxy.async` numbers `k`, handing it to `cb` on the next tick;
and `cb` is invoked once when the native call reports an error or its result reads back. -/
theorem async_agrees_with_call (ff : Proxy) (args : List V) (cb : V) :
    ((∃ e, ff.async rt (args ++ [cb]) = .throws e) ↔
      args.length ≠ ff.argTypes.length ∨ rt.isFunction cb = false) ∧
    (ff.call rt args = .throws (arityError ff.argTypes.length args.length) ↔
      args.length ≠ ff.argTypes.length) ∧
    (args.length = ff.argTypes.length → rt.isFunction cb = true →
      (∀ argv, (∃ r, ff.call rt args = .calls argv r) ↔
        ff.async rt (args ++ [cb]) = .callsAsync argv (ff.completion rt argv)) ∧
      (∀ pre t v post e, ff.argTypes.zip args = pre ++ (t, v) :: post →
        (∀ p ∈ pre, ∃ b, rt.alloc p.1 p.2 = .ok b) → rt.alloc t v = .error e →
        ff.call rt args = .throws (settingArgument (pre.length + 1) e) ∧
        ff.async rt (args ++ [cb]) = .nextTick (settingArgument pre.length e)) ∧
      (∀ argv, (rt.asyncError ff.cif ff.funcPtr argv).isSome ∨
        (rt.deref ff.returnType (rt.ffiCall ff.cif ff.funcPtr argv)).isOk →
        (ff.completion rt argv).length = 1)) := by
  refine ⟨?_, ?_, fun hn hcb => ⟨fun argv => ?_, fun pre t v post e hz hpre he => ?_,
    fun argv => (completion_length rt ff argv).2⟩⟩
  · by_cases hn : args.length = ff.argTypes.length
    · cases hc : rt.isFunction cb
      · simp [Proxy.async, hn, hc]
      · simp only [Proxy.async, List.length_append, List.length_singleton, hn, ne_eq,
          not_true_eq_false, if_false, List.getLast?_append, List.getLast?_singleton, hc]
        rcases marshalArgs rt 0 (ff.argTypes.zip (args ++ [cb])) with _ | argv <;> simp [hc]
    · simp [Proxy.async, hn]
  · unfold Proxy.call
    split
    · simp_all
    · split <;> simp_all [settingArgument_ne_arityError]
  · simp only [Proxy.call, Proxy.async, hn, zip_append_callback ff cb hn]
    rcases marshalArgs rt 0 (ff.argTypes.zip args) with _ | argv' <;> simp_all
  · have hm := marshalArgs_first_error rt 0 pre post hpre he
    rw [← hz, Nat.zero_add] at hm
    simp [Proxy.call, Proxy.async, hn, hcb, zip_append_callback ff cb hn, hm]

end

def exampleRuntime : Runtime Nat Nat Nat where
  alloc _ v := if v = 0 then .error (typeError "value is out of bounds") else .ok v
  ffiCall _ _ argv := argv.foldr (· + ·) 0
  callThrows _ _ _ := none
  asyncError _ _ _ := none
  deref _ r := .ok r
  isFunction v := v == 1

def exampleProxy : Proxy := ⟨⟨.native 4, [.native 4], none, 0⟩, 0, 1, [1], 8⟩

theorem abs_async_calls_back_once :
    exampleProxy.async exampleRuntime ([5] ++ [1]) =
      .callsAsync [5] (exampleProxy.completion exampleRuntime [5]) ∧
    (exampleProxy.completion exampleRuntime [5]).length = 1 :=
  have h := (async_agrees_with_call exampleRuntime exampleProxy [5] 1).2.2 rfl rfl
  ⟨(h.1 [5]).1 ⟨_, rfl⟩, h.2.2 [5] (.inr rfl)⟩

theorem abs_failing_argument_numbered_differently :
    exampleProxy.call exampleRuntime [0] =
      .throws (settingArgument 1 (typeError "value is out of bounds")) ∧
    exampleProxy.async exampleRuntime [0, 1] =
      .nextTick (settingArgument 0 (typeError "value is out of bounds")) ∧
    (settingArgument 1 (typeError "value is out of bounds")).message ≠
      (settingArgument 0 (typeError "value is out of bounds")).message :=
  ⟨rfl, rfl, by decide⟩

end NodeFfi
