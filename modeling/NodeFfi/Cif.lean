import NodeFfi.Type

/-! `CIF` of `lib/cif.js`: an `ffi_cif` from the `ffi_type`s of a return type and of the
argument types and from the native `ffi_prep_cif`. Its variadic twin `CIF_var` is required by
`lib/foreign_function_var.js`, but `lib/cif_var.js` is not among the sources. -/
namespace NodeFfi

/-- A prepared `ffi_cif`: the `ffi_type`s it was prepared with, the number of fixed arguments
of a variadic one, and the ABI. -/
structure Cif where
  rtype : FfiType
  argTypes : List FfiType
  nfixedargs : Option Nat
  abi : Nat
  deriving DecidableEq, Repr

def ffiOk : Nat := 0
def ffiBadTypedef : Nat := 1
def ffiBadAbi : Nat := 2

/-- The error `CIF` throws for a status other than `FFI_OK`. -/
def prepCifError (status : Nat) : JsError :=
  if status = ffiBadTypedef then
    { name := "Error", message := "ffi_prep_cif() returned an FFI_BAD_TYPEDEF error",
      code := "FFI_BAD_TYPEDEF" }
  else if status = ffiBadAbi then
    { name := "Error", message := "ffi_prep_cif() returned an FFI_BAD_ABI error",
      code := "FFI_BAD_ABI" }
  else { name := "Error", message := "ffi_prep_cif() returned an error: " ++ toString status }

/-- `Type` of each argument type, in order. -/
def argTypesOf (res : Heap → Option Nat → Js Heap FfiType) :
    Heap → List Nat → Js Heap (List FfiType)
  | h, [] => (h, .ok [])
  | h, t :: ts =>
    Js.bind (res h (some t)) fun h a => Js.bind (argTypesOf res h ts) fun h as => (h, .ok (a :: as))

/-- What the native preparation takes: `ffi_prep_cif(cif, nargs, rtype, atypes, abi)` and
`ffi_prep_cif_var(cif, nfixedargs, ntotalargs, rtype, atypes, abi)` give a status, and
`FFI_DEFAULT_ABI` stands in for an ABI left undefined. -/
structure Prep where
  prepCif : Nat → FfiType → List FfiType → Nat → Nat
  prepCifVar : Nat → Nat → FfiType → List FfiType → Nat → Nat
  defaultAbi : Nat

section
variable (prep : Prep) (res : Heap → Option Nat → Js Heap FfiType)

/-- `CIF(rtype, types, abi)`: `Type(rtype)`, then `Type` of each argument type, then
`ffi_prep_cif`. -/
def cif (h : Heap) (rtype : Nat) (types : List Nat) (abi : Option Nat) : Js Heap Cif :=
  Js.bind (res h (some rtype)) fun h rt =>
    Js.bind (argTypesOf res h types) fun h ats =>
      let status := prep.prepCif types.length rt ats (abi.getD prep.defaultAbi)
      if status = ffiOk then (h, .ok ⟨rt, ats, none, abi.getD prep.defaultAbi⟩)
      else (h, .error (prepCifError status))

/-- Modelled from the spec: `CIF_var(rtype, types, numFixedArgs, abi)` of `lib/cif_var.js`,
which is not in the sources. The spec's variadic variant differs from `CIF` only in passing
the number of fixed arguments to the preparation (`ffi_prep_cif_var`). -/
def cifVar (h : Heap) (rtype : Nat) (types : List Nat) (numFixedArgs : Nat) (abi : Option Nat) :
    Js Heap Cif :=
  Js.bind (res h (some rtype)) fun h rt =>
    Js.bind (argTypesOf res h types) fun h ats =>
      let status := prep.prepCifVar numFixedArgs types.length rt ats (abi.getD prep.defaultAbi)
      if status = ffiOk then (h, .ok ⟨rt, ats, some numFixedArgs, abi.getD prep.defaultAbi⟩)
      else (h, .error (prepCifError status))

section
variable (R : Heap → Heap → Prop) (hrefl : ∀ h, R h h) (htrans : ∀ {a b c}, R a b → R b c → R a c)
  (hres : ∀ h t, R h (res h (some t)).1)
include hrefl htrans hres

theorem argTypesOf_rel : ∀ h ts, R h (argTypesOf res h ts).1
  | h, [] => hrefl h
  | _, _ :: ts => Js.rel_bind R htrans (hres _ _) fun h _ =>
      Js.rel_bind R htrans (argTypesOf_rel h ts) fun h _ => hrefl h

/-- `CIF` changes the heap only by its `Type` calls. -/
theorem cif_rel (h : Heap) (rtype : Nat) (types : List Nat) (abi : Option Nat) :
    R h (cif prep res h rtype types abi).1 :=
  Js.rel_bind R htrans (hres _ _) fun h _ =>
    Js.rel_bind R htrans (argTypesOf_rel res R hrefl htrans hres h types) fun h _ => by
      dsimp only; split <;> exact hrefl h

theorem cifVar_rel (h : Heap) (rtype : Nat) (types : List Nat) (n : Nat) (abi : Option Nat) :
    R h (cifVar prep res h rtype types n abi).1 :=
  Js.rel_bind R htrans (hres _ _) fun h _ =>
    Js.rel_bind R htrans (argTypesOf_rel res R hrefl htrans hres h types) fun h _ => by
      dsimp only; split <;> exact hrefl h

end

theorem argTypesOf_sameShape (hres : ∀ h a, SameShape h (res h a).1) (h : Heap) (ts : List Nat) :
    SameShape h (argTypesOf res h ts).1 :=
  argTypesOf_rel res SameShape SameShape.refl SameShape.trans (fun h _ => hres h _) h ts

theorem cifVar_sameShape (hres : ∀ h a, SameShape h (res h a).1) (h : Heap) (rtype : Nat)
    (types : List Nat) (n : Nat) (abi : Option Nat) :
    SameShape h (cifVar prep res h rtype types n abi).1 :=
  cifVar_rel prep res SameShape SameShape.refl SameShape.trans (fun h _ => hres h _) h rtype types n
    abi

theorem argTypesOf_length : ∀ {h h' : Heap} {ts : List Nat} {fts : List FfiType},
    argTypesOf res h ts = (h', .ok fts) → fts.length = ts.length
  | _, _, [], _, e => by simp only [argTypesOf, Prod.mk.injEq, Except.ok.injEq] at e; simp [← e.2]
  | _, _, _ :: _, _, e => by
    obtain ⟨_, _, -, e⟩ := Js.bind_eq_ok e
    obtain ⟨_, _, ha, e⟩ := Js.bind_eq_ok e
    simp only [Prod.mk.injEq, Except.ok.injEq] at e
    simp [← e.2, argTypesOf_length ha]

theorem argTypesOf_throws (P : JsError → Prop) (hres : ∀ h a h' e, res h a = (h', .error e) → P e) :
    ∀ h ts h' e, argTypesOf res h ts = (h', .error e) → P e
  | _, [], _, _, he => by cases he
  | _, _ :: ts, _, _, he => Js.error_bind P (hres _ _) (fun _ _ _ _ => Js.error_bind P
      (fun _ _ => argTypesOf_throws P hres _ ts _ _) fun _ _ _ _ he => by cases he) he

/-- What `CIF` can throw: what `Type` throws, or the error of a status other than `FFI_OK`. -/
def CifThrows (e : JsError) : Prop := TypeThrows e ∨ ∃ status, e = prepCifError status

theorem cif_throws (hres : ∀ h a h' e, res h a = (h', .error e) → TypeThrows e)
    {h h' : Heap} {rtype : Nat} {types : List Nat} {abi : Option Nat} {e : JsError}
    (he : cif prep res h rtype types abi = (h', .error e)) : CifThrows e := by
  refine Js.error_bind CifThrows (fun _ _ h => .inl (hres _ _ _ _ h)) (fun _ _ _ _ he => ?_) he
  refine Js.error_bind CifThrows (fun _ _ h => .inl (argTypesOf_throws res _ hres _ _ _ _ h))
    (fun _ _ _ _ he => ?_) he
  dsimp only at he
  split at he
  · cases he
  · cases he
    exact .inr ⟨_, rfl⟩

/-- A prepared `ffi_cif` holds `Type` of the return type and of each argument type, in order,
no fixed-argument count, and the ABI given or the default. -/
theorem cif_ok {h h' : Heap} {rtype : Nat} {types : List Nat} {abi : Option Nat} {c : Cif}
    (hc : cif prep res h rtype types abi = (h', .ok c)) :
    ∃ h₁, res h (some rtype) = (h₁, .ok c.rtype) ∧ (argTypesOf res h₁ types).2 = .ok c.argTypes ∧
      c.nfixedargs = none ∧ c.abi = abi.getD prep.defaultAbi := by
  obtain ⟨h₁, rt, hr, hc⟩ := Js.bind_eq_ok hc
  obtain ⟨h₂, ats, ha, hc⟩ := Js.bind_eq_ok hc
  dsimp only at hc
  split at hc
  · simp only [Prod.mk.injEq, Except.ok.injEq] at hc
    obtain ⟨-, rfl⟩ := hc
    exact ⟨h₁, hr, by rw [ha], rfl, rfl⟩
  · simp at hc

theorem cifVar_rtype {h h' : Heap} {rtype : Nat} {types : List Nat} {n : Nat} {abi : Option Nat}
    {c : Cif} (hc : cifVar prep res h rtype types n abi = (h', .ok c)) :
    ∃ h₁, res h (some rtype) = (h₁, .ok c.rtype) := by
  unfold cifVar at hc
  rcases hr : res h (some rtype) with ⟨h₁, _ | rt⟩
  · simp [hr] at hc
  rcases ha : argTypesOf res h₁ types with ⟨h₂, _ | ats⟩
  · simp [hr, ha] at hc
  simp only [hr, ha, Js.bind_ok] at hc
  split at hc
  · simp only [Prod.mk.injEq, Except.ok.injEq] at hc
    exact ⟨h₁, by rw [← hc.2]⟩
  · simp at hc

end

def examplePrep : Prep := ⟨fun _ _ _ _ => ffiOk, fun _ _ _ _ _ => ffiOk, 0⟩

end NodeFfi
