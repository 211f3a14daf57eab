import NodeFfi.DynamicLibrary
import NodeFfi.VariadicCache

/-! `Library` of `lib/library.js`: open a library, its name completed with the platform's
extension, and define on an object, for each entry of a table, an invoker for the symbol of that
name. A failing entry leaves the ones before it defined; the NULL check never fires, since `get`
throws first; and a call moves the process only by its own steps. -/
namespace NodeFfi

/-- `Library.EXT`: the extension for a `process.platform`, `undefined` on one the table lacks. -/
def libraryExt : String → Option String
  | "linux" | "linux2" | "sunos" | "solaris" | "freebsd" | "openbsd" => some ".so"
  | "darwin" | "mac" => some ".dylib"
  | "win32" => some ".dll"
  | _ => none

def indexOf (s t : String) : Option Nat :=
  (List.range (s.data.length + 1)).find? fun i => t.data.isPrefixOf (s.data.drop i)

def extText (ext : Option String) : String := ext.getD "undefined"

/-- `if (libfile && typeof libfile === 'string' && libfile.indexOf(EXT) === -1) libfile += EXT` -/
def withExt (ext : Option String) (libfile : String) : String :=
  if libfile ≠ "" ∧ indexOf libfile (extText ext) = none then libfile ++ extText ext else libfile

theorem indexOf_eq_none {s t : String} : indexOf s t = none ↔ ¬ t.data <:+: s.data := by
  rw [indexOf, List.find?_eq_none, List.infix_iff_prefix_suffix]
  simp only [List.mem_range, List.isPrefixOf_iff_prefix, not_exists, not_and]
  constructor
  · intro h u hp hs
    exact h _ (by have := Nat.sub_le s.data.length u.length; omega)
      (List.suffix_iff_eq_drop.mp hs ▸ hp)
  · intro h i _ hp
    exact h _ hp (List.drop_suffix i _)

/-- The extension check, on a name and the platform's `Library.EXT`: applied again it adds
nothing; `EXT` occurs in every nonempty name it returns; and on a platform the table lacks, a
nonempty name without the text `undefined` in it gets that text appended. -/
theorem withExt_spec (platform s : String) :
    withExt (libraryExt platform) (withExt (libraryExt platform) s) =
        withExt (libraryExt platform) s ∧
      (s ≠ "" → (extText (libraryExt platform)).data <:+: (withExt (libraryExt platform) s).data) ∧
      (libraryExt platform = none → s ≠ "" → ¬ "undefined".data <:+: s.data →
        withExt (libraryExt platform) s = s ++ "undefined") := by
  set E := extText (libraryExt platform)
  have happ : E.data <:+: (s ++ E).data := by
    rw [String.data_append]
    exact (List.suffix_append _ _).isInfix
  by_cases hc : s ≠ "" ∧ ¬ E.data <:+: s.data
  · have h₁ : withExt (libraryExt platform) s = s ++ E := by
      rw [withExt, if_pos (indexOf_eq_none.mpr hc.2 ▸ ⟨hc.1, rfl⟩)]
    refine ⟨?_, fun _ => h₁ ▸ happ, fun hp _ _ => by rw [h₁]; simp [E, extText, hp]⟩
    rw [h₁, withExt, if_neg fun h => indexOf_eq_none.mp h.2 happ]
  · have h₁ : withExt (libraryExt platform) s = s := by
      rw [withExt, if_neg fun h => hc ⟨h.1, indexOf_eq_none.mp h.2⟩]
    exact ⟨by rw [h₁, h₁], fun hs => by rw [h₁]; exact not_not.mp fun hn => hc ⟨hs, hn⟩,
      fun hp hs hu => absurd ⟨hs, by simpa [E, extText, hp] using hu⟩ hc⟩

theorem android_libm_undefined : withExt (libraryExt "android") "libm" = "libm" ++ "undefined" :=
  (withExt_spec "android" "libm").2.2 rfl (by decide) (by decide)

inductive LibFile where
  | falsy
  | name (s : String)
  | library (dl : DlInstance)
  deriving DecidableEq, Repr

/-- An entry `funcs[func]`, `[resultType, paramTypes, fopts]`: `fopts.abi`, and `fopts.async` and
`fopts.varargs` as truth values (all `undefined`, so falsy, when `fopts` is absent). -/
structure FuncInfo where
  resultType : Nat
  paramTypes : List Nat
  abi : Option Nat
  async : Bool
  varargs : Bool
  deriving DecidableEq, Repr

inductive Binding where
  | generator (i : Nat)
  | proxy (ff : Proxy)
  | async (ff : Proxy)
  deriving DecidableEq, Repr

/-- `obj[key] = v` on an object's own properties, in order: a key already there keeps its
place. -/
def setProp {α : Type} : List (String × α) → String → α → List (String × α)
  | [], k, v => [(k, v)]
  | (k', v') :: ps, k, v => if k' = k then (k, v) :: ps else (k', v') :: setProp ps k v

@[simp] theorem lookup_setProp_self {α : Type} (k : String) (v : α) :
    ∀ ps : List (String × α), (setProp ps k v).lookup k = some v
  | [] => by rw [setProp, List.lookup_cons, beq_self_eq_true]
  | (k', v') :: ps => by
    unfold setProp
    split_ifs with hk
    · rw [List.lookup_cons, beq_self_eq_true]
    · rw [List.lookup_cons, beq_false_of_ne (Ne.symm hk), lookup_setProp_self k v ps]

theorem lookup_setProp_of_ne {α : Type} {k k₁ : String} (v : α) (hne : k₁ ≠ k) :
    ∀ ps : List (String × α), (setProp ps k v).lookup k₁ = ps.lookup k₁
  | [] => by rw [setProp, List.lookup_cons, beq_false_of_ne hne, List.lookup_nil]
  | (k', v') :: ps => by
    unfold setProp
    split_ifs with hk
    · subst hk
      rw [List.lookup_cons, List.lookup_cons, beq_false_of_ne hne]
    · rw [List.lookup_cons, List.lookup_cons, lookup_setProp_of_ne v hne ps]

structure LibState (σ : Type) where
  loader : σ
  world : World
  lib : List (String × Binding)

section
variable {σ : Type} (ld : Loader σ) (env : Env)

def nullFunctionPointerError (path : Option String) (func : String) : JsError :=
  { name := "Error", message := "Library: \"" ++ path.getD "null" ++
      "\" returned NULL function pointer for \"" ++ func ++ "\"" }

/-- One turn of the `forEach`: `dl.get(func)`, the NULL check, and the invoker on `lib[func]`. -/
def defineFunction (dl : DlInstance) (st : LibState σ) (func : String) (info : FuncInfo) :
    Js (LibState σ) Unit :=
  match dl.get ld st.loader func with
  | (s, .error e) => ({ st with loader := s }, .error e)
  | (s, .ok fptr) =>
    if fptr.addr = 0 then ({ st with loader := s }, .error (nullFunctionPointerError dl.path func))
    else if info.varargs then
      match st.world.variadicForeignFunction fptr.addr info.resultType info.paramTypes info.abi with
      | (w, .error e) => ({ st with loader := s, world := w }, .error e)
      | (w, .ok g) => (⟨s, w, setProp st.lib func (.generator g)⟩, .ok ())
    else
      match ffiForeignFunction env.platform env.prep (typeOf env.ffiTypes env.fuel) st.world.heap
          fptr.addr info.resultType info.paramTypes info.abi with
      | (h, .error e) => ({ st with loader := s, world := { st.world with heap := h } }, .error e)
      | (h, .ok ff) =>
        (⟨s, { st.world with heap := h },
          setProp st.lib func (if info.async then .async ff else .proxy ff)⟩, .ok ())

def defineFunctions (dl : DlInstance) : LibState σ → List (String × FuncInfo) → Js (LibState σ) Unit
  | st, [] => (st, .ok ())
  | st, (func, info) :: funcs =>
    Js.bind (defineFunction ld env dl st func info) fun st _ => defineFunctions dl st funcs

/-- The library `Library` works on: the instance it was given, or
`new DynamicLibrary(libfile || null, RTLD_NOW)` after the extension check. -/
def openLibrary (ext : Option String) (fuel : Nat) (s : σ) : LibFile → σ × Except JsError DlInstance
  | .library dl => (s, .ok dl)
  | .falsy => dynamicLibrary ld fuel s none (some ld.rtldNow)
  | .name n =>
    dynamicLibrary ld fuel s (if withExt ext n = "" then none else some (withExt ext n))
      (some ld.rtldNow)

/-- `Library(libfile, funcs, lib)` on the platform whose extension is `ext`, with `fuel` the stack
depth for `DynamicLibrary`. The state after it holds `lib` as the call left it, which a caller
that passed `lib` sees even when the call throws. -/
def library (ext : Option String) (fuel : Nat) (s : σ) (w : World) (libfile : LibFile)
    (funcs : List (String × FuncInfo)) (lib : Option (List (String × Binding))) :
    Js (LibState σ) (List (String × Binding)) :=
  match openLibrary ld ext fuel s libfile with
  | (s, .error e) => (⟨s, w, lib.getD []⟩, .error e)
  | (s, .ok dl) =>
    Js.bind (defineFunctions ld env dl ⟨s, w, lib.getD []⟩ funcs) fun st _ => (st, .ok st.lib)

def SymbolAddr (dl : DlInstance) (s s' : σ) (func : String) (addr : Nat) : Prop :=
  addr ≠ 0 ∧ ld.dlsym s dl.handle func = (s', addr)

/-- An invoker made for an entry, from the state `st` before it to `st'` after it: at an address
`dlsym` gave for the name, `_ForeignFunction` of the declared types and of the `ffi_cif` `CIF`
prepared for them and the entry's ABI on the type objects of `st`, the process changing only by
that. -/
def InvokerFits (dl : DlInstance) (st st' : LibState σ) (func : String) (info : FuncInfo)
    (ff : Proxy) : Prop :=
  SymbolAddr ld dl st.loader st'.loader func ff.funcPtr ∧
    st'.world = { st.world with heap := st'.world.heap } ∧
    ∃ c, cif env.prep (typeOf env.ffiTypes env.fuel) st.world.heap info.resultType info.paramTypes
        info.abi = (st'.world.heap, .ok c) ∧
      ff = foreignFunction env.platform st'.world.heap c ff.funcPtr info.resultType info.paramTypes

/-- What `Library` binds an entry to, from `st` to `st'`: for `varargs` a generator with the
declared return and fixed types made after the existing ones at an address `dlsym` gave for the
name; otherwise an invoker that fits the entry, its `async` for `async`. -/
def Fits (dl : DlInstance) (st st' : LibState σ) (func : String) (info : FuncInfo) :
    Binding → Prop
  | .generator i => info.varargs = true ∧ ∃ g, SymbolAddr ld dl st.loader st'.loader func g.funcPtr ∧
      st'.world.gens = st.world.gens ++ [g] ∧ i = st.world.gens.length ∧
      g.returnType = info.resultType ∧ g.fixedArgTypes = info.paramTypes
  | .proxy ff => info.varargs = false ∧ info.async = false ∧ InvokerFits ld env dl st st' func info ff
  | .async ff => info.varargs = false ∧ info.async = true ∧ InvokerFits ld env dl st st' func info ff

/-- The entries `es` defined in order from `st` to `st'`, each by a binding that fits it, put on
`lib` with `lib[func] = binding`. -/
inductive Defines (dl : DlInstance) : LibState σ → List (String × FuncInfo) → LibState σ → Prop
  | nil (st : LibState σ) : Defines dl st [] st
  | cons {st st₁ st' : LibState σ} {func : String} {info : FuncInfo}
      {es : List (String × FuncInfo)} (b : Binding) : Fits ld env dl st st₁ func info b →
      st₁.lib = setProp st.lib func b → Defines dl st₁ es st' → Defines dl st ((func, info) :: es) st'

theorem Defines.lookup_of_not_mem {dl : DlInstance} {st st' : LibState σ}
    {es : List (String × FuncInfo)} (h : Defines ld env dl st es st') {k : String}
    (hk : k ∉ es.map Prod.fst) : st'.lib.lookup k = st.lib.lookup k := by
  induction h with
  | nil => rfl
  | cons b _ hlib _ ih =>
    simp only [List.map_cons, List.mem_cons, not_or] at hk
    rw [ih hk.2, hlib, lookup_setProp_of_ne _ hk.1]

theorem Defines.lookup {dl : DlInstance} {st st' : LibState σ} {es : List (String × FuncInfo)}
    (h : Defines ld env dl st es st') (hnd : (es.map Prod.fst).Nodup) {func : String}
    {info : FuncInfo} (hmem : (func, info) ∈ es) :
    ∃ b st₁ st₂, st'.lib.lookup func = some b ∧ Fits ld env dl st₁ st₂ func info b := by
  induction h with
  | nil => cases hmem
  | cons b hb hlib hd ih =>
    rw [List.map_cons, List.nodup_cons] at hnd
    rcases List.mem_cons.mp hmem with he | he
    · cases he
      exact ⟨b, _, _, by rw [hd.lookup_of_not_mem ld env hnd.1, hlib, lookup_setProp_self], hb⟩
    · exact ih hnd.2 he

/-- `h'` is reached from `h` by `Type` calls of the process: every world on `h` reaches the same
world on `h'` by steps. -/
def ResolvesTo (h h' : Heap) : Prop :=
  ∀ w : World, w.heap = h → Relation.ReflTransGen (Step env) w { w with heap := h' }

theorem ResolvesTo.refl (h : Heap) : ResolvesTo env h h := fun w hw => by
  subst hw
  exact .refl

theorem ResolvesTo.trans {h₁ h₂ h₃ : Heap} (h₁₂ : ResolvesTo env h₁ h₂)
    (h₂₃ : ResolvesTo env h₂ h₃) : ResolvesTo env h₁ h₃ :=
  fun w hw => (h₁₂ w hw).trans (h₂₃ { w with heap := h₂ } rfl)

theorem resolvesTo_typeOf (h : Heap) (t : Nat) :
    ResolvesTo env h (typeOf env.ffiTypes env.fuel h (some t)).1 := fun w hw => by
  subst hw
  exact .single (Step.resolve w t)

theorem resolvesTo_ffiForeignFunction (h : Heap) (funcPtr returnType : Nat) (argTypes : List Nat)
    (abi : Option Nat) : ResolvesTo env h (ffiForeignFunction env.platform env.prep
      (typeOf env.ffiTypes env.fuel) h funcPtr returnType argTypes abi).1 :=
  ffiForeignFunction_rel _ _ _ (ResolvesTo env) (ResolvesTo.refl env)
    (fun h₁₂ h₂₃ => h₁₂.trans env h₂₃) (resolvesTo_typeOf env) h funcPtr returnType argTypes abi

/-- What an entry of the loop can throw: the error `get` throws for a missing symbol, or what
making the invoker throws. -/
def EntryThrows (e : JsError) : Prop := (∃ text, e = symbolRetrievalError text) ∨ CifThrows e

/-- One entry: either the name is bound to a binding that fits the entry, or `lib` is left as it
was and the exception is one an entry can throw; the process moves by its own steps. -/
theorem defineFunction_cases {dl : DlInstance} {st st' : LibState σ} {func : String}
    {info : FuncInfo} {r : Except JsError Unit}
    (e : defineFunction ld env dl st func info = (st', r)) :
    Relation.ReflTransGen (Step env) st.world st'.world ∧
      ((r = .ok () ∧ ∃ b, Fits ld env dl st st' func info b ∧ st'.lib = setProp st.lib func b) ∨
        ∃ err, r = .error err ∧ st'.lib = st.lib ∧ EntryThrows err) := by
  unfold defineFunction at e
  rcases hg : dl.get ld st.loader func with ⟨s, err | p⟩ <;> rw [hg] at e
  · cases e
    exact ⟨.refl, .inr ⟨err, rfl, rfl, .inl (DlInstance.get_error ld hg)⟩⟩
  obtain ⟨hp0, -, hsym⟩ := DlInstance.get_ok ld hg
  dsimp only at e
  rw [if_neg hp0] at e
  split_ifs at e with hv ha
  -- a variadic generator
  · have hst := @Step.create env st.world p.addr info.resultType info.paramTypes info.abi
    rcases hw : st.world.variadicForeignFunction p.addr info.resultType info.paramTypes info.abi
      with ⟨w, err | i⟩ <;> rw [hw] at e hst <;> cases e
    · obtain ⟨rfl, hthrows⟩ := World.variadicForeignFunction_throws hw
      exact ⟨.single hst, .inr ⟨err, rfl, rfl, .inr (.inl hthrows)⟩⟩
    · obtain ⟨g, hgs, rfl, hfp, hrt, hfx⟩ := World.variadicForeignFunction_ok hw
      exact ⟨.single hst, .inl ⟨rfl, .generator _,
        ⟨hv, g, ⟨hfp ▸ hp0, hfp ▸ hsym⟩, hgs, rfl, hrt, hfx⟩, rfl⟩⟩
  -- an invoker's `async`, or the invoker
  all_goals
    have hv : info.varargs = false := by simpa using hv
    have hst := resolvesTo_ffiForeignFunction env st.world.heap p.addr info.resultType
      info.paramTypes info.abi st.world rfl
    rcases hf : ffiForeignFunction env.platform env.prep (typeOf env.ffiTypes env.fuel)
        st.world.heap p.addr info.resultType info.paramTypes info.abi with ⟨h, err | ff⟩ <;>
      rw [hf] at e hst <;> cases e
    · exact ⟨hst, .inr ⟨err, rfl, rfl,
        .inr (ffiForeignFunction_throws _ _ _ (typeOf_throws env.ffiTypes env.fuel) hf)⟩⟩
    · obtain ⟨c, hc, rfl⟩ := ffiForeignFunction_ok _ _ _ hf
      refine ⟨hst, .inl ⟨rfl, _, ?_, rfl⟩⟩
      exact ⟨hv, by simpa using ha, ⟨hp0, hsym⟩, rfl, c, hc, rfl⟩

theorem defineFunctions_run (dl : DlInstance) :
    ∀ (funcs : List (String × FuncInfo)) (st st' : LibState σ) (r : Except JsError Unit),
      defineFunctions ld env dl st funcs = (st', r) →
      Relation.ReflTransGen (Step env) st.world st'.world ∧
        ∃ k st₁, Defines ld env dl st (funcs.take k) st₁ ∧
          (r = .ok () → k = funcs.length ∧ st₁ = st') ∧
          ∀ err, r = .error err → k < funcs.length ∧ st'.lib = st₁.lib ∧ EntryThrows err
  | [], st, st', r, e => by
    cases e
    exact ⟨.refl, 0, st, .nil _, fun _ => ⟨rfl, rfl⟩, fun _ h => nomatch h⟩
  | (func, info) :: funcs, st, st', r, e => by
    rw [defineFunctions] at e
    rcases h₁ : defineFunction ld env dl st func info with ⟨st₁, r₁⟩
    obtain ⟨hs₁, ⟨rfl, b, hb, hlib⟩ | ⟨err, rfl, hlib, hthrows⟩⟩ :=
      defineFunction_cases ld env h₁
    · rw [h₁, Js.bind_ok] at e
      obtain ⟨hs₂, k, st₂, hdef, hok, herr⟩ := defineFunctions_run dl funcs st₁ st' r e
      exact ⟨hs₁.trans hs₂, k + 1, st₂, .cons b hb hlib hdef,
        fun h => ⟨by simp [(hok h).1], (hok h).2⟩,
        fun err h => ⟨by simp [(herr err h).1], (herr err h).2⟩⟩
    · rw [h₁, Js.bind_error] at e
      cases e
      exact ⟨hs₁, 0, st, .nil _, (fun h => nomatch h),
        fun _ h => by cases h; exact ⟨by simp, hlib, hthrows⟩⟩

theorem EntryThrows.ne_nullFunctionPointerError {e : JsError} (h : EntryThrows e)
    (path : Option String) (func : String) : e ≠ nullFunctionPointerError path func := by
  rintro rfl
  rcases h with ⟨text, h⟩ | (h | ⟨status, h⟩)
  · have := congrArg (fun e : JsError => e.message.data.head?) h
    simp [nullFunctionPointerError, symbolRetrievalError] at this
  · rcases h with h | h | h <;> simp [nullFunctionPointerError] at h
  · have := congrArg (fun e : JsError => e.message.data.head?) h
    unfold prepCifError at this
    split_ifs at this <;> simp [nullFunctionPointerError] at this


theorem library_cases {ext : Option String} {fuel : Nat} {s : σ} {w : World} {libfile : LibFile}
    {funcs : List (String × FuncInfo)} {lib : Option (List (String × Binding))}
    {st' : LibState σ} {r : Except JsError (List (String × Binding))}
    (e : library ld env ext fuel s w libfile funcs lib = (st', r)) :
    (∃ s₁ err, openLibrary ld ext fuel s libfile = (s₁, .error err) ∧
      st' = ⟨s₁, w, lib.getD []⟩ ∧ r = .error err) ∨
    ∃ s₁ dl r₁, openLibrary ld ext fuel s libfile = (s₁, .ok dl) ∧
      defineFunctions ld env dl ⟨s₁, w, lib.getD []⟩ funcs = (st', r₁) ∧
      r = r₁.map fun _ => st'.lib := by
  unfold library at e
  rcases ho : openLibrary ld ext fuel s libfile with ⟨s₁, err | dl⟩ <;> rw [ho] at e <;>
    dsimp only at e
  · cases e
    exact .inl ⟨s₁, err, rfl, rfl, rfl⟩
  · rcases hd : defineFunctions ld env dl ⟨s₁, w, lib.getD []⟩ funcs with ⟨st₁, _ | _⟩ <;>
      rw [hd] at e <;> cases e <;> exact .inr ⟨s₁, dl, _, rfl, hd, rfl⟩

/-- A `Library` call, returning or throwing, moves the process only by its own steps: the
invokers it makes resolve their types by `Type` calls, and each variadic entry makes a
generator. So what holds along runs holds across it: ids and cached invokers stay, the variadic
caches stay sound while at most sixteen types are tagged, and every cached invoker keeps an
`ffi_cif` prepared for its generator's original return type on type objects the process passed
through. -/
theorem library_steps {ext : Option String} {fuel : Nat} {s : σ} {w : World} {libfile : LibFile}
    {funcs : List (String × FuncInfo)} {lib : Option (List (String × Binding))}
    {st' : LibState σ} {r : Except JsError (List (String × Binding))}
    (e : library ld env ext fuel s w libfile funcs lib = (st', r)) :
    Relation.ReflTransGen (Step env) w st'.world ∧ World.Grows w st'.world ∧
      (w.Sound → st'.world.counter ≤ 16 → st'.world.Sound) ∧
      (∀ h₀, Reaches env h₀ w.heap → w.CifsFromCreation env h₀ →
        st'.world.CifsFromCreation env h₀) := by
  have hrun : Relation.ReflTransGen (Step env) w st'.world := by
    rcases library_cases ld env e with ⟨-, -, -, rfl, -⟩ | ⟨_, dl, _, -, hd, -⟩
    exacts [.refl, (defineFunctions_run ld env dl funcs _ _ _ hd).1]
  exact ⟨hrun, World.Grows.of_run hrun, World.Sound.of_run hrun,
    fun _ hr => World.CifsFromCreation.of_run hrun hr⟩

end

def ceilInfo : FuncInfo := ⟨2, [2], none, false, false⟩

/-- The tests' `Library('libm', { ceil: [ 'double', [ 'double' ] ] })` on Linux, over the example
loader and types: `libm.so` is a linker script naming `/lib/libm.so.6`. -/
def libmCall : Js (LibState (Option String)) (List (String × Binding)) :=
  library exampleLoader exampleEnv (libraryExt "linux") 3 none (World.init exampleHeap)
    (.name "libm") [("ceil", ceilInfo)] none

theorem libm_call_sound :
    Relation.ReflTransGen (Step exampleEnv) (World.init exampleHeap) libmCall.1.world ∧
      libmCall.1.world.Sound :=
  have h := @library_steps (Option String) exampleLoader exampleEnv (libraryExt "linux") 3 none
    (World.init exampleHeap) (.name "libm") [("ceil", ceilInfo)] none libmCall.1 libmCall.2 rfl
  ⟨h.1, h.2.2.1 (World.init_sound exampleHeap_untagged) (by decide)⟩

example : (library exampleLoader exampleEnv (libraryExt "linux") 3 none (World.init exampleHeap)
      (.name "libm") [("ceil", ceilInfo), ("nosuch", ceilInfo)] (some [])).1.lib =
      [("ceil", .proxy ⟨⟨.native 9, [.native 9], none, 0⟩, 16, 2, [2], 8⟩)] ∧
    (library exampleLoader exampleEnv (libraryExt "linux") 3 none (World.init exampleHeap)
      (.name "libm") [("ceil", ceilInfo), ("nosuch", ceilInfo)] (some [])).2 =
      .error (symbolRetrievalError (some "undefined symbol: nosuch")) := ⟨rfl, rfl⟩

end NodeFfi
