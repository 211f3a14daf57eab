import NodeFfi.ForeignFunction
import NodeFfi.TypeId
import Mathlib.Logic.Relation

/-! `VariadicForeignFunction` of `lib/foreign_function_var.js`: a generator that returns, for
trailing argument types, a `ForeignFunction` cached under a key made of the types' ids. The
process is a `World` of type objects, `getId`'s `counter` and the generators; a run is any
sequence of generator creations and calls, `returnType` assignments and `Type` calls. -/
namespace NodeFfi

/-- What the variadic code takes from the bindings: `bindings.FFI_TYPES`, whether an
`ffi_type` carries a truthy `name` (`lib/ffi.js`, not in the sources, names the static ones),
the native preparation, the platform, and the stack depth `Type` runs with. -/
structure Env where
  ffiTypes : String → Option FfiType
  named : FfiType → Bool
  prep : Prep
  platform : Platform
  fuel : Nat

/-- A `ForeignFunction` a generator returned; `serial` numbers the function objects in the
order they were made, so two are the same object exactly when they are equal. -/
structure Invoker where
  serial : Nat
  proxy : Proxy
  deriving DecidableEq, Repr

/-- A `variadic_function_generator` closure: what it closed over, its `cache` (newest entry
first), and its `returnType` property. -/
structure Generator where
  funcPtr : Nat
  returnType : Nat
  fixedArgTypes : List Nat
  numFixedArgs : Nat
  fixedKey : List String
  abi : Option Nat
  cache : List (String × Invoker)
  returnTypeProp : Nat
  deriving DecidableEq, Repr

/-- The process: the type objects, `getId`'s `counter`, the number of `ForeignFunction`s the
generators made, and the generators. -/
structure World where
  heap : Heap
  counter : Nat
  serial : Nat
  gens : List Generator

def falsyAssertion (expr : String) : JsError :=
  assertionError ("The expression evaluated to a falsy value:\n\n  " ++ expr ++ "\n")

namespace World

def init (h : Heap) : World := ⟨h, 0, 0, []⟩

def idOf (w : World) (t : Nat) : Option String := (w.heap.objs t).ffiId

def onHeap {α : Type} (w : World) (r : Js Heap α) : Js World α := ({ w with heap := r.1 }, r.2)

/-- `getId(type)`: the own `_ffiId`, set from `counter++` on first use. -/
def getId (w : World) (t : Nat) : World × String :=
  match w.idOf t with
  | some id => (w, id)
  | none =>
    ({ w with heap := w.heap.setFfiId t (idString w.counter), counter := w.counter + 1 },
      idString w.counter)

def getIds : World → List Nat → World × List String
  | w, [] => (w, [])
  | w, t :: ts => Prod.map id ((w.getId t).2 :: ·) ((w.getId t).1.getIds ts)

/-- A miss's write: `func = cache[key] = _ForeignFunction(...)` in the generator `i`. -/
def cacheInvoker (w : World) (i : Nat) (g : Generator) (key : String) (f : Invoker) : World :=
  { w with serial := w.serial + 1, gens := w.gens.set i { g with cache := (key, f) :: g.cache } }

section
variable (env : Env)

/-- The generator's loop over the trailing types: `ref.coerceType`, `Type`,
`assert(ffi_type.name)`, and `getId`. -/
def trailingIds : World → List Nat → Js World (List String)
  | w, [] => (w, .ok [])
  | w, t :: ts =>
    Js.bind (w, coerceType w.heap (some t)) fun w t =>
      Js.bind (w.onHeap (typeOf env.ffiTypes env.fuel w.heap (some t))) fun w ft =>
        if env.named ft then
          Js.bind (trailingIds (w.getId t).1 ts) fun w' ids => (w', .ok ((w.getId t).2 :: ids))
        else (w, .error (falsyAssertion "assert(ffi_type.name)"))

/-- The cache step of a call of the generator `i`: the invoker cached under `key`, or, on a
miss, `CIF_var` with the `returnType` the generator was made with and a new `ForeignFunction`
with the coerced `returnType` property `rtnType`. -/
def lookupOrCreate (w : World) (i : Nat) (g : Generator) (ts : List Nat) (rtnType : Nat)
    (key : String) : Js World Invoker :=
  match g.cache.lookup key with
  | some f => (w, .ok f)
  | none =>
    Js.bind (w.onHeap (cifVar env.prep (typeOf env.ffiTypes env.fuel) w.heap g.returnType
        (g.fixedArgTypes ++ ts) g.numFixedArgs g.abi)) fun w cif =>
      let f : Invoker := ⟨w.serial, foreignFunction env.platform w.heap cif g.funcPtr rtnType
        (g.fixedArgTypes ++ ts)⟩
      (w.cacheInvoker i g key f, .ok f)

/-- `g(...ts)`, `g` the generator `i`: the key is the return type's id followed by the ids of
the fixed and trailing types, joined with no separator. An index past the generators names no
function. -/
def callGenerator (w : World) (i : Nat) (ts : List Nat) : Js World Invoker :=
  match w.gens[i]? with
  | none => (w, .error (typeError "g is not a function"))
  | some g =>
    Js.bind (w.trailingIds env ts) fun w ids =>
      Js.bind (w, coerceType w.heap (some g.returnTypeProp)) fun w rtnType =>
        if (w.getId rtnType).2 = "" then
          ((w.getId rtnType).1, .error (falsyAssertion "assert(rtnName)"))
        else (w.getId rtnType).1.lookupOrCreate env i g ts rtnType
          ((w.getId rtnType).2 ++ String.join (g.fixedKey ++ ids))

end

/-- `VariadicForeignFunction(funcPtr, returnType, fixedArgTypes, abi)`: coerce the fixed types,
tag them in order, and add a generator with an empty cache; its index is the result. -/
def variadicForeignFunction (w : World) (funcPtr returnType : Nat) (fixedArgTypes : List Nat)
    (abi : Option Nat) : Js World Nat :=
  Js.bind (w, coerceTypes w.heap fixedArgTypes) fun w fixed =>
    ({ (w.getIds fixed).1 with
        gens := (w.getIds fixed).1.gens ++ [⟨funcPtr, returnType, fixed, fixedArgTypes.length,
          (w.getIds fixed).2, abi, [], returnType⟩] }, .ok (w.getIds fixed).1.gens.length)

def setReturnType (w : World) (i r : Nat) : World :=
  match w.gens[i]? with
  | some g => { w with gens := w.gens.set i { g with returnTypeProp := r } }
  | none => w

end World

/-- One step of the process: a generator made or called, a `returnType` assigned, or `Type`
called by other code; a step that throws keeps what it wrote. -/
inductive Step (env : Env) : World → World → Prop where
  | create (w : World) (funcPtr returnType : Nat) (fixedArgTypes : List Nat) (abi : Option Nat) :
      Step env w (w.variadicForeignFunction funcPtr returnType fixedArgTypes abi).1
  | call (w : World) (i : Nat) (ts : List Nat) : Step env w (w.callGenerator env i ts).1
  | setReturnType (w : World) (i r : Nat) : Step env w (w.setReturnType i r)
  | resolve (w : World) (t : Nat) :
      Step env w { w with heap := (typeOf env.ffiTypes env.fuel w.heap (some t)).1 }

/-- One write of the process to the type objects: a `Type` call, with the `ffi_type` caches it
writes, or an `_ffiId` tag. -/
inductive HeapStep (env : Env) : Heap → Heap → Prop where
  | resolve (h : Heap) (t : Nat) : HeapStep env h (typeOf env.ffiTypes env.fuel h (some t)).1
  | tag (h : Heap) (t : Nat) (s : String) : HeapStep env h (h.setFfiId t s)

/-- The type objects the process can leave from `h` by its writes. -/
def Reaches (env : Env) : Heap → Heap → Prop := Relation.ReflTransGen (HeapStep env)

namespace Reaches
variable {env : Env}

theorem refl (h : Heap) : Reaches env h h := Relation.ReflTransGen.refl

theorem trans {h₁ h₂ h₃ : Heap} : Reaches env h₁ h₂ → Reaches env h₂ h₃ → Reaches env h₁ h₃ :=
  Relation.ReflTransGen.trans

theorem resolve (h : Heap) (t : Nat) :
    Reaches env h (typeOf env.ffiTypes env.fuel h (some t)).1 :=
  .single (.resolve h t)

theorem tag (h : Heap) (t : Nat) (s : String) : Reaches env h (h.setFfiId t s) :=
  .single (.tag h t s)

theorem coerceType {h h' : Heap} (hr : Reaches env h h') (a : Option Nat) :
    NodeFfi.coerceType h' a = NodeFfi.coerceType h a := by
  induction hr with
  | refl => rfl
  | tail _ hst ih =>
    rw [← ih]
    cases hst with
    | resolve t => exact (typeOf_sameShape _ _ _ _).coerceType a
    | tag t s => exact coerceType_setFfiId _ t s a

/-- Sequenced code of the process writes the type objects as the process does when each part
does, whether it returns or throws. -/
theorem bind {α β : Type} {w₀ : World} {r : Js World α} {k : World → α → Js World β}
    (hr : Reaches env w₀.heap r.1.heap) (hk : ∀ w a, Reaches env w.heap (k w a).1.heap) :
    Reaches env w₀.heap (Js.bind r k).1.heap :=
  Js.rel_bind (fun w w' : World => Reaches env w.heap w'.heap) trans hr hk

end Reaches

namespace World

/-! ### Ids and keys -/

@[simp] theorem idOf_setFfiId (w : World) (t : Nat) (s : String) (c t' : Nat) :
    ({ w with heap := w.heap.setFfiId t s, counter := c } : World).idOf t' =
      if t' = t then some s else w.idOf t' := by
  simp only [idOf, Heap.setFfiId_objs, Function.update_apply]
  split <;> simp_all

theorem idOf_sameShape (w : World) {h' : Heap} (hs : SameShape w.heap h') :
    ({ w with heap := h' } : World).idOf = w.idOf :=
  funext hs.ffiId

theorem getId_idOf (w : World) (t : Nat) : (w.getId t).1.idOf t = some (w.getId t).2 := by
  unfold getId
  split <;> simp_all

theorem map_idOf_mono {w w' : World} (hid : ∀ t s, w.idOf t = some s → w'.idOf t = some s)
    {ts : List Nat} {ids : List String} (e : ts.map w.idOf = ids.map some) :
    ts.map w'.idOf = ids.map some := by
  rw [← e]
  refine List.map_congr_left fun t ht => ?_
  obtain ⟨s, -, hs⟩ := List.mem_map.mp (e ▸ List.mem_map_of_mem w.idOf ht)
  rw [hid t s hs.symm, hs]

/-- `key` is the cache key of a call with return type `rtn` and trailing types `ts`, for a
generator whose fixed types have the ids `fixedKey`, under the ids of `w`. -/
def KeyOf (w : World) (fixedKey : List String) (rtn : Nat) (ts : List Nat) (key : String) : Prop :=
  ∃ r ids, w.idOf rtn = some r ∧ ts.map w.idOf = ids.map some ∧
    key = r ++ String.join (fixedKey ++ ids)

theorem KeyOf.mono {w w' : World} (hid : ∀ t s, w.idOf t = some s → w'.idOf t = some s)
    {fk : List String} {rtn : Nat} {ts : List Nat} {key : String} :
    w.KeyOf fk rtn ts key → w'.KeyOf fk rtn ts key
  | ⟨r, ids, hr, hts, hk⟩ => ⟨r, ids, hid _ _ hr, map_idOf_mono hid hts, hk⟩

theorem KeyOf.unique {w : World} {fk : List String} {rtn : Nat} {ts : List Nat} {k₁ k₂ : String} :
    w.KeyOf fk rtn ts k₁ → w.KeyOf fk rtn ts k₂ → k₁ = k₂ := by
  rintro ⟨r, ids, hr, hts, rfl⟩ ⟨r', ids', hr', hts', rfl⟩
  obtain rfl : r = r' := Option.some_injective _ (hr.symm.trans hr')
  obtain rfl : ids = ids' :=
    List.map_injective_iff.mpr (Option.some_injective _) (hts.symm.trans hts')
  rfl

/-! ### Soundness of the cache while ids are distinct -/

/-- The state in which the cache is sound: every id is one of the first `counter`, no two
objects share one, each generator's `fixedKey` is its fixed types' ids, and each cached invoker
was made for the signature its key names. -/
structure Sound (w : World) : Prop where
  ids_below : ∀ t s, w.idOf t = some s → ∃ c < w.counter, s = idString c
  ids_inj : ∀ t t' s, w.idOf t = some s → w.idOf t' = some s → t = t'
  fixed_tagged : ∀ g ∈ w.gens, g.fixedArgTypes.map w.idOf = g.fixedKey.map some
  cache_sound : ∀ g ∈ w.gens, ∀ e ∈ g.cache, ∃ rtn ts, e.2.proxy.returnType = rtn ∧
    e.2.proxy.argTypes = g.fixedArgTypes ++ ts ∧ w.KeyOf g.fixedKey rtn ts e.1

theorem Sound.mono {w w' : World} (hs : w.Sound) (hg : w'.gens = w.gens)
    (hid : ∀ t s, w.idOf t = some s → w'.idOf t = some s)
    (below : ∀ t s, w'.idOf t = some s → ∃ c < w'.counter, s = idString c)
    (inj : ∀ t t' s, w'.idOf t = some s → w'.idOf t' = some s → t = t') : w'.Sound where
  ids_below := below
  ids_inj := inj
  fixed_tagged g hg' := map_idOf_mono hid (hs.fixed_tagged g (hg ▸ hg'))
  cache_sound g hg' e he := by
    obtain ⟨rtn, ts, h₁, h₂, h₃⟩ := hs.cache_sound g (hg ▸ hg') e he
    exact ⟨rtn, ts, h₁, h₂, h₃.mono hid⟩

theorem Sound.set {w : World} (hs : w.Sound) {i : Nat} {g g' : Generator}
    (hg : w.gens[i]? = some g) {w' : World} (hi : w'.idOf = w.idOf) (hn : w'.counter = w.counter)
    (hgs : w'.gens = w.gens.set i g') (hfa : g'.fixedArgTypes = g.fixedArgTypes)
    (hfk : g'.fixedKey = g.fixedKey)
    (hc : ∀ e ∈ g'.cache, e ∈ g.cache ∨ ∃ rtn ts, e.2.proxy.returnType = rtn ∧
      e.2.proxy.argTypes = g.fixedArgTypes ++ ts ∧ w.KeyOf g.fixedKey rtn ts e.1) :
    w'.Sound := by
  have hmem := List.getElem?_mem hg
  have hid : ∀ t s, w.idOf t = some s → w'.idOf t = some s := fun t s h => hi ▸ h
  have old : ∀ g₁ ∈ w.gens, ∀ e ∈ g₁.cache, ∃ rtn ts, e.2.proxy.returnType = rtn ∧
      e.2.proxy.argTypes = g₁.fixedArgTypes ++ ts ∧ w'.KeyOf g₁.fixedKey rtn ts e.1 :=
    fun g₁ h₁ e he => (hs.cache_sound g₁ h₁ e he).imp fun _ => Exists.imp fun _ ⟨h₁, h₂, h₃⟩ =>
      ⟨h₁, h₂, h₃.mono hid⟩
  refine ⟨hi ▸ hn ▸ hs.ids_below, hi ▸ hs.ids_inj, fun g₁ h₁ => ?_, fun g₁ h₁ e he => ?_⟩
  all_goals rw [hgs] at h₁; rcases List.mem_or_eq_of_mem_set h₁ with h₁ | rfl
  · exact hi ▸ hs.fixed_tagged g₁ h₁
  · rw [hi, hfa, hfk]; exact hs.fixed_tagged g hmem
  · exact old g₁ h₁ e he
  · rw [hfa, hfk]
    rcases hc e he with he | ⟨rtn, ts, h₁, h₂, h₃⟩
    exacts [old g hmem e he, ⟨rtn, ts, h₁, h₂, h₃.mono hid⟩]

/-- What a call does before it writes the cache: ids are only added, `counter` only grows,
the generators and the count of invokers stay, and while at most sixteen types are tagged the
cache stays sound. -/
structure Extends (w w' : World) : Prop where
  gens : w'.gens = w.gens
  serial : w'.serial = w.serial
  counter_le : w.counter ≤ w'.counter
  ids : ∀ t s, w.idOf t = some s → w'.idOf t = some s
  sound : w.Sound → w'.counter ≤ 16 → w'.Sound

theorem Extends.refl (w : World) : Extends w w :=
  ⟨rfl, rfl, le_rfl, fun _ _ => id, fun hs _ => hs⟩

theorem Extends.trans {w₁ w₂ w₃ : World} (h₁ : Extends w₁ w₂) (h₂ : Extends w₂ w₃) :
    Extends w₁ w₃ :=
  ⟨h₂.gens.trans h₁.gens, h₂.serial.trans h₁.serial, h₁.counter_le.trans h₂.counter_le,
    fun t s h => h₂.ids t s (h₁.ids t s h),
    fun hs hc => h₂.sound (h₁.sound hs (h₂.counter_le.trans hc)) hc⟩

theorem Extends.onHeap (w : World) {h' : Heap} (hs : SameShape w.heap h') :
    Extends w { w with heap := h' } := by
  have hi := idOf_sameShape w hs
  have hid : ∀ t s, w.idOf t = some s → ({ w with heap := h' } : World).idOf t = some s :=
    fun _ _ h => hi ▸ h
  exact ⟨rfl, rfl, le_rfl, hid, fun hw _ => hw.mono rfl hid (fun t s h => hw.ids_below t s (hi ▸ h))
    (fun t t' s h h' => hw.ids_inj t t' s (hi ▸ h) (hi ▸ h'))⟩

theorem Extends.getId (w : World) (t : Nat) : Extends w (w.getId t).1 := by
  unfold World.getId
  split
  · exact Extends.refl w
  · rename_i hnone
    have hid : ∀ t' s, w.idOf t' = some s →
        ({ w with heap := w.heap.setFfiId t (idString w.counter), counter := w.counter + 1 } :
          World).idOf t' = some s := by
      intro t' s h
      rw [idOf_setFfiId, if_neg (by rintro rfl; simp_all)]
      exact h
    refine ⟨rfl, rfl, Nat.le_succ _, hid, fun hw hc => hw.mono rfl hid ?_ ?_⟩
    · intro t' s h
      rw [idOf_setFfiId] at h
      split at h
      · exact ⟨w.counter, Nat.lt_succ_self _, (Option.some.inj h).symm⟩
      · obtain ⟨c, hc, rfl⟩ := hw.ids_below t' s h
        exact ⟨c, Nat.lt_succ_of_lt hc, rfl⟩
    · have hlt : w.counter < 16 := hc
      have fresh : ∀ t', w.idOf t' ≠ some (idString w.counter) := fun t' h => by
        obtain ⟨c, hlt, e⟩ := hw.ids_below t' _ h
        have := idString_inj_of_lt (by omega) (by omega) e
        omega
      intro t₁ t₂ s h₁ h₂
      rw [idOf_setFfiId] at h₁ h₂
      split at h₁ <;> split at h₂
      · simp_all
      · cases h₁; exact absurd h₂ (fresh t₂)
      · cases h₂; exact absurd h₁ (fresh t₁)
      · exact hw.ids_inj t₁ t₂ s h₁ h₂

theorem Extends.getIds : ∀ (w : World) (ts : List Nat), Extends w (w.getIds ts).1
  | w, [] => Extends.refl w
  | w, t :: ts => (Extends.getId w t).trans (Extends.getIds _ ts)

theorem getId_reaches {env : Env} (w : World) (t : Nat) : Reaches env w.heap (w.getId t).1.heap := by
  unfold getId
  split
  exacts [.refl _, .tag _ _ _]

theorem getIds_reaches {env : Env} : ∀ (w : World) (ts : List Nat),
    Reaches env w.heap (w.getIds ts).1.heap
  | _, [] => .refl _
  | w, t :: ts => (getId_reaches w t).trans (getIds_reaches _ ts)

theorem getIds_ids : ∀ (w : World) (ts : List Nat),
    ts.map (w.getIds ts).1.idOf = (w.getIds ts).2.map some
  | w, [] => rfl
  | w, t :: ts => by
    simp only [getIds, Prod.map, id, List.map_cons, getIds_ids _ ts, List.cons.injEq, and_true]
    exact (Extends.getIds _ ts).ids t _ (getId_idOf w t)

/-- Making a generator: coercing the fixed types throws and nothing changes, or the types are
tagged in order and a generator over them, with an empty cache, comes after the existing ones. -/
theorem variadicForeignFunction_cases (w : World) (funcPtr returnType : Nat)
    (fixedArgTypes : List Nat) (abi : Option Nat) :
    (∃ e, coerceTypes w.heap fixedArgTypes = .error e ∧
      w.variadicForeignFunction funcPtr returnType fixedArgTypes abi = (w, .error e)) ∨
    ∃ g, w.variadicForeignFunction funcPtr returnType fixedArgTypes abi =
        ({ (w.getIds fixedArgTypes).1 with gens := w.gens ++ [g] }, .ok w.gens.length) ∧
      g.funcPtr = funcPtr ∧ g.returnType = returnType ∧ g.fixedArgTypes = fixedArgTypes ∧
      g.fixedKey = (w.getIds fixedArgTypes).2 ∧ g.cache = [] := by
  unfold variadicForeignFunction
  rcases hc : coerceTypes w.heap fixedArgTypes with e | fixed
  · exact .inl ⟨e, rfl, rfl⟩
  · obtain rfl := coerceTypes_ok hc
    have hg := (Extends.getIds w fixed).gens
    exact .inr ⟨⟨funcPtr, returnType, fixed, fixed.length, (w.getIds fixed).2, abi, [], returnType⟩,
      by rw [Js.bind_ok, hg], rfl, rfl, rfl, rfl, rfl⟩

theorem variadicForeignFunction_ok {w w' : World} {funcPtr returnType : Nat}
    {fixedArgTypes : List Nat} {abi : Option Nat} {i : Nat}
    (e : w.variadicForeignFunction funcPtr returnType fixedArgTypes abi = (w', .ok i)) :
    ∃ g, w'.gens = w.gens ++ [g] ∧ i = w.gens.length ∧ g.funcPtr = funcPtr ∧
      g.returnType = returnType ∧ g.fixedArgTypes = fixedArgTypes := by
  rcases variadicForeignFunction_cases w funcPtr returnType fixedArgTypes abi with
    ⟨_, -, h⟩ | ⟨g, h, hfp, hrt, hfx, -⟩ <;> rw [h] at e <;> cases e
  exact ⟨g, rfl, rfl, hfp, hrt, hfx⟩

theorem variadicForeignFunction_throws {w w' : World} {funcPtr returnType : Nat}
    {fixedArgTypes : List Nat} {abi : Option Nat} {e : JsError}
    (he : w.variadicForeignFunction funcPtr returnType fixedArgTypes abi = (w', .error e)) :
    w' = w ∧ TypeThrows e := by
  rcases variadicForeignFunction_cases w funcPtr returnType fixedArgTypes abi with
    ⟨_, hc, h⟩ | ⟨_, h, -⟩ <;> rw [h] at he <;> cases he
  exact ⟨rfl, coerceTypes_throws hc⟩

section
variable (env : Env)

theorem trailingIds_extends : ∀ (w : World) (ts : List Nat), Extends w (w.trailingIds env ts).1
  | w, [] => Extends.refl w
  | w, t :: ts => by
    unfold trailingIds
    refine Js.rel_bind Extends Extends.trans (Extends.refl w) fun w t => ?_
    refine Js.rel_bind Extends Extends.trans (Extends.onHeap w (typeOf_sameShape _ _ _ _))
      fun w ft => ?_
    split
    · exact Js.rel_bind Extends Extends.trans
        ((Extends.getId w t).trans (trailingIds_extends _ ts)) fun _ _ => Extends.refl _
    · exact Extends.refl _

theorem trailingIds_reaches : ∀ (w : World) (ts : List Nat),
    Reaches env w.heap (w.trailingIds env ts).1.heap
  | w, [] => .refl _
  | w, t :: ts => by
    unfold trailingIds
    refine Reaches.bind (.refl _) fun w t => Reaches.bind (.resolve _ _) fun w ft => ?_
    split
    · exact Reaches.bind ((getId_reaches w t).trans (trailingIds_reaches _ ts)) fun _ _ => .refl _
    · exact .refl _

theorem trailingIds_ids : ∀ {w w' : World} {ts : List Nat} {ids : List String},
    w.trailingIds env ts = (w', .ok ids) → ts.map w'.idOf = ids.map some
  | _, _, [], _, h => by simp only [trailingIds, Prod.mk.injEq] at h; rw [← (Except.ok.inj h.2)]; rfl
  | w, w', t :: ts, ids, h => by
    obtain ⟨w₁, t', hc, h₁⟩ := Js.bind_eq_ok h
    obtain rfl := coerceType_ok (Prod.mk.inj hc).2
    obtain ⟨w₂, ft, -, h₂⟩ := Js.bind_eq_ok h₁
    split at h₂
    · obtain ⟨w₃, ids', hr, h₃⟩ := Js.bind_eq_ok h₂
      obtain ⟨rfl, h₄⟩ := Prod.mk.inj h₃
      have ht := (trailingIds_extends env (w₂.getId t').1 ts).ids t' _ (getId_idOf w₂ t')
      rw [hr] at ht
      rw [← Except.ok.inj h₄, List.map_cons, List.map_cons, trailingIds_ids hr]
      exact congrArg (· :: _) ht
    · cases h₂

theorem lookupOrCreate_cases (w : World) (i : Nat) (g : Generator) (ts : List Nat) (rtn : Nat)
    (key : String) :
    (∃ f, g.cache.lookup key = some f ∧ w.lookupOrCreate env i g ts rtn key = (w, .ok f)) ∨
    (g.cache.lookup key = none ∧ ∃ wr, Extends w wr ∧ Reaches env w.heap wr.heap ∧
      ((∃ e, w.lookupOrCreate env i g ts rtn key = (wr, .error e)) ∨
       ∃ f : Invoker, f.proxy.returnType = rtn ∧ f.proxy.argTypes = g.fixedArgTypes ++ ts ∧
        (∃ h', typeOf env.ffiTypes env.fuel w.heap (some g.returnType) =
          (h', .ok f.proxy.cif.rtype)) ∧
        w.lookupOrCreate env i g ts rtn key = (wr.cacheInvoker i g key f, .ok f))) := by
  unfold lookupOrCreate
  split
  · exact .inl ⟨_, ‹_›, rfl⟩
  refine .inr ⟨‹_›, ?_⟩
  have hs := cifVar_sameShape env.prep _ (typeOf_sameShape env.ffiTypes env.fuel) w.heap
    g.returnType (g.fixedArgTypes ++ ts) g.numFixedArgs g.abi
  have hr := cifVar_rel env.prep _ (Reaches env) Reaches.refl Reaches.trans Reaches.resolve w.heap
    g.returnType (g.fixedArgTypes ++ ts) g.numFixedArgs g.abi
  rcases hc : cifVar env.prep (typeOf env.ffiTypes env.fuel) w.heap g.returnType
    (g.fixedArgTypes ++ ts) g.numFixedArgs g.abi with ⟨h', _ | cif⟩
  all_goals rw [hc] at hs hr
  · exact ⟨_, Extends.onHeap w hs, hr, .inl ⟨_, rfl⟩⟩
  · obtain ⟨h₁, hrt⟩ := cifVar_rtype env.prep _ hc
    exact ⟨_, Extends.onHeap w hs, hr, .inr ⟨⟨w.serial,
      foreignFunction env.platform h' cif g.funcPtr rtn (g.fixedArgTypes ++ ts)⟩, rfl, rfl,
      ⟨_, hrt⟩, rfl⟩⟩

/-- Everything a call can do. It throws, having only tagged types and written `ffi_type`
caches; or it computes the key of the types it was given under the ids it leaves, and returns
the invoker cached under that key, or makes one for exactly those types and caches it, its
`ffi_cif` return type what `Type` answered for the generator's original `returnType` on the
type objects the call had reached. -/
theorem callGenerator_cases (w : World) (i : Nat) (ts : List Nat) :
    (Extends w (w.callGenerator env i ts).1 ∧ ∃ e, (w.callGenerator env i ts).2 = .error e) ∨
    ∃ g wr key, w.gens[i]? = some g ∧ Extends w wr ∧
      wr.KeyOf g.fixedKey g.returnTypeProp ts key ∧
      ((∃ f, g.cache.lookup key = some f ∧ w.callGenerator env i ts = (wr, .ok f)) ∨
       (g.cache.lookup key = none ∧ ∃ f : Invoker, f.proxy.returnType = g.returnTypeProp ∧
        f.proxy.argTypes = g.fixedArgTypes ++ ts ∧
        (∃ h₁ h', Reaches env w.heap h₁ ∧ Reaches env h₁ wr.heap ∧
          typeOf env.ffiTypes env.fuel h₁ (some g.returnType) = (h', .ok f.proxy.cif.rtype)) ∧
        w.callGenerator env i ts = (wr.cacheInvoker i g key f, .ok f))) := by
  unfold callGenerator
  rcases hg : w.gens[i]? with _ | g
  · exact .inl ⟨Extends.refl w, _, rfl⟩
  have e₁ := trailingIds_extends env w ts
  have r₁ := trailingIds_reaches env w ts
  rcases ht : w.trailingIds env ts with ⟨w₁, e | ids⟩
  · rw [ht] at e₁; exact .inl ⟨e₁, e, rfl⟩
  rw [ht] at e₁ r₁
  simp only [Js.bind_ok]
  rcases hc : coerceType w₁.heap (some g.returnTypeProp) with e | rtn
  · exact .inl ⟨e₁, e, rfl⟩
  obtain rfl := coerceType_ok hc
  simp only [Js.bind_ok]
  have e₂ := e₁.trans (Extends.getId w₁ g.returnTypeProp)
  split
  · exact .inl ⟨e₂, _, rfl⟩
  have hkey : (w₁.getId g.returnTypeProp).1.KeyOf g.fixedKey g.returnTypeProp ts
      ((w₁.getId g.returnTypeProp).2 ++ String.join (g.fixedKey ++ ids)) :=
    ⟨_, ids, getId_idOf _ _, map_idOf_mono (Extends.getId _ _).ids (trailingIds_ids env ht), rfl⟩
  rcases lookupOrCreate_cases env _ i g ts _ _ with
    ⟨f, hl, h⟩ | ⟨hl, wr, e₃, r₃, ⟨e, h⟩ | ⟨f, hrt, hat, ⟨h', hty⟩, h⟩⟩
  · exact .inr ⟨g, _, _, rfl, e₂, hkey, .inl ⟨f, hl, h⟩⟩
  · rw [h]; exact .inl ⟨e₂.trans e₃, e, rfl⟩
  · exact .inr ⟨g, wr, _, rfl, e₂.trans e₃, hkey.mono e₃.ids, .inr ⟨hl, f, hrt, hat,
      ⟨_, h', r₁.trans (getId_reaches w₁ g.returnTypeProp), r₃, hty⟩, h⟩⟩

theorem callGenerator_reaches (w : World) (i : Nat) (ts : List Nat) :
    Reaches env w.heap (w.callGenerator env i ts).1.heap := by
  unfold callGenerator
  split
  · exact .refl _
  refine Reaches.bind (trailingIds_reaches env w ts) fun w ids =>
    Reaches.bind (.refl _) fun w rtn => ?_
  split
  · exact getId_reaches w rtn
  refine (getId_reaches w rtn).trans ?_
  rcases lookupOrCreate_cases env (w.getId rtn).1 i _ ts rtn _ with
    ⟨_, -, h⟩ | ⟨-, wr, -, hr, ⟨_, h⟩ | ⟨_, -, -, -, h⟩⟩ <;> rw [h]
  exacts [.refl _, hr, hr]

end

/-! ### Runs -/

/-- What a step does to what earlier calls rely on: ids are only added, `counter` only grows,
and each generator keeps its fixed key and every invoker it cached. -/
structure Grows (w w' : World) : Prop where
  counter_le : w.counter ≤ w'.counter
  ids : ∀ t s, w.idOf t = some s → w'.idOf t = some s
  gens : ∀ (i : Nat) (g : Generator), w.gens[i]? = some g → ∃ g' : Generator, w'.gens[i]? = some g' ∧
    g'.fixedKey = g.fixedKey ∧ ∀ key f, g.cache.lookup key = some f → g'.cache.lookup key = some f

theorem Grows.refl (w : World) : Grows w w :=
  ⟨le_rfl, fun _ _ => id, fun _ g hg => ⟨g, hg, rfl, fun _ _ => id⟩⟩

theorem Grows.trans {w₁ w₂ w₃ : World} (h₁ : Grows w₁ w₂) (h₂ : Grows w₂ w₃) : Grows w₁ w₃ := by
  refine ⟨h₁.counter_le.trans h₂.counter_le, fun t s h => h₂.ids t s (h₁.ids t s h),
    fun i g hg => ?_⟩
  obtain ⟨g₂, hg₂, hk₂, hl₂⟩ := h₁.gens i g hg
  obtain ⟨g₃, hg₃, hk₃, hl₃⟩ := h₂.gens i g₂ hg₂
  exact ⟨g₃, hg₃, hk₃.trans hk₂, fun key f h => hl₃ key f (hl₂ key f h)⟩

theorem Extends.grows {w w' : World} (h : Extends w w') : Grows w w' :=
  ⟨h.counter_le, h.ids, fun _ g hg => ⟨g, h.gens ▸ hg, rfl, fun _ _ => id⟩⟩

theorem Grows.set {w : World} {i : Nat} {g g' : Generator} (hg : w.gens[i]? = some g)
    {w' : World} (hi : w'.idOf = w.idOf) (hn : w'.counter = w.counter)
    (hgs : w'.gens = w.gens.set i g') (hfk : g'.fixedKey = g.fixedKey)
    (hl : ∀ key f, g.cache.lookup key = some f → g'.cache.lookup key = some f) : Grows w w' := by
  refine ⟨hn.ge, fun t s h => hi ▸ h, fun j g₀ hg₀ => ?_⟩
  rw [hgs, List.getElem?_set]
  by_cases hij : i = j
  · subst hij
    obtain rfl : g₀ = g := Option.some_injective _ (hg₀.symm.trans hg)
    have hlt : i < w.gens.length := (List.getElem?_eq_some_iff.mp hg).1
    exact ⟨g', by simp [hlt], hfk, hl⟩
  · exact ⟨g₀, by simpa [hij] using hg₀, rfl, fun _ _ => id⟩

theorem lookup_cons_of_none {key : String} {f : Invoker} {cache : List (String × Invoker)}
    (hn : cache.lookup key = none) :
    ∀ key' f', cache.lookup key' = some f' → ((key, f) :: cache).lookup key' = some f' := by
  intro key' f' h
  have hne : key' ≠ key := by rintro rfl; simp_all
  rw [List.lookup_cons, beq_false_of_ne hne]
  exact h

theorem init_sound {h : Heap} (hh : ∀ t, (h.objs t).ffiId = none) : (init h).Sound :=
  ⟨fun t s e => by simp [idOf, init, hh] at e, fun t _ s e => by simp [idOf, init, hh] at e,
    fun _ hg => by simp [init] at hg, fun _ hg => by simp [init] at hg⟩

end World

namespace Step
open World
variable {env : Env}

theorem grows {w w' : World} (hst : Step env w w') : Grows w w' := by
  cases hst with
  | create funcPtr returnType fixedArgTypes abi =>
    rcases variadicForeignFunction_cases w funcPtr returnType fixedArgTypes abi with
      ⟨_, -, h⟩ | ⟨_, h, -⟩ <;> rw [h]
    · exact Grows.refl w
    · have e₁ := Extends.getIds w fixedArgTypes
      exact ⟨e₁.counter_le, e₁.ids, fun j g hg => ⟨g,
        (List.getElem?_append_left (List.getElem?_eq_some_iff.mp hg).1).trans hg, rfl,
        fun _ _ => id⟩⟩
  | call i ts =>
    rcases callGenerator_cases env w i ts with
      ⟨e₁, -⟩ | ⟨g, wr, key, hg, e₁, -, ⟨f, -, h⟩ | ⟨hl, f, -, -, -, h⟩⟩
    · exact e₁.grows
    · rw [h]; exact e₁.grows
    · have hg' : wr.gens[i]? = some g := e₁.gens ▸ hg
      rw [h]
      exact e₁.grows.trans (Grows.set hg' rfl rfl rfl rfl (lookup_cons_of_none hl))
  | setReturnType i r =>
    unfold World.setReturnType
    split
    · rename_i g hg
      exact Grows.set hg rfl rfl rfl rfl fun _ _ => id
    · exact Grows.refl w
  | resolve t => exact (Extends.onHeap w (typeOf_sameShape _ _ _ _)).grows

theorem reaches {w w' : World} (hst : Step env w w') : Reaches env w.heap w'.heap := by
  cases hst with
  | create funcPtr returnType fixedArgTypes abi =>
    rcases variadicForeignFunction_cases w funcPtr returnType fixedArgTypes abi with
      ⟨_, -, h⟩ | ⟨_, h, -⟩ <;> rw [h]
    exacts [.refl _, getIds_reaches w fixedArgTypes]
  | call i ts => exact callGenerator_reaches env w i ts
  | setReturnType i r =>
    unfold World.setReturnType
    split <;> exact .refl _
  | resolve t => exact .resolve _ t

theorem sound {w w' : World} (hst : Step env w w') (hs : w.Sound) (h16 : w'.counter ≤ 16) :
    w'.Sound := by
  cases hst with
  | create funcPtr returnType fixedArgTypes abi =>
    rcases variadicForeignFunction_cases w funcPtr returnType fixedArgTypes abi with
      ⟨_, -, h⟩ | ⟨g, h, -, -, hfx, hfk, hcache⟩ <;> rw [h] at h16 ⊢
    · exact hs
    · have e₁ := Extends.getIds w fixedArgTypes
      have hs₁ := e₁.sound hs h16
      refine ⟨hs₁.ids_below, hs₁.ids_inj, fun g' hg => ?_, fun g' hg => ?_⟩ <;>
        rcases List.mem_append.mp hg with hg | hg
      · exact hs₁.fixed_tagged g' (e₁.gens ▸ hg)
      · rw [List.mem_singleton.mp hg, hfx, hfk]; exact getIds_ids w fixedArgTypes
      · exact hs₁.cache_sound g' (e₁.gens ▸ hg)
      · simp [List.mem_singleton.mp hg, hcache]
  | call i ts =>
    rcases callGenerator_cases env w i ts with
      ⟨e₁, -⟩ | ⟨g, wr, key, hg, e₁, hkey, ⟨f, -, h⟩ | ⟨-, f, hr, ha, -, h⟩⟩
    · exact e₁.sound hs h16
    · rw [h] at h16 ⊢; exact e₁.sound hs h16
    · have hg' : wr.gens[i]? = some g := e₁.gens ▸ hg
      rw [h] at h16 ⊢
      refine (e₁.sound hs h16).set hg' rfl rfl rfl rfl rfl fun e he => ?_
      rcases List.mem_cons.mp he with rfl | he
      exacts [.inr ⟨_, ts, hr, ha, hkey⟩, .inl he]
  | setReturnType i r =>
    unfold World.setReturnType
    split
    · rename_i g hg
      exact hs.set hg rfl rfl rfl rfl rfl fun e he => .inl he
    · exact hs
  | resolve t => exact (Extends.onHeap w (typeOf_sameShape _ _ _ _)).sound hs h16

end Step

theorem World.Grows.of_run {env : Env} {w w' : World}
    (h : Relation.ReflTransGen (Step env) w w') : Grows w w' := by
  induction h with
  | refl => exact Grows.refl w
  | tail _ hst ih => exact ih.trans hst.grows

theorem Reaches.of_run {env : Env} {w w' : World} (h : Relation.ReflTransGen (Step env) w w') :
    Reaches env w.heap w'.heap := by
  induction h with
  | refl => exact .refl _
  | tail _ hst ih => exact ih.trans hst.reaches

theorem World.Sound.of_run {env : Env} {w w' : World}
    (h : Relation.ReflTransGen (Step env) w w') (hs : w.Sound)
    (h16 : w'.counter ≤ 16) : w'.Sound := by
  induction h with
  | refl => exact hs
  | tail hrun hst ih => exact hst.sound (ih ((hst.grows).counter_le.trans h16)) h16

/-! ### Processes for concrete runs -/

/-- The bindings for concrete runs: the example `FFI_TYPES`, whose static types are named, a
preparation that always returns `FFI_OK` with the default ABI 0, LP64, and room for three
nested `Type` calls. -/
def exampleEnv : Env :=
  ⟨exampleFfiTypes, fun | .native _ => true | .struct _ => false,
    examplePrep, lp64, 3⟩

/-- `Object.prototype` and eighteen `int`-like type objects: `t0, …, t16` are 1 to 17, and 18
is a return type. -/
def tagHeap : Heap := Heap.ofList ({} :: List.replicate 18
  { proto := some 0, indirection := some 1, size := some 4, name := some "int",
    ffiType := some (some (.native 4)) }) (by decide)

/-- `t0, …, t16` tagged in order by a generator over them, then a second generator, with return
type 18 and `t0` as its one fixed argument. -/
def seventeenTagsWorld : World :=
  ((((World.init tagHeap).variadicForeignFunction 0 1 (List.range' 1 17) none).1
    ).variadicForeignFunction 0 18 [1] none).1

theorem exampleHeap_untagged (t : Nat) : (exampleHeap.objs t).ffiId = none :=
  Heap.ofList_ffiId _ (by decide) t

/-- A process over `exampleHeap` with one generator, for `int f(int, ...)`. -/
def intVarargsWorld : World := ((World.init exampleHeap).variadicForeignFunction 0 1 [1] none).1

end NodeFfi
