import NodeFfi.Variadic

/-! What the variadic cache guarantees over runs, and where it stops. A repeated call returns
the invoker an earlier one cached, unless resolving its types throws. While the ids in use are
among the first sixteen, which are prefix-free, a key names one signature; the seventeenth id
is the second followed by the first. The `ffi_cif` of every invoker is prepared for the
`returnType` the generator was made with, whatever the `returnType` property now is. -/
namespace NodeFfi

namespace World

theorem lookup_mem {key : String} {f : Invoker} :
    ∀ {cache : List (String × Invoker)}, cache.lookup key = some f → (key, f) ∈ cache
  | [], h => by simp at h
  | (k, f') :: cache, h => by
    rw [List.lookup_cons] at h
    by_cases hk : key = k
    · subst hk
      simp only [beq_self_eq_true, Option.some.injEq] at h
      simp [h]
    · rw [beq_false_of_ne hk] at h
      exact .tail _ (lookup_mem h)

theorem map_idOf_inj {w : World}
    (hinj : ∀ t t' s, w.idOf t = some s → w.idOf t' = some s → t = t') :
    ∀ {ts ts' : List Nat} {ids : List String},
      ts.map w.idOf = ids.map some → ts'.map w.idOf = ids.map some → ts = ts'
  | [], [], _, _, _ => rfl
  | [], _ :: _, ids, h, h' => by cases ids <;> simp at h h'
  | _ :: _, [], ids, h, h' => by cases ids <;> simp at h h'
  | _ :: _, _ :: _, [], h, _ => by simp at h
  | t :: ts, t' :: ts', s :: ids, h, h' => by
    simp only [List.map_cons, List.cons.injEq] at h h'
    rw [hinj t t' s h.1 h'.1, map_idOf_inj hinj h.2 h'.2]

theorem mem_ids {w : World} {us : List Nat} {ss : List String} (e : us.map w.idOf = ss.map some)
    {s : String} (hs : s ∈ ss) : ∃ t, w.idOf t = some s := by
  have : some s ∈ us.map w.idOf := e ▸ List.mem_map_of_mem some hs
  obtain ⟨t, -, ht⟩ := List.mem_map.mp this
  exact ⟨t, ht⟩

def FirstIds (l : List Char) : Prop := ∃ c < 16, l = (idString c).data

theorem firstIds_ne_nil : ∀ l, FirstIds l → l ≠ []
  | _, ⟨c, _, rfl⟩ => idString_ne_nil c

theorem firstIds_prefix_free : ∀ a b, FirstIds a → FirstIds b → a <+: b → a = b
  | _, _, ⟨c, hc, rfl⟩, ⟨d, hd, rfl⟩, h => by rw [idString_prefix_free c hc d hd h]

/-- While the ids in use are among the first sixteen, a key of a generator names one
signature. -/
theorem Sound.keyOf_inj {w : World} (hs : w.Sound) (h16 : w.counter ≤ 16) {g : Generator}
    (hg : g ∈ w.gens) {rtn rtn' : Nat} {ts ts' : List Nat} {key : String}
    (hk : w.KeyOf g.fixedKey rtn ts key) (hk' : w.KeyOf g.fixedKey rtn' ts' key) :
    rtn = rtn' ∧ ts = ts' := by
  obtain ⟨r, ids, hr, hts, rfl⟩ := hk
  obtain ⟨r', ids', hr', hts', e⟩ := hk'
  have word : ∀ s t, w.idOf t = some s → FirstIds s.data := fun s t h => by
    obtain ⟨c, hc, rfl⟩ := hs.ids_below t s h
    exact ⟨c, by omega, rfl⟩
  have words : ∀ r ids, w.idOf rtn = some r ∨ w.idOf rtn' = some r →
      ts.map w.idOf = ids.map some ∨ ts'.map w.idOf = ids.map some →
      ∀ a ∈ (r :: (g.fixedKey ++ ids)).map String.data, FirstIds a := by
    intro r ids hr hids a ha
    obtain ⟨s, hs', rfl⟩ := List.mem_map.mp ha
    rcases List.mem_cons.mp hs' with rfl | hs'
    · rcases hr with hr | hr <;> exact word _ _ hr
    rcases List.mem_append.mp hs' with hs' | hs'
    · obtain ⟨t, ht⟩ := mem_ids (hs.fixed_tagged g hg) hs'
      exact word _ _ ht
    · rcases hids with hids | hids <;> obtain ⟨t, ht⟩ := mem_ids hids hs' <;> exact word _ _ ht
  have hdata : ((r :: (g.fixedKey ++ ids)).map String.data).flatten =
      ((r' :: (g.fixedKey ++ ids')).map String.data).flatten := by
    simpa only [String.data_append, string_join_data, List.map_cons, List.flatten_cons]
      using congrArg String.data e
  have hl := flatten_inj_of_prefix_free firstIds_ne_nil firstIds_prefix_free _ _
    (words r ids (.inl hr) (.inl hts)) (words r' ids' (.inr hr') (.inr hts')) hdata
  rw [List.map_injective_iff.mpr (fun _ _ => String.ext) |>.eq_iff] at hl
  obtain ⟨rfl, hids⟩ := List.cons.inj hl
  obtain rfl := List.append_cancel_left hids
  exact ⟨hs.ids_inj rtn rtn' r hr hr', map_idOf_inj hs.ids_inj hts hts'⟩

section
variable {env : Env}

/-- A call that returns leaves the invoker it returned cached, under the key of its types. -/
theorem callGenerator_ok_cached {w w' : World} {i : Nat} {ts : List Nat} {f : Invoker}
    (h : w.callGenerator env i ts = (w', .ok f)) :
    ∃ g g' key, w.gens[i]? = some g ∧ w'.gens[i]? = some g' ∧ g'.fixedKey = g.fixedKey ∧
      g'.cache.lookup key = some f ∧ w'.KeyOf g.fixedKey g.returnTypeProp ts key := by
  rcases callGenerator_cases env w i ts with
    ⟨-, e, he⟩ | ⟨g, wr, key, hg, e₁, hkey, ⟨f', hl, h'⟩ | ⟨hl, f', -, -, -, h'⟩⟩
  · rw [h] at he; cases he
  all_goals
    obtain ⟨rfl, hf⟩ := Prod.mk.inj (h.symm.trans h')
    obtain rfl := Except.ok.inj hf
  · exact ⟨g, g, key, hg, e₁.gens ▸ hg, rfl, hl, hkey⟩
  · have hlt : i < wr.gens.length := by
      rw [e₁.gens]; exact (List.getElem?_eq_some_iff.mp hg).1
    exact ⟨g, { g with cache := (key, f) :: g.cache }, key, hg, by simp [cacheInvoker, hlt], rfl,
      by simp [List.lookup_cons], hkey⟩

theorem callGenerator_ok_rtn {w w' : World} {i : Nat} {ts : List Nat} {f : Invoker}
    (h : w.callGenerator env i ts = (w', .ok f)) :
    ∃ g r, w.gens[i]? = some g ∧
      coerceType w.heap (some g.returnTypeProp) = .ok g.returnTypeProp ∧
      w'.idOf g.returnTypeProp = some r ∧ r ≠ "" := by
  unfold callGenerator at h
  split at h
  · cases h
  rename_i g hg
  have r₁ := trailingIds_reaches env w ts
  obtain ⟨w₁, ids, ht, h⟩ := Js.bind_eq_ok h
  obtain ⟨_, rtn, hc, h⟩ := Js.bind_eq_ok h
  obtain ⟨rfl, hc'⟩ := Prod.mk.inj hc
  obtain rfl := coerceType_ok hc'
  rw [ht] at r₁
  split at h
  · cases h
  refine ⟨g, _, hg, (r₁.coerceType _).symm.trans hc', ?_, ‹_›⟩
  rcases lookupOrCreate_cases env (w₁.getId g.returnTypeProp).1 i g ts _ _ with
    ⟨_, -, h'⟩ | ⟨-, wr, e₃, -, ⟨_, h'⟩ | ⟨_, -, -, -, h'⟩⟩ <;> rw [h'] at h <;> cases h
  · exact getId_idOf _ _
  · exact e₃.ids _ _ (getId_idOf _ _)

theorem callGenerator_hit {w w' : World} {i : Nat} {ts : List Nat} {g : Generator}
    {ids : List String} {r : String} {f : Invoker} (hg : w.gens[i]? = some g)
    (ht : w.trailingIds env ts = (w', .ok ids))
    (hc : coerceType w'.heap (some g.returnTypeProp) = .ok g.returnTypeProp)
    (hid : w'.idOf g.returnTypeProp = some r) (hr : r ≠ "")
    (hl : g.cache.lookup (r ++ String.join (g.fixedKey ++ ids)) = some f) :
    w.callGenerator env i ts = (w', .ok f) := by
  simp [callGenerator, hg, ht, hc, getId, hid, hr, lookupOrCreate, hl]

/-- Completeness over every run: a call with the trailing types of an earlier call that
returned, while the generator's `returnType` property is what it was then, returns the same
invoker, whatever was tagged, cached, resolved or reassigned in between, unless resolving its
trailing types throws, as it can once a `Type` call in between erased a cached `ffi_type`. -/
theorem callGenerator_complete {w₀ w₁ w₂ : World} {i : Nat} {ts : List Nat} {f : Invoker}
    (h₁ : w₀.callGenerator env i ts = (w₁, .ok f)) (hrun : Relation.ReflTransGen (Step env) w₁ w₂)
    (hrt : w₂.gens[i]?.map Generator.returnTypeProp = w₀.gens[i]?.map Generator.returnTypeProp) :
    (w₂.callGenerator env i ts).2 = .ok f ∨
      ∃ e, (w₂.trailingIds env ts).2 = .error e ∧ (w₂.callGenerator env i ts).2 = .error e := by
  obtain ⟨g₀, g₁, key, hg₀, hg₁, hk₁, hl₁, hkey₁⟩ := callGenerator_ok_cached h₁
  obtain ⟨g, r, hg, hc, hid, hr⟩ := callGenerator_ok_rtn h₁
  obtain rfl : g = g₀ := Option.some_injective _ (hg.symm.trans hg₀)
  have hgrow := Grows.of_run hrun
  obtain ⟨g₂, hg₂, hk₂, hl₂⟩ := hgrow.gens i g₁ hg₁
  have hrt' : g₂.returnTypeProp = g.returnTypeProp := by simpa [hg, hg₂] using hrt
  have r₀ := callGenerator_reaches env w₀ i ts
  rw [h₁] at r₀
  have e₃ := trailingIds_extends env w₂ ts
  have r₃ := trailingIds_reaches env w₂ ts
  rcases ht : w₂.trailingIds env ts with ⟨w₃, e | ids⟩
  · exact .inr ⟨e, rfl, by simp [callGenerator, hg₂, ht]⟩
  rw [ht] at e₃ r₃
  -- the return type coerces and carries its id as before, so the key is the first call's
  have hid₃ : w₃.idOf g.returnTypeProp = some r := e₃.ids _ _ (hgrow.ids _ _ hid)
  have hkey : w₃.KeyOf g.fixedKey g.returnTypeProp ts (r ++ String.join (g₂.fixedKey ++ ids)) :=
    ⟨r, ids, hid₃, trailingIds_ids env ht, by rw [hk₂, hk₁]⟩
  obtain rfl := hkey.unique (hkey₁.mono fun t s h => e₃.ids t s (hgrow.ids t s h))
  have hc₃ : coerceType w₃.heap (some g₂.returnTypeProp) = .ok g₂.returnTypeProp := by
    rw [hrt', (r₀.trans ((Reaches.of_run hrun).trans r₃)).coerceType, hc]
  exact .inl (by rw [callGenerator_hit hg₂ ht hc₃ (hrt' ▸ hid₃) hr (hl₂ _ f hl₁)])

/-- `f(HANDLE)` for `int f(int, ...)`, then `Type` of `Object.create(HANDLE)`, which erases
`HANDLE`'s `ffi_type`, then `f(HANDLE)` again: the repeat throws while resolving `HANDLE`. -/
theorem repeated_handle_call_throws :
    let f : Invoker := ⟨0, ⟨⟨.native 4, [.native 4, .native 8], some 1, 0⟩, 0, 1, [1, 8], 8⟩⟩
    let w₁ := (intVarargsWorld.callGenerator exampleEnv 0 [8]).1
    let w₂ : World := { w₁ with heap := (typeOf exampleFfiTypes 3 w₁.heap (some 9)).1 }
    intVarargsWorld.callGenerator exampleEnv 0 [8] = (w₁, .ok f) ∧
      Relation.ReflTransGen (Step exampleEnv) w₁ w₂ ∧
      w₂.gens[0]?.map Generator.returnTypeProp =
        intVarargsWorld.gens[0]?.map Generator.returnTypeProp ∧
      ((w₂.callGenerator exampleEnv 0 [8]).2 = .ok f ∨
        ∃ e, (w₂.trailingIds exampleEnv [8]).2 = .error e ∧
          (w₂.callGenerator exampleEnv 0 [8]).2 = .error e) ∧
      (w₂.callGenerator exampleEnv 0 [8]).2 =
        .error (assertionError "Could not determine the `ffi_type` instance for type: HANDLE") :=
  have h₁ : intVarargsWorld.callGenerator exampleEnv 0 [8] =
      ((intVarargsWorld.callGenerator exampleEnv 0 [8]).1,
        .ok ⟨0, ⟨⟨.native 4, [.native 4, .native 8], some 1, 0⟩, 0, 1, [1, 8], 8⟩⟩) := rfl
  have hrun := Relation.ReflTransGen.single
    (@Step.resolve exampleEnv (intVarargsWorld.callGenerator exampleEnv 0 [8]).1 9)
  ⟨h₁, hrun, rfl, callGenerator_complete h₁ hrun rfl, rfl⟩

/-- Soundness while at most sixteen types are tagged: over every run from untagged types, an
invoker a call returns was made for the signature requested, the generator's current
`returnType` property and its fixed types followed by the trailing types given. -/
theorem callGenerator_sound_of_few_tags {h : Heap} (hh : ∀ t, (h.objs t).ffiId = none)
    {w w' : World} (hw : Relation.ReflTransGen (Step env) (init h) w) {i : Nat}
    {ts : List Nat} {g : Generator} {f : Invoker} (hg : w.gens[i]? = some g)
    (hc : w.callGenerator env i ts = (w', .ok f)) (h16 : w'.counter ≤ 16) :
    f.proxy.returnType = g.returnTypeProp ∧ f.proxy.argTypes = g.fixedArgTypes ++ ts := by
  rcases callGenerator_cases env w i ts with
    ⟨-, e, he⟩ | ⟨g', wr, key, hg', e₁, hkey, ⟨f', hl, h⟩ | ⟨-, f', hr, ha, -, h⟩⟩
  · rw [hc] at he; cases he
  all_goals
    obtain rfl : g = g' := Option.some_injective _ (hg.symm.trans hg')
    obtain ⟨rfl, hf⟩ := Prod.mk.inj (hc.symm.trans h)
    obtain rfl := Except.ok.inj hf
  · have hmem : g ∈ w'.gens := e₁.gens ▸ List.getElem?_mem hg
    have hs := e₁.sound (Sound.of_run hw (init_sound hh) (e₁.counter_le.trans h16)) h16
    obtain ⟨rtn, ts', hr, ha, hkey'⟩ := hs.cache_sound g hmem _ (lookup_mem hl)
    obtain ⟨rfl, rfl⟩ := hs.keyOf_inj h16 hmem hkey hkey'
    exact ⟨hr, ha⟩
  · exact ⟨hr, ha⟩

theorem int_call_sound :
    let f : Invoker := ⟨0, ⟨⟨.native 4, [.native 4, .native 4], some 1, 0⟩, 0, 1, [1, 1], 8⟩⟩
    (∀ t, (exampleHeap.objs t).ffiId = none) ∧
      Relation.ReflTransGen (Step exampleEnv) (init exampleHeap) intVarargsWorld ∧
      intVarargsWorld.gens[0]? = some ⟨0, 1, [1], 1, ["0"], none, [], 1⟩ ∧
      intVarargsWorld.callGenerator exampleEnv 0 [1] =
        ((intVarargsWorld.callGenerator exampleEnv 0 [1]).1, .ok f) ∧
      (intVarargsWorld.callGenerator exampleEnv 0 [1]).1.counter ≤ 16 ∧
      (f.proxy.returnType = 1 ∧ f.proxy.argTypes = [1] ++ [1]) :=
  have hw := Relation.ReflTransGen.single
    (@Step.create exampleEnv (init exampleHeap) 0 1 [1] none)
  have hc : intVarargsWorld.callGenerator exampleEnv 0 [1] =
      ((intVarargsWorld.callGenerator exampleEnv 0 [1]).1,
        .ok ⟨0, ⟨⟨.native 4, [.native 4, .native 4], some 1, 0⟩, 0, 1, [1, 1], 8⟩⟩) := rfl
  ⟨exampleHeap_untagged, hw, rfl, hc, by decide,
    callGenerator_sound_of_few_tags exampleHeap_untagged hw rfl hc (by decide)⟩

/-- Seventeen tagged types: the first generator gives `t0, …, t16` the ids of counters 0 to 16,
and the second, with fixed argument `t0`, called with `[t1, t0, t16]` and then with
`[t16, t1, t0]`, joins both id lists to `100000100000` and returns for the second call the
invoker made for the first, whose trailing argument types are `[t1, t0, t16]`. -/
theorem seventeen_tags_share_a_key :
    (seventeenTagsWorld.callGenerator exampleEnv 1 [2, 1, 17]).2 =
      .ok ⟨0, ⟨⟨.native 4, [.native 4, .native 4, .native 4, .native 4], some 1, 0⟩, 0, 18,
        [1, 2, 1, 17], 8⟩⟩ ∧
    ((seventeenTagsWorld.callGenerator exampleEnv 1 [2, 1, 17]).1.callGenerator exampleEnv 1
        [17, 2, 1]).2 =
      .ok ⟨0, ⟨⟨.native 4, [.native 4, .native 4, .native 4, .native 4], some 1, 0⟩, 0, 18,
        [1, 2, 1, 17], 8⟩⟩ :=
  ⟨rfl, rfl⟩

end

/-! ### The return type of the call interface -/

/-- Every cached invoker's `ffi_cif` return type is what `Type` answered for the `returnType` its
generator was made with, on type objects the process passed through from `h₀` to `w`. -/
def CifsFromCreation (env : Env) (h₀ : Heap) (w : World) : Prop :=
  ∀ g ∈ w.gens, ∀ e ∈ g.cache, ∃ h h', Reaches env h₀ h ∧ Reaches env h w.heap ∧
    typeOf env.ffiTypes env.fuel h (some g.returnType) = (h', .ok e.2.proxy.cif.rtype)

theorem CifsFromCreation.later {env : Env} {h₀ : Heap} {w : World}
    (hc : w.CifsFromCreation env h₀) {h' : Heap} (hr : Reaches env w.heap h') :
    ∀ g ∈ w.gens, ∀ e ∈ g.cache, ∃ h h'', Reaches env h₀ h ∧ Reaches env h h' ∧
      typeOf env.ffiTypes env.fuel h (some g.returnType) = (h'', .ok e.2.proxy.cif.rtype) :=
  fun g hg e he => (hc g hg e he).imp fun _ => Exists.imp fun _ ⟨h₁, h₂, h₃⟩ =>
    ⟨h₁, h₂.trans hr, h₃⟩

theorem CifsFromCreation.of_gens {env : Env} {h₀ : Heap} {w w' : World}
    (hc : w.CifsFromCreation env h₀) (hg : w'.gens = w.gens) (hr : Reaches env w.heap w'.heap) :
    w'.CifsFromCreation env h₀ := fun g h => hc.later hr g (hg ▸ h)

theorem CifsFromCreation.set {env : Env} {h₀ : Heap} {w : World} (hc : w.CifsFromCreation env h₀)
    {i : Nat} {g g' : Generator} (hg : w.gens[i]? = some g) {w' : World}
    (hgs : w'.gens = w.gens.set i g') (hrt : g'.returnType = g.returnType)
    (hr : Reaches env w.heap w'.heap)
    (hcache : ∀ e ∈ g'.cache, e ∈ g.cache ∨ ∃ h h', Reaches env h₀ h ∧ Reaches env h w'.heap ∧
      typeOf env.ffiTypes env.fuel h (some g.returnType) = (h', .ok e.2.proxy.cif.rtype)) :
    w'.CifsFromCreation env h₀ := by
  have old := hc.later hr
  intro g₁ h₁ e he
  rw [hgs] at h₁
  rcases List.mem_or_eq_of_mem_set h₁ with h₁ | rfl
  · exact old g₁ h₁ e he
  · rw [hrt]
    rcases hcache e he with he | he
    exacts [old g (List.getElem?_mem hg) e he, he]

end World

open World in
theorem Step.cifsFromCreation {env : Env} {h₀ : Heap} {w w' : World} (hst : Step env w w')
    (hr₀ : Reaches env h₀ w.heap) (hc : w.CifsFromCreation env h₀) : w'.CifsFromCreation env h₀ := by
  have hr := hst.reaches
  cases hst with
  | create funcPtr returnType fixedArgTypes abi =>
    rcases variadicForeignFunction_cases w funcPtr returnType fixedArgTypes abi with
      ⟨_, -, h⟩ | ⟨g, h, -, -, -, -, hcache⟩ <;> rw [h] at hr ⊢
    · exact hc
    · intro g' hg e he
      rcases List.mem_append.mp hg with hg | hg
      · exact hc.later hr g' hg e he
      · simp [List.mem_singleton.mp hg, hcache] at he
  | call i ts =>
    rcases callGenerator_cases env w i ts with
      ⟨e₁, -⟩ | ⟨g, wr, key, hg, e₁, -, ⟨f, -, h⟩ | ⟨-, f, -, -, ⟨h₁, h', r₁, r₂, hty⟩, h⟩⟩
    · exact hc.of_gens e₁.gens hr
    · rw [h] at hr ⊢; exact hc.of_gens e₁.gens hr
    · have hg' : wr.gens[i]? = some g := e₁.gens ▸ hg
      rw [h] at hr ⊢
      refine (hc.of_gens e₁.gens hr).set hg' rfl rfl (.refl _) fun e he => ?_
      rcases List.mem_cons.mp he with rfl | he
      exacts [.inr ⟨h₁, h', hr₀.trans r₁, r₂, hty⟩, .inl he]
  | setReturnType i r =>
    unfold World.setReturnType at hr ⊢
    split
    · rename_i g hg
      exact hc.set hg rfl rfl (.refl _) fun e he => .inl he
    · exact hc
  | resolve t => exact hc.of_gens rfl hr

theorem World.CifsFromCreation.of_run {env : Env} {h₀ : Heap} {w w' : World}
    (h : Relation.ReflTransGen (Step env) w w') (hr₀ : Reaches env h₀ w.heap)
    (hc : w.CifsFromCreation env h₀) : w'.CifsFromCreation env h₀ := by
  induction h with
  | refl => exact hc
  | tail hrun hst ih => exact hst.cifsFromCreation (hr₀.trans (Reaches.of_run hrun)) ih

namespace World

/-- Over every run from a process without generators, the invoker a call returns has its
`ffi_cif` return type resolved from the `returnType` its generator was made with, on type
objects the run passed through, whatever the `returnType` property, which sizes and reads its
result, now is. -/
theorem callGenerator_cif_rtype {env : Env} {h : Heap} {w w' : World}
    (hw : Relation.ReflTransGen (Step env) (init h) w) {i : Nat} {ts : List Nat} {g : Generator}
    {f : Invoker} (hg : w.gens[i]? = some g) (hc : w.callGenerator env i ts = (w', .ok f)) :
    ∃ h₁ h₂, Reaches env h h₁ ∧ Reaches env h₁ w'.heap ∧
      typeOf env.ffiTypes env.fuel h₁ (some g.returnType) = (h₂, .ok f.proxy.cif.rtype) := by
  have hinv : w.CifsFromCreation env h :=
    CifsFromCreation.of_run hw (.refl h) fun g hg => by simp [init] at hg
  have hr := Reaches.of_run hw
  have hr' := callGenerator_reaches env w i ts
  rw [hc] at hr'
  rcases callGenerator_cases env w i ts with
    ⟨-, e, he⟩ | ⟨g', wr, key, hg', -, -, ⟨f', hl, h⟩ | ⟨-, f', -, -, hrt, h⟩⟩
  · rw [hc] at he; cases he
  all_goals
    obtain rfl : g = g' := Option.some_injective _ (hg.symm.trans hg')
    obtain ⟨rfl, hf⟩ := Prod.mk.inj (hc.symm.trans h)
    obtain rfl := Except.ok.inj hf
  · obtain ⟨h₁, h₂, r₁, r₂, hty⟩ := hinv g (List.getElem?_mem hg) _ (lookup_mem hl)
    exact ⟨h₁, h₂, r₁, r₂.trans hr', hty⟩
  · obtain ⟨h₁, h₂, r₁, r₂, hty⟩ := hrt
    exact ⟨h₁, h₂, hr.trans r₁, r₂, hty⟩

/-- `f.returnType = double`, then `f(int)`, for `int f(int, ...)`: the `ffi_cif` was prepared
for `int`. -/
theorem patched_call_cif_from_creation :
    let w := intVarargsWorld.setReturnType 0 2
    let f : Invoker := ⟨0, ⟨⟨.native 4, [.native 4, .native 4], some 1, 0⟩, 0, 2, [1, 1], 8⟩⟩
    Relation.ReflTransGen (Step exampleEnv) (init exampleHeap) w ∧
      w.gens[0]? = some ⟨0, 1, [1], 1, ["0"], none, [], 2⟩ ∧
      w.callGenerator exampleEnv 0 [1] = ((w.callGenerator exampleEnv 0 [1]).1, .ok f) ∧
      ∃ h₁ h₂, Reaches exampleEnv exampleHeap h₁ ∧
        Reaches exampleEnv h₁ (w.callGenerator exampleEnv 0 [1]).1.heap ∧
        typeOf exampleFfiTypes 3 h₁ (some 1) = (h₂, .ok f.proxy.cif.rtype) :=
  have hw := (Relation.ReflTransGen.single
    (@Step.create exampleEnv (init exampleHeap) 0 1 [1] none)).tail
    (Step.setReturnType intVarargsWorld 0 2)
  have hc : (intVarargsWorld.setReturnType 0 2).callGenerator exampleEnv 0 [1] =
      (((intVarargsWorld.setReturnType 0 2).callGenerator exampleEnv 0 [1]).1,
        .ok ⟨0, ⟨⟨.native 4, [.native 4, .native 4], some 1, 0⟩, 0, 2, [1, 1], 8⟩⟩) := rfl
  have hg : (intVarargsWorld.setReturnType 0 2).gens[0]? =
      some ⟨0, 1, [1], 1, ["0"], none, [], 2⟩ := rfl
  ⟨hw, hg, hc, callGenerator_cif_rtype hw hg hc⟩

/-- A generator made with return type `int` whose `returnType` property is then set to
`double`: the invoker its call returns has its `ffi_cif` prepared for `int`, while it sizes
and reads its result as `double`, whose `ffi_type` is another. -/
theorem patched_return_type_stale_cif :
    ((intVarargsWorld.setReturnType 0 2).callGenerator exampleEnv 0 [1]).2 =
      .ok ⟨0, ⟨⟨.native 4, [.native 4, .native 4], some 1, 0⟩, 0, 2, [1, 1], 8⟩⟩ ∧
    (typeOf exampleFfiTypes 3 exampleHeap (some 1)).2 = .ok (.native 4) ∧
    (typeOf exampleFfiTypes 3 exampleHeap (some 2)).2 = .ok (.native 9) :=
  ⟨rfl, rfl, rfl⟩

end World

end NodeFfi
