import NodeFfi.Type
import Mathlib.Logic.Relation

/-! `DynamicLibrary` of `lib/dynamic_library.js`: `dlopen`, and on a NULL handle the
linker-script fallback. When the text of `dlerror()` starts with a `.so` path followed by `:`,
the file is read and the first entry of its `GROUP ( ... )` command is opened instead, by a
recursive call; the fuel is the stack depth left for it. The two regular expressions are
modelled as the matchers their backtracking amounts to. -/
namespace NodeFfi

/-- What `DynamicLibrary` calls outside JavaScript, over a state `σ` of the loader and the file
system: `dlopen(path, mode)` (a `null` path opens the program itself; 0 is NULL),
`dlsym(handle, symbol)`, `dlerror()` (`null` when nothing failed), `readFileSync(path, 'ascii')`,
and the flags `RTLD_LAZY` and `RTLD_NOW`. -/
structure Loader (σ : Type) where
  dlopen : σ → Option String → Nat → σ × Nat
  dlsym : σ → Nat → String → σ × Nat
  dlerror : σ → σ × Option String
  readFile : σ → String → Except JsError String
  rtldLazy : Nat
  rtldNow : Nat

/-- A `DynamicLibrary` instance: `_path`, as the last call on it set it, and `_handle`. -/
structure DlInstance where
  path : Option String
  handle : Nat
  deriving DecidableEq, Repr

def pathChar (c : Char) : Bool := c != ' ' && c != '\t' && c != '(' && c != ')'

def suffixChar (c : Char) : Bool := pathChar c && c != ':'

/-- `/^(([^ \t()])+\.so([^ \t:()])*):([ \t])*/` with `([^ \t()])+` taking `n` characters:
`.so` follows them, the greedy `([^ \t:()])*` stops before a character outside its class,
which must be `:`; group 1 is all that comes before it. -/
def soPathAt (s : List Char) (n : Nat) : Option (List Char) :=
  if (s.drop n).take 3 = ['.', 's', 'o'] then
    let k := n + 3 + ((s.drop (n + 3)).takeWhile suffixChar).length
    if s[k]? = some ':' then some (s.take k) else none
  else none

def soPathFrom (s : List Char) : Nat → Option (List Char)
  | 0 => none
  | n+1 => (soPathAt s (n + 1)).orElse fun _ => soPathFrom s n

/-- Group 1 of the `.so` path expression on a text, or `null` when it does not match: the
greedy `([^ \t()])+` starts from the whole leading run of its class. -/
def soPathMatch (s : List Char) : Option (List Char) :=
  soPathFrom s (s.takeWhile pathChar).length

theorem soPathAt_sound {s p : List Char} {n : Nat} (h : soPathAt s n = some p) :
    ∃ b, p = s.take n ++ ['.', 's', 'o'] ++ b ∧ (∀ c ∈ b, suffixChar c) ∧ (p ++ [':']) <+: s := by
  unfold soPathAt at h
  dsimp only at h
  split_ifs at h with hso hcolon
  cases h
  set b := (s.drop (n + 3)).takeWhile suffixChar
  have hb : (s.drop (n + 3)).take b.length = b :=
    (List.prefix_iff_eq_take.mp (List.takeWhile_prefix _)).symm
  refine ⟨b, ?_, fun c hc => List.mem_takeWhile_imp hc, ?_⟩
  · rw [List.take_add, List.take_add, hso, hb]
  · have e : s.take (n + 3 + b.length) ++ [':'] = s.take (n + 3 + b.length + 1) := by
      rw [List.take_succ, hcolon]; rfl
    exact e ▸ List.take_prefix _ _

theorem soPathFrom_sound {s p : List Char} :
    ∀ {m : Nat}, soPathFrom s m = some p → ∃ n, 0 < n ∧ n ≤ m ∧ soPathAt s n = some p
  | 0, h => by cases h
  | m+1, h => by
    rw [soPathFrom] at h
    rcases hat : soPathAt s (m + 1) with _ | q
    · rw [hat] at h
      obtain ⟨n, hn, hle, hn'⟩ := soPathFrom_sound h
      exact ⟨n, hn, Nat.le_succ_of_le hle, hn'⟩
    · rw [hat] at h
      exact ⟨m + 1, Nat.succ_pos m, le_rfl, hat.trans h⟩

/-- What the fallback accepts from an error text: group 1 is a nonempty run of `[^ \t()]`, then
`.so`, then a run of `[^ \t:()]`, and `:` follows it in the text. -/
theorem soPathMatch_sound {s p : List Char} (h : soPathMatch s = some p) :
    (p ++ [':']) <+: s ∧ (∀ c ∈ p, pathChar c) ∧
      ∃ a b, p = a ++ ['.', 's', 'o'] ++ b ∧ a ≠ [] ∧ ∀ c ∈ b, suffixChar c := by
  obtain ⟨n, hn, hle, hat⟩ := soPathFrom_sound h
  obtain ⟨b, rfl, hb, hpre⟩ := soPathAt_sound hat
  have hlen : n ≤ s.length := hle.trans (List.takeWhile_prefix pathChar).length_le
  have ha : s.take n = (s.takeWhile pathChar).take n := by
    rw [List.prefix_iff_eq_take.mp (List.takeWhile_prefix pathChar), List.take_take,
      min_eq_left hle]
  have hso : ∀ c ∈ ['.', 's', 'o'], pathChar c := by decide
  refine ⟨hpre, fun c hc => ?_, s.take n, b, rfl,
    by rw [← List.length_pos, List.length_take]; omega, hb⟩
  rcases List.mem_append.mp hc with hc | hc
  · rcases List.mem_append.mp hc with hc | hc
    · rw [ha] at hc
      exact List.mem_takeWhile_imp (List.mem_of_mem_take hc)
    · exact hso c hc
  · have := hb c hc
    simp only [suffixChar, Bool.and_eq_true] at this
    exact this.1

example : soPathMatch "libfoo.so: cannot open shared object file: No such file or directory".data =
    some "libfoo.so".data := by decide

/-- `/GROUP *\( *(([^ )])+)/` at the start of a text: `GROUP`, spaces, `(`, spaces, then group 1,
the greedy run of `[^ )]`, which must not be empty. -/
def groupAt : List Char → Option (List Char)
  | 'G' :: 'R' :: 'O' :: 'U' :: 'P' :: rest =>
    match rest.dropWhile (· == ' ') with
    | '(' :: rest =>
      match (rest.dropWhile (· == ' ')).takeWhile fun c => c != ' ' && c != ')' with
      | [] => none
      | name => some name
    | _ => none
  | _ => none

def groupMatch : List Char → Option (List Char)
  | [] => none
  | c :: cs => (groupAt (c :: cs)).orElse fun _ => groupMatch cs

def dynamicLinkingError (err : String) : JsError :=
  { name := "Error", message := "Dynamic Linking Error: " ++ err }

/-- What `err.match(...)` throws when `dlerror()` returned `null`. -/
def nullMatchError : JsError := typeError "Cannot read properties of null (reading 'match')"

section
variable {σ : Type} (ld : Loader σ)

/-- `new DynamicLibrary(path, mode)`, with `fuel` the stack depth left for the recursive call of
the fallback, which runs on the same instance. -/
def dynamicLibrary : Nat → σ → Option String → Option Nat → σ × Except JsError DlInstance
  | 0, s, _, _ => (s, .error rangeError)
  | fuel+1, s, path, mode =>
    let opened := ld.dlopen s path (mode.getD ld.rtldLazy)
    if opened.2 ≠ 0 then (opened.1, .ok ⟨path, opened.2⟩)
    else
      let err := ld.dlerror opened.1
      match err.2 with
      | none => (err.1, .error nullMatchError)
      | some text =>
        match soPathMatch text.data with
        | none => (err.1, .error (dynamicLinkingError text))
        | some file =>
          match ld.readFile err.1 (String.mk file) with
          | .error e => (err.1, .error e)
          | .ok content =>
            match groupMatch content.data with
            | none => (err.1, .error (dynamicLinkingError text))
            | some lib =>
              dynamicLibrary fuel err.1 (some (String.mk lib)) (some (mode.getD ld.rtldLazy))

/-- One fallback of the constructor, from the loader state and path `a` to `b`: `dlopen` with
mode `m` returned NULL, `dlerror()` began with a `.so` path and `:`, and that file's
`GROUP ( ... )` named the path the constructor opens next, from the state `dlerror()` left. -/
def FallsBack (m : Nat) (a b : σ × Option String) : Prop :=
  ∃ s₁ text file content lib, ld.dlopen a.1 a.2 m = (s₁, 0) ∧ ld.dlerror s₁ = (b.1, some text) ∧
    soPathMatch text.data = some file ∧ ld.readFile b.1 (String.mk file) = .ok content ∧
    groupMatch content.data = some lib ∧ b.2 = some (String.mk lib)

/-- Everything `DynamicLibrary` can end with: an instance with a non-NULL handle; or, after
linker-script fallbacks from the path given to a path `p`, the stack overflow of the recursion,
or a NULL `dlopen` of `p` followed by the `TypeError` of a `null` error text,
`Dynamic Linking Error: ` and the text `dlerror()` then returned, or what `readFileSync` threw
for the file that text names. -/
theorem dynamicLibrary_outcomes : ∀ fuel s path mode,
    (∃ dl, (dynamicLibrary ld fuel s path mode).2 = .ok dl ∧ dl.handle ≠ 0) ∨
    ∃ e s₀ p, (dynamicLibrary ld fuel s path mode).2 = .error e ∧
      Relation.ReflTransGen (FallsBack ld (mode.getD ld.rtldLazy)) (s, path) (s₀, p) ∧
      (e = rangeError ∨ (ld.dlopen s₀ p (mode.getD ld.rtldLazy)).2 = 0 ∧
        ((ld.dlerror (ld.dlopen s₀ p (mode.getD ld.rtldLazy)).1).2 = none ∧ e = nullMatchError ∨
          ∃ text, (ld.dlerror (ld.dlopen s₀ p (mode.getD ld.rtldLazy)).1).2 = some text ∧
            (e = dynamicLinkingError text ∨ ∃ file, soPathMatch text.data = some file ∧
              ld.readFile (ld.dlerror (ld.dlopen s₀ p (mode.getD ld.rtldLazy)).1).1
                (String.mk file) = .error e)))
  | 0, s, path, _ => .inr ⟨_, s, path, rfl, .refl, .inl rfl⟩
  | fuel+1, s, path, mode => by
    unfold dynamicLibrary
    dsimp only
    split
    · exact .inl ⟨_, rfl, ‹_›⟩
    rename_i h0
    replace h0 := not_not.mp h0
    split
    · rename_i hd
      exact .inr ⟨_, s, path, rfl, .refl, .inr ⟨h0, .inl ⟨hd, rfl⟩⟩⟩
    rename_i text hd
    split
    · exact .inr ⟨_, s, path, rfl, .refl, .inr ⟨h0, .inr ⟨text, hd, .inl rfl⟩⟩⟩
    rename_i file hf
    split
    · rename_i hr
      exact .inr ⟨_, s, path, rfl, .refl, .inr ⟨h0, .inr ⟨text, hd, .inr ⟨file, hf, hr⟩⟩⟩⟩
    rename_i content hc
    split
    · exact .inr ⟨_, s, path, rfl, .refl, .inr ⟨h0, .inr ⟨text, hd, .inl rfl⟩⟩⟩
    rename_i lib hl
    -- the fallback: one step of `FallsBack`, then the recursive call
    rcases dynamicLibrary_outcomes fuel _ _ _ with h | ⟨e, s₀, p, he, hrun, hrest⟩
    · exact .inl h
    · refine .inr ⟨e, s₀, p, he, .head ?_ hrun, hrest⟩
      exact ⟨_, text, file, content, lib, Prod.ext rfl h0, Prod.ext rfl hd, hf, hc, hl, rfl⟩

/-- An instance holds a non-NULL handle that `dlopen` gave, with the mode asked for
(`RTLD_LAZY` when none was), for the path the instance reports; that path is the one given, or
one reached from it by linker-script fallbacks. So `path()` names the library opened, which
after a fallback is not the path passed to the constructor. -/
theorem dynamicLibrary_opens : ∀ {fuel : Nat} {s s' : σ} {path : Option String}
    {mode : Option Nat} {dl : DlInstance}, dynamicLibrary ld fuel s path mode = (s', .ok dl) →
    ∃ s₀, Relation.ReflTransGen (FallsBack ld (mode.getD ld.rtldLazy)) (s, path) (s₀, dl.path) ∧
      ld.dlopen s₀ dl.path (mode.getD ld.rtldLazy) = (s', dl.handle) ∧ dl.handle ≠ 0
  | 0, _, _, _, _, _, e => by cases e
  | fuel+1, s, s', path, mode, dl, e => by
    unfold dynamicLibrary at e
    dsimp only at e
    split at e
    · rename_i h0
      cases e
      exact ⟨s, .refl, rfl, h0⟩
    -- the fallback: each step that fails ends the call with an error
    iterate 4 (split at e; cases e)
    rename_i h0 _ text hd _ file hf _ content hc _ lib hl
    obtain ⟨s₀, hrun, hopen, hne⟩ := dynamicLibrary_opens e
    refine ⟨s₀, .head ?_ hrun, hopen, hne⟩
    exact ⟨_, text, file, content, lib, Prod.ext rfl (not_not.mp h0), Prod.ext rfl hd, hf, hc, hl,
      rfl⟩

def symbolRetrievalError (err : Option String) : JsError :=
  { name := "Error", message := "Dynamic Symbol Retrieval Error: " ++ err.getD "null" }

structure SymbolPtr where
  addr : Nat
  name : String
  deriving DecidableEq, Repr

/-- `dl.get(symbol)`: `dlsym`, and on NULL an error with the text of `dlerror()`. -/
def DlInstance.get (dl : DlInstance) (s : σ) (symbol : String) : σ × Except JsError SymbolPtr :=
  let ptr := ld.dlsym s dl.handle symbol
  if ptr.2 = 0 then ((ld.dlerror ptr.1).1, .error (symbolRetrievalError (ld.dlerror ptr.1).2))
  else (ptr.1, .ok ⟨ptr.2, symbol⟩)

theorem DlInstance.get_ok {dl : DlInstance} {s s' : σ} {symbol : String} {p : SymbolPtr}
    (e : dl.get ld s symbol = (s', .ok p)) :
    p.addr ≠ 0 ∧ p.name = symbol ∧ (ld.dlsym s dl.handle symbol) = (s', p.addr) := by
  unfold DlInstance.get at e
  dsimp only at e
  split_ifs at e with h0
  · simp at e
  simp only [Prod.mk.injEq, Except.ok.injEq] at e
  obtain ⟨rfl, rfl⟩ := e
  exact ⟨h0, rfl, rfl⟩

theorem DlInstance.get_error {dl : DlInstance} {s s' : σ} {symbol : String} {e : JsError}
    (he : dl.get ld s symbol = (s', .error e)) : ∃ text, e = symbolRetrievalError text := by
  unfold DlInstance.get at he
  dsimp only at he
  split_ifs at he
  · cases he
    exact ⟨_, rfl⟩
  · cases he

end

/-- A loader for concrete runs, whose state is the text the next `dlerror()` returns: a `null`
path opens the program (handle 2), and `/lib/libm.so.6` opens (handle 1); `libm.so` and
`libself.so` are linker scripts, which `dlopen` reports as having an invalid ELF header, the
first naming the real library and the second itself; any other path is missing. The program
exports `abs` and `printf`, and `libm` exports `ceil`. -/
def exampleLoader : Loader (Option String) where
  dlopen s path _ := match path with
    | none => (s, 2)
    | some p =>
      if p = "/lib/libm.so.6" then (s, 1)
      else if p = "libm.so" ∨ p = "libself.so" then (some (p ++ ": invalid ELF header"), 0)
      else (some (p ++ ": cannot open shared object file: No such file or directory"), 0)
  dlsym s handle symbol :=
    if handle = 2 ∧ symbol = "abs" then (s, 48)
    else if handle = 2 ∧ symbol = "printf" then (s, 32)
    else if handle = 1 ∧ symbol = "ceil" then (s, 16)
    else (some ("undefined symbol: " ++ symbol), 0)
  dlerror s := (none, s)
  readFile _ path :=
    if path = "libm.so" then
      .ok "/* GNU ld script */\nGROUP ( /lib/libm.so.6 AS_NEEDED ( /lib/libmvec.so.1 ) )\n"
    else if path = "libself.so" then .ok "GROUP ( libself.so )\n"
    else .error { name := "Error", code := "ENOENT",
                  message := "ENOENT: no such file or directory, open '" ++ path ++ "'" }
  rtldLazy := 1
  rtldNow := 2

theorem libm_opened_through_script :
    dynamicLibrary exampleLoader 2 none (some "libm.so") none =
      (none, .ok ⟨some "/lib/libm.so.6", 1⟩) ∧
    ∃ s₀, Relation.ReflTransGen (FallsBack exampleLoader 1) (none, some "libm.so")
        (s₀, some "/lib/libm.so.6") ∧
      exampleLoader.dlopen s₀ (some "/lib/libm.so.6") 1 = (none, 1) ∧ 1 ≠ 0 :=
  ⟨rfl, @dynamicLibrary_opens _ exampleLoader 2 none none (some "libm.so") none
    ⟨some "/lib/libm.so.6", 1⟩ rfl⟩

theorem self_group_overflows : ∀ fuel s mode,
    (dynamicLibrary exampleLoader fuel s (some "libself.so") mode).2 = .error rangeError
  | 0, _, _ => rfl
  | fuel+1, _, mode => self_group_overflows fuel none (some (mode.getD 1))

/-- `DynamicLibrary('libfoo.so')` with no such file: `dlerror()` reports it missing, with no
word of an ELF header, yet the text starts with `libfoo.so:`, so the fallback reads the file and
the `ENOENT` of `readFileSync` escapes in place of a `Dynamic Linking Error`, at every stack
depth. A linker script whose `GROUP` names itself recurses until the stack is exhausted,
whatever its depth. -/
theorem dynamicLibrary_fallback_escapes :
    (exampleLoader.dlerror (exampleLoader.dlopen none (some "libfoo.so") 1).1).2 =
      some "libfoo.so: cannot open shared object file: No such file or directory" ∧
    (∀ fuel, (dynamicLibrary exampleLoader (fuel + 1) none (some "libfoo.so") none).2 =
      .error { name := "Error", code := "ENOENT",
               message := "ENOENT: no such file or directory, open 'libfoo.so'" }) ∧
    ∀ fuel, (dynamicLibrary exampleLoader fuel none (some "libself.so") none).2 =
      .error rangeError :=
  ⟨rfl, fun _ => rfl, fun fuel => self_group_overflows fuel none none⟩

end NodeFfi
