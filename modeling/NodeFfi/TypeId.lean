import Mathlib.Data.Nat.Digits

/-! The ids `getId` of `lib/foreign_function_var.js` gives type objects,
`((counter++ * 0x10000) | 0).toString(16)`, and the variadic cache keys, which join ids with
no separator. The ids repeat after 65536 tags, and from the seventeenth on one id can be the
concatenation of others. -/
namespace NodeFfi

/-- `x | 0`: `x` as a signed 32-bit integer. -/
def toInt32 (x : Nat) : Int :=
  if x % 2^32 < 2^31 then (x % 2^32 : Nat) else ((x % 2^32 : Nat) : Int) - 2^32

/-- `Number.prototype.toString(16)` of an integer. -/
def toHex (x : Int) : String :=
  (if x < 0 then "-" else "") ++ String.mk (Nat.toDigits 16 x.natAbs)

/-- The id of the object tagged when `counter` is `c`. -/
def idString (c : Nat) : String := toHex (toInt32 (c * 0x10000))

/-- The 65537th tagged object gets the id of the first. -/
theorem idString_wrap (c : Nat) : idString (c + 0x10000) = idString c := by
  have h : (c + 0x10000) * 0x10000 % 2^32 = c * 0x10000 % 2^32 := by omega
  simp only [idString, toInt32, h]

theorem toDigitsCore_ne_nil (b : Nat) :
    ∀ fuel n ds, ds ≠ [] → Nat.toDigitsCore b fuel n ds ≠ []
  | 0, _, _, h => h
  | fuel+1, n, ds, _ => by
    unfold Nat.toDigitsCore
    dsimp only
    split
    · simp
    · exact toDigitsCore_ne_nil b fuel _ _ (List.cons_ne_nil _ _)

theorem idString_ne_nil (c : Nat) : (idString c).data ≠ [] := by
  simp only [idString, toHex, String.data_append, ne_eq, List.append_eq_nil, not_and]
  intro _
  unfold Nat.toDigits Nat.toDigitsCore
  dsimp only
  split
  · simp
  · exact toDigitsCore_ne_nil 16 _ _ _ (List.cons_ne_nil _ _)

/-- Among the first sixteen ids ("0", then "10000" to "f0000") none is a prefix of another. -/
theorem idString_prefix_free :
    ∀ a < 16, ∀ b < 16, (idString a).data <+: (idString b).data → a = b := by
  decide

theorem idString_inj_of_lt {a b : Nat} (ha : a < 16) (hb : b < 16) (e : idString a = idString b) :
    a = b :=
  idString_prefix_free a ha b hb ⟨[], by rw [List.append_nil, e]⟩

/-- The seventeenth id is the second followed by the first. -/
example : idString 16 = idString 1 ++ idString 0 := by decide

theorem string_join_data (l : List String) : (String.join l).data = (l.map String.data).flatten := by
  suffices ∀ acc : String, (l.foldl (· ++ ·) acc).data = acc.data ++ (l.map String.data).flatten by
    simpa [String.join] using this ""
  induction l with
  | nil => simp
  | cons s l ih => intro acc; simp [ih, String.data_append]

/-- Words of a prefix-free code, none empty, concatenate injectively. -/
theorem flatten_inj_of_prefix_free {α : Type} {C : List α → Prop} (hne : ∀ a, C a → a ≠ [])
    (hpf : ∀ a b, C a → C b → a <+: b → a = b) :
    ∀ xs ys : List (List α), (∀ a ∈ xs, C a) → (∀ b ∈ ys, C b) → xs.flatten = ys.flatten → xs = ys
  | [], [], _, _, _ => rfl
  | [], b :: _, _, hy, e => absurd (List.append_eq_nil.mp e.symm).1 (hne b (hy b (.head _)))
  | a :: _, [], hx, _, e => absurd (List.append_eq_nil.mp e).1 (hne a (hx a (.head _)))
  | a :: xs, b :: ys, hx, hy, e => by
    simp only [List.flatten_cons] at e
    have ha := hx a (.head _)
    have hb := hy b (.head _)
    have hab : a = b := by
      rcases List.prefix_or_prefix_of_prefix (List.prefix_append a xs.flatten)
          (e ▸ List.prefix_append b ys.flatten) with h | h
      exacts [hpf a b ha hb h, (hpf b a hb ha h).symm]
    subst hab
    rw [flatten_inj_of_prefix_free hne hpf xs ys (fun c hc => hx c (.tail _ hc))
      (fun c hc => hy c (.tail _ hc)) (List.append_cancel_left e)]

end NodeFfi
