import OnnxCorpus.Tensor

/-!
# The product of dims

The product of the dims of a tensor is taken in 64 bits from left to right. It exists exactly if
the product of each of their first few dims, as natural numbers, stays there
(`product?_eq_some_iff`), so a zero helps only where no product before it is too large.
-/

namespace OnnxCorpus

/-- The number of elements of a tensor with some dims, however large. -/
def elementCount (dims : List UInt64) : Nat :=
  dims.foldr (fun d count => d.toNat * count) 1

@[simp] theorem elementCount_nil : elementCount [] = 1 := rfl

@[simp] theorem elementCount_cons (d : UInt64) (rest : List UInt64) :
    elementCount (d :: rest) = d.toNat * elementCount rest := rfl

/-- The product of some first dims leaves 64 bits. -/
def ProductOverflows (dims : List UInt64) : Prop :=
  ∃ first, first <+: dims ∧ UInt64.size ≤ elementCount first

theorem foldlM_product_eq_some_iff {dims : List UInt64} {before n : Nat}
    (small : before < UInt64.size) :
    dims.foldlM (fun product d =>
        if product * d.toNat < UInt64.size then some (product * d.toNat) else none) before =
        some n ↔
      (∀ first, first <+: dims → before * elementCount first < UInt64.size) ∧
        n = before * elementCount dims := by
  induction dims generalizing before with
  | nil => simp [small, eq_comm]
  | cons d rest ih =>
    have first (p : List UInt64 → Prop) :
        (∀ first, first <+: d :: rest → p first) ↔
          p [] ∧ ∀ first, first <+: rest → p (d :: first) := by
      simp only [List.prefix_cons_iff]
      grind
    -- A nonempty prefix multiplies on from the next product, for which `ih` holds if it is small.
    rw [List.foldlM_cons, first]
    by_cases fits : before * d.toNat < UInt64.size
    · simp [fits, small, ih fits, Nat.mul_assoc]
    · have leaves : ¬before * elementCount [d] < UInt64.size := by simpa using fits
      simp only [if_neg fits, Option.bind_eq_bind, Option.bind_none, reduceCtorEq, false_iff]
      exact fun fine => leaves (fine.1.2 [] List.nil_prefix)

theorem product?_eq_some_iff {dims : List UInt64} {n : Nat} :
    product? dims = some n ↔ ¬ProductOverflows dims ∧ n = elementCount dims := by
  rw [product?, foldlM_product_eq_some_iff (by decide), ProductOverflows]
  simp

theorem product?_eq_none_iff {dims : List UInt64} : product? dims = none ↔ ProductOverflows dims := by
  cases product : product? dims with
  | none =>
    refine iff_of_true rfl (Classical.byContradiction fun fine => ?_)
    have found : product? dims = some (elementCount dims) := product?_eq_some_iff.2 ⟨fine, rfl⟩
    rw [product] at found
    cases found
  | some n =>
    have fine := (product?_eq_some_iff.1 product).1
    simp [fine]

end OnnxCorpus
