import Mathlib.Data.Nat.Basic
import OnnxCorpus.Proofs.Tensor.Product

/-!
# Constructing tensors

`Payload.MadeOf` says how many elements of a type a payload is made of, and how many bytes it has
left over. `Tensor.Outcome` gives the outcome of constructing a tensor from that: a storage that
cannot hold the type is refused first, then the product of the dims may leave 64 bits, and then the
payload has to be made of exactly as many elements as the dims say. `Tensor.new` has that outcome
and no other (`Tensor.new_eq_iff`).
-/

namespace OnnxCorpus

/-! ### Elements of a payload -/

namespace Payload

/-- A payload is made of a number of elements of a type and of some bytes after them, which raw
storage has where they are too few for another element. -/
inductive MadeOf (type : ElementType) : Payload → Nat → Nat → Prop
  | float (values : List Binary32) : MadeOf type (.float values) values.length 0
  | double (values : List Binary64) : MadeOf type (.double values) values.length 0
  | int32 (values : List Int32) : MadeOf type (.int32 values) values.length 0
  | int64 (values : List Int64) : MadeOf type (.int64 values) values.length 0
  | uint64 (values : List UInt64) : MadeOf type (.uint64 values) values.length 0
  | string (values : List (List UInt8)) : MadeOf type (.string values) values.length 0
  | raw {bytes : List UInt8} {width count left : Nat} (wide : type.byteWidth = some width)
      (size : bytes.length = count * width + left) (short : left < width) :
      MadeOf type (.raw bytes) count left

variable {type : ElementType} {payload : Payload} {count left : Nat}

theorem exists_madeOf (held : payload.storage.accepts type) :
    ∃ left, payload.MadeOf type (payload.count type) left ∧
      (payload.isRagged type = true ↔ left ≠ 0) := by
  cases payload with
  | float values => exact ⟨0, .float values, by simp [isRagged]⟩
  | double values => exact ⟨0, .double values, by simp [isRagged]⟩
  | int32 values => exact ⟨0, .int32 values, by simp [isRagged]⟩
  | int64 values => exact ⟨0, .int64 values, by simp [isRagged]⟩
  | uint64 values => exact ⟨0, .uint64 values, by simp [isRagged]⟩
  | string values => exact ⟨0, .string values, by simp [isRagged]⟩
  | raw bytes =>
    obtain ⟨width, wide⟩ := Option.isSome_iff_exists.1 held
    have positive : 0 < width := ElementType.byteWidth_pos wide
    have counted : (Payload.raw bytes).count type = bytes.length / width := by simp [count, wide]
    refine ⟨bytes.length % width, .raw wide ?_ (Nat.mod_lt _ positive), by simp [isRagged, wide]⟩
    rw [counted]
    exact (Nat.div_add_mod' bytes.length width).symm

/-- There is one way to part a payload into elements and the bytes after them. -/
theorem MadeOf.unique {count' left' : Nat} (made : payload.MadeOf type count left)
    (made' : payload.MadeOf type count' left') : count = count' ∧ left = left' := by
  cases made with
  | float | double | int32 | int64 | uint64 | string =>
    cases made'
    exact ⟨rfl, rfl⟩
  | @raw bytes width count left wide size short =>
    cases made' with
    | @raw _ width' _ _ wide' size' short' =>
      obtain rfl : width = width' := Option.some.inj (wide.symm.trans wide')
      have parts {n m : Nat} (size : bytes.length = n * width + m) (short : m < width) :
          n = bytes.length / width ∧ m = bytes.length % width := by
        have both : bytes.length / width = n ∧ bytes.length % width = m :=
          (Nat.div_mod_unique (by omega)).2 ⟨by rw [size, Nat.mul_comm, Nat.add_comm], short⟩
        exact ⟨both.1.symm, both.2.symm⟩
      obtain ⟨rfl, rfl⟩ := parts size short
      obtain ⟨rfl, rfl⟩ := parts size' short'
      exact ⟨rfl, rfl⟩

/-- The checks of a count pass exactly if the payload is made of that many elements and nothing
else. -/
theorem madeOf_iff (held : payload.storage.accepts type) :
    payload.MadeOf type count 0 ↔ payload.count type = count ∧ payload.isRagged type = false := by
  obtain ⟨left, made, ragged⟩ := exists_madeOf held
  rw [← Bool.not_eq_true, ragged, not_not]
  constructor
  · exact fun made' => made.unique made'
  · rintro ⟨rfl, rfl⟩
    exact made

end Payload

/-! ### Outcomes -/

namespace Tensor

variable {name : String} {type : ElementType} {dims : List UInt64} {payload : Payload}

theorem new_eq_ok_iff {t : Tensor} :
    new name type dims payload = .ok t ↔
      (payload.storage.accepts type ∧ ¬ProductOverflows dims ∧
        payload.count type = elementCount dims ∧ payload.isRagged type = false) ∧
      ⟨name, type, dims, payload⟩ = t := by
  rw [new]
  cases payload.storage.accepts type with
  | false => simp
  | true =>
    cases product : product? dims with
    | none => simp [product?_eq_none_iff.1 product]
    | some expected =>
      obtain ⟨fine, rfl⟩ := product?_eq_some_iff.1 product
      by_cases complete : payload.count type = elementCount dims ∧ payload.isRagged type = false
      · simp [complete.1, complete.2, fine]
      · have refused : elementCount dims ≠ payload.count type ∨ payload.isRagged type = true := by
          rw [ne_comm, ← Bool.not_eq_false, ← not_and_or]
          exact complete
        simp [refused, complete]

theorem new_eq_error_iff {cause : TensorError} :
    new name type dims payload = .error (.error cause) ↔
      (¬payload.storage.accepts type ∧ .storageMismatch name type payload.storage = cause) ∨
      (payload.storage.accepts type ∧ ¬ProductOverflows dims ∧
        (elementCount dims ≠ payload.count type ∨ payload.isRagged type) ∧
        .elementCount name dims (elementCount dims) (payload.count type) = cause) := by
  rw [new]
  cases payload.storage.accepts type with
  | false => simp
  | true =>
    cases product : product? dims with
    | none => simp [product?_eq_none_iff.1 product]
    | some expected =>
      obtain ⟨fine, rfl⟩ := product?_eq_some_iff.1 product
      by_cases wrong : elementCount dims ≠ payload.count type ∨ payload.isRagged type <;>
        simp [fine, wrong]

theorem new_eq_crash_iff {text : String} :
    new name type dims payload = .error (.crash text) ↔
      text = Fault.overflow ∧ payload.storage.accepts type ∧ ProductOverflows dims := by
  rw [← product?_eq_none_iff, new]
  cases payload.storage.accepts type with
  | false => simp
  | true =>
    cases product? dims with
    | none => simp [eq_comm]
    | some expected =>
      simp only [if_true, reduceCtorEq, and_false, iff_false]
      split <;> simp

/-- What constructing a tensor gives. The product of the dims is exact, but too large if that of
some first of them is, even where a zero comes later; the count that is reported leaves out bytes
that are too few for an element. -/
inductive Outcome (name : String) (type : ElementType) (dims : List UInt64) (payload : Payload) :
    Except (Fault TensorError) Tensor → Prop
  | mismatch (foreign : ¬payload.storage.accepts type) :
      Outcome name type dims payload
        (.error (.error (.storageMismatch name type payload.storage)))
  | overflow (held : payload.storage.accepts type) (large : ProductOverflows dims) :
      Outcome name type dims payload (.error (.crash Fault.overflow))
  | tensor (held : payload.storage.accepts type) (small : ¬ProductOverflows dims)
      (complete : payload.MadeOf type (elementCount dims) 0) :
      Outcome name type dims payload (.ok ⟨name, type, dims, payload⟩)
  | count {actual left : Nat} (held : payload.storage.accepts type)
      (small : ¬ProductOverflows dims) (other : ¬payload.MadeOf type (elementCount dims) 0)
      (made : payload.MadeOf type actual left) :
      Outcome name type dims payload
        (.error (.error (.elementCount name dims (elementCount dims) actual)))

/-- Constructing a tensor has the outcome that its storage, its dims and its payload call for. -/
theorem new_eq_iff {outcome : Except (Fault TensorError) Tensor} :
    new name type dims payload = outcome ↔ Outcome name type dims payload outcome := by
  have miscounted (held : payload.storage.accepts type)
      (other : ¬payload.MadeOf type (elementCount dims) 0) :
      elementCount dims ≠ payload.count type ∨ payload.isRagged type = true := by
    rw [Payload.madeOf_iff held, not_and_or, Bool.not_eq_false] at other
    exact other.imp_left Ne.symm
  constructor
  · rintro rfl
    by_cases held : payload.storage.accepts type
    · by_cases large : ProductOverflows dims
      · rw [new_eq_crash_iff.2 ⟨rfl, held, large⟩]
        exact .overflow held large
      · by_cases complete : payload.MadeOf type (elementCount dims) 0
        · rw [new_eq_ok_iff.2 ⟨⟨held, large, (Payload.madeOf_iff held).1 complete⟩, rfl⟩]
          exact .tensor held large complete
        · obtain ⟨left, made, -⟩ := Payload.exists_madeOf held
          rw [new_eq_error_iff.2 (.inr ⟨held, large, miscounted held complete, rfl⟩)]
          exact .count held large complete made
    · rw [new_eq_error_iff.2 (.inl ⟨held, rfl⟩)]
      exact .mismatch held
  · intro called
    cases called with
    | mismatch foreign => exact new_eq_error_iff.2 (.inl ⟨foreign, rfl⟩)
    | overflow held large => exact new_eq_crash_iff.2 ⟨rfl, held, large⟩
    | tensor held small complete =>
      exact new_eq_ok_iff.2 ⟨⟨held, small, (Payload.madeOf_iff held).1 complete⟩, rfl⟩
    | count held small other made =>
      obtain ⟨_, made', -⟩ := Payload.exists_madeOf held
      obtain ⟨rfl, -⟩ := made.unique made'
      exact new_eq_error_iff.2 (.inr ⟨held, small, miscounted held other, rfl⟩)

/-- A zero makes up only for the dims after it, and bytes that fill no element are refused though
the count is right. -/
example :
    new "t" .f32 [2 ^ 63, 2, 0] (.float []) = .error (.crash Fault.overflow) ∧
      new "t" .f32 [0, 2 ^ 63, 2] (.float []) = .ok ⟨"t", .f32, [0, 2 ^ 63, 2], .float []⟩ ∧
      new "t" .u16 [1] (.raw [1, 2, 3]) = .error (.error (.elementCount "t" [1] 1 1)) := by
  decide +kernel

end Tensor

end OnnxCorpus
