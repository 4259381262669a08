import OnnxCorpus.Proofs.Wire.ReadBack

/-!
# Fields are told apart by their bytes

Two fields that a schema declares for one type of message and that begin the same bytes are the
same field (`Declared.eq_of_write`), so that a message has the bytes of no other message
(`eq_of_writeAll_eq`). Nothing is read here, and neither the lengths nor the nesting of messages
are bounded.
-/

namespace OnnxCorpus.Wire

/-! ### Numbers -/

/-- A number is read back from its bytes with as many groups as it could need. -/
theorem Varint.write_append_inj {m n : Nat} {rest rest' : List UInt8}
    (same : write m ++ rest = write n ++ rest') : m = n ∧ rest = rest' := by
  have enough {k : Nat} (below : k ≤ max m n) : k >>> (7 * (max m n + 1)) = 0 := by
    apply Nat.shiftRight_eq_zero
    calc k < 2 ^ k := Nat.lt_two_pow_self
      _ ≤ 2 ^ (7 * (max m n + 1)) := Nat.pow_le_pow_right (by decide) (by omega)
  have first := readGroups_write (max m n) m rest
  have second := readGroups_write (max m n) n rest'
  rw [if_pos (enough (Nat.le_max_left m n))] at first
  rw [if_pos (enough (Nat.le_max_right m n)), ← same, first] at second
  simp only [Option.some.injEq, Prod.mk.injEq] at second
  refine ⟨second.1, ?_⟩
  have inputs := congrArg Input.bytes second.2
  rwa [Input.bytes_ofBytes, Input.bytes_ofBytes] at inputs

theorem Scalar.write_append_inj {value value' : Scalar} {rest rest' : List UInt8}
    (kind : value.kind = value'.kind) (same : value.write ++ rest = value'.write ++ rest') :
    value = value' ∧ rest = rest' := by
  cases value with
  | varint n =>
    cases value' <;> cases kind
    obtain ⟨number, rest⟩ := Varint.write_append_inj same
    exact ⟨by rw [UInt64.toNat_inj.1 number], rest⟩
  | fixed32 n =>
    cases value' <;> cases kind
    rename_i n'
    obtain ⟨bytes, rest⟩ := List.append_inj same (by simp [Scalar.write])
    have small (x : UInt32) : x.toNat >>> (8 * 4) = 0 := by
      have := x.toNat_lt
      omega
    have number := LittleEndian.eq_of_write_eq (small n) (small n') bytes
    exact ⟨by rw [UInt32.toNat_inj.1 number], rest⟩
  | fixed64 n =>
    cases value' <;> cases kind
    rename_i n'
    obtain ⟨bytes, rest⟩ := List.append_inj same (by simp [Scalar.write])
    have small (x : UInt64) : x.toNat >>> (8 * 8) = 0 := by
      have := x.toNat_lt
      omega
    have number := LittleEndian.eq_of_write_eq (small n) (small n') bytes
    exact ⟨by rw [UInt64.toNat_inj.1 number], rest⟩

/-! ### Keys and lengths -/

theorem WireType.code_injective {type type' : WireType} (same : type.code = type'.code) :
    type = type' :=
  Option.some.inj <| by rw [← ofCode?_code, same, ofCode?_code]

theorem ScalarKind.wireType_ne_lengthDelimited (kind : ScalarKind) :
    kind.wireType ≠ .lengthDelimited := by
  cases kind <;> decide

theorem writeKey_append_inj {number number' : Nat} {type type' : WireType}
    {rest rest' : List UInt8}
    (same : writeKey number type ++ rest = writeKey number' type' ++ rest') :
    number = number' ∧ type = type' ∧ rest = rest' := by
  obtain ⟨keys, rest⟩ := Varint.write_append_inj same
  have low : type.code = type'.code := by
    rw [← WireType.code_mod number type, keys, WireType.code_mod]
  exact ⟨by omega, WireType.code_injective low, rest⟩

/-- After equal keys, equal lengths delimit equal bytes. -/
theorem delimit_append_inj {number : Nat} {value value' rest rest' : List UInt8}
    (same : delimit number value ++ rest = delimit number value' ++ rest') :
    value = value' ∧ rest = rest' := by
  simp only [delimit, List.append_assoc] at same
  obtain ⟨-, -, same⟩ := writeKey_append_inj same
  obtain ⟨length, same⟩ := Varint.write_append_inj same
  exact List.append_inj same length

/-- Lists are told apart by their bytes if their items are, wherever the items end. -/
theorem eq_of_flatMap_eq {α : Type} {write : α → List UInt8} {xs ys : List α}
    (nonempty : ∀ a, write a ≠ [])
    (each : ∀ a ∈ xs, ∀ b ∈ ys, ∀ rest rest',
      write a ++ rest = write b ++ rest' → a = b ∧ rest = rest')
    (same : xs.flatMap write = ys.flatMap write) : xs = ys := by
  induction xs generalizing ys with
  | nil =>
    cases ys with
    | nil => rfl
    | cons b ys => simp [nonempty] at same
  | cons a xs ih =>
    cases ys with
    | nil => simp [nonempty] at same
    | cons b ys =>
      rw [List.flatMap_cons, List.flatMap_cons] at same
      obtain ⟨rfl, later⟩ := each a List.mem_cons_self b List.mem_cons_self _ _ same
      rw [ih (fun c member d member' =>
        each c (List.mem_cons_of_mem _ member) d (List.mem_cons_of_mem _ member')) later]

/-! ### Fields -/

namespace Field

variable {τ : Type} {schema : Schema τ} {type : τ} {f g : Field}

/-- The wire type in the key of a field. -/
def wireType : Field → WireType
  | scalar _ value => value.kind.wireType
  | packed .. | bytes .. | text .. | message .. => .lengthDelimited

theorem exists_write_eq (f : Field) :
    ∃ content, f.write = writeKey f.number f.wireType ++ content := by
  cases f <;> simp [write, delimit, number, wireType]

/-- Fields that begin the same bytes have the same key. -/
theorem key_eq_of_write {rest rest' : List UInt8} (same : f.write ++ rest = g.write ++ rest') :
    f.number = g.number ∧ f.wireType = g.wireType := by
  obtain ⟨content, written⟩ := f.exists_write_eq
  obtain ⟨content', written'⟩ := g.exists_write_eq
  rw [written, written', List.append_assoc, List.append_assoc] at same
  obtain ⟨number, wireType, -⟩ := writeKey_append_inj same
  exact ⟨number, wireType⟩

/-- A field of a number holds what a schema may declare for it. -/
def Holds (schema : Schema τ) (number : Nat) (f : Field) : FieldKind τ → Prop
  | .scalar kind => ∃ value, kind = value.kind ∧ f = .scalar number value
  | .scalars kind => (∃ value, kind = value.kind ∧ f = .scalar number value) ∨
      ∃ values, (∀ value ∈ values, value.kind = kind) ∧ f = .packed number values
  | .bytes => ∃ value, f = .bytes number value
  | .text => ∃ value, f = .text number value
  | .message inner => ∃ fields, (∀ f ∈ fields, Declared schema inner f) ∧
      f = .message number fields

theorem Declared.holds (declared : Declared schema type f) {spec : FieldSpec τ}
    (found : schema.field? type f.number = some spec) : f.Holds schema f.number spec.kind := by
  cases declared with
  | scalar here =>
    obtain rfl := Option.some.inj (here.symm.trans found)
    exact ⟨_, rfl, rfl⟩
  | element here =>
    obtain rfl := Option.some.inj (here.symm.trans found)
    exact .inl ⟨_, rfl, rfl⟩
  | packed here kinds =>
    obtain rfl := Option.some.inj (here.symm.trans found)
    exact .inr ⟨_, kinds, rfl⟩
  | bytes here | text here =>
    obtain rfl := Option.some.inj (here.symm.trans found)
    exact ⟨_, rfl⟩
  | message here inside =>
    obtain rfl := Option.some.inj (here.symm.trans found)
    exact ⟨_, inside, rfl⟩

/-- A declared field holds what the schema declares for a field that begins the same bytes. -/
theorem Declared.holds_of_write (declared : Declared schema type g) {rest rest' : List UInt8}
    (same : f.write ++ rest = g.write ++ rest') {spec : FieldSpec τ}
    (found : schema.field? type f.number = some spec) : g.Holds schema f.number spec.kind := by
  rw [(key_eq_of_write same).1] at found ⊢
  exact declared.holds found

theorem packed_append_inj {number : Nat} {values values' : List Scalar} {kind : ScalarKind}
    (kinds : ∀ value ∈ values, value.kind = kind) (kinds' : ∀ value ∈ values', value.kind = kind)
    {rest rest' : List UInt8}
    (same : (packed number values).write ++ rest = (packed number values').write ++ rest') :
    values = values' ∧ rest = rest' := by
  obtain ⟨elements, rest⟩ := delimit_append_inj same
  refine ⟨eq_of_flatMap_eq scalar_write_ne_nil ?_ elements, rest⟩
  intro value member value' member' _ _ begun
  exact Scalar.write_append_inj ((kinds value member).trans (kinds' value' member').symm) begun

/-- Declared fields that begin the same bytes are the same. -/
theorem Declared.eq_of_write (declared : Declared schema type f)
    (declared' : Declared schema type g) {rest rest' : List UInt8}
    (same : f.write ++ rest = g.write ++ rest') : f = g ∧ rest = rest' := by
  induction declared generalizing g rest rest' with
  | @scalar type number name value spec =>
    obtain ⟨value', kind, rfl⟩ := declared'.holds_of_write same spec
    simp only [write, List.append_assoc] at same
    obtain ⟨-, -, same⟩ := writeKey_append_inj same
    obtain ⟨rfl, rest⟩ := Scalar.write_append_inj kind same
    exact ⟨rfl, rest⟩
  | @element type number name value spec =>
    rcases declared'.holds_of_write same spec with ⟨value', kind, rfl⟩ | ⟨values', -, rfl⟩
    · simp only [write, List.append_assoc] at same
      obtain ⟨-, -, same⟩ := writeKey_append_inj same
      obtain ⟨rfl, rest⟩ := Scalar.write_append_inj kind same
      exact ⟨rfl, rest⟩
    · exact absurd (key_eq_of_write same).2 (ScalarKind.wireType_ne_lengthDelimited value.kind)
  | @packed type number name kind values spec kinds =>
    rcases declared'.holds_of_write same spec with ⟨value', -, rfl⟩ | ⟨values', kinds', rfl⟩
    · exact absurd (key_eq_of_write same).2.symm
        (ScalarKind.wireType_ne_lengthDelimited value'.kind)
    · obtain ⟨rfl, rest⟩ := packed_append_inj kinds kinds' same
      exact ⟨rfl, rest⟩
  | bytes spec =>
    obtain ⟨value', rfl⟩ := declared'.holds_of_write same spec
    obtain ⟨rfl, rest⟩ := delimit_append_inj same
    exact ⟨rfl, rest⟩
  | text spec =>
    obtain ⟨value', rfl⟩ := declared'.holds_of_write same spec
    obtain ⟨bytes, rest⟩ := delimit_append_inj same
    obtain rfl := utf8_injective bytes
    exact ⟨rfl, rest⟩
  | message spec _ ih =>
    obtain ⟨fields', inside, rfl⟩ := declared'.holds_of_write same spec
    obtain ⟨content, rest⟩ := delimit_append_inj same
    rw [writeAll_eq_flatMap, writeAll_eq_flatMap] at content
    obtain rfl := eq_of_flatMap_eq write_ne_nil
      (fun f member g member' _ _ begun => ih f member (inside g member') begun) content
    exact ⟨rfl, rest⟩

/-- Messages of declared fields are told apart by their bytes. -/
theorem eq_of_writeAll_eq {fields fields' : List Field}
    (declared : ∀ f ∈ fields, Declared schema type f)
    (declared' : ∀ f ∈ fields', Declared schema type f)
    (same : writeAll fields = writeAll fields') : fields = fields' := by
  rw [writeAll_eq_flatMap, writeAll_eq_flatMap] at same
  apply eq_of_flatMap_eq write_ne_nil _ same
  intro f member g member' _ _ begun
  exact (declared f member).eq_of_write (declared' g member') begun

end Field

end OnnxCorpus.Wire
