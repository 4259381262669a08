import Mathlib.Algebra.BigOperators.Group.List.Basic
import OnnxCorpus.Proofs.Wire.ReadBack

/-!
# Messages that are cut short

The bytes of a declared field delimit themselves (`Field.Declared.selfDelimiting`): what comes of
them does not depend on the bytes after them, not even which defect is found, and every cut inside
them is refused. So the first bytes of a message are refused unless they end between two of its
fields (`Field.parse_cut`), and a message that is refused is refused for the same defect whatever
fields come after it (`Field.parse_append_of_error`).
-/

namespace OnnxCorpus.Wire

open Fallible

variable {α β : Type}

/-- What begins a list and another one after it ends in the first or in the second. -/
theorem prefix_append_cases {cut xs ys : List α} (first : cut <+: xs ++ ys) :
    (cut <+: xs ∧ cut ≠ xs) ∨ ∃ rest, cut = xs ++ rest ∧ rest <+: ys := by
  obtain ⟨missing, split⟩ := first
  rcases List.append_eq_append_iff.1 split with ⟨_ | ⟨x, more⟩, rfl, rfl⟩ | ⟨rest, rfl, rfl⟩
  · exact .inr ⟨[], by simp⟩
  · exact .inl ⟨List.prefix_append _ _, by simp⟩
  · exact .inr ⟨rest, rfl, List.prefix_append _ _⟩

/-! ### Bytes that delimit themselves -/

/-- What comes of bytes is the same whatever bytes come after them, which are left over, and they
are refused wherever they are cut. -/
structure SelfDelimiting (read : Reader α) (bytes : List UInt8) : Prop where
  alone : ∃ outcome : Except Malformed α, ∀ rest,
    read (.ofBytes (bytes ++ rest)) = outcome.map fun a => (a, .ofBytes rest)
  refused : ∀ cut, cut <+: bytes → cut ≠ bytes → ∃ e, read (.ofBytes cut) = .error e

namespace SelfDelimiting

variable {read : Reader α} {bytes bytes' : List UInt8}

/-- A value that is read, or the defect for which none is, whatever comes after the bytes. -/
theorem cases (delimiting : SelfDelimiting read bytes) :
    (∃ a, ∀ rest, read (.ofBytes (bytes ++ rest)) = .ok (a, .ofBytes rest)) ∨
      ∃ e, ∀ rest, read (.ofBytes (bytes ++ rest)) = .error e := by
  obtain ⟨outcome, same⟩ := delimiting.alone
  cases outcome with
  | ok a => exact .inl ⟨a, same⟩
  | error e => exact .inr ⟨e, same⟩

theorem of_ok {a : α} (same : ∀ rest, read (.ofBytes (bytes ++ rest)) = .ok (a, .ofBytes rest))
    (refused : ∀ cut, cut <+: bytes → cut ≠ bytes → ∃ e, read (.ofBytes cut) = .error e) :
    SelfDelimiting read bytes :=
  ⟨⟨.ok a, same⟩, refused⟩

/-- A step that depends on the value of one before it. -/
theorem bind {f : α → Reader β} (first : SelfDelimiting read bytes)
    (second : ∀ a, (∀ rest, read (.ofBytes (bytes ++ rest)) = .ok (a, .ofBytes rest)) →
      SelfDelimiting (f a) bytes') :
    SelfDelimiting (fun input => read input >>= fun (a, rest) => f a rest) (bytes ++ bytes') := by
  rcases first.cases with ⟨a, done⟩ | ⟨e, failed⟩
  · obtain ⟨⟨outcome, same⟩, refused⟩ := second a done
    refine ⟨⟨outcome, fun rest => ?_⟩, fun cut begins proper => ?_⟩
    · rw [List.append_assoc, done]
      exact same rest
    · rcases prefix_append_cases begins with ⟨within, incomplete⟩ | ⟨more, rfl, within⟩
      · obtain ⟨e, failed⟩ := first.refused cut within incomplete
        exact ⟨e, by rw [failed]; rfl⟩
      · obtain ⟨e, failed⟩ := refused more within fun whole => proper (by rw [whole])
        exact ⟨e, by rw [done]; exact failed⟩
  · refine ⟨⟨.error e, fun rest => ?_⟩, fun cut begins _ => ?_⟩
    · rw [List.append_assoc, failed]
      rfl
    · rcases prefix_append_cases begins with ⟨within, incomplete⟩ | ⟨more, rfl, -⟩
      · obtain ⟨e, failed⟩ := first.refused cut within incomplete
        exact ⟨e, by rw [failed]; rfl⟩
      · exact ⟨e, by rw [failed]; rfl⟩

theorem map {g : α → β} (delimiting : SelfDelimiting read bytes) :
    SelfDelimiting (fun input => read input >>= fun (a, rest) => .ok (g a, rest)) bytes := by
  have pure (a : α) : SelfDelimiting (fun rest => .ok (g a, rest)) [] :=
    of_ok (fun rest => rfl) fun cut begins proper => absurd (List.prefix_nil.1 begins) proper
  simpa using delimiting.bind (f := fun a rest => .ok (g a, rest)) fun a _ => pure a

end SelfDelimiting

/-! ### Numbers and blocks -/

theorem Varint.toNat_group (n : Nat) : (n % 128 + 128).toUInt8.toNat = n % 128 + 128 := by
  simp [Nat.mod_eq_of_lt (show n % 128 + 128 < 256 by omega)]

theorem Varint.readGroups_cut {groups n : Nat} {cut : List UInt8} (begins : cut <+: write n)
    (proper : cut ≠ write n) : readGroups groups (.ofBytes cut) = none := by
  induction groups generalizing n cut with
  | zero => rfl
  | succ groups ih =>
    cases cut with
    | nil => rfl
    | cons b cut =>
      rw [write] at begins proper
      by_cases small : n < 128
      · rw [if_pos small] at begins proper
        obtain ⟨rfl, within⟩ := List.cons_prefix_cons.1 begins
        exact absurd (by rw [List.prefix_nil.1 within]) proper
      · rw [if_neg small] at begins proper
        obtain ⟨rfl, within⟩ := List.cons_prefix_cons.1 begins
        have none : readGroups groups (.ofBytes cut) = none :=
          ih within fun whole => proper (by rw [whole])
        have more : ¬(n % 128 + 128).toUInt8 < 128 := by
          rw [UInt8.lt_iff_toNat_lt, toNat_group]
          simp
        simp only [readGroups, Input.next?_ofBytes_cons, more, if_false, none]

namespace Reader

theorem varint_selfDelimiting (n : Nat) : SelfDelimiting varint (Varint.write n) where
  alone := by
    by_cases small : n < UInt64.size
    · exact ⟨.ok (.ofNat n), fun rest => varint_write small rest⟩
    · refine ⟨.error ⟨[], .varint⟩, fun rest => ?_⟩
      rw [varint, Varint.read_write, if_neg small]
      rfl
  refused cut begins proper := by
    simp [varint, Varint.read, Varint.readGroups_cut begins proper, fail]

theorem exactly_selfDelimiting (bytes : List UInt8) :
    SelfDelimiting (exactly bytes.length) bytes := by
  refine .of_ok (exactly_append bytes) fun cut begins proper => ?_
  have short : ¬bytes.length ≤ cut.length := fun long => proper (begins.eq_of_length_le long)
  simp [exactly, Input.take?, short, fail]

/-- After a length that was read comes a value of that length. -/
theorem length_selfDelimiting {f : UInt64 → Reader α} {bytes : List UInt8}
    (value : bytes.length < UInt64.size → SelfDelimiting (f (.ofNat bytes.length)) bytes) :
    SelfDelimiting (fun input => varint input >>= fun (length, rest) => f length rest)
      (Varint.write bytes.length ++ bytes) := by
  refine (varint_selfDelimiting _).bind fun length read => ?_
  obtain ⟨small, same⟩ := varint_write_iff.1 (read [])
  obtain rfl := congrArg Prod.fst same
  exact value small

theorem block_selfDelimiting (bytes : List UInt8) :
    SelfDelimiting block (Varint.write bytes.length ++ bytes) := by
  refine length_selfDelimiting (f := fun length => exactly length.toNat) fun small => ?_
  rw [UInt64.toNat_ofNat_of_lt' small]
  exact exactly_selfDelimiting bytes

theorem scalar_selfDelimiting (value : Scalar) :
    SelfDelimiting (scalar value.kind) value.write := by
  cases value with
  | varint n => exact (varint_selfDelimiting n.toNat).map
  | fixed32 n =>
    have bytes := exactly_selfDelimiting (LittleEndian.write 4 n.toNat)
    rw [LittleEndian.length_write] at bytes
    exact bytes.map (g := fun bytes => Scalar.fixed32 (.ofNat (LittleEndian.read bytes)))
  | fixed64 n =>
    have bytes := exactly_selfDelimiting (LittleEndian.write 8 n.toNat)
    rw [LittleEndian.length_write] at bytes
    exact bytes.map (g := fun bytes => Scalar.fixed64 (.ofNat (LittleEndian.read bytes)))

theorem key_selfDelimiting {number : Nat} (positive : 0 < number)
    (small : number * 8 + 7 < UInt32.size) (type : WireType) :
    SelfDelimiting key (writeKey number type) := by
  refine .of_ok (key_write positive small type) fun cut begins proper => ?_
  obtain ⟨e, failed⟩ := (varint_selfDelimiting _).refused cut begins proper
  exact ⟨e, by rw [key, failed]; rfl⟩

/-! ### Lists of items -/

section Items

variable {item : Reader α} {write : β → List UInt8} {bs : List β}

/-- What comes of the items that are written does not depend on the bytes after them, which are
read on from. -/
theorem itemsUpTo_append (alone : ∀ b ∈ bs, SelfDelimiting item (write b))
    (nonempty : ∀ b ∈ bs, write b ≠ []) :
    ∃ outcome : Except Malformed (List α), ∀ fuel limit rest, limit ≤ rest.length →
      itemsUpTo item limit (bs.length + fuel) (.ofBytes (bs.flatMap write ++ rest)) =
        outcome >>= fun as =>
          itemsUpTo item limit fuel (.ofBytes rest) >>= fun (more, left) =>
            .ok (as ++ more, left) := by
  -- Each item takes one of the fuel, so that what is left of it is the same for any bytes after.
  induction bs with
  | nil =>
    refine ⟨.ok [], fun fuel limit rest within => ?_⟩
    simp only [List.length_nil, Nat.zero_add, List.flatMap_nil, List.nil_append, ok_bind]
    cases itemsUpTo item limit fuel (.ofBytes rest) <;> rfl
  | cons b bs ih =>
    obtain ⟨here, later⟩ := List.forall_mem_cons.1 alone
    obtain ⟨present, presents⟩ := List.forall_mem_cons.1 nonempty
    have unread (limit rest) (within : limit ≤ rest.length) :
        ¬(Input.ofBytes (write b ++ (bs.flatMap write ++ rest))).size ≤ limit := by
      have := List.length_pos_iff.2 present
      simp only [Input.size_ofBytes, List.length_append]
      omega
    rcases here.cases with ⟨a, done⟩ | ⟨e, failed⟩
    · obtain ⟨outcome, same⟩ := ih later presents
      refine ⟨outcome.map (a :: ·), fun fuel limit rest within => ?_⟩
      rw [List.length_cons, Nat.succ_add, List.flatMap_cons, List.append_assoc, itemsUpTo]
      simp only [if_neg (unread limit rest within), done, ok_bind, same fuel limit rest within]
      cases outcome with
      | error e => rfl
      | ok as => cases itemsUpTo item limit fuel (.ofBytes rest) <;> rfl
    · refine ⟨.error e, fun fuel limit rest within => ?_⟩
      rw [List.length_cons, Nat.succ_add, List.flatMap_cons, List.append_assoc, itemsUpTo]
      simp only [if_neg (unread limit rest within), failed, error_bind]

theorem itemsUpTo_of_le {limit fuel : Nat} {input : Input} (full : input.size ≤ limit) :
    itemsUpTo item limit fuel input = .ok ([], input) := by
  cases fuel <;> simp [itemsUpTo, full]

theorem itemsUpTo_of_error {limit fuel : Nat} {input : Input} {e : Malformed}
    (unread : limit < input.size) (enough : 0 < fuel) (failed : item input = .error e) :
    itemsUpTo item limit fuel input = .error e := by
  obtain ⟨fuel, rfl⟩ : ∃ less, fuel = less + 1 := ⟨fuel - 1, by omega⟩
  simp only [itemsUpTo, if_neg (Nat.not_le_of_lt unread), failed, error_bind]

/-- The items that are written and then the bytes after them, for which fuel enough is left. -/
theorem items_append (item : Reader α) (alone : ∀ b ∈ bs, SelfDelimiting item (write b))
    (nonempty : ∀ b ∈ bs, write b ≠ []) :
    ∃ outcome : Except Malformed (List α), ∀ limit rest, limit ≤ rest.length →
      ∃ fuel, rest.length - limit ≤ fuel ∧
        items item limit (.ofBytes (bs.flatMap write ++ rest)) =
          outcome >>= fun as =>
            itemsUpTo item limit fuel (.ofBytes rest) >>= fun (more, left) =>
              .ok (as ++ more, left) := by
  obtain ⟨outcome, same⟩ := itemsUpTo_append alone nonempty
  refine ⟨outcome, fun limit rest within => ?_⟩
  have enough : bs.length ≤ (bs.flatMap write).length := by
    rw [List.length_flatMap, ← List.length_map (fun b => (write b).length)]
    refine List.length_le_sum_of_one_le _ (List.forall_mem_map.2 fun b member => ?_)
    exact List.length_pos_iff.2 (nonempty b member)
  refine ⟨(bs.flatMap write).length - bs.length + (rest.length - limit), by omega, ?_⟩
  rw [← same _ limit rest within, items]
  congr 1
  simp only [Input.size_ofBytes, List.length_append]
  omega

/-- Items that take up as many bytes as a length says. -/
def filling (item : Reader α) (length : Nat) : Reader (List α) := fun input =>
  if input.size < length then fail .underflow
  else do
    let (as, rest) ← items item (input.size - length) input
    if rest.size = input.size - length then .ok (as, rest) else fail .overrun

theorem filling_selfDelimiting (item : Reader α) (alone : ∀ b ∈ bs, SelfDelimiting item (write b))
    (nonempty : ∀ b ∈ bs, write b ≠ []) :
    SelfDelimiting (filling item (bs.flatMap write).length) (bs.flatMap write) := by
  obtain ⟨outcome, same⟩ := items_append item alone nonempty
  refine ⟨⟨outcome, fun rest => ?_⟩, fun cut begins proper => ?_⟩
  · have long : ¬(Input.ofBytes (bs.flatMap write ++ rest)).size < (bs.flatMap write).length := by
      simp
    have limit : (Input.ofBytes (bs.flatMap write ++ rest)).size - (bs.flatMap write).length =
        rest.length := by simp
    obtain ⟨fuel, -, read⟩ := same rest.length rest (Nat.le_refl _)
    have rest_full : (Input.ofBytes rest).size ≤ rest.length := Nat.le_refl _
    rw [itemsUpTo_of_le rest_full] at read
    rw [filling, if_neg long, limit, read]
    cases outcome <;> simp [Except.map]
  · have short : (Input.ofBytes cut).size < (bs.flatMap write).length :=
      Nat.lt_of_not_le fun long => proper (begins.eq_of_length_le long)
    exact ⟨⟨[], .underflow⟩, if_pos short⟩

theorem delimited_selfDelimiting (item : Reader α) (alone : ∀ b ∈ bs, SelfDelimiting item (write b))
    (nonempty : ∀ b ∈ bs, write b ≠ []) :
    SelfDelimiting (delimited item)
      (Varint.write (bs.flatMap write).length ++ bs.flatMap write) := by
  refine length_selfDelimiting (f := fun length => filling item length.toNat) fun small => ?_
  rw [UInt64.toNat_ofNat_of_lt' small]
  exact filling_selfDelimiting item alone nonempty

end Items

end Reader

/-! ### Fields -/

namespace Field

variable {τ : Type} {schema : Schema τ} {type : τ} {inner : Option (τ → Reader (Option Field))}
  {skip : Key → Input → Except Malformed Input}

/-- What follows the key of a declared field. -/
def readDeclared (inner : Option (τ → Reader (Option Field))) (place : String) (key : Key)
    (kind : FieldKind τ) : Reader (Option Field) := fun input =>
  match readValue inner key kind input with
  | .ok (field, rest) => .ok (some field, rest)
  | .error e => .error (e.inside place)

/-- What follows the key of a field. -/
def readAfter (schema : Schema τ) (inner : Option (τ → Reader (Option Field)))
    (skip : Key → Input → Except Malformed Input) (type : τ) (key : Key) :
    Reader (Option Field) := fun input =>
  match schema.field? type key.number with
  | none => do
    let rest ← skip key input
    .ok (none, rest)
  | some spec => readDeclared inner (schema.place type spec) key spec.kind input

theorem readDeclared_selfDelimiting {place : String} {key : Key} {kind : FieldKind τ}
    {bytes : List UInt8} (value : SelfDelimiting (readValue inner key kind) bytes) :
    SelfDelimiting (readDeclared inner place key kind) bytes := by
  refine ⟨?_, fun cut begins proper => ?_⟩
  · rcases value.cases with ⟨f, done⟩ | ⟨e, failed⟩
    · exact ⟨.ok (some f), fun rest => by rw [readDeclared, done]; rfl⟩
    · exact ⟨.error (e.inside place), fun rest => by rw [readDeclared, failed]; rfl⟩
  · obtain ⟨e, failed⟩ := value.refused cut begins proper
    exact ⟨e.inside place, by rw [readDeclared, failed]⟩

theorem readWith_selfDelimiting (keyed : schema.Keyed) {number : Nat} {spec : FieldSpec τ}
    (declared : schema.field? type number = some spec) {wireType : WireType} {bytes : List UInt8}
    (value : SelfDelimiting (readValue inner ⟨number, wireType⟩ spec.kind) bytes) :
    SelfDelimiting (readWith schema inner skip type) (writeKey number wireType ++ bytes) := by
  obtain ⟨positive, small⟩ := keyed type number spec declared
  have after : SelfDelimiting (readAfter schema inner skip type ⟨number, wireType⟩) bytes := by
    unfold readAfter
    simp only [declared]
    exact readDeclared_selfDelimiting value
  refine (Reader.key_selfDelimiting positive small wireType).bind
    (f := readAfter schema inner skip type) fun key read => ?_
  have same := (Reader.key_write positive small wireType []).symm.trans (read [])
  obtain rfl : (⟨number, wireType⟩ : Key) = key := by simpa using same
  exact after

theorem readValue_single_selfDelimiting {number : Nat} {value : Scalar} {kind : FieldKind τ}
    (single : kind = .scalar value.kind ∨ kind = .scalars value.kind) :
    SelfDelimiting (readValue inner ⟨number, value.kind.wireType⟩ kind) value.write := by
  have read := (Reader.scalar_selfDelimiting value).map (g := Field.scalar number)
  have unpacked : value.kind.wireType ≠ .lengthDelimited := by
    cases value.kind <;> decide
  rcases single with rfl | rfl
  · simpa only [readValue, Key.expect, if_true, ok_bind] using read
  · simpa only [readValue, Key.expect, if_neg unpacked, if_true, ok_bind] using read

theorem readValue_text_selfDelimiting {number : Nat} {value : String} :
    SelfDelimiting (readValue inner ⟨number, .lengthDelimited⟩ .text)
      (Varint.write (utf8 value).length ++ utf8 value) := by
  have block := Reader.block_selfDelimiting (utf8 value)
  refine ⟨?_, fun cut begins proper => ?_⟩
  · rcases block.cases with ⟨bytes, done⟩ | ⟨e, failed⟩
    · obtain rfl : bytes = utf8 value := by
        have read := done []
        rw [Reader.block_write_iff] at read
        exact congrArg Prod.fst read.2
      refine ⟨.ok (.text number value), fun rest => ?_⟩
      simp only [readValue, Key.expect, if_true, ok_bind, done, ofUtf8?_utf8]
      rfl
    · refine ⟨.error e, fun rest => ?_⟩
      simp only [readValue, Key.expect, if_true, ok_bind, failed, error_bind]
      rfl
  · obtain ⟨e, failed⟩ := block.refused cut begins proper
    exact ⟨e, by simp only [readValue, Key.expect, if_true, ok_bind, failed, error_bind]⟩

/-- The bytes of a declared field delimit themselves, whatever may nest in them. -/
theorem Declared.selfDelimiting (keyed : schema.Keyed) {f : Field}
    (declared : Declared schema type f) (depth : Nat) :
    SelfDelimiting (read schema depth type) f.write := by
  rw [read_eq_readWith]
  induction declared generalizing depth with
  | @scalar type number name value spec =>
    exact readWith_selfDelimiting keyed spec (readValue_single_selfDelimiting (.inl rfl))
  | @element type number name value spec =>
    exact readWith_selfDelimiting keyed spec (readValue_single_selfDelimiting (.inr rfl))
  | @packed type number name kind values spec kinds =>
    rw [write, delimit, List.append_assoc]
    refine readWith_selfDelimiting keyed spec ?_
    have values := Reader.delimited_selfDelimiting (Reader.scalar kind)
      (fun value member => kinds value member ▸ Reader.scalar_selfDelimiting value)
      fun value _ => scalar_write_ne_nil value
    exact values.map (g := Field.packed number)
  | @bytes type number name value spec =>
    rw [write, delimit, List.append_assoc]
    refine readWith_selfDelimiting keyed spec ?_
    exact (Reader.block_selfDelimiting value).map (g := Field.bytes number)
  | @text type number name value spec =>
    rw [write, delimit, List.append_assoc]
    exact readWith_selfDelimiting keyed spec readValue_text_selfDelimiting
  | @message type number name inside fields spec _ ih =>
    rw [write, delimit, List.append_assoc, writeAll_eq_flatMap]
    refine readWith_selfDelimiting keyed spec ?_
    cases depth with
    | zero =>
      -- A message that may not nest is refused before its length is read.
      exact ⟨⟨.error ⟨[], .nesting⟩, fun _ => rfl⟩, fun _ _ _ => ⟨_, rfl⟩⟩
    | succ depth =>
      have fields := Reader.delimited_selfDelimiting (read schema depth inside)
        (fun f member => by rw [read_eq_readWith]; exact ih f member depth)
        fun f _ => write_ne_nil f
      exact fields.map (g := fun fields => Field.message number (fields.filterMap id))

/-! ### Messages -/

section

variable {fields : List Field}

/-- The fields that are written are read first, and then what comes after them. -/
theorem parse_append (depth : Nat) (keyed : schema.Keyed)
    (declared : ∀ f ∈ fields, Declared schema type f) :
    ∃ outcome : Except Malformed (List Field), ∀ rest : List UInt8, ∃ fuel, rest.length ≤ fuel ∧
      parse schema depth type (writeAll fields ++ rest) =
        outcome >>= fun fields =>
          Reader.itemsUpTo (read schema depth type) 0 fuel (.ofBytes rest) >>= fun (more, _) =>
            .ok (fields ++ more.filterMap id) := by
  obtain ⟨outcome, same⟩ := Reader.items_append (read schema depth type)
    (fun f member => (declared f member).selfDelimiting keyed depth) fun f _ => write_ne_nil f
  refine ⟨outcome.map (·.filterMap id), fun rest => ?_⟩
  obtain ⟨fuel, enough, items⟩ := same 0 rest (Nat.zero_le _)
  refine ⟨fuel, enough, ?_⟩
  rw [parse, writeAll_eq_flatMap, items]
  cases outcome with
  | error e => rfl
  | ok read =>
    simp only [ok_bind, Except.map]
    cases Reader.itemsUpTo (Field.read schema depth type) 0 fuel (.ofBytes rest) with
    | error e => rfl
    | ok more => simp only [ok_bind, List.filterMap_append]

/-- A message that is refused is refused for the same defect with anything after it. -/
theorem parse_append_of_error {depth : Nat} (keyed : schema.Keyed)
    (declared : ∀ f ∈ fields, Declared schema type f) {e : Malformed}
    (failed : parse schema depth type (writeAll fields) = .error e) (rest : List UInt8) :
    parse schema depth type (writeAll fields ++ rest) = .error e := by
  obtain ⟨outcome, same⟩ := parse_append depth keyed declared
  obtain ⟨fuel, -, alone⟩ := same []
  obtain ⟨_, -, followed⟩ := same rest
  rw [List.append_nil, failed, Reader.itemsUpTo_of_le (Nat.le_refl 0)] at alone
  cases outcome with
  | ok read => cases alone
  | error e' =>
    rw [followed, error_bind]
    exact alone.symm

/-- What begins a message ends between two of its fields or inside one of them. -/
theorem writeAll_prefix_cases {cut : List UInt8} (begins : cut <+: writeAll fields) :
    ∃ before after, fields = before ++ after ∧
      (cut = writeAll before ∨ ∃ f ∈ after, ∃ more, cut = writeAll before ++ more ∧
        more ≠ [] ∧ more <+: f.write ∧ more ≠ f.write) := by
  induction fields generalizing cut with
  | nil => exact ⟨[], [], rfl, .inl (List.prefix_nil.1 begins)⟩
  | cons f rest ih =>
    rcases prefix_append_cases begins with ⟨within, incomplete⟩ | ⟨more, rfl, within⟩
    · refine ⟨[], f :: rest, rfl, ?_⟩
      by_cases nothing : cut = []
      · exact .inl nothing
      · exact .inr ⟨f, List.mem_cons_self, cut, rfl, nothing, within, incomplete⟩
    · obtain ⟨before, after, rfl, rfl | ⟨g, among, more, rfl, inside⟩⟩ := ih within
      · exact ⟨f :: before, after, rfl, .inl rfl⟩
      · refine ⟨f :: before, after, rfl, .inr ⟨g, among, more, ?_, inside⟩⟩
        rw [writeAll, List.append_assoc]

/-- The first bytes of a message are refused unless they are the bytes of its first fields. -/
theorem parse_cut (depth : Nat) (keyed : schema.Keyed)
    (declared : ∀ f ∈ fields, Declared schema type f) {cut : List UInt8}
    (begins : cut <+: writeAll fields) :
    (∃ before after, fields = before ++ after ∧ cut = writeAll before) ∨
      ∃ e, parse schema depth type cut = .error e := by
  obtain ⟨before, after, rfl, whole | ⟨f, among, more, rfl, something, within, incomplete⟩⟩ :=
    writeAll_prefix_cases begins
  · exact .inl ⟨before, after, rfl, whole⟩
  · right
    obtain ⟨outcome, same⟩ := parse_append depth keyed fun f member =>
      declared f (List.mem_append_left after member)
    obtain ⟨fuel, enough, followed⟩ := same more
    obtain ⟨e, failed⟩ := ((declared f (List.mem_append_right before among)).selfDelimiting keyed
      depth).refused more within incomplete
    have unread : 0 < (Input.ofBytes more).size := List.length_pos_iff.2 something
    rw [followed, Reader.itemsUpTo_of_error unread (Nat.lt_of_lt_of_le unread enough) failed]
    cases outcome with
    | ok read => exact ⟨e, rfl⟩
    | error e' => exact ⟨e', rfl⟩

end

end Field

end OnnxCorpus.Wire
