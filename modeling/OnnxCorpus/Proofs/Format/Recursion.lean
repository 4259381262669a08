import OnnxCorpus.Format.Decode
import OnnxCorpus.Proofs.Fallible
import OnnxCorpus.Proofs.Wire.ReadBack

/-!
# Graphs are read by recursion

The message of a body nests less deep than that of the graph it is in. Every bound that covers a
graph message therefore reads it alike (`Graph.ofFieldsWithin_congr`), and a graph message is read
by reading those of its bodies in the same way (`Graph.ofFields_eq`).
-/

namespace OnnxCorpus

open Wire Format Fallible

namespace Wire.Content

variable {n : Nat} {fields content : List Field}

theorem maxHeight_lt_of_mem_messages (member : content ∈ messages n fields) :
    Field.maxHeight content < Field.maxHeight fields := by
  obtain ⟨f, among, held⟩ := List.mem_filterMap.1 member
  have height : f.height = Field.maxHeight content + 1 := by
    cases f <;> simp only [Field.messageOf, reduceCtorEq, Option.ite_none_right_eq_some,
      Option.some.injEq] at held
    rw [Field.height, held.2]
  have bound := Field.maxHeight_le_iff.1 (Nat.le_refl _) f among
  omega

theorem maxHeight_lt_of_message? (found : message? n fields = some content) :
    Field.maxHeight content < Field.maxHeight fields := by
  have below (occurrence) (member : occurrence ∈ messages n fields) :=
    maxHeight_lt_of_mem_messages member
  unfold message? at found
  split at found
  · cases found
  · next nonempty =>
    obtain ⟨first, member⟩ := List.exists_mem_of_ne_nil _ nonempty
    obtain rfl := Option.some.inj found
    have inside : Field.maxHeight (messages n fields).flatten ≤ Field.maxHeight fields - 1 := by
      refine Field.maxHeight_le_iff.2 fun f among => ?_
      obtain ⟨occurrence, held, among⟩ := List.mem_flatten.1 among
      have := below occurrence held
      have := Field.maxHeight_le_iff.1 (Nat.le_refl _) f among
      omega
    have := below first member
    omega

end Wire.Content

/-! ### Readers of bodies that agree -/

section

variable {f g : List Field → Decoded Graph} {fields : List Field}

theorem Attribute.entryWith_congr
    (same : ∀ content, Field.maxHeight content < Field.maxHeight fields → f content = g content) :
    entryWith f fields = entryWith g fields := by
  have value (name) : ofFieldsWith f name fields = ofFieldsWith g name fields := by
    unfold ofFieldsWith
    split <;> try rfl
    split
    · rfl
    · next content found => rw [same content (Content.maxHeight_lt_of_message? found)]
  rw [entryWith, entryWith, value]

theorem Node.ofFieldsWith_congr
    (same : ∀ content, Field.maxHeight content < Field.maxHeight fields → f content = g content) :
    ofFieldsWith f fields = ofFieldsWith g fields := by
  have attributes : (Content.messages 5 fields).mapM (Attribute.entryWith f) =
      (Content.messages 5 fields).mapM (Attribute.entryWith g) := by
    refine mapM_congr fun entry member => Attribute.entryWith_congr fun content lower => ?_
    exact same content (Nat.lt_trans lower (Content.maxHeight_lt_of_mem_messages member))
  rw [ofFieldsWith, ofFieldsWith, attributes]

theorem Graph.ofFieldsWith_congr
    (same : ∀ content, Field.maxHeight content < Field.maxHeight fields → f content = g content) :
    ofFieldsWith f fields = ofFieldsWith g fields := by
  have nodes : (Content.messages 1 fields).mapM (Node.ofFieldsWith f) =
      (Content.messages 1 fields).mapM (Node.ofFieldsWith g) := by
    refine mapM_congr fun node member => Node.ofFieldsWith_congr fun content lower => ?_
    exact same content (Nat.lt_trans lower (Content.maxHeight_lt_of_mem_messages member))
  rw [ofFieldsWith, ofFieldsWith, nodes]

end

/-! ### Graphs -/

theorem Graph.ofFieldsWithin_congr {fields : List Field} {depth depth' : Nat}
    (covered : Field.maxHeight fields < depth) (covered' : Field.maxHeight fields < depth') :
    ofFieldsWithin depth fields = ofFieldsWithin depth' fields := by
  induction depth generalizing depth' fields with
  | zero => omega
  | succ depth ih =>
    obtain ⟨depth', rfl⟩ : ∃ less, depth' = less + 1 := ⟨depth' - 1, by omega⟩
    exact Graph.ofFieldsWith_congr fun content lower => ih (by omega) (by omega)

/-- A graph message is read by reading the messages of its bodies. -/
theorem Graph.ofFields_eq (fields : List Field) :
    ofFields fields = ofFieldsWith ofFields fields :=
  Graph.ofFieldsWith_congr fun _ lower =>
    Graph.ofFieldsWithin_congr lower (Nat.lt_succ_self _)

end OnnxCorpus
