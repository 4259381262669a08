import Mathlib.Tactic.SplitIfs
import OnnxCorpus.Proofs.Text.Utf8

/-!
# The order of texts and of their bytes

Texts are ordered by their characters. Their bytes in UTF-8 are in the same order
(`utf8_lt_of_lt`), because those of a smaller character are smaller, whatever comes after them.
-/

namespace OnnxCorpus

theorem cons_ofNat_lt_iff {m n : Nat} (hm : m < 256) (hn : n < 256) {xs ys : List UInt8} :
    UInt8.ofNat m :: xs < UInt8.ofNat n :: ys ↔ m < n ∨ m = n ∧ xs < ys := by
  have left := UInt8.toNat_ofNat_of_lt' hm
  have right := UInt8.toNat_ofNat_of_lt' hn
  rw [List.cons_lt_cons_iff, UInt8.lt_iff_toNat_lt, ← UInt8.toNat_inj, left, right]

/-- Numbers of four digits to the base 64 are in the order of their digits. -/
theorem digits_lt {v w : Nat} (below : v < w) (small : w < 8 * 262144) :
    v / 262144 % 8 < w / 262144 % 8 ∨ v / 262144 % 8 = w / 262144 % 8 ∧
      (v / 4096 % 64 < w / 4096 % 64 ∨ v / 4096 % 64 = w / 4096 % 64 ∧
        (v / 64 % 64 < w / 64 % 64 ∨ v / 64 % 64 = w / 64 % 64 ∧ v % 64 < w % 64)) := by
  have digit {m n : Nat} (below : m < n) : m / 64 < n / 64 ∨ m / 64 = n / 64 ∧ m % 64 < n % 64 := by
    omega
  have second (n : Nat) : n / 4096 = n / 64 / 64 := by omega
  have third (n : Nat) : n / 262144 = n / 64 / 64 / 64 := by omega
  rw [second v, second w, third v, third w]
  rcases digit below with below | ⟨same, less⟩
  · rcases digit below with below | ⟨same, less⟩
    · rcases digit below with below | ⟨same, less⟩
      · omega
      · omega
    · omega
  · omega

theorem encode_append_lt {c d : Char} (lt : c < d) (xs ys : List UInt8) :
    String.utf8EncodeChar c ++ xs < String.utf8EncodeChar d ++ ys := by
  have below : c.val.toNat < d.val.toNat := lt
  have valid : d.val.toNat < 0xd800 ∨ 0xdfff < d.val.toNat ∧ d.val.toNat < 0x110000 := d.valid
  have digits := digits_lt below (by omega)
  rw [String.utf8EncodeChar, String.utf8EncodeChar]
  generalize c.val.toNat = v at *
  generalize d.val.toNat = w at *
  split_ifs
  all_goals
    simp (disch := omega) only [List.cons_append, List.nil_append, cons_ofNat_lt_iff]
    omega

/-- Texts are in the order of their bytes. -/
theorem utf8_lt_of_lt {s t : String} (lt : s < t) : utf8 s < utf8 t := by
  have chars : s.toList < t.toList := lt
  rw [utf8_eq_flatMap, utf8_eq_flatMap]
  generalize s.toList = cs at *
  generalize t.toList = ds at *
  induction chars with
  | @nil d ds =>
    obtain ⟨first, tail, spelled⟩ := List.exists_cons_of_ne_nil
      (String.utf8EncodeChar_ne_nil (c := d))
    rw [List.flatMap_cons, spelled]
    exact List.nil_lt_cons first _
  | @rel c cs d ds less =>
    rw [List.flatMap_cons, List.flatMap_cons]
    exact encode_append_lt less _ _
  | @cons c cs ds _ ih =>
    rw [List.flatMap_cons, List.flatMap_cons]
    exact List.append_left_lt ih

end OnnxCorpus
