import Mathlib.Data.List.Forall2
import Mathlib.Tactic.IntervalCases
import Mathlib.Tactic.SplitIfs
import OnnxCorpus.Text.Utf8

/-!
# Bytes that spell no text

The bytes of a character are a first byte and bytes in the ranges that follow it
(`Utf8Fault.followers?_eq_some_iff`), so a fault is found in bytes exactly if they are not the bytes
of a text (`Utf8Fault.locate_eq_none_iff`).
-/

namespace OnnxCorpus

theorem utf8_eq_flatMap (text : String) : utf8 text = text.toList.flatMap String.utf8EncodeChar := by
  rw [utf8, ← String.utf8Encode_toList, List.utf8Encode]
  simp

namespace Utf8Fault

/-- Bytes in given ranges, one after another. -/
def Follow (tail : List UInt8) (ranges : List (UInt8 × UInt8)) : Prop :=
  List.Forall₂ (fun b range => range.1 ≤ b ∧ b ≤ range.2) tail ranges

/-! ### What follows a first byte -/

theorem followers?_one {n : Nat} (small : n < 128) : followers? (.ofNat n) = some [] := by
  have below : UInt8.ofNat n < 0x80 := by
    rw [UInt8.lt_iff_toNat_lt, UInt8.toNat_ofNat_of_lt' (by simp [UInt8.size]; omega)]
    exact small
  rw [followers?, if_pos below]

theorem followers?_two {n : Nat} (low : 2 ≤ n) (high : n < 32) :
    followers? (.ofNat (n + 192)) = some [(0x80, 0xbf)] := by
  interval_cases n <;> rfl

/-- A second byte that would make the character short or a surrogate is left out. -/
theorem followers?_three {n : Nat} (high : n < 16) :
    followers? (.ofNat (n + 224)) =
      some [(if n = 0 then 0xa0 else 0x80, if n = 13 then 0x9f else 0xbf), (0x80, 0xbf)] := by
  interval_cases n <;> rfl

/-- A second byte that would make the character short or leave the code space is left out. -/
theorem followers?_four {n : Nat} (high : n < 5) :
    followers? (.ofNat (n + 240)) =
      some [(if n = 0 then 0x90 else 0x80, if n = 4 then 0x8f else 0xbf), (0x80, 0xbf),
        (0x80, 0xbf)] := by
  interval_cases n <;> rfl

theorem followers?_eq_none {n : Nat} (low : 128 ≤ n) (high : n < 256) (gap : n < 194 ∨ 245 ≤ n) :
    followers? (.ofNat n) = none := by
  interval_cases n <;> first | rfl | omega

theorem followers?_of_encode {c : Char} {first : UInt8} {tail : List UInt8}
    (spelled : String.utf8EncodeChar c = first :: tail) :
    ∃ ranges, followers? first = some ranges ∧ Follow tail ranges := by
  have valid : c.val.toNat < 0xd800 ∨ 0xdfff < c.val.toNat ∧ c.val.toNat < 0x110000 := c.valid
  rw [String.utf8EncodeChar] at spelled
  generalize c.val.toNat = v at *
  split_ifs at spelled with one two three
  all_goals obtain ⟨rfl, rfl⟩ := List.cons.inj spelled
  · exact ⟨_, followers?_one (by omega), .nil⟩
  · refine ⟨_, followers?_two (by omega) (by omega), ?_⟩
    simp [Follow, UInt8.le_iff_toNat_le]
    omega
  · refine ⟨_, followers?_three (by omega), ?_⟩
    simp [Follow, UInt8.le_iff_toNat_le, apply_ite UInt8.toNat]
    split_ifs <;> omega
  · refine ⟨_, followers?_four (by omega), ?_⟩
    simp [Follow, UInt8.le_iff_toNat_le, apply_ite UInt8.toNat]
    split_ifs <;> omega

/-! ### The character that bytes spell -/

theorem exists_char {v : Nat} (valid : v < 0xd800 ∨ 0xdfff < v ∧ v < 0x110000) :
    ∃ c : Char, c.val.toNat = v := by
  have value : (UInt32.ofNat v).toNat = v :=
    UInt32.toNat_ofNat_of_lt' (by simp [UInt32.size]; omega)
  exact ⟨⟨.ofNat v, by rwa [UInt32.isValidChar, value]⟩, value⟩

section

variable {c : Char} {k l m n : Nat}

theorem encode_one (small : c.val.toNat < 128) :
    String.utf8EncodeChar c = [.ofNat c.val.toNat] := by
  rw [String.utf8EncodeChar, if_pos (by omega)]

theorem encode_two (value : c.val.toNat = k * 64 + l) (low : 2 ≤ k) (high : k < 32)
    (hl : l < 64) : String.utf8EncodeChar c = [.ofNat (k + 192), .ofNat (l + 128)] := by
  have first : (k * 64 + l) / 64 % 32 = k := by omega
  have second : (k * 64 + l) % 64 = l := by omega
  rw [String.utf8EncodeChar, if_neg (by omega), if_pos (by omega), value, first, second]

theorem encode_three (value : c.val.toNat = k * 4096 + l * 64 + m) (low : 32 ≤ k * 64 + l)
    (high : k < 16) (hl : l < 64) (hm : m < 64) :
    String.utf8EncodeChar c = [.ofNat (k + 224), .ofNat (l + 128), .ofNat (m + 128)] := by
  have first : (k * 4096 + l * 64 + m) / 4096 % 16 = k := by omega
  have second : (k * 4096 + l * 64 + m) / 64 % 64 = l := by omega
  have third : (k * 4096 + l * 64 + m) % 64 = m := by omega
  rw [String.utf8EncodeChar, if_neg (by omega), if_neg (by omega), if_pos (by omega), value, first,
    second, third]

theorem encode_four (value : c.val.toNat = k * 262144 + l * 4096 + m * 64 + n)
    (low : 16 ≤ k * 64 + l) (high : k < 8) (hl : l < 64) (hm : m < 64) (hn : n < 64) :
    String.utf8EncodeChar c =
      [.ofNat (k + 240), .ofNat (l + 128), .ofNat (m + 128), .ofNat (n + 128)] := by
  have first : (k * 262144 + l * 4096 + m * 64 + n) / 262144 % 8 = k := by omega
  have second : (k * 262144 + l * 4096 + m * 64 + n) / 4096 % 64 = l := by omega
  have third : (k * 262144 + l * 4096 + m * 64 + n) / 64 % 64 = m := by omega
  have fourth : (k * 262144 + l * 4096 + m * 64 + n) % 64 = n := by omega
  rw [String.utf8EncodeChar, if_neg (by omega), if_neg (by omega), if_neg (by omega), value, first,
    second, third, fourth]

end

theorem exists_eq_ofNat {b low high : UInt8} (inside : low ≤ b ∧ b ≤ high)
    (past : 128 ≤ low.toNat) :
    ∃ m, b = .ofNat (m + 128) ∧ low.toNat ≤ m + 128 ∧ m + 128 ≤ high.toNat := by
  obtain ⟨above, below⟩ := inside
  rw [UInt8.le_iff_toNat_le] at above below
  refine ⟨b.toNat - 128, ?_, by omega, by omega⟩
  rw [Nat.sub_add_cancel (by omega), UInt8.ofNat_toNat]

theorem exists_encode_of_follow {first : UInt8} {tail : List UInt8}
    {ranges : List (UInt8 × UInt8)} (found : followers? first = some ranges)
    (follow : Follow tail ranges) : ∃ c : Char, String.utf8EncodeChar c = first :: tail := by
  obtain ⟨n, size, rfl⟩ : ∃ n < 256, first = .ofNat n := ⟨first.toNat, first.toNat_lt, by simp⟩
  obtain one | gap | two | three | four : n < 128 ∨ (128 ≤ n ∧ (n < 194 ∨ 245 ≤ n)) ∨
      (194 ≤ n ∧ n < 224) ∨ (224 ≤ n ∧ n < 240) ∨ (240 ≤ n ∧ n < 245) := by omega
  · rw [followers?_one one] at found
    obtain rfl := Option.some.inj found
    obtain _ | _ := follow
    obtain ⟨c, rfl⟩ := exists_char (v := n) (by omega)
    exact ⟨c, encode_one one⟩
  · rw [followers?_eq_none gap.1 size gap.2] at found
    cases found
  · obtain ⟨k, rfl⟩ : ∃ k, n = k + 192 := ⟨n - 192, by omega⟩
    rw [followers?_two (by omega) (by omega)] at found
    obtain rfl := Option.some.inj found
    obtain _ | ⟨second, _ | _⟩ := follow
    obtain ⟨l, rfl, low, high⟩ := exists_eq_ofNat second (by decide)
    simp at low high
    obtain ⟨c, value⟩ := exists_char (v := k * 64 + l) (by omega)
    exact ⟨c, encode_two value (by omega) (by omega) (by omega)⟩
  · obtain ⟨k, rfl⟩ : ∃ k, n = k + 224 := ⟨n - 224, by omega⟩
    rw [followers?_three (by omega)] at found
    obtain rfl := Option.some.inj found
    obtain _ | ⟨second, _ | ⟨third, _ | _⟩⟩ := follow
    obtain ⟨l, rfl, low, high⟩ := exists_eq_ofNat second (by dsimp only; split <;> decide)
    obtain ⟨m, rfl, low', high'⟩ := exists_eq_ofNat third (by decide)
    have bounds : l < 64 ∧ (k = 0 → 32 ≤ l) ∧ (k = 13 → l < 32) := by
      simp [apply_ite UInt8.toNat] at low high
      split_ifs at low high <;> omega
    simp at low' high'
    obtain ⟨c, value⟩ := exists_char (v := k * 4096 + l * 64 + m) (by omega)
    exact ⟨c, encode_three value (by omega) (by omega) (by omega) (by omega)⟩
  · obtain ⟨k, rfl⟩ : ∃ k, n = k + 240 := ⟨n - 240, by omega⟩
    rw [followers?_four (by omega)] at found
    obtain rfl := Option.some.inj found
    obtain _ | ⟨second, _ | ⟨third, _ | ⟨fourth, _ | _⟩⟩⟩ := follow
    obtain ⟨l, rfl, low, high⟩ := exists_eq_ofNat second (by dsimp only; split <;> decide)
    obtain ⟨m, rfl, low', high'⟩ := exists_eq_ofNat third (by decide)
    obtain ⟨n, rfl, low'', high''⟩ := exists_eq_ofNat fourth (by decide)
    have bounds : l < 64 ∧ (k = 0 → 16 ≤ l) ∧ (k = 4 → l < 16) := by
      simp [apply_ite UInt8.toNat] at low high
      split_ifs at low high <;> omega
    simp at low' high' low'' high''
    obtain ⟨c, value⟩ := exists_char (v := k * 262144 + l * 4096 + m * 64 + n) (by omega)
    exact ⟨c, encode_four value (by omega) (by omega) (by omega) (by omega) (by omega)⟩

/-- A first byte and those after it are the bytes of a character exactly if these are in the ranges
that follow it. -/
theorem exists_encode_iff {first : UInt8} {tail : List UInt8} :
    (∃ c : Char, String.utf8EncodeChar c = first :: tail) ↔
      ∃ ranges, followers? first = some ranges ∧ Follow tail ranges := by
  constructor
  · rintro ⟨c, spelled⟩
    exact followers?_of_encode spelled
  · rintro ⟨ranges, found, follow⟩
    exact exists_encode_of_follow found follow

/-! ### The search -/

theorem locateFrom_eq_none_iff {ranges : List (UInt8 × UInt8)} {taken index : Nat}
    {bytes : List UInt8} :
    locateFrom ranges taken index bytes = none ↔
      ∃ tail rest, bytes = tail ++ rest ∧ Follow tail ranges ∧
        locateFrom [] (taken + ranges.length) index rest = none := by
  induction ranges generalizing taken bytes with
  | nil => simp [Follow]
  | cons range ranges ih =>
    cases bytes with
    | nil => simp [locateFrom, Follow]
    | cons b rest =>
      have step : locateFrom (range :: ranges) taken index (b :: rest) = none ↔
          (range.1 ≤ b ∧ b ≤ range.2) ∧ locateFrom ranges (taken + 1) index rest = none := by
        obtain ⟨low, high⟩ := range
        rw [locateFrom]
        split <;> simp [*]
      have count : taken + 1 + ranges.length = taken + (range :: ranges).length := by
        rw [List.length_cons]
        omega
      rw [step, ih, count]
      constructor
      · rintro ⟨inside, tail, rest, rfl, follow, done⟩
        exact ⟨b :: tail, rest, rfl, .cons inside follow, done⟩
      · rintro ⟨_, rest, split, _ | ⟨inside, follow⟩, done⟩
        obtain ⟨rfl, rfl⟩ := List.cons.inj split
        exact ⟨inside, _, rest, rfl, follow, done⟩

theorem locateFrom_nil_eq_none_iff {taken index : Nat} {bytes : List UInt8} :
    locateFrom [] taken index bytes = none ↔
      ∃ chars : List Char, bytes = chars.flatMap String.utf8EncodeChar := by
  induction size : bytes.length using Nat.strong_induction_on generalizing taken index bytes with
  | _ n ih =>
    cases bytes with
    | nil => exact iff_of_true rfl ⟨[], rfl⟩
    | cons first rest =>
      have step : locateFrom [] taken index (first :: rest) = none ↔
          ∃ ranges, followers? first = some ranges ∧
            locateFrom ranges 1 (index + taken) rest = none := by
        rw [locateFrom]
        cases followers? first <;> simp
      have shorter {tail rest' : List UInt8} (split : rest = tail ++ rest') (taken index : Nat) :
          locateFrom [] taken index rest' = none ↔
            ∃ chars : List Char, rest' = chars.flatMap String.utf8EncodeChar := by
        refine ih rest'.length ?_ rfl
        rw [← size, split, List.length_cons, List.length_append]
        omega
      rw [step]
      constructor
      · rintro ⟨ranges, found, done⟩
        obtain ⟨tail, rest', split, follow, done⟩ := locateFrom_eq_none_iff.1 done
        obtain ⟨c, spelled⟩ := exists_encode_iff.2 ⟨ranges, found, follow⟩
        obtain ⟨chars, rfl⟩ := (shorter split _ _).1 done
        exact ⟨c :: chars, by rw [List.flatMap_cons, spelled, split, List.cons_append]⟩
      · rintro ⟨_ | ⟨c, chars⟩, split⟩
        · cases split
        · obtain ⟨first', tail, spelled⟩ := List.exists_cons_of_ne_nil
            (String.utf8EncodeChar_ne_nil (c := c))
          rw [List.flatMap_cons, spelled, List.cons_append] at split
          obtain ⟨rfl, after⟩ := List.cons.inj split
          obtain ⟨ranges, found, follow⟩ := exists_encode_iff.1 ⟨c, spelled⟩
          refine ⟨ranges, found, locateFrom_eq_none_iff.2 ⟨tail, _, after, follow, ?_⟩⟩
          exact (shorter after _ _).2 ⟨chars, rfl⟩

/-- A fault is found exactly if the bytes spell no text. -/
theorem locate_eq_none_iff {bytes : List UInt8} :
    locate bytes = none ↔ ∃ text, bytes = utf8 text := by
  simp only [locate, locateFrom_nil_eq_none_iff, utf8_eq_flatMap]
  constructor
  · rintro ⟨chars, rfl⟩
    exact ⟨.ofList chars, by simp⟩
  · rintro ⟨text, rfl⟩
    exact ⟨text.toList, rfl⟩

end Utf8Fault
end OnnxCorpus
