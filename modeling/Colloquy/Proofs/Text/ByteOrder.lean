import Colloquy.Sorted
import Colloquy.Text.Basic
import Mathlib.Data.String.Basic

/-!
# The order of texts is the order of their bytes

Tables and sets are kept in the order of texts, which compares code points. Programs that keep the
same tables as bytes compare bytes. In UTF-8 the two orders are one (`bytes_lt_bytes_of_lt`): of two
characters the smaller one has the smaller bytes, and they part before either of them ends, so what
stands behind them does not matter.
-/

namespace Colloquy

namespace Text

/-- The bytes of a text in UTF-8. -/
def bytes (s : String) : List UInt8 := s.toUTF8.data.toList

theorem bytes_eq_flatMap (s : String) : bytes s = s.toList.flatMap String.utf8EncodeChar := by
  have hencode : s.toUTF8 = s.toList.utf8Encode := s.utf8Encode_toList.symm
  rw [bytes, hencode, List.utf8Encode, List.data_toByteArray, List.toList_toArray]

/-- The order of bytes is that of the numbers they are cut from. -/
theorem ofNat_lt_ofNat {m n : Nat} (hm : m < 256) (hn : n < 256) :
    UInt8.ofNat m < UInt8.ofNat n ↔ m < n := by
  rw [UInt8.lt_iff_toNat_lt, UInt8.toNat_ofNat_of_lt' hm, UInt8.toNat_ofNat_of_lt' hn]

theorem ofNat_eq_ofNat {m n : Nat} (hm : m < 256) (hn : n < 256) :
    UInt8.ofNat m = UInt8.ofNat n ↔ m = n := by
  rw [← UInt8.toNat_inj, UInt8.toNat_ofNat_of_lt' hm, UInt8.toNat_ofNat_of_lt' hn]

/-- The digits of a code point to the base of 64 are cut off one after the other. -/
theorem digits_of_codePoint {n : Nat} (h : n < 0x110000) :
    n / 64 / 64 = n / 4096 ∧ n / 4096 / 64 = n / 262144 ∧ n / 262144 % 8 = n / 262144 := by
  refine ⟨Nat.div_div_eq_div_mul n 64 64, Nat.div_div_eq_div_mul n 4096 64, Nat.mod_eq_of_lt ?_⟩
  omega

/-- **The smaller character has the smaller bytes**, whatever stands behind them. -/
theorem utf8EncodeChar_append_lt {c d : Char} (h : c < d) (xs ys : List UInt8) :
    String.utf8EncodeChar c ++ xs < String.utf8EncodeChar d ++ ys := by
  have hlt : c.val.toNat < d.val.toNat := UInt32.lt_iff_toNat_lt.1 (Char.lt_def.1 h)
  have hmax : d.val.toNat < 0x110000 := by
    rcases (d.valid : d.val.toNat.isValidChar) with hlow | ⟨-, hhigh⟩ <;> omega
  unfold String.utf8EncodeChar
  generalize c.val.toNat = v at hlt
  generalize d.val.toNat = w at hlt hmax
  have hv := digits_of_codePoint (hlt.trans hmax)
  have hw := digits_of_codePoint hmax
  -- more bytes begin with a larger one, and as many bytes are the digits of the two numbers
  dsimp only
  split_ifs
  all_goals first
    | omega
    | simp (disch := omega) only [List.cons_append, List.nil_append, List.cons_lt_cons_iff,
        ofNat_lt_ofNat, ofNat_eq_ofNat]
      omega

theorem flatMap_utf8EncodeChar_lt {cs ds : List Char} (h : cs < ds) :
    cs.flatMap String.utf8EncodeChar < ds.flatMap String.utf8EncodeChar := by
  induction ds generalizing cs with
  | nil => exact absurd h (List.not_lt_nil cs)
  | cons d ds ih =>
    cases cs with
    | nil =>
      have hne : String.utf8EncodeChar d ≠ [] := String.utf8EncodeChar_ne_nil
      obtain ⟨b, rest, hbytes⟩ := List.exists_cons_of_ne_nil hne
      rw [List.flatMap_cons, hbytes]
      exact List.nil_lt_cons b _
    | cons c cs =>
      rw [List.flatMap_cons, List.flatMap_cons]
      rcases List.cons_lt_cons_iff.1 h with hhead | ⟨rfl, htail⟩
      · exact utf8EncodeChar_append_lt hhead _ _
      · exact List.append_left_lt (ih htail)

/-- **The order of texts is the order of their bytes.** -/
theorem bytes_lt_bytes_of_lt {s t : String} (h : s < t) : bytes s < bytes t := by
  rw [bytes_eq_flatMap, bytes_eq_flatMap]
  exact flatMap_utf8EncodeChar_lt (String.lt_iff_toList_lt.1 h)

theorem bytes_lt_bytes_iff {s t : String} : bytes s < bytes t ↔ s < t := by
  refine ⟨fun h => Decidable.byContradiction fun hnot => ?_, bytes_lt_bytes_of_lt⟩
  by_cases hback : t < s
  · exact List.lt_asymm h (bytes_lt_bytes_of_lt hback)
  · obtain rfl : s = t := String.le_antisymm (String.not_lt.1 hback) (String.not_lt.1 hnot)
    exact List.lt_irrefl _ h

end Text

/-- The keys of a map are listed in the order of their bytes. -/
theorem TextMap.bytes_increasing {α : Type} (m : TextMap α) :
    m.keys.Pairwise fun a b => Text.bytes a < Text.bytes b :=
  List.pairwise_map.2 (m.increasing.imp Text.bytes_lt_bytes_of_lt)

end Colloquy
