import Mathlib.Data.String.Basic
import Mathlib.Tactic.SplitIfs

/-!
# The order of texts is that of their bytes

The program compares the names of files and the ids of items as strings of bytes, in UTF-8. Here texts are
compared character by character, by the numbers of their characters. The two orders are the same, and that has to
be proved: an order by UTF-16 units, as other languages have it, is another.

UTF-8 was made for this. A character with a smaller number is written with fewer bytes or as many. With fewer,
its first byte is the smaller one; with as many, the bytes are the digits of the number in base 64 from the
largest down, behind a mark that is the same for both. So two different characters differ first in a byte that
tells them apart, whatever follows (`utf8EncodeChar_lt`), and this goes through a whole text by induction
(`lt_iff_bytes_lt`).

The case split on the lengths of the two encodings has sixteen cases. In each the bounds on the numbers and on
their digits are linear facts, and the first byte that differs is found among at most four.
-/

namespace Gamebook.Text

/-- The bytes of a text in UTF-8. -/
def bytes (s : String) : List UInt8 := s.toByteArray.data.toList

theorem bytes_eq (s : String) : bytes s = s.toList.flatMap String.utf8EncodeChar := by
  rw [bytes, ← String.utf8Encode_toList, List.utf8Encode, List.data_toByteArray, List.toList_toArray]

theorem toNat_val_lt (c : Char) : c.val.toNat < 0x110000 := by
  rcases c.valid with hlow | ⟨-, hhigh⟩
  · exact Nat.lt_trans hlow (by decide)
  · exact hhigh

/-- **The bytes of characters compare like their numbers**, whatever follows them. The bytes that follow do not
matter because no encoding is the beginning of another. -/
theorem utf8EncodeChar_lt {c d : Char} (h : c < d) (xs ys : List UInt8) :
    String.utf8EncodeChar c ++ xs < String.utf8EncodeChar d ++ ys := by
  have hnumber : c.val.toNat < d.val.toNat := UInt32.lt_iff_toNat_lt.mp (Char.lt_def.mp h)
  have hlimit : d.val.toNat < 0x110000 := toNat_val_lt d
  unfold String.utf8EncodeChar
  generalize c.val.toNat = m at hnumber ⊢
  generalize d.val.toNat = n at hnumber hlimit ⊢
  dsimp only
  -- One case for each pair of lengths. A longer form begins with a larger byte; in forms of one length the first
  -- byte that differs holds the first digit that does.
  split_ifs <;>
    simp (disch := omega) only [List.cons_append, List.nil_append, List.cons_lt_cons_iff,
      UInt8.lt_iff_toNat_lt, ← UInt8.toNat_inj, UInt8.toNat_ofNat', Nat.reducePow, Nat.mod_eq_of_lt] <;>
    omega

theorem flatMap_utf8EncodeChar_lt {cs ds : List Char} (h : cs < ds) :
    cs.flatMap String.utf8EncodeChar < ds.flatMap String.utf8EncodeChar := by
  induction cs generalizing ds with
  | nil =>
    cases ds with
    | nil => exact absurd h (List.lt_irrefl _)
    | cons d ds =>
      obtain ⟨byte, bytes, hbytes⟩ := List.exists_cons_of_ne_nil (String.utf8EncodeChar_ne_nil (c := d))
      rw [List.flatMap_cons, hbytes]
      exact List.nil_lt_cons _ _
  | cons c cs ih =>
    cases ds with
    | nil => exact absurd h (List.not_lt_nil _)
    | cons d ds =>
      rw [List.flatMap_cons, List.flatMap_cons]
      rcases List.cons_lt_cons_iff.mp h with hlt | ⟨rfl, hrest⟩
      · exact utf8EncodeChar_lt hlt _ _
      · exact List.append_left_lt (ih hrest)

/-- **Texts compare like their bytes.** Both orders are strict and total, so it is enough to go one way; the
other way is by trichotomy. -/
theorem lt_iff_bytes_lt {s t : String} : s < t ↔ bytes s < bytes t := by
  have hforward : ∀ {s t : String}, s < t → bytes s < bytes t := by
    intro s t h
    rw [bytes_eq, bytes_eq]
    exact flatMap_utf8EncodeChar_lt (String.lt_iff_toList_lt.mp h)
  refine ⟨hforward, fun h => ?_⟩
  rcases lt_trichotomy s t with hlt | rfl | hgt
  · exact hlt
  · exact absurd h (List.lt_irrefl _)
  · exact absurd h (List.lt_asymm (hforward hgt))

end Gamebook.Text
