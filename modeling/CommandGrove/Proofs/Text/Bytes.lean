import Mathlib.Data.String.Basic
import Mathlib.Data.UInt

/-!
# The bytes of a text

Texts come in the order of their characters, and that is the order of their bytes.

## What is here

* `Text.bytes` — the bytes of a text.
* `Text.bytes_lt_bytes_iff` — the order by the bytes.
-/

set_option autoImplicit false
namespace CommandGrove
namespace Text

/-- The bytes of a text. -/
def bytes (s : String) : List UInt8 := s.toUTF8.data.toList

theorem bytes_eq_flatMap (s : String) : bytes s = s.toList.flatMap String.utf8EncodeChar := by
  have h : s.toByteArray = s.toList.utf8Encode := by
    conv => lhs; rw [← String.ofList_toList (s := s)]
    exact String.toByteArray_ofList
  rw [bytes, String.toUTF8, h, List.utf8Encode, List.toList_data_toByteArray]

/-- Bytes are compared as the numbers that they are made of. -/
theorem ofNat_cons_lt_iff {m n : Nat} (hm : m < 256) (hn : n < 256) {s t : List UInt8} :
    UInt8.ofNat m :: s < UInt8.ofNat n :: t ↔ m < n ∨ m = n ∧ s < t := by
  rw [List.cons_lt_cons_iff, UInt8.lt_iff_toNat_lt, ← UInt8.toNat_inj, UInt8.toNat_ofNat',
    UInt8.toNat_ofNat', Nat.mod_eq_of_lt hm, Nat.mod_eq_of_lt hn]

/-- The bytes of a character tell its place already where they differ from those of another one. -/
theorem utf8EncodeChar_append_lt {c d : Char} (h : c < d) (s t : List UInt8) :
    String.utf8EncodeChar c ++ s < String.utf8EncodeChar d ++ t := by
  have hlt : c.val.toNat < d.val.toNat := h
  have hbound : d.val.toNat < 1114112 := by
    have hvalid := d.valid
    simp only [UInt32.isValidChar, Nat.isValidChar] at hvalid
    omega
  unfold String.utf8EncodeChar
  generalize c.val.toNat = v at *
  generalize d.val.toNat = w at *
  -- the digits of the numbers, to the base of what one byte holds
  have hdiv (n : Nat) : n / 4096 = n / 64 / 64 ∧ n / 262144 = n / 64 / 64 / 64 := by omega
  dsimp only
  rw [(hdiv v).1, (hdiv v).2, (hdiv w).1, (hdiv w).2]
  clear hdiv h
  repeat' split
  all_goals
    simp (disch := omega) only [List.cons_append, List.nil_append, ofNat_cons_lt_iff]
    omega

theorem flatMap_utf8EncodeChar_lt {s t : List Char} (h : s < t) :
    s.flatMap String.utf8EncodeChar < t.flatMap String.utf8EncodeChar := by
  induction s generalizing t with
  | nil =>
    cases t with
    | nil => exact absurd h (lt_irrefl _)
    | cons d rest =>
      obtain ⟨b, others, hbytes⟩ := List.exists_cons_of_ne_nil (String.utf8EncodeChar_ne_nil (c := d))
      rw [List.flatMap_nil, List.flatMap_cons, hbytes]
      exact List.nil_lt_cons b _
  | cons c s ih =>
    cases t with
    | nil => exact absurd h (List.not_lt_nil _)
    | cons d t =>
      rw [List.flatMap_cons, List.flatMap_cons]
      rcases List.cons_lt_cons_iff.1 h with hlt | ⟨rfl, hrest⟩
      · exact utf8EncodeChar_append_lt hlt _ _
      · exact List.append_left_lt (ih hrest)

/-- **Texts come in the order of their bytes.** -/
theorem bytes_lt_bytes_iff {s t : String} : bytes s < bytes t ↔ s < t := by
  rw [bytes_eq_flatMap, bytes_eq_flatMap, String.lt_iff_toList_lt]
  refine ⟨fun h => ?_, flatMap_utf8EncodeChar_lt⟩
  rcases lt_trichotomy s.toList t.toList with hlt | heq | hgt
  · exact hlt
  · exact absurd h (heq ▸ List.lt_irrefl _)
  · exact absurd h (List.lt_asymm (flatMap_utf8EncodeChar_lt hgt))

end Text
end CommandGrove
