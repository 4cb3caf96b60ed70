import Mathlib.Data.List.Lex
import Mathlib.Order.Lattice.Nat

/-! The order of texts. Texts are compared character by character, and this is how their bytes in UTF-8 compare. -/
namespace ProxyWatch

/-- The bytes of a character in UTF-8. -/
def utf8Char (c : Char) : List Nat := (String.utf8EncodeChar c).map UInt8.toNat

/-- The bytes of a text in UTF-8. -/
def utf8 (s : String) : List Nat := s.toList.flatMap utf8Char

/-- A character has one to four bytes, the first of which tells how many. -/
theorem utf8Char_cases (c : Char) :
    (c.toNat ≤ 0x7f ∧ utf8Char c = [c.toNat]) ∨
    (0x7f < c.toNat ∧ c.toNat ≤ 0x7ff ∧ utf8Char c = [0xc0 + c.toNat / 64, 0x80 + c.toNat % 64]) ∨
    (0x7ff < c.toNat ∧ c.toNat ≤ 0xffff ∧
      utf8Char c = [0xe0 + c.toNat / 4096, 0x80 + c.toNat / 64 % 64, 0x80 + c.toNat % 64]) ∨
    (0xffff < c.toNat ∧ utf8Char c =
      [0xf0 + c.toNat / 262144, 0x80 + c.toNat / 4096 % 64, 0x80 + c.toNat / 64 % 64, 0x80 + c.toNat % 64]) := by
  have hval : c.val.toNat = c.toNat := rfl
  have hmax : c.toNat < 0x110000 := by
    rcases c.valid with h | h
    · rw [hval] at h
      omega
    · exact h.2
  unfold utf8Char String.utf8EncodeChar
  simp only [hval]
  generalize c.toNat = v at hmax ⊢
  split
  · left
    simp
    omega
  · split
    · right
      left
      simp
      omega
    · split
      · right
        right
        left
        simp
        omega
      · right
        right
        right
        simp
        omega

/-- The bytes of two characters decide before either ends. -/
theorem utf8Char_append_lt {c d : Char} (h : c < d) (xs ys : List Nat) : utf8Char c ++ xs < utf8Char d ++ ys := by
  have hlt : c.toNat < d.toNat := h
  rcases utf8Char_cases c with ⟨hc, he⟩ | ⟨hc, hc', he⟩ | ⟨hc, hc', he⟩ | ⟨hc, he⟩ <;>
    rcases utf8Char_cases d with ⟨hd, hf⟩ | ⟨hd, hd', hf⟩ | ⟨hd, hd', hf⟩ | ⟨hd, hf⟩ <;>
    rw [he, hf] <;> simp only [List.cons_append, List.nil_append, List.cons_lt_cons_iff] <;> omega

theorem flatMap_utf8Char_lt {cs ds : List Char} (h : cs < ds) : cs.flatMap utf8Char < ds.flatMap utf8Char := by
  induction cs generalizing ds with
  | nil =>
    rcases ds with - | ⟨d, ds⟩
    · exact absurd h (List.lt_irrefl _)
    · rw [List.flatMap_cons]
      rcases utf8Char_cases d with ⟨-, he⟩ | ⟨-, -, he⟩ | ⟨-, -, he⟩ | ⟨-, he⟩ <;> rw [he] <;> exact List.nil_lt_cons _ _
  | cons c cs ih =>
    rcases ds with - | ⟨d, ds⟩
    · exact absurd h (List.not_lt_nil _)
    · rw [List.flatMap_cons, List.flatMap_cons]
      rcases List.cons_lt_cons_iff.mp h with hlt | ⟨rfl, hlt⟩
      · exact utf8Char_append_lt hlt _ _
      · exact List.append_left_lt (ih hlt)

/-- Texts are in the order of their bytes. -/
theorem lt_iff_utf8_lt {s t : String} : s < t ↔ utf8 s < utf8 t := by
  constructor
  · intro h
    exact flatMap_utf8Char_lt h
  · intro h
    rcases Std.lt_trichotomy s t with hlt | rfl | hgt
    · exact hlt
    · exact absurd h (lt_irrefl _)
    · exact absurd (flatMap_utf8Char_lt hgt : utf8 t < utf8 s) (lt_asymm h)

end ProxyWatch
