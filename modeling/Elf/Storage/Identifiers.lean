import Elf.Lib.JsonText
import Elf.Storage.Models

/-!
This module contains the texts of identifiers and of numbers: different ones have different texts,
and an identifier is read back from its text.
-/

namespace Elf

theorem Uuid.hexDigit_inj (hm : m < 16) (hn : n < 16) (h : Uuid.hexDigit m = Uuid.hexDigit n)
    : m = n := by
  have hall : ∀ m < 16, ∀ n < 16, Uuid.hexDigit m = Uuid.hexDigit n → m = n := by decide
  exact hall m hm n hn h

@[simp]
theorem Uuid.length_hexDigits (width n : Nat) : (Uuid.hexDigits width n).length = width := by
  induction width generalizing n with
  | zero => rfl
  | succ width ih => simp [Uuid.hexDigits, ih]

theorem Uuid.hexDigits_inj (width : Nat) (hm : m < 16 ^ width) (hn : n < 16 ^ width)
    (h : Uuid.hexDigits width m = Uuid.hexDigits width n) : m = n := by
  induction width generalizing m n with
  | zero =>
    rw [pow_zero] at hm hn
    omega
  | succ width ih =>
    unfold Uuid.hexDigits at h
    rw [pow_succ] at hm hn
    have happend := List.append_inj h (by simp)
    have htail := ih (Nat.div_lt_of_lt_mul (by omega)) (Nat.div_lt_of_lt_mul (by omega)) happend.1
    have hdigit := Uuid.hexDigit_inj (Nat.mod_lt m (by decide)) (Nat.mod_lt n (by decide))
      (by simpa using happend.2)
    omega

/-- Hyphens at fixed places tell digits apart. -/
theorem hyphenated_inj {xs ys : List Char} (hx : xs.length = 32) (hy : ys.length = 32)
    (h : xs.take 8 ++ '-' :: (xs.drop 8).take 4 ++ '-' :: (xs.drop 12).take 4
        ++ '-' :: (xs.drop 16).take 4 ++ '-' :: xs.drop 20
      = ys.take 8 ++ '-' :: (ys.drop 8).take 4 ++ '-' :: (ys.drop 12).take 4
        ++ '-' :: (ys.drop 16).take 4 ++ '-' :: ys.drop 20) : xs = ys := by
  have h₄ := List.append_inj h (by simp [hx, hy])
  have h₃ := List.append_inj h₄.1 (by simp [hx, hy])
  have h₂ := List.append_inj h₃.1 (by simp [hx, hy])
  have h₁ := List.append_inj h₂.1 (by simp [hx, hy])
  simp only [List.cons.injEq, true_and] at h₁ h₂ h₃ h₄
  have h16 : xs.drop 16 = ys.drop 16 := by
    rw [← List.take_append_drop 4 (xs.drop 16), ← List.take_append_drop 4 (ys.drop 16), h₃.2,
      List.drop_drop, List.drop_drop, h₄.2]
  have h12 : xs.drop 12 = ys.drop 12 := by
    rw [← List.take_append_drop 4 (xs.drop 12), ← List.take_append_drop 4 (ys.drop 12), h₂.2,
      List.drop_drop, List.drop_drop, h16]
  have h8 : xs.drop 8 = ys.drop 8 := by
    rw [← List.take_append_drop 4 (xs.drop 8), ← List.take_append_drop 4 (ys.drop 8), h₁.2,
      List.drop_drop, List.drop_drop, h12]
  rw [← List.take_append_drop 8 xs, ← List.take_append_drop 8 ys, h₁.1, h8]

theorem Uuid.length_toString (id : Uuid) : id.toString.toList.length = 36 := by
  simp [Uuid.toString]

/-- The hyphenated form tells identifiers of 128 bits apart. -/
theorem Uuid.toString_inj {m n : Uuid} (hm : m < 2 ^ 128) (hn : n < 2 ^ 128)
    (h : m.toString = n.toString) : m = n := by
  unfold Uuid.toString at h
  have hdigits := hyphenated_inj (Uuid.length_hexDigits 32 m) (Uuid.length_hexDigits 32 n)
    (String.ofList_injective h)
  exact Uuid.hexDigits_inj 32 hm hn hdigits

theorem toString_nat_inj {m n : Nat} (h : toString m = toString n) : m = n := by
  have hdigits : Nat.toDigits 10 m = Nat.toDigits 10 n := String.ofList_injective h
  exact (Json.toDigits_append_inj (s := []) (t := []) (by simp [Json.NoDigit]) (by simp [Json.NoDigit])
    (by simpa using hdigits)).1

theorem Uuid.parseHex_append (cs ds : List Char) (v : Nat)
    : Uuid.parseHex (cs ++ ds) v = (Uuid.parseHex cs v).bind (Uuid.parseHex ds) := by
  induction cs generalizing v with
  | nil => rfl
  | cons c cs ih =>
    rw [List.cons_append, Uuid.parseHex, Uuid.parseHex]
    cases Uuid.hexValue c with
    | none => rfl
    | some d => exact ih _

theorem Uuid.hexValue_hexDigit (h : n < 16) : Uuid.hexValue (Uuid.hexDigit n) = some n := by
  revert n
  decide

theorem Uuid.parseHex_hexDigits (width : Nat) (h : n < 16 ^ width) (v : Nat)
    : Uuid.parseHex (Uuid.hexDigits width n) v = some (16 ^ width * v + n) := by
  induction width generalizing n with
  | zero =>
    rw [pow_zero] at h
    simp only [Uuid.hexDigits, Uuid.parseHex]
    congr 1
    omega
  | succ width ih =>
    rw [pow_succ] at h
    rw [Uuid.hexDigits, Uuid.parseHex_append, ih (by omega), Option.bind_some, Uuid.parseHex,
      Uuid.hexValue_hexDigit (by omega), Option.bind_some, Uuid.parseHex, pow_succ]
    congr 1
    have hdiv := Nat.div_add_mod n 16
    have hmul : 16 ^ width * 16 * v = 16 * (16 ^ width * v) := by
      rw [Nat.mul_comm (16 ^ width), Nat.mul_assoc]
    omega

theorem Uuid.dropHyphens_hyphenated {a b c d e : List Char} (ha : a.length = 8) (hb : b.length = 4)
    (hc : c.length = 4) (hd : d.length = 4) (he : e.length = 12)
    : Uuid.dropHyphens (a ++ '-' :: b ++ '-' :: c ++ '-' :: d ++ '-' :: e)
        = some (a ++ b ++ c ++ d ++ e) := by
  unfold Uuid.dropHyphens
  rw [if_pos]
  . congr 1
    have h₁ (n : Nat) : a.drop (8 + n) = [] := List.drop_of_length_le (by omega)
    have h₂ (n : Nat) : b.drop (4 + n) = [] := List.drop_of_length_le (by omega)
    have h₃ (n : Nat) : c.drop (4 + n) = [] := List.drop_of_length_le (by omega)
    have h₄ (n : Nat) : d.drop (4 + n) = [] := List.drop_of_length_le (by omega)
    simp [List.drop_append, ha, hb, hc, hd, h₁ 1, h₁ 6, h₁ 11, h₁ 16, h₂ 1,
      h₂ 6, h₂ 11, h₃ 1, h₃ 6, h₄ 1]
  . simp [ha, hb, hc, hd, he, List.getElem?_append]

/-- An identifier is read back from its text. -/
theorem Uuid.parseStr_toString {id : Uuid} (h : id < 2 ^ 128) : Uuid.parseStr id.toString = some id := by
  have hlen := Uuid.length_toString id
  unfold Uuid.parseStr
  simp only [hlen]
  rw [if_neg (by decide), if_pos trivial]
  unfold Uuid.toString
  rw [String.toList_ofList, Uuid.dropHyphens_hyphenated (by simp) (by simp) (by simp) (by simp) (by simp),
    Option.bind_some]
  have hparse := Uuid.parseHex_hexDigits 32 (n := id) (by simpa using h) 0
  have hjoin : ∀ xs : List Char, xs.take 8 ++ (xs.drop 8).take 4 ++ (xs.drop 12).take 4
      ++ (xs.drop 16).take 4 ++ xs.drop 20 = xs := by
    intro xs
    simp only [List.append_assoc]
    rw [← List.drop_drop (i := 4) (j := 16), List.take_append_drop, ← List.drop_drop (i := 4) (j := 12),
      List.take_append_drop, ← List.drop_drop (i := 4) (j := 8), List.take_append_drop,
      List.take_append_drop]
  rw [hjoin, hparse, Nat.mul_zero, Nat.zero_add]

end Elf
