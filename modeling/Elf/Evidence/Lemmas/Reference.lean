import Elf.Evidence.Lemmas.Windows
import Elf.Evidence.Claims
import Elf.Storage.Identifiers

/-!
This module contains that a reference is read back as the range that it was written for.
-/

namespace Elf

open Text

/-! ## Numbers -/

theorem toList_toString_nat (n : Nat) : (toString n).toList = Nat.toDigits 10 n := by
  rw [Nat.toString_eq_ofList_toDigits, String.toList_ofList]

theorem all_isDigit_toDigits (n : Nat) : (Nat.toDigits 10 n).all Char.isDigit = true := by
  rw [List.all_eq_true]
  intro c hc
  exact Nat.isDigit_of_mem_toDigits (by decide) (by decide) hc

theorem toDigits_ne_plus (n : Nat) (digits : List Char) : Nat.toDigits 10 n ≠ '+' :: digits := by
  intro h
  have hall := all_isDigit_toDigits n
  rw [h] at hall
  simp at hall

theorem parseUsize_toString (h : n < 2 ^ 64) : parseUsize (toString n) = some n := by
  unfold parseUsize
  rw [toList_toString_nat]
  split
  next digits hplus => exact absurd hplus (toDigits_ne_plus n digits)
  next hnot =>
    rw [if_pos ⟨Nat.toDigits_ne_nil, all_isDigit_toDigits n⟩, ← Nat.ofDigitChars_eq_foldl,
      Nat.ofDigitChars_ten_toDigits, Option.filter_some, if_pos (decide_eq_true h)]

theorem length_toString_le (h : n < 2 ^ 64) : (toString n).toList.length ≤ 20 := by
  rw [toList_toString_nat, Nat.length_toDigits_le_iff (by decide) (by decide)]
  omega

/-! ## Sizes -/

/-- A text of characters of one byte each. -/
def IsAscii (text : String) : Prop := ∀ c ∈ text.toList, c.utf8Size = 1

theorem IsAscii.utf8ByteSize (h : IsAscii text) : text.utf8ByteSize = text.toList.length := by
  unfold IsAscii at h
  rw [← String.ofList_toList (s := text)]
  generalize text.toList = l at h
  rw [String.toList_ofList]
  induction l with
  | nil => rfl
  | cons c l ih =>
    have hc := h c (List.mem_cons_self ..)
    have hl := ih fun d hd => h d (List.mem_cons_of_mem _ hd)
    rw [utf8ByteSize_cons, List.length_cons]
    omega

theorem isAscii_toString (n : Nat) : IsAscii (toString n) := by
  intro c hc
  rw [toList_toString_nat] at hc
  have hdigit := Nat.isDigit_of_mem_toDigits (by decide) (by decide) hc
  rw [Char.isDigit_iff_toNat] at hdigit
  rw [Char.utf8Size_eq_one_iff, UInt32.le_iff_toNat_le]
  exact Nat.le_trans hdigit.2 (by decide)

theorem utf8Size_hexDigit (h : n < 16) : (Uuid.hexDigit n).utf8Size = 1 := by
  revert n
  decide

theorem slash_not_mem_digits (n : Nat) : '/' ∉ (toString n).toList := by
  rw [toList_toString_nat]
  intro h
  have hdigit := Nat.isDigit_of_mem_toDigits (by decide) (by decide) h
  simp at hdigit

/-! ## Digests -/

/-- The text of a digest of 32 bytes: hexadecimal digits in lower case. -/
def IsDigest (hash : String) : Prop :=
  hash.toList.length = 64 ∧ ∀ c ∈ hash.toList, ∃ n < 16, c = Uuid.hexDigit n

variable {hash : String}

theorem mapM_hexValue {cs : List Char} (h : ∀ c ∈ cs, ∃ n < 16, c = Uuid.hexDigit n)
    : ∃ ns, cs.mapM Uuid.hexValue = some ns ∧ ns.map Uuid.hexDigit = cs := by
  induction cs with
  | nil => exact ⟨[], rfl, rfl⟩
  | cons c cs ih =>
    rcases h c (List.mem_cons_self ..) with ⟨n, hn, hc⟩
    rcases ih fun d hd => h d (List.mem_cons_of_mem _ hd) with ⟨ns, hns, hmap⟩
    refine ⟨n :: ns, ?_, ?_⟩
    . rw [List.mapM_cons, hc, Uuid.hexValue_hexDigit hn, hns]
      rfl
    . rw [List.map_cons, hmap, hc]

theorem parseHash_eq (h : IsDigest hash) : parseHash hash = some hash := by
  rcases mapM_hexValue h.2 with ⟨ns, hns, hmap⟩
  unfold parseHash
  rw [if_pos h.1, hns, Option.map_some, hmap, String.ofList_toList]

theorem IsDigest.utf8ByteSize (h : IsDigest hash) : hash.utf8ByteSize = 64 := by
  rw [IsAscii.utf8ByteSize, h.1]
  intro c hc
  rcases h.2 c hc with ⟨n, hn, hdigit⟩
  rw [hdigit, utf8Size_hexDigit hn]

theorem hexDigit_ne_slash (h : n < 16) : Uuid.hexDigit n ≠ '/' := by
  revert n
  decide

theorem IsDigest.slash_not_mem (h : IsDigest hash) : '/' ∉ hash.toList := by
  intro hmem
  rcases h.2 '/' hmem with ⟨n, hn, hc⟩
  exact hexDigit_ne_slash hn hc.symm

/-! ## Identifiers -/

theorem mem_hexDigits (h : c ∈ Uuid.hexDigits width n) : ∃ k < 16, c = Uuid.hexDigit k := by
  induction width generalizing n with
  | zero => simp [Uuid.hexDigits] at h
  | succ width ih =>
    rw [Uuid.hexDigits, List.mem_append, List.mem_singleton] at h
    cases h with
    | inl h => exact ih h
    | inr h => exact ⟨n % 16, Nat.mod_lt _ (by decide), h⟩

theorem mem_uuid {id : Uuid} (h : c ∈ id.toString.toList)
    : c = '-' ∨ ∃ k < 16, c = Uuid.hexDigit k := by
  unfold Uuid.toString at h
  simp only [String.toList_ofList, List.append_assoc, List.cons_append, List.mem_append,
    List.mem_cons] at h
  rcases h with h | h | h | h | h | h | h | h | h
  . exact Or.inr (mem_hexDigits (List.mem_of_mem_take h))
  . exact Or.inl h
  . exact Or.inr (mem_hexDigits (List.mem_of_mem_drop (List.mem_of_mem_take h)))
  . exact Or.inl h
  . exact Or.inr (mem_hexDigits (List.mem_of_mem_drop (List.mem_of_mem_take h)))
  . exact Or.inl h
  . exact Or.inr (mem_hexDigits (List.mem_of_mem_drop (List.mem_of_mem_take h)))
  . exact Or.inl h
  . exact Or.inr (mem_hexDigits (List.mem_of_mem_drop h))

theorem slash_not_mem_uuid (id : Uuid) : '/' ∉ id.toString.toList := by
  intro hmem
  rcases mem_uuid hmem with h | ⟨n, hn, h⟩
  . exact absurd h (by decide)
  . exact hexDigit_ne_slash hn h.symm

theorem utf8ByteSize_uuid (id : Uuid) : id.toString.utf8ByteSize = 36 := by
  rw [IsAscii.utf8ByteSize, Uuid.length_toString]
  intro c hc
  rcases mem_uuid hc with h | ⟨n, hn, h⟩
  . rw [h]
    decide
  . rw [h, utf8Size_hexDigit hn]

/-! ## References -/

theorem toList_sourceReference (docId : Uuid) (hash : String) (start stop : Nat)
    : (sourceReference docId hash start stop).toList
        = "elf-source-v1".toList ++ '/' :: (docId.toString.toList ++ '/' :: (hash.toList
          ++ '/' :: ((toString start).toList ++ '/' :: (toString stop).toList))) := by
  unfold sourceReference
  have hhead : "elf-source-v1/".toList = "elf-source-v1".toList ++ ['/'] := by decide
  have hslash : "/".toList = ['/'] := by decide
  simp only [String.toList_append, hhead, hslash, List.append_assoc, List.cons_append,
    List.nil_append]

theorem splitOn_sourceReference (docId : Uuid) (hhash : IsDigest hash) (start stop : Nat)
    : (sourceReference docId hash start stop).toList.splitOn '/'
        = ["elf-source-v1".toList, docId.toString.toList, hash.toList, (toString start).toList,
          (toString stop).toList] := by
  rw [toList_sourceReference, List.splitOn_append_cons_self_of_not_mem (by decide),
    List.splitOn_append_cons_self_of_not_mem (slash_not_mem_uuid docId),
    List.splitOn_append_cons_self_of_not_mem (hhash.slash_not_mem),
    List.splitOn_append_cons_self_of_not_mem (slash_not_mem_digits start),
    List.splitOn_eq_singleton (slash_not_mem_digits stop)]

theorem utf8ByteSize_sourceReference (docId : Uuid) (hhash : IsDigest hash) (hstart : start < 2 ^ 64)
    (hstop : stop < 2 ^ 64)
    : (sourceReference docId hash start stop).utf8ByteSize ≤ 192 := by
  have hhead : "elf-source-v1/".utf8ByteSize = 14 := by decide
  have hslash : "/".utf8ByteSize = 1 := by decide
  have hfirst := (isAscii_toString start).utf8ByteSize
  have hlast := (isAscii_toString stop).utf8ByteSize
  have hfirstlen := length_toString_le hstart
  have hlastlen := length_toString_le hstop
  unfold sourceReference
  simp only [String.utf8ByteSize_append, utf8ByteSize_uuid, hhash.utf8ByteSize, hhead, hslash]
  omega

theorem parseReference_sourceReference (hid : docId < 2 ^ 128) (hhash : IsDigest hash)
    (hstop : stop < 2 ^ 64) (hlt : start < stop) (hsize : stop - start ≤ defaultL2MaxBytes)
    : parseReference (sourceReference docId hash start stop) = some ⟨docId, hash, start, stop⟩ := by
  have hbytes := utf8ByteSize_sourceReference docId hhash (Nat.lt_trans hlt hstop) hstop
  unfold parseReference
  rw [if_neg (by omega), splitOn_sourceReference docId hhash]
  simp only [List.map_cons, List.map_nil, String.ofList_toList]
  unfold parseParts
  rw [Uuid.parseStr_toString hid, parseHash_eq hhash, parseUsize_toString hstop,
    parseUsize_toString (by omega)]
  simp only [Option.bind_eq_bind, Option.bind_some]
  rw [if_neg (by omega)]

theorem slash_append_inj {a b c d : List Char} (h : a ++ '/' :: b = c ++ '/' :: d) (hb : '/' ∉ b)
    (hd : '/' ∉ d) : a = c ∧ b = d := by
  rcases List.append_eq_append_iff.mp h with ⟨m, hc, hm⟩ | ⟨m, ha, hm⟩
  . cases m with
    | nil =>
      rw [List.append_nil] at hc
      rw [List.nil_append, List.cons.injEq] at hm
      exact ⟨hc.symm, hm.2⟩
    | cons x m =>
      rw [List.cons_append, List.cons.injEq] at hm
      refine absurd ?_ hb
      rw [hm.2]
      exact List.mem_append_right _ (List.mem_cons_self ..)
  . cases m with
    | nil =>
      rw [List.append_nil] at ha
      rw [List.nil_append, List.cons.injEq] at hm
      exact ⟨ha, hm.2.symm⟩
    | cons x m =>
      rw [List.cons_append, List.cons.injEq] at hm
      refine absurd ?_ hd
      rw [hm.2]
      exact List.mem_append_right _ (List.mem_cons_self ..)

/-- A reference names one range of one version. -/
theorem sourceReference_inj {docId docId' : Uuid} {hash hash' : String} {start start' stop stop' : Nat}
    (hid : docId < 2 ^ 128) (hid' : docId' < 2 ^ 128)
    (h : sourceReference docId hash start stop = sourceReference docId' hash' start' stop')
    : docId = docId' ∧ hash = hash' ∧ start = start' ∧ stop = stop' := by
  have hlist := congrArg String.toList h
  rw [toList_sourceReference, toList_sourceReference, List.append_cancel_left_eq, List.cons.injEq]
    at hlist
  have hlength : docId.toString.toList.length = docId'.toString.toList.length := by
    rw [Uuid.length_toString, Uuid.length_toString]
  rcases List.append_inj hlist.2 hlength with ⟨hdoc, htail⟩
  rw [List.cons.injEq, ← List.cons_append, ← List.append_assoc, ← List.cons_append,
    ← List.append_assoc] at htail
  rcases slash_append_inj htail.2 (slash_not_mem_digits stop) (slash_not_mem_digits stop')
    with ⟨hfront, hstop⟩
  rcases slash_append_inj hfront (slash_not_mem_digits start) (slash_not_mem_digits start')
    with ⟨hhash, hstart⟩
  exact ⟨Uuid.toString_inj hid hid' (String.toList_injective hdoc), String.toList_injective hhash,
    toString_nat_inj (String.toList_injective hstart),
    toString_nat_inj (String.toList_injective hstop)⟩

end Elf
