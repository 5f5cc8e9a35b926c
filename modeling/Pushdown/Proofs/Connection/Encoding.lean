import Mathlib.Data.List.Basic
import Pushdown.Connection.Identity

/-!
# The parts of a connection are in its bytes

The bytes that are hashed for a connection hold its parts, and no other parts have the same bytes
(`Identity.encode_inj`). A label ends at the first zero byte, since no byte of its text is zero
unless a character is (`Text.zero_mem_bytes_iff`); a value ends at the first byte that is no byte of
any text (`Text.not_mem_bytes`), whatever characters it has. So identities that differ are left
apart by their encoding, and two that agree have the same parts or are a collision of the hash
(`Identity.ofParts_inj`).
-/

namespace Pushdown

/-! ## The bytes of a text -/

namespace Text

/-- The bytes of a text, as they are hashed. -/
abbrev bytes (s : String) : List UInt8 := s.toUTF8.toList

/-- A loop over the bytes of an array goes through its list. -/
theorem toList_loop (bs : ByteArray) (i : Nat) (r : List UInt8) :
    ByteArray.toList.loop bs i r = r.reverse ++ bs.data.toList.drop i := by
  fun_induction ByteArray.toList.loop bs i r with
  | case1 i r h ih =>
    have hi : i < bs.data.toList.length := h
    rw [ih, List.drop_eq_getElem_cons hi]
    simp [ByteArray.get!, getElem!_pos, h]
  | case2 i r h =>
    have hi : bs.data.toList.length ≤ i := Nat.le_of_not_lt h
    rw [List.drop_eq_nil_of_le hi, List.append_nil]

/-- The bytes of a text are those of its characters. -/
theorem bytes_eq (s : String) : bytes s = s.toList.flatMap String.utf8EncodeChar := by
  have hdata : s.toUTF8.data.toList = s.toList.flatMap String.utf8EncodeChar := by
    rw [String.toUTF8_eq_toByteArray, ← String.utf8Encode_toList, List.utf8Encode,
      List.data_toByteArray]
  rw [bytes, ByteArray.toList, toList_loop, List.reverse_nil, List.nil_append, List.drop_zero,
    hdata]

/-- Texts with the same bytes are the same. -/
theorem bytes_inj {s t : String} : bytes s = bytes t ↔ s = t := by
  refine ⟨fun h => ?_, fun h => h ▸ rfl⟩
  rw [bytes_eq, bytes_eq] at h
  have hencoded : s.toList.utf8Encode = t.toList.utf8Encode := congrArg List.toByteArray h
  rwa [String.utf8Encode_toList, String.utf8Encode_toList, String.toByteArray_inj] at hencoded

/-- The byte of a character below 128 is the character. Every byte of another is between 128 and
247. -/
theorem mem_utf8EncodeChar {c : Char} {b : UInt8} (h : b ∈ String.utf8EncodeChar c) :
    (b.toNat = c.toNat ∧ c.toNat < 128) ∨ (128 ≤ b.toNat ∧ b.toNat < 248 ∧ 128 ≤ c.toNat) := by
  rw [String.utf8EncodeChar.eq_1] at h
  have hval : c.val.toNat = c.toNat := rfl
  rw [hval] at h
  generalize c.toNat = v at h
  have hsmall : ∀ n < 256, (UInt8.ofNat n).toNat = n := fun n hn => by
    rw [UInt8.toNat_ofNat']; omega
  -- one case for each number of bytes
  split_ifs at h with h1 h2 h3
  · rw [List.mem_singleton] at h
    rw [h, hsmall _ (by omega)]
    omega
  all_goals
    refine .inr ?_
    simp only [List.mem_cons, List.not_mem_nil, or_false] at h
  · rcases h with rfl | rfl <;> rw [hsmall _ (by omega)] <;> omega
  · rcases h with rfl | rfl | rfl <;> rw [hsmall _ (by omega)] <;> omega
  · rcases h with rfl | rfl | rfl | rfl <;> rw [hsmall _ (by omega)] <;> omega

/-- The byte after a value is no byte of any text. -/
theorem not_mem_bytes (s : String) : (0xFF : UInt8) ∉ bytes s := by
  intro h
  rw [bytes_eq, List.mem_flatMap] at h
  obtain ⟨c, -, hmem⟩ := h
  have hbyte : (0xFF : UInt8).toNat = 255 := rfl
  have hcases := mem_utf8EncodeChar hmem
  omega

/-- A text without the character zero has no zero byte. -/
theorem zero_not_mem_bytes {s : String} (h : '\x00' ∉ s.toList) : (0 : UInt8) ∉ bytes s := by
  intro hzero
  rw [bytes_eq, List.mem_flatMap] at hzero
  obtain ⟨c, hc, hmem⟩ := hzero
  have hbyte : (0 : UInt8).toNat = 0 := rfl
  have hcases := mem_utf8EncodeChar hmem
  have hchar : c.toNat = ('\x00' : Char).toNat := by
    have hnul : ('\x00' : Char).toNat = 0 := rfl
    omega
  exact h (Char.toNat_inj.1 hchar ▸ hc)

end Text

/-! ## The bytes of the parts -/

namespace Identity

/-- What stands before the first mark, and what after it, is all there is to read. -/
theorem append_cons_inj_of_first {α : Type} {mark : α} {before before' after after' : List α}
    (hbefore : mark ∉ before) (hbefore' : mark ∉ before')
    (h : before ++ mark :: after = before' ++ mark :: after') :
    before = before' ∧ after = after' := by
  induction before generalizing before' with
  | nil =>
    cases before' with
    | nil => exact ⟨rfl, (List.cons.inj h).2⟩
    | cons x xs =>
      have hx : mark = x := (List.cons.inj h).1
      exact absurd (hx ▸ List.mem_cons_self) hbefore'
  | cons x xs ih =>
    cases before' with
    | nil =>
      have hx : x = mark := (List.cons.inj h).1
      exact absurd (hx ▸ List.mem_cons_self) hbefore
    | cons y ys =>
      obtain ⟨hxy, hrest⟩ := List.cons.inj h
      obtain ⟨heq, hafter⟩ :=
        ih (fun hm => hbefore (.tail x hm)) (fun hm => hbefore' (.tail y hm)) hrest
      exact ⟨by rw [hxy, heq], hafter⟩

/-- No label has the character that ends one. -/
def HasPlainLabels (parts : List (String × String)) : Prop :=
  ∀ part ∈ parts, '\x00' ∉ part.1.toList

instance (parts : List (String × String)) : Decidable (HasPlainLabels parts) :=
  inferInstanceAs (Decidable (∀ part ∈ parts, '\x00' ∉ part.1.toList))

theorem encode_cons (part : String × String) (parts : List (String × String)) :
    encode (part :: parts)
      = Text.bytes part.1 ++ 0x00 :: (Text.bytes part.2 ++ 0xFF :: encode parts) := by
  simp [encode, Text.bytes]

theorem encode_cons_ne_nil (part : String × String) (parts : List (String × String)) :
    encode (part :: parts) ≠ [] := by
  rw [encode_cons]
  exact List.append_ne_nil_of_right_ne_nil _ (List.cons_ne_nil _ _)

/-- The bytes of some parts are those of no others. -/
theorem encode_inj {parts parts' : List (String × String)} (hlabels : HasPlainLabels parts)
    (hlabels' : HasPlainLabels parts') (h : encode parts = encode parts') : parts = parts' := by
  induction parts generalizing parts' with
  | nil =>
    cases parts' with
    | nil => rfl
    | cons part' rest' => exact absurd h.symm (encode_cons_ne_nil part' rest')
  | cons part rest ih =>
    cases parts' with
    | nil => exact absurd h (encode_cons_ne_nil part rest)
    | cons part' rest' =>
      rw [encode_cons, encode_cons] at h
      -- the label ends at the first zero byte, the value at the first byte of no text
      obtain ⟨hlabel, hafter⟩ := append_cons_inj_of_first
        (Text.zero_not_mem_bytes (hlabels part List.mem_cons_self))
        (Text.zero_not_mem_bytes (hlabels' part' List.mem_cons_self)) h
      obtain ⟨hvalue, hrest⟩ := append_cons_inj_of_first
        (Text.not_mem_bytes part.2) (Text.not_mem_bytes part'.2) hafter
      have hpart : part = part' := Prod.ext (Text.bytes_inj.1 hlabel) (Text.bytes_inj.1 hvalue)
      have hrests : rest = rest' := ih (fun p hp => hlabels p (.tail part hp))
        (fun p hp => hlabels' p (.tail part' hp)) hrest
      rw [hpart, hrests]

/-! ## Equal identities -/

theorem baseSixteenDigit_inj : ∀ m < 16, ∀ n < 16,
    Text.baseSixteenDigit m = Text.baseSixteenDigit n → m = n := by
  decide

/-- Bytes that are written alike in base sixteen are the same. -/
theorem hex_inj {bytes bytes' : List UInt8} (h : hex bytes = hex bytes') : bytes = bytes' := by
  have hdigits := String.ofList_injective h
  clear h
  induction bytes generalizing bytes' with
  | nil =>
    cases bytes' with
    | nil => rfl
    | cons b' rest' => simp at hdigits
  | cons b rest ih =>
    cases bytes' with
    | nil => simp at hdigits
    | cons b' rest' =>
      simp only [List.flatMap_cons, List.cons_append, List.nil_append, List.cons.injEq] at hdigits
      obtain ⟨hhigh, hlow, hrest⟩ := hdigits
      have hb := UInt8.toNat_lt b
      have hb' := UInt8.toNat_lt b'
      have hdiv := baseSixteenDigit_inj _ (by omega) _ (by omega) hhigh
      have hmod := baseSixteenDigit_inj _ (by omega) _ (by omega) hlow
      have hbyte : b = b' := UInt8.toNat_inj.1 (by omega)
      rw [hbyte, ih hrest]

end Identity

namespace Sha256

/-- Two messages that differ have the same hash. -/
def Collide (message message' : List UInt8) : Prop :=
  message ≠ message' ∧ hash message = hash message'

instance (message message' : List UInt8) : Decidable (Collide message message') :=
  inferInstanceAs (Decidable (_ ∧ _))

end Sha256

namespace Identity

/-- Parts with the same identity are the same, but for a collision of the hash. -/
theorem ofParts_inj {parts parts' : List (String × String)} (hlabels : HasPlainLabels parts)
    (hlabels' : HasPlainLabels parts')
    (hfree : ¬ Sha256.Collide (encode parts) (encode parts'))
    (h : ofParts parts = ofParts parts') : parts = parts' := by
  have hhash : Sha256.hash (encode parts) = Sha256.hash (encode parts') :=
    hex_inj (Identity.mk.inj h)
  have hencode : encode parts = encode parts' := by
    by_contra hne
    exact hfree ⟨hne, hhash⟩
  exact encode_inj hlabels hlabels' hencode

end Identity

end Pushdown
