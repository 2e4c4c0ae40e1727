import AppDeploy.Http.Url
import Mathlib.Data.List.Basic

/-!
# Percent-encoded texts

Decoding gives back the bytes of the text that was encoded (`decodePercent_encode`), so no two
texts are encoded alike (`encode_inj`). Only unreserved characters and percent signs are written
(`mem_encode`), and a text of unreserved characters is written as it is (`encode_of_unreserved`).
-/

namespace AppDeploy.Text.Percent

open Url (decodePercent)

/-- The character with the number of a byte. -/
def byteChar (b : UInt8) : Char :=
  Char.ofNat b.toNat

theorem byteChar_inj {a b : UInt8} (h : byteChar a = byteChar b) : a = b := by
  have hvalid (b : UInt8) : b.toNat.isValidChar := .inl (Nat.lt_trans b.toNat_lt (by decide))
  have htoNat (b : UInt8) : (byteChar b).toNat = b.toNat := by
    rw [byteChar, Char.ofNat, dif_pos (hvalid b)]
    rfl
  exact UInt8.toNat_inj.1 (by rw [← htoNat a, h, htoNat b])

/-! ## What is written -/

theorem isUnreserved_hexDigit : ∀ n < 16, isUnreserved (hexDigit n) = true := by
  decide

theorem toNat_lt_of_isAlphanum {c : Char} (h : c.isAlphanum = true) : c.toNat < 128 := by
  have hrange : (decide ('A' ≤ c ∧ c ≤ 'Z') || (decide ('a' ≤ c) && decide (c ≤ 'z')) ||
      (decide ('0' ≤ c) && decide (c ≤ '9'))) = true := h
  simp only [Bool.or_eq_true, Bool.and_eq_true, decide_eq_true_eq] at hrange
  rcases hrange with (⟨_, hlast⟩ | ⟨_, hlast⟩) | ⟨_, hlast⟩
  · exact Nat.lt_of_le_of_lt hlast (by decide)
  · exact Nat.lt_of_le_of_lt hlast (by decide)
  · exact Nat.lt_of_le_of_lt hlast (by decide)

/-- Unreserved characters are ASCII, and no percent sign is among them. -/
theorem ascii_of_isUnreserved {c : Char} (h : isUnreserved c = true) :
    c.toNat < 128 ∧ c ≠ '%' := by
  constructor
  · simp only [isUnreserved, Bool.or_eq_true, decide_eq_true_eq] at h
    rcases h with (((h | rfl) | rfl) | rfl) | rfl
    · exact toNat_lt_of_isAlphanum h
    all_goals decide
  · rintro rfl
    revert h
    decide

theorem mem_escape {b : UInt8} {c : Char} (h : c ∈ escape b) :
    isUnreserved c = true ∨ c = '%' := by
  have hb := b.toNat_lt
  simp only [escape, List.mem_cons, List.not_mem_nil, or_false] at h
  rcases h with rfl | rfl | rfl
  · exact .inr rfl
  · exact .inl (isUnreserved_hexDigit _ (by omega))
  · exact .inl (isUnreserved_hexDigit _ (by omega))

theorem mem_encode {s : String} {c : Char} (h : c ∈ (encode s).toList) :
    isUnreserved c = true ∨ c = '%' := by
  rw [encode, String.toList_ofList] at h
  obtain ⟨a, -, ha⟩ := List.mem_flatMap.1 h
  rw [encodeChar] at ha
  split at ha
  · next hplain =>
    obtain rfl := List.mem_singleton.1 ha
    exact .inl hplain
  · obtain ⟨b, -, hb⟩ := List.mem_flatMap.1 ha
    exact mem_escape hb

theorem encode_of_unreserved {s : String} (h : ∀ c ∈ s.toList, isUnreserved c = true) :
    encode s = s := by
  have hchars : s.toList.flatMap encodeChar = s.toList.flatMap fun c => [c] :=
    List.flatMap_congr fun c hc => if_pos (h c hc)
  rw [encode, hchars, List.flatMap_singleton', String.ofList_toList]

/-! ## What is read -/

theorem hexValue?_hexDigit : ∀ n < 16, Url.hexValue? (hexDigit n) = some n := by
  decide

theorem decodePercent_escape (b : UInt8) (rest : List Char) :
    decodePercent (escape b ++ rest) = byteChar b :: decodePercent rest := by
  have hb := b.toNat_lt
  have high := hexValue?_hexDigit (b.toNat / 16) (by omega)
  have low := hexValue?_hexDigit (b.toNat % 16) (by omega)
  have hsum : b.toNat / 16 * 16 + b.toNat % 16 = b.toNat := by omega
  simp only [escape, List.cons_append, List.nil_append, decodePercent, high, low, hsum, byteChar]

theorem decodePercent_escapes (bytes : List UInt8) (rest : List Char) :
    decodePercent (bytes.flatMap escape ++ rest) = bytes.map byteChar ++ decodePercent rest := by
  induction bytes with
  | nil => rfl
  | cons b more ih =>
    rw [List.flatMap_cons, List.append_assoc, decodePercent_escape, ih]
    rfl

theorem decodePercent_plain {c : Char} (h : c ≠ '%') (rest : List Char) :
    decodePercent (c :: rest) = c :: decodePercent rest := by
  rw [decodePercent]
  intro _ _ _ hc
  exact absurd hc h

/-- An ASCII character is one byte, its number. -/
theorem utf8EncodeChar_ascii {c : Char} (h : c.toNat < 128) :
    (String.utf8EncodeChar c).map byteChar = [c] := by
  have hsize : c.utf8Size = 1 := by
    rw [Char.utf8Size_eq_one_iff, UInt32.le_iff_toNat_le]
    exact Nat.le_of_lt_succ h
  have hbyte : c.val.toUInt8.toNat = c.toNat := by
    rw [UInt32.toNat_toUInt8]
    exact Nat.mod_eq_of_lt (Nat.lt_trans h (by decide))
  rw [String.utf8EncodeChar_eq_singleton hsize, List.map_singleton, byteChar, hbyte,
    Char.ofNat_toNat]

theorem decodePercent_encodeChar (c : Char) (rest : List Char) :
    decodePercent (encodeChar c ++ rest) =
      (String.utf8EncodeChar c).map byteChar ++ decodePercent rest := by
  rw [encodeChar]
  split
  · next hplain =>
    obtain ⟨hascii, hpercent⟩ := ascii_of_isUnreserved hplain
    rw [utf8EncodeChar_ascii hascii]
    exact decodePercent_plain hpercent rest
  · exact decodePercent_escapes _ rest

theorem decodePercent_encode (s : String) :
    decodePercent (encode s).toList =
      (s.toList.flatMap String.utf8EncodeChar).map byteChar := by
  have hchars : ∀ cs : List Char,
      decodePercent (cs.flatMap encodeChar) = (cs.flatMap String.utf8EncodeChar).map byteChar := by
    intro cs
    induction cs with
    | nil => rfl
    | cons c rest ih =>
      rw [List.flatMap_cons, decodePercent_encodeChar, ih, List.flatMap_cons, List.map_append]
  rw [encode, String.toList_ofList, hchars]

/-- No two texts are encoded alike. -/
theorem encode_inj {s t : String} : encode s = encode t ↔ s = t := by
  constructor
  · intro h
    have hbytes := (decodePercent_encode s).symm.trans (h ▸ decodePercent_encode t)
    have hutf8 : s.toList.utf8Encode = t.toList.utf8Encode := by
      rw [List.utf8Encode, List.utf8Encode,
        (List.map_inj_right fun _ _ => byteChar_inj).1 hbytes]
    rw [← String.toByteArray_ofList, ← String.toByteArray_ofList, String.toByteArray_inj,
      String.ofList_toList, String.ofList_toList] at hutf8
    exact hutf8
  · exact congrArg encode

end AppDeploy.Text.Percent
