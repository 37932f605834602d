import Mathlib.Data.List.TakeWhile
import Mathlib.Tactic.SplitIfs

/-!
# Strings and bytes of MQL5

`StringToCharArray` and `CharArrayToString` with `CP_UTF8`, and the bytes that are left of a string when each of its
units is cast to `uchar`. A string has no `NUL`; what is made of bytes that are not UTF-8 is a parameter, `garbled`.

* `charArrayToString_utf8`: a string comes back from its bytes;
* `lowBytes_utf8_iff`: casting the units gives the bytes of UTF-8 back for ASCII, and for no other string.
-/

namespace Mql

/-- The bytes of `StringToCharArray` with `CP_UTF8`, without the `NUL` at their end. -/
def utf8 (s : List Char) : List UInt8 := s.flatMap String.utf8EncodeChar

/-- `CharArrayToString` with `CP_UTF8`, which stops at a `NUL`. -/
def charArrayToString (garbled : List UInt8 → List Char) (bytes : List UInt8) : List Char :=
  match (bytes.takeWhile (· ≠ 0)).toByteArray.utf8Decode? with
  | some s => s.toList
  | none => garbled bytes

/-- The units of a character in UTF-16. -/
def utf16 (c : Char) : List ℕ :=
  if c.toNat < 0x10000 then [c.toNat]
  else [0xD800 + (c.toNat - 0x10000) / 0x400, 0xDC00 + (c.toNat - 0x10000) % 0x400]

/-- `(uchar)StringGetCharacter(s, i)` for every `i`. -/
def lowBytes (s : List Char) : List UInt8 := (s.flatMap utf16).map UInt8.ofNat

variable {s : List Char} {c : Char}

/-! ## There and back -/

theorem ofNat_ne_zero {n : ℕ} (h : n % 256 ≠ 0) : 0 ≠ UInt8.ofNat n := by
  intro hz
  have htoNat := congrArg UInt8.toNat hz
  rw [UInt8.toNat_ofNat'] at htoNat
  exact h htoNat.symm

theorem zero_not_mem_utf8EncodeChar (h : c ≠ Char.ofNat 0) : 0 ∉ String.utf8EncodeChar c := by
  have hpos : c.val.toNat ≠ 0 := by
    intro hz
    exact h (Char.toNat_inj.mp hz)
  unfold String.utf8EncodeChar
  simp only
  split_ifs
  · simp only [List.mem_singleton]
    exact ofNat_ne_zero (by omega)
  all_goals
    simp only [List.mem_cons, List.not_mem_nil, or_false, not_or]
    refine ⟨ofNat_ne_zero ?_, ?_⟩
    · omega
  · exact ofNat_ne_zero (by omega)
  · exact ⟨ofNat_ne_zero (by omega), ofNat_ne_zero (by omega)⟩
  · exact ⟨ofNat_ne_zero (by omega), ofNat_ne_zero (by omega), ofNat_ne_zero (by omega)⟩

theorem zero_not_mem_utf8 (h : Char.ofNat 0 ∉ s) : 0 ∉ utf8 s := by
  intro hmem
  obtain ⟨c, hc, hbyte⟩ := List.mem_flatMap.mp hmem
  exact zero_not_mem_utf8EncodeChar (fun hz => h (hz ▸ hc)) hbyte

/-- **A string comes back from its bytes.** -/
theorem charArrayToString_utf8 (garbled : List UInt8 → List Char) (h : Char.ofNat 0 ∉ s) :
    charArrayToString garbled (utf8 s) = s := by
  have hall : (utf8 s).takeWhile (· ≠ 0) = utf8 s := by
    refine List.takeWhile_eq_self_iff.mpr fun b hb => ?_
    simpa using fun hz : b = 0 => zero_not_mem_utf8 h (hz ▸ hb)
  have hbytes : (utf8 s).toByteArray = s.utf8Encode := rfl
  rw [charArrayToString, hall, hbytes, List.utf8Decode?_utf8Encode]

/-! ## Low bytes -/

/-- A character of ASCII is its own byte and its own unit; any other has fewer units than bytes. -/
theorem length_utf16_lt (h : ¬ c.toNat < 128) : (utf16 c).length < (String.utf8EncodeChar c).length := by
  have hval : c.val.toNat = c.toNat := rfl
  unfold String.utf8EncodeChar utf16
  simp only [hval]
  split_ifs <;> simp only [List.length_cons, List.length_nil] <;> omega

theorem utf8EncodeChar_of_ascii (h : c.toNat < 128) : String.utf8EncodeChar c = [UInt8.ofNat c.toNat] := by
  have hle : c.val.toNat ≤ 0x7f := Nat.le_of_lt_succ h
  exact if_pos hle

theorem utf16_of_ascii (h : c.toNat < 128) : utf16 c = [c.toNat] := by
  have hlt : c.toNat < 0x10000 := by omega
  exact if_pos hlt

theorem lowBytes_cons (c : Char) (s : List Char) : lowBytes (c :: s) = (utf16 c).map UInt8.ofNat ++ lowBytes s := by
  simp [lowBytes]

theorem utf8_cons (c : Char) (s : List Char) : utf8 (c :: s) = String.utf8EncodeChar c ++ utf8 s := rfl

theorem length_lowBytes_le (s : List Char) : (lowBytes s).length ≤ (utf8 s).length := by
  induction s with
  | nil => exact Nat.le_refl 0
  | cons c s ih =>
    rw [lowBytes_cons, utf8_cons, List.length_append, List.length_append, List.length_map]
    by_cases h : c.toNat < 128
    · rw [utf8EncodeChar_of_ascii h, utf16_of_ascii h]
      exact Nat.add_le_add_left ih _
    · have hlt := length_utf16_lt h
      omega

/-- **The low bytes of a string are its bytes in UTF-8 when it is ASCII, and in no other case.** -/
theorem lowBytes_utf8_iff (s : List Char) : lowBytes s = utf8 s ↔ ∀ c ∈ s, c.toNat < 128 := by
  induction s with
  | nil => simp [lowBytes, utf8]
  | cons c s ih =>
    rw [lowBytes_cons, utf8_cons, List.forall_mem_cons, ← ih]
    by_cases h : c.toNat < 128
    · rw [utf8EncodeChar_of_ascii h, utf16_of_ascii h]
      simp [h]
    · refine ⟨fun heq => ?_, fun hboth => absurd hboth.1 h⟩
      have hlen := congrArg List.length heq
      rw [List.length_append, List.length_append, List.length_map] at hlen
      have hlt := length_utf16_lt h
      have hle := length_lowBytes_le s
      omega

end Mql
