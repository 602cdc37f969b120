import Calculator.Call
import Mathlib.Data.List.TakeWhile

/-!
# Texts as bytes

The bytes of a text are the UTF-8 encodings of its characters, one after the other. Only the zero
character has a zero byte in its encoding, so that a text without this character can be handed over
as a byte string, which ends before its first zero byte.
-/

namespace Calculator

/-- A list of bytes is collected from an array as it stands there. -/
theorem Text.toList_loop (bytes : ByteArray) (i : Nat) (collected : List UInt8) :
    ByteArray.toList.loop bytes i collected =
      collected.reverse ++ bytes.data.toList.drop i := by
  fun_induction ByteArray.toList.loop bytes i collected with
  | case1 i collected hlt ih =>
    have hsize : i < bytes.data.size := hlt
    have hlength : i < bytes.data.toList.length := by rwa [Array.length_toList]
    have hget : bytes.get! i = bytes.data.toList[i] := by
      rw [Array.getElem_toList]
      exact getElem!_pos bytes.data i hsize
    rw [ih, List.reverse_cons, List.append_assoc, List.singleton_append, hget,
      ← List.drop_eq_getElem_cons]
  | case2 i collected hlt =>
    have hsize : bytes.data.size ≤ i := Nat.not_lt.mp hlt
    rw [List.drop_eq_nil_of_le (by rwa [Array.length_toList]), List.append_nil]

/-- A text consists of the encodings of its characters. -/
theorem Text.toList_data (text : String) :
    text.toByteArray.data.toList = text.toList.flatMap String.utf8EncodeChar := by
  conv => lhs; rw [← @String.ofList_toList text, String.toByteArray_ofList]
  exact List.toList_data_toByteArray

/-- The bytes of a text are the encodings of its characters. -/
theorem Text.toList_toUTF8 (text : String) :
    text.toUTF8.toList = text.toList.flatMap String.utf8EncodeChar := by
  rw [ByteArray.toList, toList_loop, String.toUTF8_eq_toByteArray, toList_data]
  rfl

/-- A number that is no multiple of 256 is no zero byte. -/
theorem Text.zero_ne_ofNat {n : Nat} (hn : n % 256 ≠ 0) : (0 : UInt8) ≠ UInt8.ofNat n := by
  intro heq
  have hvalue := congrArg UInt8.toNat heq
  rw [UInt8.toNat_ofNat'] at hvalue
  exact hn hvalue.symm

/-- The encoding of a character other than zero has no zero byte. -/
theorem Text.zero_not_mem_utf8EncodeChar {c : Char} (hc : c ≠ '\x00') :
    0 ∉ String.utf8EncodeChar c := by
  have hpositive : c.val.toNat ≠ 0 := fun hzero => hc (Char.ext (UInt32.toNat_inj.mp hzero))
  simp only [String.utf8EncodeChar]
  -- Every byte of a longer encoding has its highest bit set.
  split
  · exact List.not_mem_cons_of_ne_of_not_mem (zero_ne_ofNat (by omega)) List.not_mem_nil
  · split
    · simp only [List.mem_cons, List.not_mem_nil, not_or]
      exact ⟨zero_ne_ofNat (by omega), zero_ne_ofNat (by omega), not_false⟩
    · split
      · simp only [List.mem_cons, List.not_mem_nil, not_or]
        exact ⟨zero_ne_ofNat (by omega), zero_ne_ofNat (by omega), zero_ne_ofNat (by omega),
          not_false⟩
      · simp only [List.mem_cons, List.not_mem_nil, not_or]
        exact ⟨zero_ne_ofNat (by omega), zero_ne_ofNat (by omega), zero_ne_ofNat (by omega),
          zero_ne_ofNat (by omega), not_false⟩

/-- A text without the zero character has no zero byte. -/
theorem Text.zero_not_mem_toUTF8 {text : String} (htext : '\x00' ∉ text.toList) :
    0 ∉ text.toUTF8.toList := by
  rw [toList_toUTF8, List.mem_flatMap]
  rintro ⟨c, hc, hzero⟩
  exact zero_not_mem_utf8EncodeChar (fun heq => htext (heq ▸ hc)) hzero

namespace ByteString

/-- Whether a byte string is a text in UTF-8, up to its first zero byte. -/
def Encodes (bytes : ByteString) (text : String) : Prop :=
  bytes.takeWhile (· ≠ 0) = text.toList.flatMap String.utf8EncodeChar

instance (bytes : ByteString) (text : String) : Decidable (bytes.Encodes text) :=
  inferInstanceAs (Decidable (bytes.takeWhile (· ≠ 0) = _))

/-- The text of a byte string is the one that it encodes. -/
theorem decode?_eq_some_iff {bytes : ByteString} {text : String} :
    bytes.decode? = some text ↔ bytes.Encodes text := by
  rw [Encodes, decode?, String.fromUTF8?, ← Text.toList_data]
  constructor
  · intro hdecode
    split at hdecode
    · cases hdecode
      rfl
    · cases hdecode
  · intro hbytes
    have harray : (⟨(bytes.takeWhile (· ≠ 0)).toArray⟩ : ByteArray) = text.toByteArray := by
      rw [hbytes, Array.toArray_toList]
    rw [harray, dif_pos text.isValidUTF8]
    rfl

/-- A byte string does not encode the zero character. -/
theorem Encodes.zero_not_mem {bytes : ByteString} {text : String} (hencodes : bytes.Encodes text) :
    '\x00' ∉ text.toList := by
  intro hmem
  have hzero : 0 ∈ text.toList.flatMap String.utf8EncodeChar :=
    List.mem_flatMap.mpr ⟨_, hmem, by decide⟩
  rw [← hencodes] at hzero
  simpa using List.mem_takeWhile_imp hzero

end ByteString

end Calculator
