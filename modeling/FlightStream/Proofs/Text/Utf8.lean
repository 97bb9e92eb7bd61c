import Mathlib.Data.List.Basic
import FlightStream.Text.Utf8

/-!
What is written is read back: the bytes of a text are the bytes of its characters one after
the other, one step of reading takes exactly the bytes of one character (`step_character`), and
so a reading of the whole yields the code points of the text, and these the text
(`decode_encode`, `textOfCodes_toNat`).
-/

namespace FlightStream.Utf8

/-! ## The bytes of a text -/

/-- Listing the bytes of an array from some place on. -/
theorem toList_loop (bytes : ByteArray) (i : Nat) (listed : List UInt8) :
    ByteArray.toList.loop bytes i listed = listed.reverse ++ bytes.data.toList.drop i := by
  fun_induction ByteArray.toList.loop bytes i listed with
  | case1 i listed inside ih =>
    have inList : i < bytes.data.toList.length := by simpa using inside
    rw [ih, List.drop_eq_getElem_cons inList]
    simp [ByteArray.get!, inside]
  | case2 i listed outside =>
    rw [List.drop_eq_nil_of_le (by simpa using Nat.le_of_not_lt outside), List.append_nil]

/-- The bytes of a text are those of its characters. -/
theorem encode_eq (s : String) : encode s = s.toList.flatMap String.utf8EncodeChar := by
  have bytes : s.toUTF8 = (s.toList.flatMap String.utf8EncodeChar).toByteArray :=
    String.utf8Encode_toList.symm
  rw [encode, bytes, ByteArray.toList, toList_loop]
  simp

/-! ## One character -/

/-- A byte after the first holds six bits. -/
theorem toNat_tail (bits : Nat) : (UInt8.ofNat (bits % 64 + 128)).toNat = bits % 64 + 128 := by
  rw [UInt8.toNat_ofNat']
  omega

/-- A byte in its range is read onto the bits so far. -/
theorem continueWith_tail {low high bits : Nat} (count collected taken : Nat)
    (rest : List UInt8) (least : low ≤ bits % 64 + 128) (most : bits % 64 + 128 ≤ high) :
    continueWith (count + 1) low high collected taken (UInt8.ofNat (bits % 64 + 128) :: rest) =
      continueWith count 0x80 0xbf (collected * 64 + bits % 64) (taken + 1) rest := by
  rw [continueWith, toNat_tail, if_pos ⟨least, most⟩]
  congr 2
  omega

/-- Every byte that holds six bits may follow as a later one. -/
theorem continueWith_later (count collected taken bits : Nat) (rest : List UInt8) :
    continueWith (count + 1) 0x80 0xbf collected taken (UInt8.ofNat (bits % 64 + 128) :: rest) =
      continueWith count 0x80 0xbf (collected * 64 + bits % 64) (taken + 1) rest :=
  continueWith_tail count collected taken rest (by omega) (by omega)

/-- Only one first byte begins a surrogate, and with it only a high second byte. -/
theorem surrogate?_eq_none {lead : Nat} {second : UInt8} {rest : List UInt8}
    (proper : lead ≠ 0xed ∨ second.toNat < 0xa0) : surrogate? lead (second :: rest) = none := by
  rcases rest with _ | ⟨third, rest⟩
  · rfl
  · rw [surrogate?, if_neg]
    rintro ⟨isLead, ⟨least, -⟩, -⟩
    rcases proper with other | low
    · exact other isLead
    · omega

/-- What a first byte of three says of the second, which is in the range that it asks for. -/
theorem following_three {v : Nat} (least : 0x800 ≤ v) (most : v < 0x10000)
    (noSurrogate : ¬(0xd800 ≤ v ∧ v < 0xe000)) :
    ∃ low high, following (v / 4096 % 16 + 224) = some (2, low, high) ∧
      low ≤ v / 64 % 64 + 128 ∧ v / 64 % 64 + 128 ≤ high := by
  unfold following
  rw [if_neg (by omega)]
  by_cases first : v / 4096 % 16 + 224 = 0xe0
  · exact ⟨0xa0, 0xbf, by rw [if_pos first], by omega, by omega⟩
  rw [if_neg first]
  by_cases before : v / 4096 % 16 + 224 = 0xed
  · exact ⟨0x80, 0x9f, by rw [if_pos before], by omega, by omega⟩
  · rw [if_neg before, if_pos (by omega)]
    exact ⟨0x80, 0xbf, rfl, by omega, by omega⟩

/-- What a first byte of four says of the second, which is in the range that it asks for. -/
theorem following_four {v : Nat} (least : 0x10000 ≤ v) (most : v < 0x110000) :
    ∃ low high, following (v / 262144 % 8 + 240) = some (3, low, high) ∧
      low ≤ v / 4096 % 64 + 128 ∧ v / 4096 % 64 + 128 ≤ high := by
  unfold following
  rw [if_neg (by omega), if_neg (by omega), if_neg (by omega), if_neg (by omega)]
  by_cases first : v / 262144 % 8 + 240 = 0xf0
  · exact ⟨0x90, 0xbf, by rw [if_pos first], by omega, by omega⟩
  rw [if_neg first]
  by_cases last : v / 262144 % 8 + 240 = 0xf4
  · exact ⟨0x80, 0x8f, by rw [if_neg (by omega), if_pos last], by omega, by omega⟩
  · rw [if_pos (by omega)]
    exact ⟨0x80, 0xbf, rfl, by omega, by omega⟩

/-- A step that does not end with the first byte reads on as that byte asks. -/
theorem step_following {lead second : UInt8} {rest : List UInt8} {count low high : Nat}
    (long : 0x80 ≤ lead.toNat) (proper : lead.toNat ≠ 0xed ∨ second.toNat < 0xa0)
    (asks : following lead.toNat = some (count, low, high)) :
    step lead (second :: rest) =
      continueWith count low high (leadBits lead.toNat count) 0 (second :: rest) := by
  rw [step, if_neg (by omega), surrogate?_eq_none proper, asks]

/-- One byte. -/
theorem step_one {v : Nat} (most : v < 0x80) (rest : List UInt8) :
    step (UInt8.ofNat v) rest = ⟨.char (Char.ofNat v), 0⟩ := by
  have toNat : (UInt8.ofNat v).toNat = v := by rw [UInt8.toNat_ofNat']; omega
  rw [step, toNat, if_pos most]

/-- Two bytes. -/
theorem step_two {v : Nat} (least : 0x80 ≤ v) (most : v < 0x800) (rest : List UInt8) :
    step (UInt8.ofNat (v / 64 % 32 + 192)) (UInt8.ofNat (v % 64 + 128) :: rest) =
      ⟨.char (Char.ofNat v), 1⟩ := by
  have toNat : (UInt8.ofNat (v / 64 % 32 + 192)).toNat = v / 64 % 32 + 192 := by
    rw [UInt8.toNat_ofNat']; omega
  have asks : following (v / 64 % 32 + 192) = some (1, 0x80, 0xbf) := if_pos (by omega)
  have code : (v / 64 % 32 + 192) % 0x20 * 64 + v % 64 = v := by omega
  rw [← toNat] at asks
  rw [step_following (by omega) (by omega) asks, continueWith_later, continueWith, toNat,
    leadBits, if_pos rfl, code]

/-- Three bytes. -/
theorem step_three {v : Nat} (least : 0x800 ≤ v) (most : v < 0x10000)
    (noSurrogate : ¬(0xd800 ≤ v ∧ v < 0xe000)) (rest : List UInt8) :
    step (UInt8.ofNat (v / 4096 % 16 + 224))
        (UInt8.ofNat (v / 64 % 64 + 128) :: UInt8.ofNat (v % 64 + 128) :: rest) =
      ⟨.char (Char.ofNat v), 2⟩ := by
  have toNat : (UInt8.ofNat (v / 4096 % 16 + 224)).toNat = v / 4096 % 16 + 224 := by
    rw [UInt8.toNat_ofNat']; omega
  have second := toNat_tail (v / 64)
  have code : ((v / 4096 % 16 + 224) % 0x10 * 64 + v / 64 % 64) * 64 + v % 64 = v := by omega
  obtain ⟨low, high, asks, lowest, highest⟩ := following_three least most noSurrogate
  rw [← toNat] at asks
  rw [step_following (by omega) (by omega) asks, continueWith_tail _ _ _ _ lowest highest,
    continueWith_later, continueWith, toNat, leadBits, if_neg (by omega), if_pos rfl, code]

/-- Four bytes. -/
theorem step_four {v : Nat} (least : 0x10000 ≤ v) (most : v < 0x110000) (rest : List UInt8) :
    step (UInt8.ofNat (v / 262144 % 8 + 240)) (UInt8.ofNat (v / 4096 % 64 + 128) ::
        UInt8.ofNat (v / 64 % 64 + 128) :: UInt8.ofNat (v % 64 + 128) :: rest) =
      ⟨.char (Char.ofNat v), 3⟩ := by
  have toNat : (UInt8.ofNat (v / 262144 % 8 + 240)).toNat = v / 262144 % 8 + 240 := by
    rw [UInt8.toNat_ofNat']; omega
  have code : (((v / 262144 % 8 + 240) % 0x08 * 64 + v / 4096 % 64) * 64 + v / 64 % 64) * 64 +
      v % 64 = v := by omega
  obtain ⟨low, high, asks, lowest, highest⟩ := following_four least most
  rw [← toNat] at asks
  rw [step_following (by omega) (by omega) asks, continueWith_tail _ _ _ _ lowest highest,
    continueWith_later, continueWith_later, continueWith, toNat, leadBits, if_neg (by omega),
    if_neg (by omega), code]

/-- The code point of a character is not that of a surrogate. -/
theorem code_bounds (c : Char) :
    c.val.toNat < 0x110000 ∧ ¬(0xd800 ≤ c.val.toNat ∧ c.val.toNat < 0xe000) := by
  have valid := c.valid
  rw [UInt32.isValidChar, Nat.isValidChar] at valid
  omega

/-- One step takes the bytes of one character. -/
theorem step_character (c : Char) (rest : List UInt8) :
    ∃ lead more, String.utf8EncodeChar c = lead :: more ∧
      step lead (more ++ rest) = ⟨.char c, more.length⟩ := by
  obtain ⟨most, noSurrogate⟩ := code_bounds c
  have same : Char.ofNat c.val.toNat = c := Char.ofNat_toNat c
  unfold String.utf8EncodeChar
  generalize c.val.toNat = v at most noSurrogate same
  subst same
  dsimp only
  by_cases one : v ≤ 127
  · exact ⟨_, [], if_pos one, step_one (by omega) rest⟩
  rw [if_neg one]
  by_cases two : v ≤ 2047
  · exact ⟨_, [_], if_pos two, step_two (by omega) (by omega) rest⟩
  rw [if_neg two]
  by_cases three : v ≤ 65535
  · exact ⟨_, [_, _], if_pos three, step_three (by omega) (by omega) noSurrogate rest⟩
  · exact ⟨_, [_, _, _], if_neg three, step_four (by omega) most rest⟩

/-! ## All characters -/

/-- A reading of written characters yields their code points. -/
theorem decodeFrom_characters (position : Nat) (cs : List Char) :
    decodeFrom position (cs.flatMap String.utf8EncodeChar) = .ok (cs.map Char.toNat) := by
  induction cs generalizing position with
  | nil => rw [List.flatMap_nil, decodeFrom]; rfl
  | cons c cs ih =>
    obtain ⟨lead, more, bytes, taken⟩ := step_character c (cs.flatMap String.utf8EncodeChar)
    rw [List.flatMap_cons, bytes, List.cons_append, decodeFrom, taken]
    dsimp only
    rw [List.drop_left, ih]
    rfl

/-- The code points of a text are read from its bytes. -/
theorem decode_encode (s : String) : decode (encode s) = .ok (s.toList.map Char.toNat) := by
  rw [decode, encode_eq, decodeFrom_characters]

/-- The code points of a text make the text. -/
theorem textOfCodes_toNat (s : String) : Text.textOfCodes (s.toList.map Char.toNat) = s := by
  have same (c : Char) : Text.charOfCode c.toNat = c := by
    have noSurrogate : Text.isSurrogate c.toNat = false := by
      have := (code_bounds c).2
      simp only [Text.isSurrogate, Text.isHighSurrogate, Text.isLowSurrogate, Char.toNat]
      grind
    rw [Text.charOfCode, noSurrogate]
    exact Char.ofNat_toNat c
  have all : Text.charOfCode ∘ Char.toNat = id := funext same
  rw [Text.textOfCodes, List.map_map, all, List.map_id, String.ofList_toList]

end FlightStream.Utf8
