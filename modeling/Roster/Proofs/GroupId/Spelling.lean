import Roster.GroupId
import Roster.Proofs.Text.Hex

/-!
# The texts of group ids

Thirty-two digits of either case spell an id, and no other text does. The id is the one whose own
text is the same in lower case, so every id is read back from its text. For any other text one of
three faults is told: an odd number of bytes before anything else, then the first byte that is no
digit, and the length last.
-/

namespace Roster.GroupId

open Text Text.Hex

/-- Whether a text is as long as that of an id and all of it is digits, of either case. -/
structure IsSpelling (text : String) : Prop where
  length : text.length = 32
  digits : ∀ c ∈ text.toList, c ∈ alphabet

/-- What a text is read as: an id with its text in lower case, or the first fault of three. -/
inductive Reading (text : String) : Except Hex.Fault GroupId → Prop
  | odd (hodd : (Utf8.encode text).length % 2 = 1) : Reading text (.error .oddLength)
  | bad {front back : List UInt8} {byte : UInt8} (heven : (Utf8.encode text).length % 2 = 0)
      (hsplit : Utf8.encode text = front ++ byte :: back)
      (hfront : ∀ b ∈ front, latin b ∈ alphabet) (hbad : latin byte ∉ alphabet) :
      Reading text (.error (.badDigit byte front.length))
  | length (heven : (Utf8.encode text).length % 2 = 0)
      (hdigits : ∀ b ∈ Utf8.encode text, latin b ∈ alphabet) (hother : ¬ IsSpelling text) :
      Reading text (.error .wrongLength)
  | id {id : GroupId} (hspelling : IsSpelling text) (hhex : id.hex = text.toLower) :
      Reading text (.ok id)

variable {text : String} {id : GroupId} {bytes : List UInt8} {outcome : Except Hex.Fault GroupId}

/-! ### The text of an id -/

/-- How many digits an id has, for the arithmetic that closes the proofs below. -/
theorem two_mul_length : 2 * GroupId.length = 32 := rfl

theorem toList_toLower (text : String) : text.toLower.toList = text.toList.map Char.toLower :=
  String.toList_map

theorem toList_hex (id : GroupId) : id.hex.toList = digits id.bytes := String.toList_ofList

theorem isSpelling_hex (id : GroupId) : IsSpelling id.hex where
  length := by rw [← String.length_toList, toList_hex, length_digits, id.length_bytes,
    two_mul_length]
  digits c hc := by
    rw [toList_hex] at hc
    exact mem_alphabet_of_mem_digits hc

theorem toLower_hex (id : GroupId) : id.hex.toLower = id.hex := by
  rw [← String.toList_inj, toList_toLower, toList_hex, map_toLower_digits]

/-! ### Reading texts -/

theorem length_encode (hchars : ∀ c ∈ text.toList, c ∈ alphabet) :
    (Utf8.encode text).length = text.length := by
  rw [← String.length_toList, ← Utf8.map_latin_encode hchars, List.length_map]

/-- An even number of digits is read as the bytes that have the same digits in lower case. -/
theorem decode_of_digits (heven : text.length % 2 = 0)
    (hchars : ∀ c ∈ text.toList, c ∈ alphabet) :
    ∃ bytes, Hex.decode (Utf8.encode text) = .ok bytes ∧
      digits bytes = text.toLower.toList ∧ 2 * bytes.length = text.length := by
  have heven' : (Utf8.encode text).length % 2 = 0 := by rw [length_encode hchars, heven]
  obtain ⟨bytes, hread, hdigits⟩ := pairs_of_digits heven' (Utf8.forall_mem_encode_iff.2 hchars) 0
  have hlower : digits bytes = text.toList.map Char.toLower := by
    rw [hdigits, ← Utf8.map_latin_encode hchars, List.map_map]
    rfl
  refine ⟨bytes, ?_, ?_, ?_⟩
  · rw [decode_of_even heven', hread]
  · rw [hlower, toList_toLower]
  · rw [← length_digits, hlower, List.length_map, String.length_toList]

theorem ofHex_of_decode (hread : Hex.decode (Utf8.encode text) = .ok bytes) :
    ofHex text = match ofBytes? bytes with
      | some id => .ok id
      | none => .error .wrongLength := by
  rw [ofHex, hread]
  rfl

theorem ofHex_of_isSpelling (hspelling : IsSpelling text) (hhex : id.hex = text.toLower) :
    ofHex text = .ok id := by
  have heven : text.length % 2 = 0 := by rw [hspelling.length]
  obtain ⟨bytes, hread, hdigits, -⟩ := decode_of_digits heven hspelling.digits
  have hbytes : id.bytes = bytes := by
    apply digits_injective
    rw [hdigits, ← toList_hex, hhex]
  rw [ofHex_of_decode hread, ofBytes?_eq_some_iff.2 hbytes]

theorem ofHex_of_wrong_length (heven : text.length % 2 = 0)
    (hchars : ∀ c ∈ text.toList, c ∈ alphabet) (hlength : text.length ≠ 32) :
    ofHex text = .error .wrongLength := by
  obtain ⟨bytes, hread, -, hhalf⟩ := decode_of_digits heven hchars
  have hbytes : bytes.length ≠ GroupId.length := by
    have hdigits := two_mul_length
    omega
  rw [ofHex_of_decode hread, ofBytes?, dif_neg hbytes]

theorem Reading.ofHex_eq (hreading : Reading text outcome) : ofHex text = outcome := by
  cases hreading with
  | odd hodd =>
    rw [ofHex, decode_of_odd hodd]
    rfl
  | bad heven hsplit hfront hbad =>
    rw [hsplit] at heven
    rw [ofHex, hsplit, decode_of_bad heven hfront hbad]
    rfl
  | length heven hdigits hother =>
    have hchars := Utf8.forall_mem_encode_iff.1 hdigits
    rw [length_encode hchars] at heven
    exact ofHex_of_wrong_length heven hchars fun hlength => hother ⟨hlength, hchars⟩
  | id hspelling hhex => exact ofHex_of_isSpelling hspelling hhex

theorem exists_hex_eq_toLower (hspelling : IsSpelling text) :
    ∃ id : GroupId, id.hex = text.toLower := by
  have heven : text.length % 2 = 0 := by rw [hspelling.length]
  obtain ⟨bytes, -, hdigits, hhalf⟩ := decode_of_digits heven hspelling.digits
  have hbytes : bytes.length = GroupId.length := by
    rw [hspelling.length, ← two_mul_length] at hhalf
    omega
  refine ⟨⟨bytes, hbytes⟩, ?_⟩
  rw [← String.toList_inj, toList_hex, hdigits]

theorem exists_reading (text : String) : ∃ outcome, Reading text outcome := by
  rcases Nat.mod_two_eq_zero_or_one (Utf8.encode text).length with heven | hodd
  · rcases digits_or_first_bad (Utf8.encode text) with
      hdigits | ⟨front, byte, back, hsplit, hfront, hbad⟩
    · by_cases hspelling : IsSpelling text
      · obtain ⟨id, hhex⟩ := exists_hex_eq_toLower hspelling
        exact ⟨_, .id hspelling hhex⟩
      · exact ⟨_, .length heven hdigits hspelling⟩
    · exact ⟨_, .bad heven hsplit hfront hbad⟩
  · exact ⟨_, .odd hodd⟩

theorem ofHex_eq_iff_reading : ofHex text = outcome ↔ Reading text outcome := by
  constructor
  · rintro rfl
    obtain ⟨outcome, hreading⟩ := exists_reading text
    rw [hreading.ofHex_eq]
    exact hreading
  · exact Reading.ofHex_eq

/-- A text is read as it should be: as an id exactly if it is thirty-two digits, and with the first
of the three faults otherwise. Every id is read back from its text, and a byte that is no digit is
shown as the character with its code. -/
theorem ofHex_reads :
    (∀ text outcome, ofHex text = outcome ↔ Reading text outcome) ∧
      (∀ text, (∃ id, ofHex text = .ok id) ↔ IsSpelling text) ∧
      (∀ id : GroupId, ofHex id.hex = .ok id) ∧
      ∀ byte position, ∃ c : Char, c.toNat = byte.toNat ∧
        (Hex.Fault.badDigit byte position).message
          = "Invalid character " ++ Quoted.char c ++ " at position " ++ toString position := by
  refine ⟨fun text outcome => ofHex_eq_iff_reading, fun text => ⟨?_, ?_⟩, fun id => ?_,
    fun byte position => ⟨latin byte, toNat_latin byte, rfl⟩⟩
  · rintro ⟨id, hread⟩
    cases ofHex_eq_iff_reading.1 hread with
    | id hspelling hhex => exact hspelling
  · intro hspelling
    obtain ⟨id, hhex⟩ := exists_hex_eq_toLower hspelling
    exact ⟨id, ofHex_of_isSpelling hspelling hhex⟩
  · exact ofHex_of_isSpelling (isSpelling_hex id) (toLower_hex id).symm

example : ofHex "zé" = .error .oddLength ∧ ofHex "00é" = .error (.badDigit 0xC3 2) ∧
    ofHex "00FF" = .error .wrongLength := ⟨rfl, rfl, rfl⟩

end Roster.GroupId
