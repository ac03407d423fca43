import Mathlib.Data.List.Basic
import QueryOptions.Params.Percent
import QueryOptions.Url.Host

/-!
# Percent encoding in one pass and back

Restoring escapes one kind after another comes to the same as leaving the
restored characters alone in the first place: every byte is written on its own,
as a readable character or as an escape. Undoing the escapes gives the bytes
back, and what is neither readable nor part of an escape does not occur.
-/

namespace QueryOptions.Percent

theorem digitValue_hexDigit : ∀ n < 16, Decimal.digitValue (hexDigit n) = some n := by decide

/-- The characters of which escapes consist. -/
def escapeCharacters : List Char := "%0123456789ABCDEF".toList

theorem hexDigit_mem : ∀ n < 16, hexDigit n ∈ escapeCharacters := by decide

theorem hexDigit_ne_percent : ∀ n < 16, hexDigit n ≠ '%' := by decide

theorem hexDigit_injective {m n : Nat} (mLess : m < 16) (nLess : n < 16)
    (same : hexDigit m = hexDigit n) : m = n := by
  have values := congrArg Decimal.digitValue same
  rw [digitValue_hexDigit m mLess, digitValue_hexDigit n nLess] at values
  exact Option.some.inj values

theorem readNat?_hexDigits {high low : Nat} (highLess : high < 16) (lowLess : low < 16) :
    Decimal.readNat? 16 [hexDigit high, hexDigit low] = some (high * 16 + low) := by
  simp [Decimal.readNat?, Decimal.isDigitOf, Decimal.valueOf, digitValue_hexDigit, highLess,
    lowLess]

/-- A byte on its own: readable characters as they are, anything else escaped. -/
def encodeKeeping (kept : List Char) (byte : UInt8) : List Char :=
  let c := Char.ofNat byte.toNat
  if byte < 128 ∧ (isUnreserved c ∨ c ∈ kept) then [c] else escape byte

theorem encodeKeeping_nil : encodeKeeping [] = encodeByte := by
  funext byte
  simp [encodeKeeping, encodeByte]

/-- Only which characters are kept matters, not their order. -/
theorem encodeKeeping_congr {first second : List Char} (same : ∀ c, c ∈ first ↔ c ∈ second) :
    encodeKeeping first = encodeKeeping second := by
  funext byte
  simp only [encodeKeeping, same]

/-- A byte is written as the character that it stands for or as its escape. -/
theorem encodeKeeping_cases (kept : List Char) (byte : UInt8) :
    (byte < 128 ∧ (isUnreserved (Char.ofNat byte.toNat) ∨ Char.ofNat byte.toNat ∈ kept) ∧
      encodeKeeping kept byte = [Char.ofNat byte.toNat]) ∨
    (¬ (byte < 128 ∧ (isUnreserved (Char.ofNat byte.toNat) ∨ Char.ofNat byte.toNat ∈ kept)) ∧
      encodeKeeping kept byte = escape byte) := by
  by_cases readable :
      byte < 128 ∧ (isUnreserved (Char.ofNat byte.toNat) ∨ Char.ofNat byte.toNat ∈ kept)
  · exact .inl ⟨readable.1, readable.2, if_pos readable⟩
  · exact .inr ⟨readable, if_neg readable⟩

theorem readable_ne_percent {c : Char} {kept : List Char} (noPercent : '%' ∉ kept)
    (readable : isUnreserved c = true ∨ c ∈ kept) : c ≠ '%' := by
  rintro rfl
  rcases readable with unreserved | restored
  · cases unreserved
  · exact noPercent restored

theorem replaceEscape_cons_of_ne {c : Char} (other : c ≠ '%') (high low replacement : Char)
    (rest : List Char) :
    replaceEscape high low replacement (c :: rest) =
      c :: replaceEscape high low replacement rest := by
  rw [replaceEscape]
  rintro h l tail ⟨⟩
  exact absurd rfl other

theorem unescape_cons_of_ne {c : Char} (other : c ≠ '%') (rest : List Char) :
    Url.unescape (c :: rest) = String.utf8EncodeChar c ++ Url.unescape rest := by
  rw [Url.unescape]
  rintro h l tail ⟨⟩
  exact absurd rfl other

theorem restore_cons_of_ne {c : Char} (other : c ≠ '%') (kept : Char) (rest : List Char) :
    restore (c :: rest) kept = c :: restore rest kept :=
  replaceEscape_cons_of_ne other _ _ _ rest

theorem digits_less (byte : UInt8) : byte.toNat / 16 < 16 ∧ byte.toNat % 16 < 16 := by
  have bounded : byte.toNat < 256 := byte.toNat_lt_size
  omega

/-- An escape is restored if its byte is that of the character, and stays otherwise. -/
theorem restore_escape_append {kept : Char} (ascii : kept.toNat < 128) (byte : UInt8)
    (rest : List Char) :
    restore (escape byte ++ rest) kept =
      (if byte.toNat = kept.toNat then [kept] else escape byte) ++ restore rest kept := by
  obtain ⟨highLess, lowLess⟩ := digits_less byte
  have sameDigits : (hexDigit (byte.toNat / 16) = hexDigit (kept.toNat / 16) ∧
      hexDigit (byte.toNat % 16) = hexDigit (kept.toNat % 16)) ↔ byte.toNat = kept.toNat := by
    constructor
    · rintro ⟨high, low⟩
      have high := hexDigit_injective highLess (by omega) high
      have low := hexDigit_injective lowLess (by omega) low
      omega
    · intro same
      rw [same]
      exact ⟨rfl, rfl⟩
  by_cases same : byte.toNat = kept.toNat
  · simp [restore, escape, replaceEscape, same]
  · have stays : ∀ tail, restore ('%' :: hexDigit (byte.toNat / 16) ::
        hexDigit (byte.toNat % 16) :: tail) kept =
        '%' :: restore (hexDigit (byte.toNat / 16) :: hexDigit (byte.toNat % 16) :: tail) kept := by
      intro tail
      rw [restore, replaceEscape, if_neg (by rwa [sameDigits])]
      rfl
    simp only [escape, List.cons_append, List.nil_append, stays, if_neg same,
      restore_cons_of_ne (hexDigit_ne_percent _ highLess),
      restore_cons_of_ne (hexDigit_ne_percent _ lowLess)]

theorem toNat_ofNat_of_small : ∀ n < 128, (Char.ofNat n).toNat = n := by decide

theorem ofNat_toNat_eq_iff {byte : UInt8} {c : Char} (small : byte < 128) :
    Char.ofNat byte.toNat = c ↔ byte.toNat = c.toNat := by
  have bound : byte.toNat < 128 := UInt8.lt_iff_toNat_lt.mp small
  constructor
  · rintro rfl
    exact (toNat_ofNat_of_small _ bound).symm
  · intro same
    rw [same, Char.ofNat_toNat]

/-- Restoring one more character is keeping it in the first place. -/
theorem restore_flatMap {kept : List Char} {c : Char} (noPercent : '%' ∉ kept)
    (ascii : c.toNat < 128) (bytes : List UInt8) :
    restore (bytes.flatMap (encodeKeeping kept)) c = bytes.flatMap (encodeKeeping (c :: kept)) := by
  induction bytes with
  | nil => rfl
  | cons byte rest inductionHypothesis =>
      rw [List.flatMap_cons, List.flatMap_cons]
      rcases encodeKeeping_cases kept byte with ⟨small, readable, shown⟩ | ⟨hidden, escaped⟩
      · have alsoShown : encodeKeeping (c :: kept) byte = [Char.ofNat byte.toNat] :=
          if_pos ⟨small, readable.imp_right (List.mem_cons_of_mem c)⟩
        rw [shown, alsoShown, List.singleton_append,
          restore_cons_of_ne (readable_ne_percent noPercent readable), inductionHypothesis]
        rfl
      · rw [escaped, restore_escape_append ascii, inductionHypothesis]
        congr 1
        by_cases same : byte.toNat = c.toNat
        · have small : byte < 128 := UInt8.lt_iff_toNat_lt.mpr (same ▸ ascii)
          have stands := (ofNat_toNat_eq_iff small).mpr same
          rw [if_pos same, encodeKeeping, if_pos ⟨small, .inr (stands ▸ List.mem_cons_self)⟩,
            stands]
        · rw [if_neg same, encodeKeeping, if_neg]
          rintro ⟨small, unreserved | restored⟩
          · exact hidden ⟨small, .inl unreserved⟩
          · rcases List.mem_cons.mp restored with stands | restored
            · exact same ((ofNat_toNat_eq_iff small).mp stands)
            · exact hidden ⟨small, .inr restored⟩

theorem foldl_restore (characters : List Char) {kept : List Char} (noPercent : '%' ∉ kept)
    (restorable : ∀ c ∈ characters, c.toNat < 128 ∧ c ≠ '%') (bytes : List UInt8) :
    characters.foldl restore (bytes.flatMap (encodeKeeping kept)) =
      bytes.flatMap (encodeKeeping (characters.reverse ++ kept)) := by
  induction characters generalizing kept with
  | nil => rfl
  | cons c rest inductionHypothesis =>
      obtain ⟨ascii, other⟩ := restorable c List.mem_cons_self
      have stillNoPercent : '%' ∉ c :: kept := by simp [noPercent, other.symm]
      rw [List.foldl_cons, restore_flatMap noPercent ascii,
        inductionHypothesis stillNoPercent fun d later => restorable d (.tail c later)]
      simp

theorem keptCharacters_restorable : ∀ c ∈ keptCharacters, c.toNat < 128 ∧ c ≠ '%' := by
  have all : (keptCharacters.all fun c => c.toNat < 128 && c != '%') = true := by decide
  simpa using List.all_eq_true.mp all

theorem percent_not_mem_keptCharacters : '%' ∉ keptCharacters := by decide

/-- A component is encoded byte by byte, in one pass. -/
theorem toList_encodeComponent (raw : String) :
    (encodeComponent raw).toList = (bytes raw.toList).flatMap (encodeKeeping keptCharacters) := by
  have noPercent : '%' ∉ ([] : List Char) := by simp
  have restored := foldl_restore keptCharacters noPercent keptCharacters_restorable
    (bytes raw.toList)
  have sameKept : encodeKeeping (keptCharacters.reverse ++ []) = encodeKeeping keptCharacters :=
    encodeKeeping_congr (by simp)
  rw [encodeKeeping_nil, sameKept] at restored
  rw [encodeComponent, String.toList_ofList]
  exact restored

theorem utf8EncodeChar_of_small {byte : UInt8} (small : byte < 128) :
    String.utf8EncodeChar (Char.ofNat byte.toNat) = [byte] := by
  have bound : byte.toNat < 128 := UInt8.lt_iff_toNat_lt.mp small
  have value : (Char.ofNat byte.toNat).toNat = byte.toNat := toNat_ofNat_of_small _ bound
  have low : (Char.ofNat byte.toNat).val.toNat ≤ 0x7f := by
    change (Char.ofNat byte.toNat).toNat ≤ 0x7f
    omega
  rw [String.utf8EncodeChar]
  simp only [low, if_true]
  change [UInt8.ofNat (Char.ofNat byte.toNat).toNat] = [byte]
  rw [value, UInt8.ofNat_toNat]

theorem not_small_of_mem (values : List Nat) (high : ∀ n ∈ values, 128 ≤ n ∧ n < 256) :
    ∀ byte ∈ values.map UInt8.ofNat, ¬ byte < 128 := by
  intro byte written small
  obtain ⟨n, present, rfl⟩ := List.mem_map.mp written
  obtain ⟨least, most⟩ := high n present
  have bound : (UInt8.ofNat n).toNat < 128 := UInt8.lt_iff_toNat_lt.mp small
  rw [UInt8.toNat_ofNat_of_lt' most] at bound
  omega

/-- A character has a byte of its own, or bytes that all have the highest bit set. -/
theorem utf8EncodeChar_cases (c : Char) :
    (c.toNat < 128 ∧ String.utf8EncodeChar c = [UInt8.ofNat c.toNat]) ∨
      ∀ byte ∈ String.utf8EncodeChar c, ¬ byte < 128 := by
  fun_cases String.utf8EncodeChar c with
  | case1 value single => exact .inl ⟨Nat.lt_succ_of_le single, rfl⟩
  | case2 value =>
      exact .inr (not_small_of_mem [value / 64 % 32 + 192, value % 64 + 128] (by simp; omega))
  | case3 value =>
      exact .inr (not_small_of_mem
        [value / 4096 % 16 + 224, value / 64 % 64 + 128, value % 64 + 128] (by simp; omega))
  | case4 value =>
      exact .inr (not_small_of_mem [value / 262144 % 8 + 240, value / 4096 % 64 + 128,
        value / 64 % 64 + 128, value % 64 + 128] (by simp; omega))

/-- A byte below 128 belongs to its own character and to no other one. -/
theorem eq_of_mem_utf8EncodeChar {byte : UInt8} {c : Char}
    (written : byte ∈ String.utf8EncodeChar c) (small : byte < 128) :
    c = Char.ofNat byte.toNat := by
  rcases utf8EncodeChar_cases c with ⟨ascii, single⟩ | high
  · rw [single, List.mem_singleton] at written
    rw [written, UInt8.toNat_ofNat_of_lt' (Nat.lt_trans ascii (by decide)), Char.ofNat_toNat]
  · exact absurd small (high byte written)

theorem unescape_escape_append (byte : UInt8) (rest : List Char) :
    Url.unescape (escape byte ++ rest) = byte :: Url.unescape rest := by
  obtain ⟨highLess, lowLess⟩ := digits_less byte
  have value : byte.toNat / 16 * 16 + byte.toNat % 16 = byte.toNat := by omega
  simp [escape, Url.unescape, readNat?_hexDigits highLess lowLess, value]

theorem unescape_flatMap {kept : List Char} (noPercent : '%' ∉ kept) (bytes : List UInt8) :
    Url.unescape (bytes.flatMap (encodeKeeping kept)) = bytes := by
  induction bytes with
  | nil => rfl
  | cons byte rest inductionHypothesis =>
      rw [List.flatMap_cons]
      rcases encodeKeeping_cases kept byte with ⟨small, readable, shown⟩ | ⟨_, escaped⟩
      · rw [shown, List.singleton_append,
          unescape_cons_of_ne (readable_ne_percent noPercent readable), inductionHypothesis,
          utf8EncodeChar_of_small small]
        rfl
      · rw [escaped, unescape_escape_append, inductionHypothesis]

theorem decodeUtf8?_bytes (text : List Char) : Url.decodeUtf8? (bytes text) = some text := by
  have encoded : ByteArray.mk (bytes text).toArray = (String.ofList text).toByteArray := by
    rw [String.toByteArray_ofList]
    exact ByteArray.ext List.data_toByteArray.symm
  have valid := (String.ofList text).isValidUTF8
  rw [Url.decodeUtf8?, encoded, String.fromUTF8?, dif_pos valid]
  exact congrArg some (String.toList_ofList (l := text))

/-- The text that a component stands for. -/
def decodeComponent? (component : List Char) : Option String :=
  (Url.decodeUtf8? (Url.unescape component)).map String.ofList

theorem decodeComponent?_encodeComponent (raw : String) :
    decodeComponent? (encodeComponent raw).toList = some raw := by
  rw [decodeComponent?, toList_encodeComponent, unescape_flatMap percent_not_mem_keptCharacters,
    decodeUtf8?_bytes]
  simp

/-- A character of an encoded text that is in no escape is readable and was there before. -/
theorem mem_of_mem_encodeComponent {raw : String} {c : Char}
    (written : c ∈ (encodeComponent raw).toList) (noEscape : c ∉ escapeCharacters) :
    (isUnreserved c = true ∨ c ∈ keptCharacters) ∧ c ∈ raw.toList := by
  rw [toList_encodeComponent] at written
  obtain ⟨byte, encoded, written⟩ := List.mem_flatMap.mp written
  obtain ⟨source, present, encoded⟩ := List.mem_flatMap.mp encoded
  rcases encodeKeeping_cases keptCharacters byte with ⟨small, readable, shown⟩ | ⟨_, escaped⟩
  · rw [shown, List.mem_singleton] at written
    rw [written]
    exact ⟨readable, eq_of_mem_utf8EncodeChar encoded small ▸ present⟩
  · obtain ⟨highLess, lowLess⟩ := digits_less byte
    rw [escaped, escape, List.mem_cons, List.mem_cons, List.mem_singleton] at written
    rcases written with rfl | rfl | rfl
    · exact absurd (by decide) noEscape
    · exact absurd (hexDigit_mem _ highLess) noEscape
    · exact absurd (hexDigit_mem _ lowLess) noEscape

end QueryOptions.Percent
