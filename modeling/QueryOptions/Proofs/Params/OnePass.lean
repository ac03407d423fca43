import QueryOptions.Proofs.Params.Percent

/-!
# Restoring in any order

The delimiters that stay readable are restored by replacing their escapes, one
delimiter after another, throughout the text. No replacement meets what another
one has left: in whichever order they are made, they come to one pass over the
bytes in which each byte is written on its own.
-/

namespace QueryOptions

/-- Replaces a pattern that is not empty wherever it stands, from left to right. What has been put
in its place is not read again. -/
def Text.replaceAll (pattern replacement : List Char) : List Char → List Char
  | [] => []
  | c :: rest =>
    if pattern.isPrefixOf (c :: rest) then
      replacement ++ replaceAll pattern replacement (rest.drop (pattern.length - 1))
    else c :: replaceAll pattern replacement rest
termination_by text => text.length
decreasing_by
  · simp only [List.length_drop, List.length_cons]
    omega
  · simp

namespace Percent

/-- The escapes that are undone, with the characters that stand for them. -/
def keptEscapes : List (String × Char) :=
  [("%21", '!'), ("%27", '\''), ("%28", '('), ("%29", ')'), ("%2A", '*'), ("%40", '@'),
   ("%3A", ':'), ("%24", '$'), ("%2C", ','), ("%3B", ';'), ("%3D", '='), ("%3F", '?'),
   ("%2F", '/')]

def replaceKept (text : List Char) (kept : String × Char) : List Char :=
  Text.replaceAll kept.1.toList [kept.2] text

def hexDigits : List Char := "0123456789ABCDEF".toList

/-- The characters that are written as they are. -/
def IsReadable (c : Char) : Prop := c.isAlphanum = true ∨ c ∈ "-_.~!'()*@:$,;=?/".toList

instance (c : Char) : Decidable (IsReadable c) := inferInstanceAs (Decidable (_ ∨ _))

/-- A byte in one pass: the character itself if it is readable, or `%` and two digits. -/
def onePass (byte : UInt8) : List Char :=
  let c := Char.ofNat byte.toNat
  if IsReadable c then [c]
  else ['%', hexDigits.getD (byte.toNat / 16) '0', hexDigits.getD (byte.toNat % 16) '0']

/-- Every `%` is followed by two hexadecimal digits. -/
def EscapesWhole (text : List Char) : Prop :=
  ∀ before after, text = before ++ '%' :: after →
    ∃ high low rest, after = high :: low :: rest ∧ high ∈ hexDigits ∧ low ∈ hexDigits

theorem replaceEscape_eq_replaceAll (high low replacement : Char) (text : List Char) :
    replaceEscape high low replacement text =
      Text.replaceAll ['%', high, low] [replacement] text := by
  fun_induction replaceEscape high low replacement text with
  | case1 h l rest found inductionHypothesis =>
      rw [Text.replaceAll]
      simp [found, inductionHypothesis]
  | case2 h l rest other inductionHypothesis =>
      have differs : ¬ (high = h ∧ low = l) := fun same => other ⟨same.1.symm, same.2.symm⟩
      rw [Text.replaceAll]
      simp [differs, inductionHypothesis]
  | case3 c rest short inductionHypothesis =>
      -- What is shorter than an escape, or starts otherwise, is none.
      have differs : ['%', high, low].isPrefixOf (c :: rest) = false := by
        by_contra found
        obtain ⟨tail, same⟩ := List.isPrefixOf_iff_prefix.mp (Bool.of_not_eq_false found)
        cases same
        exact short high low tail rfl rfl
      rw [Text.replaceAll, differs, inductionHypothesis]
      rfl
  | case4 => rw [Text.replaceAll]

theorem keptEscapes_eq :
    keptEscapes = keptCharacters.map fun kept =>
      (String.ofList
        ['%', hexDigit (kept.toNat / 16), hexDigit (kept.toNat % 16)], kept) := by
  decide

theorem replaceKept_eq_restore {kept : String × Char} (listed : kept ∈ keptEscapes)
    (text : List Char) : replaceKept text kept = restore text kept.2 := by
  rw [keptEscapes_eq] at listed
  obtain ⟨c, -, rfl⟩ := List.mem_map.mp listed
  rw [replaceKept, restore, replaceEscape_eq_replaceAll, String.toList_ofList]

theorem foldl_replaceKept {order : List (String × Char)} (reordered : order.Perm keptEscapes)
    (text : List Char) :
    order.foldl replaceKept (encodeAll text) =
      (bytes text).flatMap (encodeKeeping keptCharacters) := by
  have characters : (order.map Prod.snd).Perm keptCharacters := by
    have same : keptEscapes.map Prod.snd = keptCharacters := by decide
    exact same ▸ reordered.map Prod.snd
  have noPercent : '%' ∉ ([] : List Char) := by simp
  have restorable : ∀ c ∈ order.map Prod.snd, c.toNat < 128 ∧ c ≠ '%' :=
    fun c listed => keptCharacters_restorable c (characters.mem_iff.mp listed)
  have restored := foldl_restore (order.map Prod.snd) noPercent restorable (bytes text)
  have sameKept : encodeKeeping ((order.map Prod.snd).reverse ++ []) =
      encodeKeeping keptCharacters :=
    encodeKeeping_congr fun c => by
      rw [List.append_nil, List.mem_reverse, characters.mem_iff]
  calc order.foldl replaceKept (encodeAll text)
      = order.foldl (fun text kept => restore text kept.2) (encodeAll text) :=
        List.foldl_ext _ _ _ fun text kept listed =>
          replaceKept_eq_restore (reordered.mem_iff.mp listed) text
    _ = (order.map Prod.snd).foldl restore (encodeAll text) := by rw [List.foldl_map]
    _ = (bytes text).flatMap (encodeKeeping keptCharacters) := by
        rw [encodeAll, ← encodeKeeping_nil, restored, sameKept]

theorem isReadable_iff {c : Char} :
    IsReadable c ↔ isUnreserved c = true ∨ c ∈ keptCharacters := by
  have marks : "-_.~!'()*@:$,;=?/".toList = ['-', '_', '.', '~'] ++ keptCharacters := by decide
  simp only [IsReadable, isUnreserved, marks, List.mem_append, List.mem_cons, List.not_mem_nil,
    or_false, Bool.or_eq_true, decide_eq_true_eq, or_assoc]

theorem lt_of_isAlphanum {c : Char} (alphanumeric : c.isAlphanum = true) : c.toNat < 128 := by
  rcases Bool.or_eq_true_iff.mp alphanumeric with letter | digit
  · rcases Bool.or_eq_true_iff.mp letter with upper | lower
    · exact Nat.lt_of_le_of_lt (of_decide_eq_true upper).2 (by decide)
    · have most := of_decide_eq_true (Bool.and_eq_true_iff.mp lower).2
      exact Nat.lt_of_le_of_lt most (by decide)
  · exact Nat.lt_of_le_of_lt (Char.isDigit_iff_toNat.mp digit).2 (by decide)

theorem IsReadable.lt {c : Char} (readable : IsReadable c) : c.toNat < 128 := by
  have marks : ("-_.~!'()*@:$,;=?/".toList.all fun c => decide (c.toNat < 128)) = true := by
    decide
  rcases readable with alphanumeric | mark
  · exact lt_of_isAlphanum alphanumeric
  · exact of_decide_eq_true (List.all_eq_true.mp marks c mark)

theorem onePass_eq_encodeKeeping : onePass = encodeKeeping keptCharacters := by
  have digits : ∀ n < 16, hexDigits.getD n '0' = hexDigit n := by decide
  funext byte
  obtain ⟨highLess, lowLess⟩ := digits_less byte
  rw [onePass, digits _ highLess, digits _ lowLess]
  rcases encodeKeeping_cases keptCharacters byte with ⟨-, readable, shown⟩ | ⟨hidden, escaped⟩
  · rw [shown]
    exact if_pos (isReadable_iff.mpr readable)
  · rw [escaped]
    refine if_neg fun readable => hidden ⟨?_, isReadable_iff.mp readable⟩
    have bounded : byte.toNat < 256 := byte.toNat_lt_size
    have value : (Char.ofNat byte.toNat).toNat = byte.toNat := by
      rw [Char.ofNat, dif_pos (.inl (by omega))]
      rfl
    exact UInt8.lt_iff_toNat_lt.mpr (value ▸ readable.lt)

theorem bytes_toList (raw : String) : bytes raw.toList = raw.toUTF8.data.toList := by
  have encoded : raw.toByteArray = raw.toList.utf8Encode := by
    rw [← String.toByteArray_ofList, String.ofList_toList]
  have data : raw.toList.utf8Encode.data = (bytes raw.toList).toArray := List.data_toByteArray
  simp only [String.toUTF8, encoded, data]

theorem hexDigit_mem_hexDigits : ∀ n < 16, hexDigit n ∈ hexDigits := by decide

theorem ne_percent_of_mem_hexDigits {c : Char} (digit : c ∈ hexDigits) : c ≠ '%' := by
  rintro rfl
  revert digit
  decide

theorem EscapesWhole.cons {c : Char} {text : List Char} (other : c ≠ '%')
    (whole : EscapesWhole text) : EscapesWhole (c :: text) := by
  intro before after split
  cases before with
  | nil =>
      obtain ⟨same, -⟩ := List.cons.inj split
      exact absurd same other
  | cons first before => exact whole before after (List.cons.inj split).2

theorem EscapesWhole.escape_append {text : List Char} (byte : UInt8) (whole : EscapesWhole text) :
    EscapesWhole (escape byte ++ text) := by
  obtain ⟨highLess, lowLess⟩ := digits_less byte
  have high := hexDigit_mem_hexDigits _ highLess
  have low := hexDigit_mem_hexDigits _ lowLess
  intro before after split
  cases before with
  | nil =>
      obtain ⟨-, rfl⟩ := List.cons.inj split
      exact ⟨_, _, text, rfl, high, low⟩
  | cons first before =>
      apply (whole.cons (ne_percent_of_mem_hexDigits low)).cons (ne_percent_of_mem_hexDigits high)
      exact (List.cons.inj split).2

theorem escapesWhole_flatMap {kept : List Char} (noPercent : '%' ∉ kept) (bytes : List UInt8) :
    EscapesWhole (bytes.flatMap (encodeKeeping kept)) := by
  induction bytes with
  | nil =>
      intro before after split
      simp at split
  | cons byte rest inductionHypothesis =>
      rw [List.flatMap_cons]
      rcases encodeKeeping_cases kept byte with ⟨_, readable, shown⟩ | ⟨_, escaped⟩
      · rw [shown]
        exact inductionHypothesis.cons (readable_ne_percent noPercent readable)
      · rw [escaped]
        exact inductionHypothesis.escape_append byte

theorem plain_of_mem_encodeComponent {raw : String} {c : Char}
    (written : c ∈ (encodeComponent raw).toList) :
    c.toNat < 128 ∧ c ∉ ['&', '+', '#', ' '] := by
  have escapes : (escapeCharacters.all fun c =>
      decide (c.toNat < 128 ∧ c ∉ ['&', '+', '#', ' '])) = true := by decide
  have hidden : (['&', '+', '#', ' '].all fun c => decide (¬ IsReadable c)) = true := by decide
  by_cases escape : c ∈ escapeCharacters
  · exact of_decide_eq_true (List.all_eq_true.mp escapes c escape)
  · have readable := isReadable_iff.mpr (mem_of_mem_encodeComponent written escape).1
    refine ⟨readable.lt, fun separates => ?_⟩
    exact of_decide_eq_true (List.all_eq_true.mp hidden c separates) readable

/-- A component is encoded in one pass over its bytes in UTF-8, in whichever order the escapes of
the delimiters are undone. Every `%` in it starts an escape, nothing in it separates or joins
components, and decoding it gives the text back. -/
theorem encodeComponent_one_pass (raw : String) :
    (encodeComponent raw).toList = raw.toUTF8.data.toList.flatMap onePass ∧
    (∀ order : List (String × Char), order.Perm keptEscapes →
      order.foldl replaceKept (encodeAll raw.toList) = (encodeComponent raw).toList) ∧
    (∀ c ∈ (encodeComponent raw).toList, c.toNat < 128 ∧ c ∉ ['&', '+', '#', ' ']) ∧
    EscapesWhole (encodeComponent raw).toList ∧
    decodeComponent? (encodeComponent raw).toList = some raw := by
  refine ⟨?_, ?_, ?_, ?_, decodeComponent?_encodeComponent raw⟩
  · rw [toList_encodeComponent, onePass_eq_encodeKeeping, bytes_toList]
  · intro order reordered
    rw [foldl_replaceKept reordered, toList_encodeComponent]
  · intro c present
    exact plain_of_mem_encodeComponent present
  · rw [toList_encodeComponent]
    exact escapesWhole_flatMap percent_not_mem_keptCharacters _

-- What looks like the escape of a delimiter is none: its `%` is escaped itself.
example : encodeComponent "%2F/%" = "%252F/%25" := by decide

end Percent

end QueryOptions
