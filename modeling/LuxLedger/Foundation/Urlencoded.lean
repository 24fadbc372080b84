/-
  Foundation/Urlencoded.lean --- `application/x-www-form-urlencoded`.

  A list of names and values is written as text of a few ASCII characters, and read back
  from it.  The reader takes any text: what is no escape stands for itself, and bytes that
  are no UTF-8 stand for the replacement character.
-/
import Mathlib.Data.List.TakeWhile

set_option autoImplicit false

namespace LuxLedger.Foundation

namespace Urlencoded

/-! ## UTF-8 -/

/-- The bytes of a text. -/
def utf8 (s : List Char) : List UInt8 := s.flatMap String.utf8EncodeChar

/-- A continuation byte of UTF-8. -/
def isContinuation (b : UInt8) : Bool := 0x80 ≤ b && b ≤ 0xBF

/-- The second byte may follow the first one in a longer sequence. -/
def mayFollow (lead second : UInt8) : Bool :=
  if lead = 0xE0 then 0xA0 ≤ second && second ≤ 0xBF
  else if lead = 0xED then 0x80 ≤ second && second ≤ 0x9F
  else if lead = 0xF0 then 0x90 ≤ second && second ≤ 0xBF
  else if lead = 0xF4 then 0x80 ≤ second && second ≤ 0x8F
  else 0xE1 ≤ lead && lead ≤ 0xF3 && isContinuation second

/-- How many bytes one replacement character stands for. -/
def malformedLength : List UInt8 → Nat
  | lead :: second :: rest =>
    if mayFollow lead second then
      if 0xF0 ≤ lead ∧ rest.head?.any isContinuation then 3 else 2
    else 1
  | _ => 1

/-- U+FFFD. -/
def replacementCharacter : Char := Char.ofNat 0xFFFD

/-- Read so many characters at the most. -/
def decodeUtf8From : Nat → List UInt8 → List Char
  | 0, _ => []
  | _ + 1, [] => []
  | n + 1, b :: rest =>
    match (b :: rest).toByteArray.utf8DecodeChar? 0 with
    | some c => c :: decodeUtf8From n ((b :: rest).drop c.utf8Size)
    | none =>
      replacementCharacter :: decodeUtf8From n ((b :: rest).drop (malformedLength (b :: rest)))

/-- The text of bytes, whatever they are. -/
def decodeUtf8 (bytes : List UInt8) : List Char := decodeUtf8From bytes.length bytes

theorem decodeUtf8From_utf8 {n : Nat} {s : List Char} (h : s.length ≤ n) :
    decodeUtf8From n (utf8 s) = s := by
  induction s generalizing n with
  | nil => cases n <;> rfl
  | cons c rest ih =>
      obtain ⟨n, rfl⟩ : ∃ m, n = m + 1 := ⟨n - 1, by simp only [List.length_cons] at h; omega⟩
      have hdecoded : (utf8 (c :: rest)).toByteArray.utf8DecodeChar? 0 = some c := by
        rw [utf8, List.flatMap_cons, List.toByteArray_append]
        exact ByteArray.utf8DecodeChar?_utf8EncodeChar_append
      have hrest : (utf8 (c :: rest)).drop c.utf8Size = utf8 rest := by
        rw [utf8, List.flatMap_cons, List.drop_left' (String.length_utf8EncodeChar c)]
        rfl
      cases hbytes : utf8 (c :: rest) with
      | nil =>
          have hlength := congrArg List.length hbytes
          rw [utf8, List.flatMap_cons, List.length_append, String.length_utf8EncodeChar] at hlength
          have hpos := c.utf8Size_pos
          simp only [List.length_nil] at hlength
          omega
      | cons b bs =>
          rw [hbytes] at hdecoded hrest
          simp only [decodeUtf8From, hdecoded, hrest]
          rw [ih (by simpa using h)]

theorem length_le_utf8 (s : List Char) : s.length ≤ (utf8 s).length := by
  induction s with
  | nil => exact Nat.le_refl 0
  | cons c rest ih =>
      have hpos := c.utf8Size_pos
      rw [utf8, List.flatMap_cons, List.length_append, String.length_utf8EncodeChar, ← utf8,
        List.length_cons]
      omega

/-- What is written as UTF-8 is read back. -/
theorem decodeUtf8_utf8 (s : List Char) : decodeUtf8 (utf8 s) = s :=
  decodeUtf8From_utf8 (length_le_utf8 s)

/-! ## Escapes -/

/-- A digit of an escape. -/
def hexDigit (n : Nat) : Char := if n < 10 then Char.ofNat (48 + n) else Char.ofNat (55 + n)

/-- The value of a hexadecimal digit of either case. -/
def hexValue? (b : UInt8) : Option Nat :=
  if 48 ≤ b ∧ b ≤ 57 then some (b.toNat - 48)
  else if 65 ≤ b ∧ b ≤ 70 then some (b.toNat - 55)
  else if 97 ≤ b ∧ b ≤ 102 then some (b.toNat - 87)
  else none

/-- The bytes that stand for themselves: letters, digits and `*`, `-`, `.`, `_`. -/
def isPlain (b : UInt8) : Bool :=
  (48 ≤ b && b ≤ 57) || (65 ≤ b && b ≤ 90) || (97 ≤ b && b ≤ 122) || b ∈ [42, 45, 46, 95]

/-- A byte, written. -/
def encodeByte (b : UInt8) : List Char :=
  if b = 32 then ['+']
  else if isPlain b then [Char.ofNat b.toNat]
  else ['%', hexDigit (b.toNat / 16), hexDigit (b.toNat % 16)]

/-- A plus sign stands for a space. -/
def plusToSpace (b : UInt8) : UInt8 := if b = 43 then 32 else b

/-- Escapes of bytes, decoded. -/
def percentDecode : List UInt8 → List UInt8
  | 37 :: high :: low :: rest =>
    match hexValue? high, hexValue? low with
    | some h, some l => UInt8.ofNat (16 * h + l) :: percentDecode rest
    | _, _ => 37 :: percentDecode (high :: low :: rest)
  | b :: rest => b :: percentDecode rest
  | [] => []

/-- A name or a value, written. -/
def encodeText (s : List Char) : List Char := (utf8 s).flatMap encodeByte

/-- A name or a value, read. -/
def decodeText (s : List Char) : List Char := decodeUtf8 (percentDecode ((utf8 s).map plusToSpace))

theorem utf8_append (s t : List Char) : utf8 (s ++ t) = utf8 s ++ utf8 t := List.flatMap_append

theorem percentDecode_plain {b : UInt8} (h : b ≠ 37) (rest : List UInt8) :
    percentDecode (b :: rest) = b :: percentDecode rest := by
  rw [percentDecode]
  exact fun _ _ _ hb _ => h hb

theorem percentDecode_escape {high low : UInt8} {h l : Nat} (hhigh : hexValue? high = some h)
    (hlow : hexValue? low = some l) (rest : List UInt8) :
    percentDecode (37 :: high :: low :: rest) = UInt8.ofNat (16 * h + l) :: percentDecode rest := by
  rw [percentDecode, hhigh, hlow]

theorem utf8_plain {b : UInt8} (h : isPlain b = true) :
    utf8 [Char.ofNat b.toNat] = [b] ∧ b ≠ 37 ∧ b ≠ 43 := by
  have hall : ∀ i : Fin 256, isPlain (UInt8.ofNat i) = true →
      utf8 [Char.ofNat (UInt8.ofNat i).toNat] = [UInt8.ofNat i] ∧ UInt8.ofNat i ≠ 37 ∧
        UInt8.ofNat i ≠ 43 := by decide +kernel
  have hb := hall ⟨b.toNat, b.toNat_lt⟩
  rw [UInt8.ofNat_toNat] at hb
  exact hb h

theorem utf8_hexDigit {n : Nat} (h : n < 16) :
    ∃ x, utf8 [hexDigit n] = [x] ∧ hexValue? x = some n ∧ plusToSpace x = x := by
  have hall : ∀ i : Fin 16, ∃ x ∈ utf8 [hexDigit i], utf8 [hexDigit i] = [x] ∧
      hexValue? x = some i.val ∧ plusToSpace x = x := by decide +kernel
  obtain ⟨x, -, hx⟩ := hall ⟨n, h⟩
  exact ⟨x, hx⟩

/-- A byte is read off its encoding, and what comes after it. -/
theorem percentDecode_encodeByte (b : UInt8) (rest : List UInt8) :
    percentDecode ((utf8 (encodeByte b)).map plusToSpace ++ rest) = b :: percentDecode rest := by
  unfold encodeByte
  split_ifs with hspace hplain
  · subst hspace
    exact percentDecode_plain (by decide) rest
  · obtain ⟨hbyte, hpercent, hplus⟩ := utf8_plain hplain
    rw [hbyte, List.map_singleton, plusToSpace, if_neg hplus, List.singleton_append,
      percentDecode_plain hpercent]
  · have hbound := b.toNat_lt
    obtain ⟨high, hhigh, hvalue, hkept⟩ := utf8_hexDigit (n := b.toNat / 16) (by omega)
    obtain ⟨low, hlow, hvalue', hkept'⟩ := utf8_hexDigit (n := b.toNat % 16) (by omega)
    have hbytes : utf8 ['%', hexDigit (b.toNat / 16), hexDigit (b.toNat % 16)] = [37, high, low] :=
      calc utf8 ['%', hexDigit (b.toNat / 16), hexDigit (b.toNat % 16)]
          = utf8 ['%'] ++ utf8 [hexDigit (b.toNat / 16)] ++ utf8 [hexDigit (b.toNat % 16)] := by
            rw [← utf8_append, ← utf8_append]
            rfl
        _ = [37, high, low] := by
            rw [hhigh, hlow]
            rfl
    have hsplit : 16 * (b.toNat / 16) + b.toNat % 16 = b.toNat := Nat.div_add_mod _ 16
    rw [hbytes]
    simp only [List.map_cons, List.map_nil, hkept, hkept']
    exact (percentDecode_escape hvalue hvalue' rest).trans (by rw [hsplit, UInt8.ofNat_toNat])

theorem percentDecode_encodeBytes (bytes : List UInt8) :
    percentDecode ((utf8 (bytes.flatMap encodeByte)).map plusToSpace) = bytes := by
  induction bytes with
  | nil => rfl
  | cons b rest ih =>
      rw [List.flatMap_cons, utf8_append, List.map_append, percentDecode_encodeByte, ih]

/-- Every text is read off its encoding. -/
theorem decodeText_encodeText (s : List Char) : decodeText (encodeText s) = s := by
  rw [decodeText, encodeText, percentDecode_encodeBytes, decodeUtf8_utf8]

/-- The characters that texts are encoded with: letters, digits and `*`, `-`, `.`, `_`, `+`,
`%`. -/
def isEncoded (c : Char) : Bool := c.isAlphanum || c ∈ ['*', '-', '.', '_', '+', '%']

theorem plain_encoded {b : UInt8} (h : isPlain b = true) :
    isEncoded (Char.ofNat b.toNat) = true := by
  have hall : ∀ i : Fin 256, isPlain (UInt8.ofNat i) = true →
      isEncoded (Char.ofNat (UInt8.ofNat i).toNat) = true := by decide +kernel
  have hb := hall ⟨b.toNat, b.toNat_lt⟩
  rw [UInt8.ofNat_toNat] at hb
  exact hb h

theorem hexDigit_encoded {n : Nat} (h : n < 16) : isEncoded (hexDigit n) = true := by
  have hall : ∀ i : Fin 16, isEncoded (hexDigit i) = true := by decide +kernel
  exact hall ⟨n, h⟩

/-- The characters that separate are not among them. -/
theorem mem_encodeText {s : List Char} {c : Char} (h : c ∈ encodeText s) :
    isEncoded c = true := by
  obtain ⟨b, -, hc⟩ := List.mem_flatMap.mp h
  unfold encodeByte at hc
  split_ifs at hc with hspace hplain
  · rw [List.mem_singleton.mp hc]
    decide
  · rw [List.mem_singleton.mp hc]
    exact plain_encoded hplain
  · have hbound := b.toNat_lt
    simp only [List.mem_cons, List.not_mem_nil, or_false] at hc
    rcases hc with rfl | rfl | rfl
    · decide
    · exact hexDigit_encoded (by omega)
    · exact hexDigit_encoded (by omega)

/-! ## Pairs -/

/-- The characters of a whole list: those of its texts, `&` and `=`. -/
def isWritten (c : Char) : Bool := isEncoded c || c = '&' || c = '='

/-- A pair, written. -/
def serializePair (pair : List Char × List Char) : List Char :=
  encodeText pair.1 ++ '=' :: encodeText pair.2

/-- A pair, read. -/
def parsePair (s : List Char) : List Char × List Char :=
  (decodeText (s.takeWhile fun c => c ≠ '='), decodeText (s.dropWhile fun c => c ≠ '=').tail)

/-- The pairs, written. -/
def serialize (pairs : List (List Char × List Char)) : List Char :=
  ['&'].intercalate (pairs.map serializePair)

/-- The pairs of a text. -/
def parse (s : List Char) : List (List Char × List Char) :=
  ((s.splitOn '&').filter fun piece => piece ≠ []).map parsePair

theorem parsePair_serializePair (pair : List Char × List Char) :
    parsePair (serializePair pair) = pair := by
  have hname : ∀ c ∈ encodeText pair.1, (decide (c ≠ '=')) = true := by
    intro c hc
    refine decide_eq_true fun hequals => ?_
    exact absurd (hequals ▸ mem_encodeText hc) (by decide)
  rw [parsePair, serializePair, List.takeWhile_append_of_pos hname,
    List.dropWhile_append_of_pos hname]
  simp [decodeText_encodeText]

/-- Every list of names and values is read off its text. -/
theorem parse_serialize (pairs : List (List Char × List Char)) :
    parse (serialize pairs) = pairs := by
  rcases eq_or_ne pairs [] with rfl | hne
  · rfl
  have hseparated : ∀ piece ∈ pairs.map serializePair, '&' ∉ piece := by
    intro piece hpiece hmem
    obtain ⟨pair, -, rfl⟩ := List.mem_map.mp hpiece
    rcases List.mem_append.mp hmem with hname | hvalue
    · exact absurd (mem_encodeText hname) (by decide)
    · rcases List.mem_cons.mp hvalue with hequals | hvalue
      · exact absurd hequals (by decide)
      · exact absurd (mem_encodeText hvalue) (by decide)
  have hkept : (pairs.map serializePair).filter (fun piece => piece ≠ []) =
      pairs.map serializePair := by
    rw [List.filter_eq_self]
    intro piece hpiece
    obtain ⟨pair, -, rfl⟩ := List.mem_map.mp hpiece
    simp [serializePair]
  calc parse (serialize pairs)
      = ((pairs.map serializePair).filter fun piece => piece ≠ []).map parsePair := by
        rw [parse, serialize, List.splitOn_intercalate _ hseparated (by simpa using hne)]
    _ = pairs.map (parsePair ∘ serializePair) := by rw [hkept, List.map_map]
    _ = pairs.map id := List.map_congr_left fun pair _ => parsePair_serializePair pair
    _ = pairs := List.map_id pairs

end Urlencoded

end LuxLedger.Foundation
