/-
  Javascript/Base64Url.lean --- bytes and texts as base64url, without padding.

  Three bytes are four sextets, and each sextet is a character.  Decoding skips the
  characters that stand for no sextet.
-/
import Mathlib.Data.List.Basic
import Mathlib.Data.Nat.Basic

set_option autoImplicit false

namespace LuxLedger.Javascript

/-! ## Sextets -/

/-- The sextets of bytes. -/
def toSextets : List Nat → List Nat
  | a :: b :: c :: rest =>
      a / 4 :: (a % 4 * 16 + b / 16) :: (b % 16 * 4 + c / 64) :: c % 64 :: toSextets rest
  | [a, b] => [a / 4, a % 4 * 16 + b / 16, b % 16 * 4]
  | [a] => [a / 4, a % 4 * 16]
  | [] => []

/-- The bytes of sextets; bits that are left over are dropped. -/
def fromSextets : List Nat → List Nat
  | p :: q :: r :: s :: rest =>
      (p * 4 + q / 16) :: (q % 16 * 16 + r / 4) :: (r % 4 * 64 + s) :: fromSextets rest
  | [p, q, r] => [p * 4 + q / 16, q % 16 * 16 + r / 4]
  | [p, q] => [p * 4 + q / 16]
  | _ => []

theorem fromSextets_toSextets {bytes : List Nat} (h : ∀ b ∈ bytes, b < 256) :
    fromSextets (toSextets bytes) = bytes := by
  induction bytes using toSextets.induct with
  | case1 a b c rest ih =>
      have ha : a < 256 := h a (by simp)
      have hb : b < 256 := h b (by simp)
      have hc : c < 256 := h c (by simp)
      have hrest := ih fun d hd => h d (by simp [hd])
      rw [toSextets, fromSextets, hrest]
      congr 1
      · omega
      · congr 1
        · omega
        · congr 1
          omega
  | case2 a b =>
      have ha : a < 256 := h a (by simp)
      have hb : b < 256 := h b (by simp)
      simp only [toSextets, fromSextets, List.cons.injEq, and_true]
      omega
  | case3 a =>
      have ha : a < 256 := h a (by simp)
      simp only [toSextets, fromSextets, List.cons.injEq, and_true]
      omega
  | case4 => rfl

theorem toSextets_lt {bytes : List Nat} (h : ∀ b ∈ bytes, b < 256) :
    ∀ d ∈ toSextets bytes, d < 64 := by
  induction bytes using toSextets.induct with
  | case1 a b c rest ih =>
      have ha : a < 256 := h a (by simp)
      have hb : b < 256 := h b (by simp)
      have hc : c < 256 := h c (by simp)
      have hrest := ih fun d hd => h d (by simp [hd])
      intro d hd
      simp only [toSextets, List.mem_cons] at hd
      rcases hd with rfl | rfl | rfl | rfl | hd
      · omega
      · omega
      · omega
      · omega
      · exact hrest d hd
  | case2 a b =>
      have ha : a < 256 := h a (by simp)
      have hb : b < 256 := h b (by simp)
      simp only [toSextets, List.mem_cons, List.not_mem_nil, or_false]
      omega
  | case3 a =>
      have ha : a < 256 := h a (by simp)
      simp only [toSextets, List.mem_cons, List.not_mem_nil, or_false]
      omega
  | case4 => simp [toSextets]

/-! ## Characters -/

/-- The characters of base64url in the order of their sextets. -/
def base64UrlAlphabet : List Char :=
  "ABCDEFGHIJKLMNOPQRSTUVWXYZabcdefghijklmnopqrstuvwxyz0123456789-_".toList

/-- The character of a sextet. -/
def sextetChar (sextet : Nat) : Char := base64UrlAlphabet.getD sextet 'A'

/-- The sextet of a character; the two characters of plain base64 are read too. -/
def charSextet (c : Char) : Option Nat :=
  match c with
  | '+' => some 62
  | '/' => some 63
  | _ => base64UrlAlphabet.findIdx? fun d => d = c

theorem charSextet_sextetChar {sextet : Nat} (h : sextet < 64) :
    charSextet (sextetChar sextet) = some sextet := by
  have hall : ∀ i : Fin 64, charSextet (sextetChar i) = some i.val := by decide +kernel
  exact hall ⟨sextet, h⟩

theorem sextetChar_ne_dot {sextet : Nat} (h : sextet < 64) : sextetChar sextet ≠ '.' := by
  have hnone : charSextet '.' = none := by decide +kernel
  intro hdot
  have hsextet := charSextet_sextetChar h
  rw [hdot, hnone] at hsextet
  cases hsextet

theorem filterMap_charSextet {sextets : List Nat} (h : ∀ d ∈ sextets, d < 64) :
    (sextets.map sextetChar).filterMap charSextet = sextets := by
  induction sextets with
  | nil => rfl
  | cons d rest ih =>
      rw [List.map_cons, List.filterMap_cons_some (charSextet_sextetChar (h d List.mem_cons_self)),
        ih fun d' hd' => h d' (List.mem_cons_of_mem _ hd')]

/-! ## Bytes and texts -/

/-- `bytes.toString('base64url')`. -/
def base64Url (bytes : List UInt8) : String :=
  String.ofList ((toSextets (bytes.map UInt8.toNat)).map sextetChar)

/-- `Buffer.from(value, 'base64url')`. -/
def base64UrlBytes (value : String) : List UInt8 :=
  (fromSextets (value.toList.filterMap charSextet)).map UInt8.ofNat

theorem toNat_lt_of_mem (bytes : List UInt8) : ∀ b ∈ bytes.map UInt8.toNat, b < 256 := by
  intro b hb
  obtain ⟨byte, -, rfl⟩ := List.mem_map.mp hb
  exact byte.toNat_lt

theorem base64UrlBytes_base64Url (bytes : List UInt8) :
    base64UrlBytes (base64Url bytes) = bytes := by
  have hsextets := toSextets_lt (toNat_lt_of_mem bytes)
  have hbytes : UInt8.ofNat ∘ UInt8.toNat = id := funext fun byte => UInt8.ofNat_toNat
  rw [base64UrlBytes, base64Url, String.toList_ofList, filterMap_charSextet hsextets,
    fromSextets_toSextets (toNat_lt_of_mem bytes), List.map_map, hbytes, List.map_id]

/-- No character of it is a dot. -/
theorem dot_not_mem_base64Url (bytes : List UInt8) : '.' ∉ (base64Url bytes).toList := by
  rw [base64Url, String.toList_ofList, List.mem_map]
  rintro ⟨sextet, hsextet, hdot⟩
  exact sextetChar_ne_dot (toSextets_lt (toNat_lt_of_mem bytes) sextet hsextet) hdot

theorem base64Url_ne_empty {bytes : List UInt8} (h : bytes ≠ []) : base64Url bytes ≠ "" := by
  intro hempty
  have hbytes := base64UrlBytes_base64Url bytes
  rw [hempty] at hbytes
  exact h (hbytes.symm.trans (by decide))

/-- `Buffer.from(value, 'utf8').toString('base64url')`. -/
def encodeBase64Url (value : String) : String := base64Url value.toByteArray.data.toList

theorem dot_not_mem_encodeBase64Url (value : String) : '.' ∉ (encodeBase64Url value).toList :=
  dot_not_mem_base64Url _

theorem encodeBase64Url_ne_empty {value : String} (h : value ≠ "") :
    encodeBase64Url value ≠ "" := by
  refine base64Url_ne_empty fun hbytes => h ?_
  rw [← String.toByteArray_inj]
  exact ByteArray.ext (Array.ext' hbytes)

end LuxLedger.Javascript
