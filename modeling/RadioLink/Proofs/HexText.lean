import Mathlib
import RadioLink.Address
import RadioLink.Cli.Value
import RadioLink.Cli.Summary
import RadioLink.Proofs.Bytes
/-! Hex spellings read back. An address text is read once its blanks, points, colons and one
`0x` are dropped, a hex value once its blanks and one `0x` are; either way the number read is
the one the digits stand for (`hexValue`), so what is printed reads back as itself. -/
namespace RadioLink
namespace Bytes

def IsAsciiHex (c : Char) : Prop := ('0' ≤ c ∧ c ≤ '9') ∨ ('a' ≤ c ∧ c ≤ 'f') ∨ ('A' ≤ c ∧ c ≤ 'F')

def hexValue (ds : List Char) : Nat :=
  Nat.ofDigits 16 (ds.reverse.map fun c => (digitValue? c).getD 0)

/-! ### Digits -/

theorem char_le_iff_toNat_le {a b : Char} : a ≤ b ↔ a.toNat ≤ b.toNat := by
  rw [Char.le_def, UInt32.le_iff_toNat_le, Char.toNat_val, Char.toNat_val]

theorem isHexDigit_iff (c : Char) : isHexDigit c = true ↔ IsAsciiHex c := by
  unfold isHexDigit digitValue? IsAsciiHex
  split_ifs <;> simp_all

theorem digitValue?_lt {c : Char} {v : Nat} (h : digitValue? c = some v) : v < 16 := by
  unfold digitValue? at h
  split_ifs at h with h1 h2 h3 <;> simp only [Option.some.injEq] at h <;> subst h
  · have := char_le_iff_toNat_le.1 h1.2; simp at this; omega
  · have := char_le_iff_toNat_le.1 h2.2; simp at this; omega
  · have := char_le_iff_toNat_le.1 h3.2; simp at this; omega

theorem digitValue?_digitUpper {d : Nat} (h : d < 16) : digitValue? (digitUpper d) = some d := by
  have hall : ∀ d < 16, digitValue? (digitUpper d) = some d := by decide
  exact hall d h

theorem digitUpper_kept {d : Nat} (h : d < 16) :
    Text.isBlank (digitUpper d) = false ∧ digitUpper d ≠ '.' ∧ digitUpper d ≠ ':' ∧
      digitUpper d ≠ 'x' ∧ digitUpper d ≠ 'X' := by
  have hall : ∀ d < 16, Text.isBlank (digitUpper d) = false ∧ digitUpper d ≠ '.' ∧
      digitUpper d ≠ ':' ∧ digitUpper d ≠ 'x' ∧ digitUpper d ≠ 'X' := by decide
  exact hall d h

/-! ### The uppercase printer -/

theorem toList_hexUpper_succ (w n : Nat) :
    (hexUpper (w + 1) n).toList = digitUpper (n / 16 ^ w % 16) :: (hexUpper w n).toList := by
  simp [hexUpper, List.range_succ]

@[simp] theorem length_hexUpper (w n : Nat) : (hexUpper w n).toList.length = w := by
  simp [hexUpper]

theorem mem_hexUpper {w n : Nat} {c : Char} (h : c ∈ (hexUpper w n).toList) :
    ∃ d < 16, c = digitUpper d := by
  simp only [hexUpper, String.toList_ofList, List.mem_map, List.mem_reverse, List.mem_range] at h
  obtain ⟨k, -, rfl⟩ := h
  exact ⟨_, Nat.mod_lt _ (by norm_num), rfl⟩

theorem isHexDigit_of_mem_hexUpper {w n : Nat} {c : Char} (h : c ∈ (hexUpper w n).toList) :
    isHexDigit c = true := by
  obtain ⟨d, hd, rfl⟩ := mem_hexUpper h
  simp [isHexDigit, digitValue?_digitUpper hd]

theorem ne_x_of_mem_hexUpper {w n : Nat} {c : Char} (h : c ∈ (hexUpper w n).toList) :
    c ≠ 'x' ∧ c ≠ 'X' := by
  obtain ⟨d, hd, rfl⟩ := mem_hexUpper h
  exact (digitUpper_kept hd).2.2.2

theorem filter_hexUpper {p : Char → Bool} (hp : ∀ d < 16, p (digitUpper d) = true) (w n : Nat) :
    (hexUpper w n).toList.filter p = (hexUpper w n).toList := by
  rw [List.filter_eq_self]
  intro c hc
  obtain ⟨d, hd, rfl⟩ := mem_hexUpper hc
  exact hp d hd

theorem dropHexPrefix_of_forall {cs : List Char} (h : ∀ c ∈ cs, c ≠ 'x' ∧ c ≠ 'X') :
    dropHexPrefix cs = cs := by
  unfold dropHexPrefix
  split
  next rest => exact absurd rfl (h 'x' (by simp)).1
  next rest => exact absurd rfl (h 'X' (by simp)).2
  next => rfl

/-! ### The value of a run of digits -/

@[simp] theorem hexValue_nil : hexValue [] = 0 := rfl

theorem hexValue_append (xs ys : List Char) :
    hexValue (xs ++ ys) = hexValue xs * 16 ^ ys.length + hexValue ys := by
  simp only [hexValue, List.reverse_append, List.map_append, Nat.ofDigits_append, List.length_map,
    List.length_reverse]
  ring

theorem hexValue_cons (c : Char) (ds : List Char) :
    hexValue (c :: ds) = (digitValue? c).getD 0 * 16 ^ ds.length + hexValue ds := by
  rw [← List.singleton_append, hexValue_append]
  simp [hexValue]

theorem hexValue_lt {ds : List Char} (h : ∀ c ∈ ds, isHexDigit c = true) :
    hexValue ds < 16 ^ ds.length := by
  have hdigits : ∀ v ∈ ds.reverse.map fun c => (digitValue? c).getD 0, v < 16 := by
    intro v hv
    obtain ⟨c, hc, rfl⟩ := List.mem_map.1 hv
    obtain ⟨v, hv⟩ := Option.isSome_iff_exists.1 (h c (List.mem_reverse.1 hc))
    rw [hv, Option.getD_some]
    exact digitValue?_lt hv
  simpa [hexValue] using Nat.ofDigits_lt_base_pow_length (by norm_num) hdigits

theorem foldl_hexDigits (ds : List Char) (a : Nat) :
    ds.foldl (fun acc c => acc * 16 + (digitValue? c).getD 0) a = a * 16 ^ ds.length + hexValue ds := by
  induction ds generalizing a with
  | nil => simp
  | cons c ds ih =>
    rw [List.foldl_cons, ih, hexValue_cons, List.length_cons, pow_succ]
    ring

theorem hexValue_hexUpper (w n : Nat) : hexValue (hexUpper w n).toList = n % 16 ^ w := by
  induction w with
  | zero => simp [hexUpper, Nat.mod_one]
  | succ w ih =>
    rw [toList_hexUpper_succ, hexValue_cons, ih, length_hexUpper,
      digitValue?_digitUpper (Nat.mod_lt _ (by norm_num)), Option.getD_some, Nat.mod_pow_succ]
    ring

end Bytes

/-! ### Addresses -/

namespace Address

open Bytes

theorem digitsOf_eq (s : String) :
    digitsOf s = dropHexPrefix (s.toList.filter fun c => !Text.isBlank c && c != '.' && c != ':') :=
  rfl

theorem parseHex_eq_some_iff (w : Nat) (s : String) (v : Nat) :
    parseHex w s = some v ↔ (digitsOf s).length = w ∧ (∀ c ∈ digitsOf s, isHexDigit c = true) ∧
      v = hexValue (digitsOf s) := by
  unfold parseHex
  by_cases h : (digitsOf s).length = w ∧ (digitsOf s).all isHexDigit = true
  · rw [if_pos h, Option.some.injEq, foldl_hexDigits, Nat.zero_mul, Nat.zero_add]
    refine ⟨fun hv => ⟨h.1, List.all_eq_true.1 h.2, hv.symm⟩, fun ⟨_, _, hv⟩ => hv.symm⟩
  · rw [if_neg h]
    simp only [List.all_eq_true] at h
    simp only [reduceCtorEq, false_iff, not_and]
    exact fun hw hall => absurd ⟨hw, hall⟩ h

theorem keeps_digitUpper :
    ∀ d < 16, (!Text.isBlank (digitUpper d) && digitUpper d != '.' && digitUpper d != ':') = true := by
  intro d hd
  obtain ⟨h1, h2, h3, -⟩ := digitUpper_kept hd
  simp [h1, h2, h3]

end Address

namespace Address64

open Bytes

theorem parse_eq_ok_iff (s : String) (a : Address64) :
    parse s = .ok a ↔ (Address.digitsOf s).length = 16 ∧
      (∀ c ∈ Address.digitsOf s, IsAsciiHex c) ∧ a.value.toNat = hexValue (Address.digitsOf s) := by
  simp only [← isHexDigit_iff]
  unfold parse
  cases hp : Address.parseHex 16 s with
  | none =>
    simp only [reduceCtorEq, false_iff, not_and]
    intro hlen hhex hv
    have := (Address.parseHex_eq_some_iff 16 s _).2 ⟨hlen, hhex, rfl⟩
    rw [hp] at this
    cases this
  | some n =>
    obtain ⟨hlen, hhex, rfl⟩ := (Address.parseHex_eq_some_iff 16 s n).1 hp
    have hlt : hexValue (Address.digitsOf s) < 2 ^ 64 := by simpa [hlen] using hexValue_lt hhex
    simp only [Except.ok.injEq]
    rw [and_iff_right hlen, and_iff_right hhex]
    constructor
    · rintro rfl
      simp only [Nat.toUInt64, UInt64.toNat_ofNat']
      exact Nat.mod_eq_of_lt hlt
    · intro hv
      rw [← hv]
      simp

theorem parse_display (a : UInt64) : parse (display ⟨a⟩) = .ok ⟨a⟩ := by
  have hfilter : ((display ⟨a⟩).toList.filter fun c => !Text.isBlank c && c != '.' && c != ':') =
      (hexUpper 8 (a.toNat / 2 ^ 32)).toList ++ (hexUpper 8 (a.toNat % 2 ^ 32)).toList := by
    rw [display, String.toList_append, String.toList_append, List.filter_append,
      List.filter_append, filter_hexUpper Address.keeps_digitUpper,
      filter_hexUpper Address.keeps_digitUpper]
    simp
  have hdigits : Address.digitsOf (display ⟨a⟩) =
      (hexUpper 8 (a.toNat / 2 ^ 32)).toList ++ (hexUpper 8 (a.toNat % 2 ^ 32)).toList := by
    rw [Address.digitsOf_eq, hfilter, dropHexPrefix_of_forall]
    intro c hc
    rcases List.mem_append.1 hc with hc | hc <;> exact ne_x_of_mem_hexUpper hc
  rw [parse_eq_ok_iff, hdigits]
  refine ⟨by simp, fun c hc => (isHexDigit_iff c).1 ?_, ?_⟩
  · rcases List.mem_append.1 hc with hc | hc <;> exact isHexDigit_of_mem_hexUpper hc
  · have ha := a.toNat_lt
    rw [hexValue_append, hexValue_hexUpper, hexValue_hexUpper, length_hexUpper]
    simp only [Nat.reducePow] at ha ⊢
    omega

end Address64

namespace Address16

open Bytes

theorem parse_eq_ok_iff (s : String) (a : Address16) :
    parse s = .ok a ↔ (Address.digitsOf s).length = 4 ∧
      (∀ c ∈ Address.digitsOf s, IsAsciiHex c) ∧ a.value.toNat = hexValue (Address.digitsOf s) := by
  simp only [← isHexDigit_iff]
  unfold parse
  cases hp : Address.parseHex 4 s with
  | none =>
    simp only [reduceCtorEq, false_iff, not_and]
    intro hlen hhex hv
    have := (Address.parseHex_eq_some_iff 4 s _).2 ⟨hlen, hhex, rfl⟩
    rw [hp] at this
    cases this
  | some n =>
    obtain ⟨hlen, hhex, rfl⟩ := (Address.parseHex_eq_some_iff 4 s n).1 hp
    have hlt : hexValue (Address.digitsOf s) < 2 ^ 16 := by simpa [hlen] using hexValue_lt hhex
    simp only [Except.ok.injEq]
    rw [and_iff_right hlen, and_iff_right hhex]
    constructor
    · rintro rfl
      simp only [Nat.toUInt16, UInt16.toNat_ofNat']
      exact Nat.mod_eq_of_lt hlt
    · intro hv
      rw [← hv]
      simp

theorem parse_display (b : UInt16) : parse (display ⟨b⟩) = .ok ⟨b⟩ := by
  have hdigits : Address.digitsOf (display ⟨b⟩) = (hexUpper 4 b.toNat).toList := by
    rw [Address.digitsOf_eq, display, filter_hexUpper Address.keeps_digitUpper,
      dropHexPrefix_of_forall]
    exact fun c hc => ne_x_of_mem_hexUpper hc
  rw [parse_eq_ok_iff, hdigits]
  refine ⟨by simp, fun c hc => (isHexDigit_iff c).1 (isHexDigit_of_mem_hexUpper hc), ?_⟩
  have hb := b.toNat_lt
  rw [hexValue_hexUpper]
  simp only [Nat.reducePow] at hb ⊢
  omega

end Address16

namespace Address

theorem parseHex_congr {s s' : String}
    (h : (s.toList.filter fun c => !Text.isBlank c && c != '.' && c != ':') =
      (s'.toList.filter fun c => !Text.isBlank c && c != '.' && c != ':')) (w : Nat) :
    parseHex w s = parseHex w s' := by
  have hd : digitsOf s = digitsOf s' := by rw [digitsOf_eq, digitsOf_eq, h]
  unfold parseHex
  rw [hd]

end Address

/-- Address text round-trips, and the dotted, spaced, split and contiguous forms read alike. -/
theorem address_text_round_trip :
    (∀ a : UInt64, Address64.parse (Address64.display ⟨a⟩) = .ok ⟨a⟩) ∧
    (∀ b : UInt16, Address16.parse (Address16.display ⟨b⟩) = .ok ⟨b⟩) ∧
    (∀ (s : String) (a : Address64), Address64.parse s = .ok a ↔
      let ds := Bytes.dropHexPrefix
        (s.toList.filter fun c => !Text.isBlank c && c != '.' && c != ':')
      ds.length = 16 ∧ (∀ c ∈ ds, Bytes.IsAsciiHex c) ∧ a.value.toNat = Bytes.hexValue ds) ∧
    (∀ (s : String) (a : Address16), Address16.parse s = .ok a ↔
      let ds := Bytes.dropHexPrefix
        (s.toList.filter fun c => !Text.isBlank c && c != '.' && c != ':')
      ds.length = 4 ∧ (∀ c ∈ ds, Bytes.IsAsciiHex c) ∧ a.value.toNat = Bytes.hexValue ds) ∧
    (∀ s s' : String, (s.toList.filter fun c => !Text.isBlank c && c != '.' && c != ':') =
        (s'.toList.filter fun c => !Text.isBlank c && c != '.' && c != ':') →
      (Address64.parse s).toOption = (Address64.parse s').toOption ∧
        (Address16.parse s).toOption = (Address16.parse s').toOption) := by
  refine ⟨Address64.parse_display, Address16.parse_display, Address64.parse_eq_ok_iff,
    Address16.parse_eq_ok_iff, fun s s' h => ⟨?_, ?_⟩⟩
  · simp only [Address64.parse, Address.parseHex_congr h]
    split <;> rfl
  · simp only [Address16.parse, Address.parseHex_congr h]
    split <;> rfl

/-- The dotted and the split form of one extended address read alike. -/
theorem address_text_round_trip_dotted_split :
    (("0013A200.4062AC98".toList.filter fun c => !Text.isBlank c && c != '.' && c != ':') =
      ("0013A200 4062AC98".toList.filter fun c => !Text.isBlank c && c != '.' && c != ':')) ∧
    (Address64.parse "0013A200.4062AC98").toOption = (Address64.parse "0013A200 4062AC98").toOption := by
  have hsame : ("0013A200.4062AC98".toList.filter fun c => !Text.isBlank c && c != '.' && c != ':') =
      ("0013A200 4062AC98".toList.filter fun c => !Text.isBlank c && c != '.' && c != ':') := by
    decide
  exact ⟨hsame, (address_text_round_trip.2.2.2.2 _ _ hsame).1⟩

/-! ### Hex values -/

namespace Bytes

theorem ofHexDigitsAux_of_hex {P : List Char} (acc : Bytes) (heven : P.length % 2 = 0)
    (hhex : ∀ c ∈ P, isHexDigit c = true) :
    ∃ bs, ofHexDigitsAux P acc = some (acc.reverse ++ bs) ∧ bs.length = P.length / 2 ∧
      toNatBE bs = hexValue P := by
  fun_induction ofHexDigitsAux P acc with
  | case1 acc => exact ⟨[], by simp, rfl, rfl⟩
  | case2 c acc => simp at heven
  | case3 a b rest acc x y hy hx ih =>
    have hrest : rest.length % 2 = 0 := by
      simp only [List.length_cons] at heven
      omega
    obtain ⟨bs, hbs, hlen, hv⟩ := ih hrest (fun c hc => hhex c (by simp [hc]))
    have hx16 := digitValue?_lt hx
    have hy16 := digitValue?_lt hy
    refine ⟨(x * 16 + y).toUInt8 :: bs, by rw [hbs]; simp, by simp [hlen]; omega, ?_⟩
    -- two digits of the rest make one byte, so `256 ^ (|rest| / 2) = 16 ^ |rest|`
    have hpow : (256 : Nat) ^ (rest.length / 2) = 16 ^ rest.length := by
      rw [show (256 : Nat) = 16 ^ 2 by norm_num, ← pow_mul]
      congr 1
      omega
    have hbyte : (x * 16 + y).toUInt8.toNat = x * 16 + y := by
      simp only [Nat.toUInt8, UInt8.toNat_ofNat']
      omega
    rw [toNatBE_cons, hv, hlen, hbyte, hpow, hexValue_cons, hexValue_cons, hx, hy,
      List.length_cons, pow_succ]
    simp only [Option.getD_some]
    ring
  | case4 a b rest acc hbad =>
    obtain ⟨x, hx⟩ := Option.isSome_iff_exists.1 (hhex a (by simp))
    obtain ⟨y, hy⟩ := Option.isSome_iff_exists.1 (hhex b (by simp))
    exact absurd hy (hbad x y hx)

theorem ofHexDigitsAux_of_not_hex {P : List Char} (acc : Bytes)
    (h : ∃ c ∈ P, isHexDigit c = false) : ofHexDigitsAux P acc = none := by
  fun_induction ofHexDigitsAux P acc with
  | case1 acc => simp at h
  | case2 c acc => rfl
  | case3 a b rest acc x y hy hx ih =>
    obtain ⟨c, hc, hbad⟩ := h
    simp only [List.mem_cons] at hc
    rcases hc with rfl | rfl | hc
    · simp [isHexDigit, hx] at hbad
    · simp [isHexDigit, hy] at hbad
    · exact ih ⟨c, hc, hbad⟩
  | case4 a b rest acc hbad => rfl

end Bytes

namespace Cli

open Bytes

theorem parseHexValue_eq_ok_iff (s : String) (bs : Bytes) :
    parseHexValue s = .ok bs ↔
      let ds := dropHexPrefix (s.toList.filter fun c => !Text.isBlank c)
      ds ≠ [] ∧ (∀ c ∈ ds, IsAsciiHex c) ∧ bs.length = (ds.length + 1) / 2 ∧
        toNatBE bs = hexValue ds := by
  unfold parseHexValue
  dsimp only
  generalize dropHexPrefix (s.toList.filter fun c => !Text.isBlank c) = ds
  simp only [← isHexDigit_iff]
  by_cases hds : ds = []
  · subst hds
    simp
  · have hne : ds.isEmpty = false := List.isEmpty_eq_false_iff.2 hds
    simp only [hne, Bool.false_eq_true, if_false]
    set P := if ds.length % 2 = 1 then '0' :: ds else ds with hP
    have hPeven : P.length % 2 = 0 := by
      rw [hP]
      split
      · simp only [List.length_cons]
        omega
      · omega
    have hPlen : P.length / 2 = (ds.length + 1) / 2 := by
      rw [hP]
      split
      · rw [List.length_cons]
      · omega
    have hPval : hexValue P = hexValue ds := by
      rw [hP]
      split
      · simp [hexValue_cons, digitValue?]
      · rfl
    have hPmem : ∀ c ∈ P, c = '0' ∨ c ∈ ds := by
      intro c hc
      rw [hP] at hc
      split at hc
      · simpa using hc
      · exact .inr hc
    by_cases hhex : ∀ c ∈ ds, isHexDigit c = true
    · have hPhex : ∀ c ∈ P, isHexDigit c = true := by
        intro c hc
        rcases hPmem c hc with rfl | hc
        · rfl
        · exact hhex c hc
      obtain ⟨bs', hbs', hlen, hv⟩ := ofHexDigitsAux_of_hex [] hPeven hPhex
      rw [ofHexDigits?, hbs']
      simp only [List.reverse_nil, List.nil_append, Except.ok.injEq]
      constructor
      · rintro rfl
        exact ⟨hds, hhex, by rw [hlen, hPlen], by rw [hv, hPval]⟩
      · rintro ⟨-, -, hl, hv'⟩
        exact eq_of_toNatBE_eq (by rw [hlen, hPlen, hl]) (by rw [hv, hv', hPval])
    · obtain ⟨c, hc, hbad⟩ : ∃ c ∈ ds, isHexDigit c = false := by
        simpa using hhex
      have hPc : c ∈ P := by
        rw [hP]
        split
        · exact List.mem_cons_of_mem _ hc
        · exact hc
      rw [ofHexDigits?, ofHexDigitsAux_of_not_hex [] ⟨c, hPc, hbad⟩]
      simp only [reduceCtorEq, false_iff, not_and]
      exact fun _ hall => absurd (hall c hc) (by simp [hbad])

theorem filter_hex (v : Bytes) :
    ((hex v).toList.filter fun c => !Text.isBlank c) = v.flatMap fun b => (byteUpper b).toList := by
  have hkept : ∀ d < 16, (!Text.isBlank (digitUpper d)) = true := by
    intro d hd
    simp [(digitUpper_kept hd).1]
  have hspace : Text.isBlank ' ' = true := by decide
  induction v with
  | nil => simp [hex, spaced]
  | cons b v ih =>
    cases v with
    | nil => simp [hex, spaced, byteUpper, filter_hexUpper (p := fun c => !Text.isBlank c) hkept]
    | cons b' v =>
      have hsplit : (hex (b :: b' :: v)).toList =
          (byteUpper b).toList ++ ' ' :: (hex (b' :: v)).toList := by
        simp [hex, spaced]
      rw [hsplit, List.filter_append, List.filter_cons, ih, byteUpper,
        filter_hexUpper (p := fun c => !Text.isBlank c) hkept]
      simp [byteUpper, hspace]

theorem length_flatMap_byteUpper (v : Bytes) :
    (v.flatMap fun b => (byteUpper b).toList).length = 2 * v.length := by
  induction v with
  | nil => rfl
  | cons b v ih =>
    rw [List.flatMap_cons, List.length_append, ih, byteUpper, length_hexUpper, List.length_cons]
    omega

theorem hexValue_flatMap_byteUpper (v : Bytes) :
    hexValue (v.flatMap fun b => (byteUpper b).toList) = toNatBE v := by
  induction v with
  | nil => rfl
  | cons b v ih =>
    have hpow : (16 : Nat) ^ (2 * v.length) = 256 ^ v.length := by
      rw [pow_mul]
      norm_num
    rw [List.flatMap_cons, hexValue_append, ih, length_flatMap_byteUpper, hpow, toNatBE_cons,
      byteUpper, hexValue_hexUpper, Nat.mod_eq_of_lt (by simpa using b.toNat_lt)]

theorem parseHexValue_hex {v : Bytes} (hv : v ≠ []) : parseHexValue (hex v) = .ok v := by
  have hdigits : dropHexPrefix ((hex v).toList.filter fun c => !Text.isBlank c) =
      v.flatMap fun b => (byteUpper b).toList := by
    rw [filter_hex, dropHexPrefix_of_forall]
    intro c hc
    obtain ⟨b, -, hc⟩ := List.mem_flatMap.1 hc
    exact ne_x_of_mem_hexUpper hc
  rw [parseHexValue_eq_ok_iff]
  dsimp only
  rw [hdigits, length_flatMap_byteUpper, hexValue_flatMap_byteUpper]
  refine ⟨?_, ?_, by omega, rfl⟩
  · apply List.ne_nil_of_length_pos
    rw [length_flatMap_byteUpper]
    have := List.length_pos_of_ne_nil hv
    omega
  · intro c hc
    obtain ⟨b, -, hc⟩ := List.mem_flatMap.1 hc
    exact (isHexDigit_iff c).1 (isHexDigit_of_mem_hexUpper hc)

/-- Hex value parsing inverts the hex printer on every nonempty byte string. -/
theorem hex_value_round_trip :
    (∀ v : Bytes, v ≠ [] → parseHexValue (hex v) = .ok v) ∧
    (∀ (s : String) (bs : Bytes), parseHexValue s = .ok bs ↔
      let ds := dropHexPrefix (s.toList.filter fun c => !Text.isBlank c)
      ds ≠ [] ∧ (∀ c ∈ ds, IsAsciiHex c) ∧ bs.length = (ds.length + 1) / 2 ∧
        toNatBE bs = hexValue ds) ∧
    (∀ (value : String) (text : Option String),
      valueBytes (some value) text = (parseHexValue value).map some) ∧
    (∀ text : Option String, valueBytes none text = .ok (text.map fun t => t.toUTF8.toList)) := by
  refine ⟨fun v hv => parseHexValue_hex hv, parseHexValue_eq_ok_iff, fun _ _ => rfl, ?_⟩
  intro text
  cases text <;> rfl

/-- The printed form of two bytes reads back. -/
theorem hex_value_round_trip_two_bytes :
    [0x1A, 0x46] ≠ ([] : Bytes) ∧ parseHexValue (hex [0x1A, 0x46]) = .ok [0x1A, 0x46] :=
  ⟨by decide, hex_value_round_trip.1 _ (by decide)⟩

end Cli

end RadioLink
