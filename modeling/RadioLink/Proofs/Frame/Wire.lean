import Mathlib
import RadioLink.Frame.Codec
/-! Byte-level laws of the wire format. Reading logical bytes off a stuffed run gives the run
back and stops right after it (`takeLogical_stuff_append`); a stuffed run never holds a start
marker; and the checksum is the one byte that `verify` accepts. -/
namespace RadioLink
namespace Frame

/-! ### Stuffing -/

@[simp] theorem flip_flip (b : UInt8) : Bytes.flip (Bytes.flip b) = b := by
  simp [Bytes.flip]

theorem escape_ne_of_not_special {b : UInt8} (h : isSpecial b = false) :
    (b == escapeByte) = false := by
  simp only [isSpecial,Bool.or_eq_false_iff,beq_eq_false_iff_ne] at h
  simpa [escapeByte] using h.1.1.2

@[simp] theorem stuff_nil : stuff [] = [] := rfl

@[simp] theorem stuff_cons (b : UInt8) (bs : Bytes) :
    stuff (b :: bs) = stuffByte b ++ stuff bs := by
  simp [stuff]

@[simp] theorem stuff_append (xs ys : Bytes) : stuff (xs ++ ys) = stuff xs ++ stuff ys := by
  simp [stuff]

theorem stuffedLength_eq_length (x : Bytes) : stuffedLength x = (stuff x).length := by
  induction x with
  | nil => rfl
  | cons b x ih =>
    simp only [stuffedLength] at ih ⊢
    -- a special byte counts once in the filter and goes out as two bytes
    by_cases hb : isSpecial b <;> simp [hb, stuffByte] <;> omega

theorem takeLogical_stuff_append_add (x w acc : Bytes) (n : Nat) :
    takeLogical (x.length + n) (stuff x ++ w) acc = takeLogical n w (x.reverse ++ acc) := by
  induction x generalizing acc with
  | nil => simp
  | cons b x ih =>
    have hn : (b :: x).length + n = x.length + n + 1 := by
      simp only [List.length_cons]
      omega
    rw [hn,stuff_cons,List.append_assoc]
    by_cases hb : isSpecial b
    · simp [stuffByte,hb,takeLogical,escapeByte,ih]
    · have he := escape_ne_of_not_special (Bool.eq_false_iff.mpr hb)
      simp [stuffByte,hb,takeLogical,he,ih]

theorem takeLogical_stuff_append (x rest acc : Bytes) :
    takeLogical x.length (stuff x ++ rest) acc = some (acc.reverse ++ x,rest) := by
  rw [← Nat.add_zero x.length,takeLogical_stuff_append_add]
  simp [takeLogical]

theorem unstuffAux_of_takeLogical {n : Nat} {w acc l : Bytes}
    (h : takeLogical n w acc = some (l,[])) : unstuffAux w acc = .ok l := by
  fun_induction takeLogical n w acc with
  | case1 wire acc =>
    simp only [Option.some.injEq,Prod.mk.injEq] at h
    obtain ⟨rfl,rfl⟩ := h
    rfl
  | case2 => simp at h
  | case3 => simp at h
  | case4 n b acc hb c wire ih => simpa [unstuffAux,hb] using ih h
  | case5 n b wire acc hb ih =>
    unfold unstuffAux
    rw [if_neg hb]
    exact ih h

theorem isSpecial_flip {b : UInt8} (h : isSpecial b = true) : isSpecial (Bytes.flip b) = false := by
  have h4 : b = 0x7E ∨ b = 0x7D ∨ b = 0x11 ∨ b = 0x13 := by
    simpa [isSpecial,or_assoc] using h
  rcases h4 with rfl | rfl | rfl | rfl <;> decide

theorem stuffByte_of_special {b : UInt8} (h : isSpecial b = true) :
    stuffByte b = [escapeByte,Bytes.flip b] := by
  simp [stuffByte,h]

theorem stuffByte_of_plain {b : UInt8} (h : isSpecial b = false) : stuffByte b = [b] := by
  simp [stuffByte,h]

theorem reserved_not_mem_stuffByte {s : UInt8} (hs : isSpecial s = true) (he : s ≠ escapeByte)
    (b : UInt8) : s ∉ stuffByte b := by
  cases hb : isSpecial b
  · rw [stuffByte_of_plain hb,List.mem_singleton]
    rintro rfl
    exact Bool.noConfusion (hs.symm.trans hb)
  · rw [stuffByte_of_special hb]
    simp only [List.mem_cons,List.not_mem_nil,or_false,not_or]
    refine ⟨he,?_⟩
    rintro rfl
    exact Bool.noConfusion (hs.symm.trans (isSpecial_flip hb))

theorem reserved_not_mem_stuff {s : UInt8} (hs : isSpecial s = true) (he : s ≠ escapeByte)
    (x : Bytes) : s ∉ stuff x := by
  simp only [stuff,List.mem_flatMap,not_exists,not_and]
  exact fun b _ => reserved_not_mem_stuffByte hs he b

theorem marker_not_mem_stuff (x : Bytes) : startMarker ∉ stuff x :=
  reserved_not_mem_stuff (by decide) (by decide) x

/-! ### Checksum -/

theorem foldl_add_eq (a : UInt8) (bs : Bytes) : bs.foldl (· + ·) a = a + byteSum bs := by
  induction bs generalizing a with
  | nil => simp [byteSum]
  | cons b bs ih =>
    have hb : byteSum (b :: bs) = b + byteSum bs := by
      simp only [byteSum,List.foldl_cons]
      rw [ih (0 + b)]
      grind
    rw [List.foldl_cons,ih,hb]
    grind

@[simp] theorem byteSum_nil : byteSum [] = 0 := rfl

@[simp] theorem byteSum_cons (b : UInt8) (bs : Bytes) : byteSum (b :: bs) = b + byteSum bs := by
  simp only [byteSum,List.foldl_cons]
  rw [foldl_add_eq]
  grind [byteSum]

theorem byteSum_append (xs ys : Bytes) : byteSum (xs ++ ys) = byteSum xs + byteSum ys := by
  induction xs with
  | nil => simp
  | cons x xs ih =>
    rw [List.cons_append,byteSum_cons,byteSum_cons,ih]
    grind

theorem verify_iff (bs : Bytes) (c : UInt8) : verify bs c = true ↔ c = checksum bs := by
  simp only [verify,checksum,beq_iff_eq]
  grind

theorem checksum_cons (t : UInt8) (d : Bytes) : checksum (t :: d) = checksum d - t := by
  simp only [checksum,byteSum_cons]
  grind

theorem RawFrame.checksum_eq (f : RawFrame) : f.checksum = Frame.checksum (f.kind :: f.data) := by
  rw [checksum_cons,RawFrame.checksum]

theorem verify_checksum (bs : Bytes) : verify bs (checksum bs) = true :=
  (verify_iff bs _).mpr rfl

end Frame
end RadioLink
