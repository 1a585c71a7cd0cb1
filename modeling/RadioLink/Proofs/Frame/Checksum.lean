import RadioLink.Proofs.Frame.Recovery
/-! The checksum's arithmetic. The running sum wraps at every byte, and what it computes is the
sum of the bytes as numbers modulo 256, whatever their number (`byteSum_toNat`); the checksum is
`0xFF` less that. `checksum_laws` gathers what the frame codec relies on: `verify` accepts the
checksum and nothing else, the encoder's shortcut of subtracting the type byte from the body's
checksum gives the checksum of type and body, and any one byte changed in the covered bytes
fails the check. -/
namespace RadioLink
namespace Frame

/-- The wrapping sum, read as a number, is the sum of the bytes modulo 256. -/
theorem byteSum_toNat (bs : Bytes) : (byteSum bs).toNat = (bs.map UInt8.toNat).sum % 256 := by
  induction bs with
  | nil => rfl
  | cons b bs ih =>
    rw [byteSum_cons, UInt8.toNat_add, ih, List.map_cons, List.sum_cons]
    omega

theorem checksum_toNat (bs : Bytes) :
    (checksum bs).toNat = 0xFF - (bs.map UInt8.toNat).sum % 256 := by
  have hle : byteSum bs ≤ 0xFF := by
    have h := (byteSum bs).toNat_lt
    rw [UInt8.le_iff_toNat_le]
    simp only [UInt8.toNat_ofNat]
    omega
  rw [checksum, UInt8.toNat_sub_of_le _ _ hle, byteSum_toNat]
  rfl

example : checksum [0x88, 0x01, 0x48, 0x56, 0x00, 0x1A, 0x46] = 0x78 := by decide

theorem OneByteApart.append_right {x y : Bytes} (h : OneByteApart x y) (z : Bytes) :
    OneByteApart (x ++ z) (y ++ z) := by
  obtain ⟨x₁, a, a', x₂, rfl, rfl, ha⟩ := h
  exact ⟨x₁, a, a', x₂ ++ z, by simp, by simp, ha⟩

/-- The checksum laws: `verify` accepts the checksum alone, and any one changed byte fails it. -/
theorem checksum_laws :
    (∀ (x : Bytes) (c : UInt8), verify x c = true ↔ c = checksum x) ∧
    (∀ x : Bytes, (checksum x).toNat = 0xFF - (x.map UInt8.toNat).sum % 256) ∧
    (∀ (t : UInt8) (d : Bytes), checksum d - t = checksum (t :: d)) ∧
    (∀ x x' : Bytes, OneByteApart x x' → verify x' (checksum x) = false) := by
  refine ⟨verify_iff, checksum_toNat, fun t d => (checksum_cons t d).symm, ?_⟩
  intro x x' h
  -- the changed byte lies among the covered bytes, so it is one byte apart with the checksum
  -- appended too, and the checksum catches any such change
  exact verify_eq_false_of_oneByteApart (verify_checksum x) (h.append_right [checksum x])

/-- An AT command frame's type and body with its parameter byte changed fails the check. -/
theorem checksum_laws_corrupted_command :
    OneByteApart [0x08, 0x01, 0x4E, 0x4A, 0xFF] [0x08, 0x01, 0x4E, 0x4B, 0xFF] ∧
      verify [0x08, 0x01, 0x4E, 0x4B, 0xFF] (checksum [0x08, 0x01, 0x4E, 0x4A, 0xFF]) = false := by
  have h : OneByteApart [0x08, 0x01, 0x4E, 0x4A, 0xFF] [0x08, 0x01, 0x4E, 0x4B, 0xFF] :=
    ⟨[0x08, 0x01, 0x4E], 0x4A, 0x4B, [0xFF], rfl, rfl, by decide⟩
  exact ⟨h, checksum_laws.2.2.2 _ _ h⟩

end Frame
end RadioLink
