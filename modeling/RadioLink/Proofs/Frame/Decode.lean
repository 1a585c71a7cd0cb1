import RadioLink.Proofs.Frame.Wire
/-! How one frame comes off a buffer. Noise before the first start marker is dropped and
counted; from the marker on, a result other than `pending` is fixed by the bytes already there,
so bytes arriving later change only what is left (`decode_append`); and the wire form of a
frame decodes to the frame and leaves exactly what followed it (`decode_wire_append`). -/
namespace RadioLink
namespace Frame

/-! ### Noise before the marker -/

theorem length_dropWhile_le (p : UInt8 → Bool) (b : Bytes) : (b.dropWhile p).length ≤ b.length :=
  (List.dropWhile_sublist p).length_le

theorem skipToStart_split (buf : Bytes) :
    ∃ n, startMarker ∉ n ∧ buf = n ++ (skipToStart buf).2 ∧ (skipToStart buf).1 = n.length := by
  have hall : (buf.takeWhile (· != startMarker)).all (· != startMarker) = true :=
    List.all_takeWhile
  have happ : buf.takeWhile (· != startMarker) ++ buf.dropWhile (· != startMarker) = buf :=
    List.takeWhile_append_dropWhile
  refine ⟨buf.takeWhile (· != startMarker),?_,?_,?_⟩
  · intro hm
    have h := List.all_eq_true.mp hall _ hm
    simp at h
  · simp [skipToStart]
  · have h := congrArg List.length happ
    simp only [List.length_append] at h
    simp only [skipToStart]
    omega

theorem skipToStart_head {buf b : Bytes} {x : UInt8} (h : (skipToStart buf).2 = x :: b) :
    x = startMarker := by
  have hne : buf.dropWhile (· != startMarker) ≠ [] := by
    simp only [skipToStart] at h
    simp [h]
  have hx := List.head_dropWhile_not (· != startMarker) hne
  simp only [skipToStart] at h
  simp only [h,List.head_cons,bne_eq_false_iff_eq] at hx
  exact hx

@[simp] theorem skipToStart_nil : skipToStart [] = (0,[]) := rfl

@[simp] theorem skipToStart_marker (b : Bytes) :
    skipToStart (startMarker :: b) = (0,startMarker :: b) := by
  simp [skipToStart]

theorem skipToStart_noise_append {n : Bytes} (hn : startMarker ∉ n) (b : Bytes) :
    skipToStart (n ++ b) = (n.length + (skipToStart b).1,(skipToStart b).2) := by
  have hp : ∀ a ∈ n, (a != startMarker) = true := by
    intro a ha
    simpa using ne_of_mem_of_not_mem ha hn
  have hle := length_dropWhile_le (· != startMarker) b
  simp only [skipToStart,List.dropWhile_append_of_pos hp,List.length_append,Prod.mk.injEq,and_true]
  omega

theorem skipToStart_noise {n : Bytes} (hn : startMarker ∉ n) : skipToStart n = (n.length,[]) := by
  simpa using skipToStart_noise_append hn []

theorem skipToStart_append {b : Bytes} (h : (skipToStart b).2 ≠ []) (e : Bytes) :
    skipToStart (b ++ e) = ((skipToStart b).1,(skipToStart b).2 ++ e) := by
  simp only [skipToStart] at h ⊢
  have hle := length_dropWhile_le (· != startMarker) b
  rw [List.dropWhile_append,if_neg (by simpa using h)]
  simp only [List.length_append,Prod.mk.injEq,and_true]
  omega

theorem skipToStart_skipToStart (buf : Bytes) :
    skipToStart (skipToStart buf).2 = (0,(skipToStart buf).2) := by
  cases h : (skipToStart buf).2 with
  | nil => rfl
  | cons x b =>
    rw [skipToStart_head h]
    exact skipToStart_marker b

/-! ### From the marker on -/

theorem takeLogical_append {n : Nat} {w acc l r : Bytes} (h : takeLogical n w acc = some (l,r))
    (e : Bytes) : takeLogical n (w ++ e) acc = some (l,r ++ e) := by
  fun_induction takeLogical n w acc with
  | case1 wire acc =>
    simp only [Option.some.injEq,Prod.mk.injEq] at h
    simp [takeLogical,h.1,h.2]
  | case2 => simp at h
  | case3 => simp at h
  | case4 n b acc hb c wire ih => simpa [takeLogical,hb] using ih h
  | case5 n b wire acc hb ih => simpa [takeLogical,hb] using ih h

theorem takeLogical_rest_suffix {n : Nat} {w acc l r : Bytes} (h : takeLogical n w acc = some (l,r)) :
    r <:+ w := by
  fun_induction takeLogical n w acc with
  | case1 wire acc =>
    simp only [Option.some.injEq,Prod.mk.injEq] at h
    rw [← h.2]
  | case2 => simp at h
  | case3 => simp at h
  | case4 n b acc hb c wire ih => exact (ih h).trans ((List.suffix_cons c wire).trans (List.suffix_cons b _))
  | case5 n b wire acc hb ih => exact (ih h).trans (List.suffix_cons b wire)

@[simp] theorem decodeAtStart_nil (m : Nat) : decodeAtStart m [] = ⟨.pending,[]⟩ := rfl

theorem decodeAtStart_append {m : Nat} {b : Bytes} (h : (decodeAtStart m b).result ≠ .pending)
    (e : Bytes) :
    decodeAtStart m (b ++ e) = ⟨(decodeAtStart m b).result,(decodeAtStart m b).rest ++ e⟩ := by
  match b with
  | [] | [_] | [_,_] => simp [decodeAtStart] at h
  | s :: hi :: lo :: wire =>
    simp only [List.cons_append,decodeAtStart] at h ⊢
    by_cases h0 : hi.toNat * 256 + lo.toNat = 0
    · simp only [if_pos h0]
    by_cases hm : hi.toNat * 256 + lo.toNat > m
    · simp only [if_neg h0,if_pos hm,List.cons_append]
    rw [if_neg h0,if_neg hm] at h ⊢
    cases ht : takeLogical (hi.toNat * 256 + lo.toNat + 1) wire [] with
    | none => simp [ht] at h
    | some p =>
      obtain ⟨logical,rest⟩ := p
      rw [takeLogical_append ht e]
      simp only
      split <;> rfl

theorem skipToStart_ne_nil_of_decided {m : Nat} {b : Bytes} (h : (decode m b).result ≠ .pending) :
    (skipToStart b).2 ≠ [] := by
  intro hnil
  simp [decode,hnil] at h

theorem decodeAtStart_consumes {m : Nat} {b : Bytes} (h : (decodeAtStart m b).result ≠ .pending) :
    ∃ p, p ≠ [] ∧ b = p ++ (decodeAtStart m b).rest := by
  match b with
  | [] | [_] | [_,_] => simp [decodeAtStart] at h
  | s :: hi :: lo :: wire =>
    simp only [decodeAtStart] at h ⊢
    by_cases h0 : hi.toNat * 256 + lo.toNat = 0
    · rw [if_pos h0]
      exact ⟨[s,hi,lo],by simp,rfl⟩
    by_cases hm : hi.toNat * 256 + lo.toNat > m
    · rw [if_neg h0,if_pos hm]
      exact ⟨[s],by simp,rfl⟩
    rw [if_neg h0,if_neg hm] at h ⊢
    cases ht : takeLogical (hi.toNat * 256 + lo.toNat + 1) wire [] with
    | none => simp [ht] at h
    | some p =>
      obtain ⟨logical,rest⟩ := p
      obtain ⟨q,hq⟩ := takeLogical_rest_suffix ht
      simp only
      split <;> exact ⟨s :: hi :: lo :: q,by simp,by simp [hq]⟩

theorem decodeAtStart_rest_length_lt {m : Nat} {b : Bytes} (h : (decodeAtStart m b).result ≠ .pending) :
    (decodeAtStart m b).rest.length < b.length := by
  obtain ⟨p,hp,hb⟩ := decodeAtStart_consumes h
  have hlen := congrArg List.length hb
  have hpos := List.length_pos_of_ne_nil hp
  rw [List.length_append] at hlen
  omega

theorem decode_rest_length_lt {m : Nat} {b : Bytes} (h : (decode m b).result ≠ .pending) :
    (decode m b).rest.length < b.length := by
  have hlt := decodeAtStart_rest_length_lt h
  have hle : (skipToStart b).2.length ≤ b.length := length_dropWhile_le _ b
  simp only [decode] at hlt ⊢
  omega

/-- `decode` is stable under more input: bytes arriving later only lengthen what is left. -/
theorem decode_append {m : Nat} {b : Bytes} (h : (decode m b).result ≠ .pending) (e : Bytes) :
    decode m (b ++ e) = ⟨(decode m b).result,(decode m b).rest ++ e⟩ := by
  have hs := skipToStart_ne_nil_of_decided h
  simp only [decode] at h ⊢
  rw [skipToStart_append hs]
  exact decodeAtStart_append h e

theorem decode_noise_append {n : Bytes} (hn : startMarker ∉ n) (m : Nat) (b : Bytes) :
    decode m (n ++ b) = decode m b := by
  simp only [decode,skipToStart_noise_append hn]

/-! ### The wire form of a frame -/

theorem ofNatBE_two (n : Nat) : Bytes.ofNatBE 2 n = [(n / 256 % 256).toUInt8,(n % 256).toUInt8] := by
  simp [Bytes.ofNatBE,List.range_succ]

theorem toNat_length_field {n : Nat} (h : n ≤ maxLength) :
    (n / 256 % 256).toUInt8.toNat * 256 + (n % 256).toUInt8.toNat = n := by
  simp only [Nat.toUInt8,UInt8.toNat_ofNat']
  simp only [maxLength] at h
  omega

theorem toNatBE_ofNatBE_two {n : Nat} (h : n ≤ maxLength) : Bytes.toNatBE (Bytes.ofNatBE 2 n) = n := by
  simpa [ofNatBE_two,Bytes.toNatBE] using toNat_length_field h

theorem RawFrame.wire_eq (f : RawFrame) :
    f.wire = startMarker :: Bytes.ofNatBE 2 f.len ++
      stuff (f.kind :: f.data ++ [Frame.checksum (f.kind :: f.data)]) := by
  simp [RawFrame.wire,RawFrame.checksum_eq]

theorem encode_eq_ok {t : UInt8} {d : Bytes} (h : d.length + 1 ≤ maxLength) :
    encode t d = .ok (RawFrame.wire ⟨t,d⟩) := by
  have hl : ¬(RawFrame.len ⟨t,d⟩ > maxLength) := by
    simp only [RawFrame.len]
    omega
  simp only [encode,if_neg hl]

theorem encode_eq_error_iff (t : UInt8) (d : Bytes) (e : FrameError) :
    encode t d = .error e ↔ maxLength < d.length + 1 ∧ e = .tooLarge (d.length + 1) maxLength := by
  simp only [encode,RawFrame.len]
  by_cases h : d.length + 1 > maxLength
  · simp [h,eq_comm]
  · simp [h]

theorem encode_eq_ok_iff {t : UInt8} {d e : Bytes} :
    encode t d = .ok e ↔ d.length + 1 ≤ maxLength ∧ e = RawFrame.wire ⟨t,d⟩ := by
  by_cases h : d.length + 1 ≤ maxLength
  · simp [encode_eq_ok h,h,eq_comm]
  · have herr := (encode_eq_error_iff t d _).mpr ⟨by omega,rfl⟩
    simp [herr,h]

/-- The size a frame reports is that of the wire form the encoder writes, whatever bytes it stuffs. -/
theorem wire_size_matches_encoder (f : RawFrame) (h : f.len ≤ maxLength) (x : Bytes) :
    (∃ bytes, encode f.kind f.data = .ok bytes ∧ f.wireSize = bytes.length ∧
      Bytes.toNatBE ((bytes.drop 1).take 2) = f.len) ∧
    stuffedLength x = (stuff x).length := by
  refine ⟨⟨f.wire, encode_eq_ok h, ?_, ?_⟩, stuffedLength_eq_length x⟩
  · simp only [RawFrame.wireSize, RawFrame.wire, stuffedLength_eq_length, ofNatBE_two,
      List.length_cons, List.length_append, List.length_nil]
  · have hfield : (f.wire.drop 1).take 2 = Bytes.ofNatBE 2 f.len := by
      simp [RawFrame.wire, ofNatBE_two]
    rw [hfield, toNatBE_ofNatBE_two h]

/-- A frame whose checksum is itself the escape byte. -/
theorem wire_size_matches_encoder_stuffed_checksum :
    (⟨0x08, [0x11, 0x69]⟩ : RawFrame).len ≤ maxLength ∧
    (⟨0x08, [0x11, 0x69]⟩ : RawFrame).checksum = escapeByte ∧
    ∃ bytes, encode 0x08 [0x11, 0x69] = .ok bytes ∧
      (⟨0x08, [0x11, 0x69]⟩ : RawFrame).wireSize = bytes.length := by
  obtain ⟨⟨bytes, he, hs, -⟩, -⟩ := wire_size_matches_encoder ⟨0x08, [0x11, 0x69]⟩ (by decide) []
  exact ⟨by decide, by decide, bytes, he, hs⟩

theorem decode_length_field {m : Nat} {c r : Bytes} {w : Bytes} {x : UInt8} (hc : c ≠ [])
    (hL : c.length ≤ maxLength) (hm : c.length ≤ m)
    (ht : takeLogical (c.length + 1) w [] = some (c ++ [x],r)) :
    decode m (startMarker :: Bytes.ofNatBE 2 c.length ++ w) =
      if verify c x then ⟨.frame ⟨c.headD 0,c.tail⟩,r⟩
      else ⟨.fault (.checksumMismatch (checksum c) x),r⟩ := by
  have h0 : c.length ≠ 0 := by simpa using hc
  simp only [ofNatBE_two,List.cons_append,List.nil_append,decode,skipToStart_marker,
    decodeAtStart,toNat_length_field hL]
  rw [if_neg h0,if_neg (by omega),ht]
  simp

/-- A frame that fits decodes from its wire form, leaving exactly what followed it. -/
theorem decode_wire_append {m : Nat} {f : RawFrame} (hf : f.len ≤ maxLength) (hm : f.len ≤ m)
    (rest : Bytes) : decode m (f.wire ++ rest) = ⟨.frame f,rest⟩ := by
  obtain ⟨t,d⟩ := f
  have ht : takeLogical ((t :: d).length + 1)
      (stuff (t :: d ++ [Frame.checksum (t :: d)]) ++ rest) [] =
        some (t :: d ++ [Frame.checksum (t :: d)],rest) := by
    simpa using takeLogical_stuff_append (t :: d ++ [Frame.checksum (t :: d)]) rest []
  have hw : RawFrame.wire ⟨t,d⟩ ++ rest = startMarker :: Bytes.ofNatBE 2 (t :: d).length ++
      (stuff (t :: d ++ [Frame.checksum (t :: d)]) ++ rest) := by
    simp [RawFrame.wire_eq,RawFrame.len]
  rw [hw,decode_length_field (List.cons_ne_nil t d) hf hm ht,if_pos (verify_checksum _)]
  rfl

theorem decode_empty_header (m : Nat) (s : Bytes) :
    decode m (startMarker :: 0x00 :: 0x00 :: s) = ⟨.fault .emptyFrame,s⟩ := by
  simp [decode,decodeAtStart]

theorem decode_wire_tooLarge {m : Nat} {f : RawFrame} (hf : f.len ≤ maxLength) (hm : m < f.len)
    (s : Bytes) : decode m (f.wire ++ s) = ⟨.fault (.tooLarge f.len m),f.wire.tail ++ s⟩ := by
  have h0 : f.len ≠ 0 := by simp [RawFrame.len]
  simp only [RawFrame.wire,ofNatBE_two,List.cons_append,List.nil_append,List.append_assoc,decode,
    skipToStart_marker,decodeAtStart,toNat_length_field hf,List.tail_cons]
  rw [if_neg h0,if_pos hm]

end Frame
end RadioLink
