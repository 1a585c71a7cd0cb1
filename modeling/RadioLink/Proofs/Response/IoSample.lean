import RadioLink.Proofs.Response.Layout
/-! IO samples: a fifteen-byte header ending in the two channel masks, the digital levels when
any digital channel is sampled, then one word per analog channel. The reader follows that
layout (`reads_read`). Main statement: `io_sample_layout`. -/
namespace RadioLink
namespace IoSample

open FieldReader

theorem bit_eq_testBit (n : Nat) : bit n = n.testBit := by
  funext i
  rw [bit,Nat.testBit_eq_decide_div_mod_eq,Nat.pow_eq]
  exact beq_eq_decide _ _

/-! ### The layout of a body -/

def wordAt (b : Bytes) (i : Nat) : Nat := Bytes.toNatBE ((b.drop i).take 2)

def digitalMaskOf (b : Bytes) : Nat := wordAt b 12

def analogMaskOf (b : Bytes) : Nat := (b.getD 14 0).toNat

def channelsOf (am : Nat) : List Nat := (List.range 8).filter am.testBit

def readingsAt (b : Bytes) : Nat := 15 + if digitalMaskOf b ≠ 0 then 2 else 0

/-- The fields of an IO sample body, in order. -/
def layout (b : Bytes) : List Field :=
  [.plain "source address" 8,.plain "source network address" 2,.plain "receive options" 1,
    .plain "sample count" 1,.plain "digital channel mask" 2,.plain "analog channel mask" 1] ++
  (if digitalMaskOf b ≠ 0 then [.plain "digital samples" 2] else []) ++
  List.replicate (channelsOf (analogMaskOf b)).length (.plain "analog sample" 2)

def ofBody (b : Bytes) : IoSample where
  source64 := Address64.ofBytes (b.take 8)
  source16 := Address16.ofBytes ((b.drop 8).take 2)
  options := b.getD 10 0
  sampleCount := b.getD 11 0
  digitalMask := (digitalMaskOf b).toUInt16
  analogMask := b.getD 14 0
  digitalSamples := if digitalMaskOf b ≠ 0 then some (wordAt b 15).toUInt16 else none
  analogSamples := (channelsOf (analogMaskOf b)).mapIdx fun i c =>
    ⟨c.toUInt8,(wordAt b (readingsAt b + 2 * i)).toUInt16⟩

theorem span_layout (b : Bytes) :
    span (layout b) = readingsAt b + 2 * (channelsOf (analogMaskOf b)).length := by
  unfold layout readingsAt
  split_ifs <;> simp <;> omega

theorem layout_plain (b : Bytes) : ∀ f ∈ layout b, ∀ v, f.refuse v = none := by
  intro f hf v
  have hplain : ∃ what w, f = Field.plain what w := by
    simp only [layout,List.mem_append,List.mem_cons,List.mem_replicate] at hf
    split_ifs at hf <;> aesop
  obtain ⟨what,w,rfl⟩ := hplain
  rfl

theorem toNatBE_take_two_lt (bs : Bytes) : Bytes.toNatBE (bs.take 2) < 65536 := by
  have h := Bytes.toNatBE_lt (bs.take 2)
  have hl : (bs.take 2).length ≤ 2 := by simp
  calc Bytes.toNatBE (bs.take 2) < 256 ^ (bs.take 2).length := h
    _ ≤ 256 ^ 2 := Nat.pow_le_pow_right (by norm_num) hl
    _ = 65536 := by norm_num

theorem toUInt16_toNatBE_take_two (bs : Bytes) :
    (Bytes.toNatBE (bs.take 2)).toUInt16.toNat = Bytes.toNatBE (bs.take 2) := by
  simp [Nat.toUInt16,UInt16.toNat_ofNat',Nat.mod_eq_of_lt (toNatBE_take_two_lt bs)]

theorem toUInt16_toNatBE_take_two_eq_zero (bs : Bytes) :
    (Bytes.toNatBE (bs.take 2)).toUInt16 = 0 ↔ Bytes.toNatBE (bs.take 2) = 0 := by
  rw [← UInt16.toNat_inj,toUInt16_toNatBE_take_two]
  rfl

theorem reads_read : Reads read layout ofBody := by
  unfold read
  apply Reads.congr
  · apply Reads.bind (Reads.address64 _); intro source64
    apply Reads.bind (Reads.address16 _); intro source16
    apply Reads.bind (Reads.byte _); intro options
    apply Reads.bind (Reads.byte _); intro sampleCount
    apply Reads.bind (Reads.word _); intro digitalMask
    apply Reads.bind (Reads.byte _); intro analogMask
    -- the `if` of the digital levels rejoins the rest of the block
    dsimp only
    rw [ite_bind_eq]
    apply Reads.bind (Reads.ite ((Reads.word _).map some) (Reads.pure none)); intro digitalSamples
    apply Reads.bind (Reads.mapM (fun c : Nat => (Reads.word "analog sample").bind_pure
      fun v : UInt16 => (⟨c.toUInt8,v⟩ : AnalogSample)) _)
    intro analogSamples
    exact Reads.pure _
  · intro bs
    by_cases h : Bytes.toNatBE (List.take 2 (List.drop 12 bs)) = 0 <;>
      simp [layout,digitalMaskOf,wordAt,analogMaskOf,channelsOf,h,toUInt16_toNatBE_take_two_eq_zero,bit_eq_testBit]
  · intro bs _
    by_cases h : Bytes.toNatBE (List.take 2 (List.drop 12 bs)) = 0 <;>
      simp [ofBody,digitalMaskOf,wordAt,analogMaskOf,channelsOf,readingsAt,h,
        toUInt16_toNatBE_take_two_eq_zero,bit_eq_testBit,Nat.mul_comm]

theorem stable_read : Stable read := by
  unfold read
  apply Stable.bind (Stable.address64 _); intro _
  apply Stable.bind (Stable.address16 _); intro _
  apply Stable.bind (Stable.byte _); intro _
  apply Stable.bind (Stable.byte _); intro _
  apply Stable.bind (Stable.word _); intro _
  apply Stable.bind (Stable.byte _); intro _
  dsimp only
  rw [ite_bind_eq]
  apply Stable.bind (Stable.ite ((Stable.word _).map some) (Stable.pure none)); intro _
  apply Stable.bind (Stable.mapM (fun _ => (Stable.word _).bind fun _ => Stable.pure _) _); intro _
  exact Stable.pure _

/-! ### The accessors -/

theorem toNat_toUInt8_of_lt {n : Nat} (h : n < 256) : n.toUInt8.toNat = n := by
  simp [Nat.toUInt8,UInt8.toNat_ofNat',Nat.mod_eq_of_lt h]

theorem find?_readings (am : Nat) (v : Nat → UInt16) (c : Nat) {n : Nat} (hn : n ≤ 256) :
    (((List.range n).filter am.testBit).mapIdx fun i ch => (⟨ch.toUInt8,v i⟩ : AnalogSample)).find?
        (fun a => a.channel.toNat == c) =
      if c < n ∧ am.testBit c then
        some ⟨c.toUInt8,v ((List.range c).filter am.testBit).length⟩
      else none := by
  induction n with
  | zero => simp
  | succ n ih =>
    rw [List.range_succ,List.filter_append,List.mapIdx_append,List.find?_append,ih (by omega)]
    by_cases hc : c < n ∧ am.testBit c
    · rw [if_pos hc,if_pos ⟨by omega,hc.2⟩]
      rfl
    · rw [if_neg hc,Option.none_or]
      have hn' : n.toUInt8.toNat = n := toNat_toUInt8_of_lt (by omega)
      by_cases hcn : c = n ∧ am.testBit n
      · obtain ⟨rfl,hb⟩ := hcn
        simp [hb,hn']
      · have hnot : ¬ (c < n + 1 ∧ am.testBit c) := by
          rintro ⟨hlt,hbc⟩
          rcases Nat.lt_succ_iff_lt_or_eq.mp hlt with hlt | rfl
          · exact hc ⟨hlt,hbc⟩
          · exact hcn ⟨rfl,hbc⟩
        rw [if_neg hnot]
        by_cases hb : am.testBit n
        · have hne : n ≠ c := fun h => hcn ⟨h.symm,hb⟩
          simp [hb,hn',hne]
        · simp [hb]

theorem toNat_toUInt16_wordAt (b : Bytes) (i : Nat) : (wordAt b i).toUInt16.toNat = wordAt b i :=
  toUInt16_toNatBE_take_two _

theorem analogMaskOf_lt (b : Bytes) : analogMaskOf b < 2 ^ 8 := (b.getD 14 0).toNat_lt

theorem analog_ofBody (b : Bytes) (c : Nat) :
    (ofBody b).analog c =
      if (analogMaskOf b).testBit c then
        some (wordAt b (readingsAt b + 2 * ((List.range c).filter (analogMaskOf b).testBit).length)).toUInt16
      else none := by
  have hc : (analogMaskOf b).testBit c → c < 8 := by
    intro h
    by_contra hge
    rw [Nat.testBit_eq_false_of_lt (lt_of_lt_of_le (analogMaskOf_lt b)
      (Nat.pow_le_pow_right (by norm_num) (by omega)))] at h
    exact Bool.false_ne_true h
  rw [analog,ofBody,channelsOf,find?_readings _ _ _ (by norm_num)]
  by_cases h : (analogMaskOf b).testBit c
  · simp [h,hc h]
  · simp [h]

theorem digital_ofBody (b : Bytes) (p : Nat) :
    (ofBody b).digital p =
      if p < 16 ∧ (digitalMaskOf b).testBit p then some ((wordAt b 15).testBit p) else none := by
  have hmask : (ofBody b).digitalMask.toNat = digitalMaskOf b := toNat_toUInt16_wordAt b 12
  rw [digital,hmask,bit_eq_testBit]
  by_cases h : p < 16 ∧ (digitalMaskOf b).testBit p
  · have hne : digitalMaskOf b ≠ 0 := by
      intro h0
      rw [h0,Nat.zero_testBit] at h
      exact Bool.false_ne_true h.2
    have hsamples : (ofBody b).digitalSamples = some (wordAt b 15).toUInt16 := if_pos hne
    rw [if_pos h,if_neg (by simp [h.1,h.2]),hsamples,Option.map_some,toNat_toUInt16_wordAt,bit_eq_testBit]
  · have hoff : (p ≥ 16 || !(digitalMaskOf b).testBit p) = true := by
      by_cases hp : p < 16
      · have hbit : (digitalMaskOf b).testBit p = false := by simpa [hp] using h
        simp [hbit]
      · simp
        omega
    rw [if_neg h,if_pos hoff]

theorem digitalPins_ofBody (b : Bytes) :
    (ofBody b).digitalPins = (List.range 16).filter (digitalMaskOf b).testBit := by
  have hmask : (ofBody b).digitalMask.toNat = digitalMaskOf b := toNat_toUInt16_wordAt b 12
  rw [digitalPins,hmask,bit_eq_testBit]

theorem channelsOf_lt {am c : Nat} (h : c ∈ channelsOf am) : c < 8 :=
  List.mem_range.mp (List.mem_filter.mp h).1

theorem readings_ofBody (b : Bytes) :
    (ofBody b).analogSamples.map (fun a => (a.channel.toNat,a.value.toNat)) =
      (channelsOf (analogMaskOf b)).mapIdx (fun i c => (c,wordAt b (readingsAt b + 2 * i))) := by
  apply List.ext_getElem
  · simp [ofBody]
  · intro i h₁ h₂
    have hc := channelsOf_lt (List.getElem_mem (l := channelsOf (analogMaskOf b)) (by simpa using h₂))
    simp only [ofBody,List.getElem_map,List.getElem_mapIdx,Prod.mk.injEq]
    exact ⟨toNat_toUInt8_of_lt (by omega),toNat_toUInt16_wordAt b _⟩

/-! ### Reading a body -/

theorem run_read (b : Bytes) :
    read.run b =
      (firstMissing (layout b) b.length).elim (.ok (ofBody b,b.drop (span (layout b)))) .error := by
  rw [reads_read b,firstFault_of_plain (layout_plain b)]

theorem run_read_ok_iff (b : Bytes) :
    (∃ s rest, read.run b = .ok (s,rest)) ↔
      readingsAt b + 2 * (channelsOf (analogMaskOf b)).length ≤ b.length := by
  rw [run_read,← span_layout,← firstMissing_eq_none_iff]
  cases firstMissing (layout b) b.length <;> simp

theorem eq_ofBody_of_run_read {b rest : Bytes} {s : IoSample} (h : read.run b = .ok (s,rest)) :
    s = ofBody b := by
  rw [run_read] at h
  cases hm : firstMissing (layout b) b.length with
  | none =>
    rw [hm] at h
    exact (Prod.mk.inj (Except.ok.inj h)).1.symm
  | some e =>
    rw [hm] at h
    cases h

/-- An IO sample decodes exactly when the body spans its layout, one reading per masked channel. -/
theorem io_sample_layout (b : Bytes) :
    read.run b =
        (firstMissing (layout b) b.length).elim (.ok (ofBody b,b.drop (span (layout b)))) .error ∧
      ((∃ s rest, read.run b = .ok (s,rest)) ↔
        15 + (if digitalMaskOf b ≠ 0 then 2 else 0) + 2 * (channelsOf (analogMaskOf b)).length ≤
          b.length) ∧
      ∀ s rest, read.run b = .ok (s,rest) →
        s.digitalSamples = (if digitalMaskOf b ≠ 0 then some (wordAt b 15).toUInt16 else none) ∧
        s.analogSamples.map (fun a => (a.channel.toNat,a.value.toNat)) =
          (channelsOf (analogMaskOf b)).mapIdx (fun i c => (c,wordAt b (readingsAt b + 2 * i))) ∧
        (∀ t, read.run (b ++ t) = .ok (s,rest ++ t)) ∧
        (∀ p, s.digital p =
          if p < 16 ∧ (digitalMaskOf b).testBit p then some ((wordAt b 15).testBit p) else none) ∧
        (∀ c, s.analog c =
          if (analogMaskOf b).testBit c then
            some (wordAt b (readingsAt b + 2 * ((List.range c).filter (analogMaskOf b).testBit).length)).toUInt16
          else none) ∧
        s.digitalPins = (List.range 16).filter (digitalMaskOf b).testBit := by
  refine ⟨run_read b,run_read_ok_iff b,?_⟩
  intro s rest h
  obtain rfl := eq_ofBody_of_run_read h
  exact ⟨rfl,readings_ofBody b,fun t => stable_read b t _ rest h,digital_ofBody b,analog_ofBody b,
    digitalPins_ofBody b⟩

end IoSample
end RadioLink
