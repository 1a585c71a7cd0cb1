import RadioLink.Proofs.Request
import RadioLink.Proofs.Response.AtResponse
/-! Node records, whose later fields start after the identifier's NUL. The readers follow the
layout (`reads_discoveryRead`, `reads_identificationRead`) and give an encoded record back
(`run_discoveryRead_encoded`). Main statement: `node_records_decode`. -/
namespace RadioLink

/-! ### Addresses and words written and read back -/

@[simp] theorem Address16.length_toBytes (a : Address16) : a.toBytes.length = 2 := by
  simp [Address16.toBytes]

@[simp] theorem Address64.length_toBytes (a : Address64) : a.toBytes.length = 8 := by
  simp [Address64.toBytes]

@[simp] theorem Address16.ofBytes_toBytes (a : Address16) : Address16.ofBytes a.toBytes = a := by
  have h : a.value.toNat < 256 ^ 2 := a.value.toNat_lt
  simp [Address16.ofBytes,Address16.toBytes,Bytes.toNatBE_ofNatBE_of_lt h]

@[simp] theorem Address64.ofBytes_toBytes (a : Address64) : Address64.ofBytes a.toBytes = a := by
  have h : a.value.toNat < 256 ^ 8 := a.value.toNat_lt
  simp [Address64.ofBytes,Address64.toBytes,Bytes.toNatBE_ofNatBE_of_lt h]

@[simp] theorem toUInt16_toNatBE_ofNatBE (w : UInt16) :
    (Bytes.toNatBE (Bytes.ofNatBE 2 w.toNat)).toUInt16 = w := by
  have h : w.toNat < 256 ^ 2 := w.toNat_lt
  simp [Bytes.toNatBE_ofNatBE_of_lt h]

/-! ### Identifier text -/

theorem length_identifierText (s : Bytes) : (identifierText s).length = s.length := by
  simp [identifierText]

theorem identifierText_eq_ofList_iff (s : Bytes) :
    identifierText s = String.ofList (s.map fun b => Char.ofNat b.toNat) ↔
      ∀ b ∈ s, 32 ≤ b ∧ b ≤ 126 := by
  rw [identifierText,String.ofList_inj,List.map_inj_left]
  refine forall₂_congr fun b _ => ?_
  by_cases hp : 32 ≤ b ∧ b ≤ 126
  · simp [hp]
  · -- `?` is printable, so a byte shown as `?` is not shown as itself
    have hne : '?' ≠ Char.ofNat b.toNat := by
      intro heq
      have hb : b.toNat < 256 := b.toNat_lt
      have hcode : (Char.ofNat b.toNat).toNat = 63 := by rw [← heq]; rfl
      rw [Char.toNat_ofNat,if_pos (by simp [Nat.isValidChar]; omega)] at hcode
      have hq : b = 63 := UInt8.toNat_inj.mp hcode
      exact hp ⟨by rw [hq]; decide,by rw [hq]; decide⟩
    simp [hp,hne]

theorem DeviceType.isSome_ofCode?_iff (d : UInt8) : (DeviceType.ofCode? d).isSome ↔ d ≤ 2 := by
  unfold DeviceType.ofCode?
  split <;> simp_all [UInt8.le_iff_toNat_le,← UInt8.toNat_inj]
  omega

theorem CommandResponse.readIdentifier_of_checkValue {v : Bytes} (h : AtCommand.ni.checkValue v = .ok ())
    (t : Bytes) :
    CommandResponse.readIdentifier v =
        .ok (.nodeIdentifier (String.ofList (v.map fun b => Char.ofNat b.toNat))) ∧
      CommandResponse.readIdentifier (v ++ 0 :: t) =
        .ok (.nodeIdentifier (String.ofList (v.map fun b => Char.ofNat b.toNat))) := by
  have hprint : ∀ b ∈ v, 32 ≤ b ∧ b ≤ 126 := by
    have hcheck := (AtCommand.checkValue_eq_ok_iff .ni v).mp h
    rw [if_pos rfl] at hcheck
    exact hcheck.2
  have hnz : ∀ b ∈ v, (b != 0) = true := by
    intro b hb
    have := (hprint b hb).1
    simp only [bne_iff_ne,ne_eq]
    rintro rfl
    exact absurd this (by decide)
  have htext := (identifierText_eq_ofList_iff v).mpr hprint
  refine ⟨?_,?_⟩
  · rw [CommandResponse.readIdentifier,List.takeWhile_eq_self_iff.mpr hnz,htext]
  · rw [CommandResponse.readIdentifier,List.takeWhile_append_of_pos hnz]
    simp [htext]

namespace FieldReader

/-! ### The two layouts -/

def Field.deviceType : Field := Field.code "device type" DeviceType.ofCode? .unknownDeviceType

def nodeTail (event : String) : List Field :=
  [.plain "parent address" 2,Field.deviceType,.plain event 1,.plain "profile id" 2,
    .plain "manufacturer id" 2]

def discoveryLayout (b : Bytes) : List Field :=
  [.plain "network address" 2,.plain "extended address" 8,Field.identifier (b.drop 10)] ++
    nodeTail "status"

def identifierAt (b : Bytes) (i : Nat) : Bytes := ((b.drop i).idxOf? 0).elim (b.drop i) (b.drop i).take

def tailAt (b : Bytes) (i : Nat) : Nat := i + (Field.identifier (b.drop i)).width

def discoveryOf (b : Bytes) : NodeDiscovery where
  address16 := Address16.ofBytes (b.take 2)
  address64 := Address64.ofBytes ((b.drop 2).take 8)
  identifier := identifierText (identifierAt b 10)
  parent := Address16.ofBytes ((b.drop (tailAt b 10)).take 2)
  deviceType := (DeviceType.ofCode? (b.getD (tailAt b 10 + 2) 0)).getD default
  status := b.getD (tailAt b 10 + 3) 0
  profileId := (Bytes.toNatBE ((b.drop (tailAt b 10 + 4)).take 2)).toUInt16
  manufacturerId := (Bytes.toNatBE ((b.drop (tailAt b 10 + 6)).take 2)).toUInt16

theorem reads_discoveryRead : Reads NodeDiscovery.read discoveryLayout discoveryOf := by
  unfold NodeDiscovery.read
  apply Reads.congr
  · apply Reads.bind (Reads.address16 _); intro address16
    apply Reads.bind (Reads.address64 _); intro address64
    apply Reads.bind Reads.cString; intro identifier
    apply Reads.bind (Reads.address16 _); intro parent
    -- the device type byte and its check are read as one code field
    apply Reads.code_bind "device type" DeviceType.ofCode? .unknownDeviceType
    · intro c
      cases DeviceType.ofCode? c <;> rfl
    intro deviceType
    apply Reads.bind (Reads.byte _); intro status
    apply Reads.bind (Reads.word _); intro profileId
    apply Reads.bind (Reads.word _); intro manufacturerId
    exact Reads.pure _
  · intro bs
    simp [discoveryLayout,nodeTail,Field.deviceType]
  · intro bs _
    simp [discoveryOf,identifierAt,tailAt,List.getD_eq_getElem?_getD,List.head?_eq_getElem?]

def identificationLayout (b : Bytes) : List Field :=
  [.plain "source address" 8,.plain "source network address" 2,.plain "receive options" 1,
    .plain "remote network address" 2,.plain "remote address" 8,Field.identifier (b.drop 21)] ++
    nodeTail "source event"

def identificationOf (b : Bytes) : NodeIdentification where
  source64 := Address64.ofBytes (b.take 8)
  source16 := Address16.ofBytes ((b.drop 8).take 2)
  options := b.getD 10 0
  remote16 := Address16.ofBytes ((b.drop 11).take 2)
  remote64 := Address64.ofBytes ((b.drop 13).take 8)
  identifier := identifierText (identifierAt b 21)
  parent := Address16.ofBytes ((b.drop (tailAt b 21)).take 2)
  deviceType := (DeviceType.ofCode? (b.getD (tailAt b 21 + 2) 0)).getD default
  sourceEvent := b.getD (tailAt b 21 + 3) 0
  profileId := (Bytes.toNatBE ((b.drop (tailAt b 21 + 4)).take 2)).toUInt16
  manufacturerId := (Bytes.toNatBE ((b.drop (tailAt b 21 + 6)).take 2)).toUInt16

theorem reads_identificationRead :
    Reads NodeIdentification.read identificationLayout identificationOf := by
  unfold NodeIdentification.read
  apply Reads.congr
  · apply Reads.bind (Reads.address64 _); intro source64
    apply Reads.bind (Reads.address16 _); intro source16
    apply Reads.bind (Reads.byte _); intro options
    apply Reads.bind (Reads.address16 _); intro remote16
    apply Reads.bind (Reads.address64 _); intro remote64
    apply Reads.bind Reads.cString; intro identifier
    apply Reads.bind (Reads.address16 _); intro parent
    apply Reads.code_bind "device type" DeviceType.ofCode? .unknownDeviceType
    · intro c
      cases DeviceType.ofCode? c <;> rfl
    intro deviceType
    apply Reads.bind (Reads.byte _); intro sourceEvent
    apply Reads.bind (Reads.word _); intro profileId
    apply Reads.bind (Reads.word _); intro manufacturerId
    exact Reads.pure _
  · intro bs
    simp [identificationLayout,nodeTail,Field.deviceType]
  · intro bs _
    simp [identificationOf,identifierAt,tailAt,List.getD_eq_getElem?_getD,List.head?_eq_getElem?]

/-! ### Encoded records -/

/-- A discovered node written field by field, as the radio sends it. -/
def discoveryBytes (a16 : Address16) (a64 : Address64) (s : Bytes) (parent : Address16)
    (d status : UInt8) (profile manufacturer : UInt16) : Bytes :=
  a16.toBytes ++ a64.toBytes ++ s ++ [0] ++ parent.toBytes ++ [d,status] ++
    Bytes.ofNatBE 2 profile.toNat ++ Bytes.ofNatBE 2 manufacturer.toNat

def identificationBytes (source64 : Address64) (source16 : Address16) (options : UInt8)
    (remote16 : Address16) (remote64 : Address64) (s : Bytes) (parent : Address16)
    (d event : UInt8) (profile manufacturer : UInt16) : Bytes :=
  source64.toBytes ++ source16.toBytes ++ [options] ++ remote16.toBytes ++ remote64.toBytes ++ s ++
    [0] ++ parent.toBytes ++ [d,event] ++ Bytes.ofNatBE 2 profile.toNat ++
    Bytes.ofNatBE 2 manufacturer.toNat

theorem run_address16_bind (what : String) (a : Address16) (rest : Bytes)
    (k : Address16 → FieldReader β) : (address16 what >>= k).run (a.toBytes ++ rest) = (k a).run rest := by
  rw [run_bind_of_reads (Reads.address16 what) k (by simp [firstFault]; omega)]
  simp [List.take_left',List.drop_left']

theorem run_address64_bind (what : String) (a : Address64) (rest : Bytes)
    (k : Address64 → FieldReader β) : (address64 what >>= k).run (a.toBytes ++ rest) = (k a).run rest := by
  rw [run_bind_of_reads (Reads.address64 what) k (by simp [firstFault])]
  simp [List.take_left',List.drop_left']

theorem run_word_bind (what : String) (w : UInt16) (rest : Bytes) (k : UInt16 → FieldReader β) :
    (word what >>= k).run (Bytes.ofNatBE 2 w.toNat ++ rest) = (k w).run rest := by
  rw [run_bind_of_reads (Reads.word what) k (by simp [firstFault]; omega)]
  simp [List.take_left',List.drop_left']

theorem run_cString_bind {s : Bytes} (hs : ∀ x ∈ s, x ≠ 0) (rest : Bytes) (k : Bytes → FieldReader β) :
    (cString >>= k).run (s ++ 0 :: rest) = (k s).run rest := by
  rw [run_bind_of_reads Reads.cString k (by simp [firstFault,Field.identifier_terminated hs])]
  simp [idxOf?_terminated hs,Field.identifier_terminated hs,List.take_left']

theorem run_discoveryRead_encoded (a16 : Address16) (a64 : Address64) {s : Bytes}
    (hs : ∀ x ∈ s, x ≠ 0) (parent : Address16) (d status : UInt8) (profile manufacturer : UInt16)
    (t : Bytes) :
    NodeDiscovery.read.run (discoveryBytes a16 a64 s parent d status profile manufacturer ++ t) =
      (DeviceType.ofCode? d).elim (.error (.unknownDeviceType d)) fun ty =>
        .ok (⟨a16,a64,identifierText s,parent,ty,status,profile,manufacturer⟩,t) := by
  simp only [discoveryBytes,List.append_assoc,List.cons_append,List.nil_append]
  unfold NodeDiscovery.read
  rw [run_address16_bind,run_address64_bind,run_cString_bind hs]
  dsimp only
  rw [run_address16_bind,run_byte_bind_cons]
  cases DeviceType.ofCode? d with
  | none => rfl
  | some ty =>
    dsimp only
    rw [pure_bind,run_byte_bind_cons,run_word_bind,run_word_bind]
    rfl

theorem run_identificationRead_encoded (source64 : Address64) (source16 : Address16)
    (options : UInt8) (remote16 : Address16) (remote64 : Address64) {s : Bytes}
    (hs : ∀ x ∈ s, x ≠ 0) (parent : Address16) (d event : UInt8) (profile manufacturer : UInt16)
    (t : Bytes) :
    NodeIdentification.read.run (identificationBytes source64 source16 options remote16 remote64 s
        parent d event profile manufacturer ++ t) =
      (DeviceType.ofCode? d).elim (.error (.unknownDeviceType d)) fun ty =>
        .ok (⟨source64,source16,options,remote16,remote64,identifierText s,parent,ty,event,profile,
          manufacturer⟩,t) := by
  simp only [identificationBytes,List.append_assoc,List.cons_append,List.nil_append]
  unfold NodeIdentification.read
  rw [run_address64_bind,run_address16_bind,run_byte_bind_cons,run_address16_bind,
    run_address64_bind,run_cString_bind hs]
  dsimp only
  rw [run_address16_bind,run_byte_bind_cons]
  cases DeviceType.ofCode? d with
  | none => rfl
  | some ty =>
    dsimp only
    rw [pure_bind,run_byte_bind_cons,run_word_bind,run_word_bind]
    rfl

/-! ### Bodies without a terminator -/

theorem firstFault_unterminated {fs : List Field} (hfs : ∀ f ∈ fs, ∀ v, f.refuse v = none)
    {b : Bytes} (hb : span fs ≤ b.length) (h : ∀ x ∈ b.drop (span fs), x ≠ 0) (gs : List Field) :
    firstFault (fs ++ Field.identifier (b.drop (span fs)) :: gs) b = some .unterminatedIdentifier := by
  rw [firstFault_append,firstFault_of_plain hfs,(firstMissing_eq_none_iff fs _).mpr hb,
    Option.none_or,Field.identifier_unterminated h]
  simp [firstFault]

theorem run_discoveryRead_unterminated {b : Bytes} (hb : 10 ≤ b.length)
    (h : ∀ x ∈ b.drop 10, x ≠ 0) : NodeDiscovery.read.run b = .error .unterminatedIdentifier := by
  have hfault : firstFault (discoveryLayout b) b = some .unterminatedIdentifier :=
    @firstFault_unterminated [.plain "network address" 2,.plain "extended address" 8] (by simp) b hb h
      (nodeTail "status")
  rw [reads_discoveryRead b,hfault]
  rfl

theorem run_identificationRead_unterminated {b : Bytes} (hb : 21 ≤ b.length)
    (h : ∀ x ∈ b.drop 21, x ≠ 0) : NodeIdentification.read.run b = .error .unterminatedIdentifier := by
  have hfault : firstFault (identificationLayout b) b = some .unterminatedIdentifier :=
    @firstFault_unterminated [.plain "source address" 8,.plain "source network address" 2,
      .plain "receive options" 1,.plain "remote network address" 2,.plain "remote address" 8]
      (by simp) b hb h (nodeTail "source event")
  rw [reads_identificationRead b,hfault]
  rfl

/-! ### Bodies that end early -/

section Prefix

variable {pre tail : List Field} {E s post : Bytes}

theorem firstFault_identifier_take (hpre : ∀ f ∈ pre, ∀ v, f.refuse v = none)
    (hs : ∀ x ∈ s, x ≠ 0) (hE : E.drop (span pre) = s ++ 0 :: post)
    (hfull : firstFault (pre ++ .plain "identifier" (s.length + 1) :: tail) E = none) {n : Nat}
    (hcut : n < span pre ∨ span pre + s.length < n) :
    firstFault (pre ++ Field.identifier ((E.take n).drop (span pre)) :: tail) (E.take n) =
      firstMissing (pre ++ .plain "identifier" (s.length + 1) :: tail) (E.take n).length := by
  rcases hcut with hlt | hgt
  · have hlen : (E.take n).length < span pre := by simp; omega
    have hsome : firstMissing pre (E.take n).length ≠ none := fun h =>
      absurd ((firstMissing_eq_none_iff pre _).mp h) (by omega)
    obtain ⟨e,he⟩ := Option.ne_none_iff_exists'.mp hsome
    rw [firstFault_append,firstFault_of_plain hpre,he,firstMissing_append_of_lt _ hlen,he]
    rfl
  · obtain ⟨m,hm⟩ : ∃ m, n - span pre - s.length = m + 1 := ⟨_,(Nat.succ_pred_eq_of_pos (by omega)).symm⟩
    have hdrop : (E.take n).drop (span pre) = s ++ 0 :: post.take m := by
      rw [List.drop_take,hE,List.take_append,List.take_of_length_le (by omega),hm,
        List.take_succ_cons]
    rw [hdrop,Field.identifier_terminated hs]
    exact firstFault_take hfull n

theorem run_take_of_identifier {x : FieldReader α} {v : Bytes → α}
    (hx : Reads x (fun b => pre ++ Field.identifier (b.drop (span pre)) :: tail) v)
    (hpre : ∀ f ∈ pre, ∀ v, f.refuse v = none) (hs : ∀ x ∈ s, x ≠ 0)
    (hE : E.drop (span pre) = s ++ 0 :: post) (hok : ∃ a rest, x.run E = .ok (a,rest))
    (hspan : span (pre ++ .plain "identifier" (s.length + 1) :: tail) = E.length) {n : Nat}
    (hn : n < E.length) (hcut : n < span pre ∨ span pre + s.length < n) :
    ∃ e, firstMissing (pre ++ .plain "identifier" (s.length + 1) :: tail) n = some e ∧
      x.run (E.take n) = .error e := by
  have hlayout : Field.identifier (E.drop (span pre)) = .plain "identifier" (s.length + 1) := by
    rw [hE,Field.identifier_terminated hs]
  have hfull : firstFault (pre ++ .plain "identifier" (s.length + 1) :: tail) E = none := by
    obtain ⟨a,rest,hrun⟩ := hok
    rw [hx E] at hrun
    dsimp only at hrun
    rw [hlayout] at hrun
    cases h : firstFault (pre ++ .plain "identifier" (s.length + 1) :: tail) E with
    | none => rfl
    | some e => rw [h] at hrun; cases hrun
  have hsome : firstMissing (pre ++ .plain "identifier" (s.length + 1) :: tail) n ≠ none := fun h =>
    absurd ((firstMissing_eq_none_iff _ n).mp h) (by omega)
  obtain ⟨e,he⟩ := Option.ne_none_iff_exists'.mp hsome
  have hlen : (E.take n).length = n := by simp; omega
  refine ⟨e,he,?_⟩
  rw [hx (E.take n),firstFault_identifier_take hpre hs hE hfull hcut,hlen,he]
  rfl

end Prefix

theorem run_discoveryRead_take (a16 : Address16) (a64 : Address64) {s : Bytes}
    (hs : ∀ x ∈ s, x ≠ 0) (parent : Address16) {d : UInt8} (hd : (DeviceType.ofCode? d).isSome)
    (status : UInt8) (profile manufacturer : UInt16) {n : Nat}
    (hn : n < (discoveryBytes a16 a64 s parent d status profile manufacturer).length)
    (hcut : n < 10 ∨ 10 + s.length < n) :
    ∃ e, firstMissing ([.plain "network address" 2,.plain "extended address" 8,
        .plain "identifier" (s.length + 1)] ++ nodeTail "status") n = some e ∧
      NodeDiscovery.read.run ((discoveryBytes a16 a64 s parent d status profile manufacturer).take n) =
        .error e := by
  have hok : ∃ a rest, NodeDiscovery.read.run
      (discoveryBytes a16 a64 s parent d status profile manufacturer) = .ok (a,rest) := by
    obtain ⟨ty,hty⟩ := Option.isSome_iff_exists.mp hd
    have hrun := run_discoveryRead_encoded a16 a64 hs parent d status profile manufacturer []
    rw [List.append_nil,hty] at hrun
    exact ⟨_,_,hrun⟩
  have hE : (discoveryBytes a16 a64 s parent d status profile manufacturer).drop 10 =
      s ++ 0 :: (parent.toBytes ++ [d,status] ++ Bytes.ofNatBE 2 profile.toNat ++
        Bytes.ofNatBE 2 manufacturer.toNat) := by
    simp [discoveryBytes,List.drop_append]
  have hx : Reads NodeDiscovery.read (fun b => [.plain "network address" 2,
      .plain "extended address" 8] ++ Field.identifier (b.drop (span [.plain "network address" 2,
      .plain "extended address" 8])) :: nodeTail "status") discoveryOf := reads_discoveryRead
  exact run_take_of_identifier hx (by simp) hs hE hok
    (by simp [discoveryBytes,nodeTail,Field.deviceType]) hn hcut

theorem run_identificationRead_take (source64 : Address64) (source16 : Address16) (options : UInt8)
    (remote16 : Address16) (remote64 : Address64) {s : Bytes} (hs : ∀ x ∈ s, x ≠ 0)
    (parent : Address16) {d : UInt8} (hd : (DeviceType.ofCode? d).isSome) (event : UInt8)
    (profile manufacturer : UInt16) {n : Nat}
    (hn : n < (identificationBytes source64 source16 options remote16 remote64 s parent d event
      profile manufacturer).length)
    (hcut : n < 21 ∨ 21 + s.length < n) :
    ∃ e, firstMissing ([.plain "source address" 8,.plain "source network address" 2,
        .plain "receive options" 1,.plain "remote network address" 2,.plain "remote address" 8,
        .plain "identifier" (s.length + 1)] ++ nodeTail "source event") n = some e ∧
      NodeIdentification.read.run ((identificationBytes source64 source16 options remote16 remote64
        s parent d event profile manufacturer).take n) = .error e := by
  have hok : ∃ a rest, NodeIdentification.read.run (identificationBytes source64 source16 options
      remote16 remote64 s parent d event profile manufacturer) = .ok (a,rest) := by
    obtain ⟨ty,hty⟩ := Option.isSome_iff_exists.mp hd
    have hrun := run_identificationRead_encoded source64 source16 options remote16 remote64 hs
      parent d event profile manufacturer []
    rw [List.append_nil,hty] at hrun
    exact ⟨_,_,hrun⟩
  have hE : (identificationBytes source64 source16 options remote16 remote64 s parent d event
      profile manufacturer).drop 21 = s ++ 0 :: (parent.toBytes ++ [d,event] ++
        Bytes.ofNatBE 2 profile.toNat ++ Bytes.ofNatBE 2 manufacturer.toNat) := by
    simp [identificationBytes,List.drop_append,List.drop_eq_nil_of_le]
  have hx : Reads NodeIdentification.read (fun b => [.plain "source address" 8,
      .plain "source network address" 2,.plain "receive options" 1,.plain "remote network address" 2,
      .plain "remote address" 8] ++ Field.identifier (b.drop (span [.plain "source address" 8,
      .plain "source network address" 2,.plain "receive options" 1,.plain "remote network address" 2,
      .plain "remote address" 8])) :: nodeTail "source event") identificationOf :=
    reads_identificationRead
  exact run_take_of_identifier hx (by simp) hs hE hok
    (by simp [identificationBytes,nodeTail,Field.deviceType]; omega) hn hcut

end FieldReader

theorem Registry.standard_decodeCommand_ni {k : Frame.Kind}
    (hk : k = .atCommandResponse ∨ k = .remoteAtCommandResponse) {p : Bytes} (hp : p ≠ []) :
    Registry.standard.decodeCommand k .ni p = (CommandResponse.readIdentifier p).map some := by
  rw [Registry.decodeCommand_of_ne_nil _ _ _ hp]
  rcases hk with rfl | rfl <;> rfl

open FieldReader in
/-- Node records decode field by field, the identifier's text read up to its NUL. -/
theorem node_records_decode :
    (∀ (a16 : Address16) (a64 : Address64) (s : Bytes), (∀ x ∈ s, x ≠ 0) →
      ∀ (parent : Address16) (d status : UInt8) (profile manufacturer : UInt16) (t : Bytes),
        NodeDiscovery.read.run (discoveryBytes a16 a64 s parent d status profile manufacturer ++ t) =
          (DeviceType.ofCode? d).elim (.error (.unknownDeviceType d)) fun ty =>
            .ok (⟨a16,a64,identifierText s,parent,ty,status,profile,manufacturer⟩,t)) ∧
    (∀ d : UInt8, (DeviceType.ofCode? d).isSome ↔ d ≤ 2) ∧
    (∀ s : Bytes, (identifierText s).length = s.length) ∧
    (∀ s : Bytes, identifierText s = String.ofList (s.map fun b => Char.ofNat b.toNat) ↔
      ∀ b ∈ s, 32 ≤ b ∧ b ≤ 126) ∧
    (∀ b : Bytes, 10 ≤ b.length → (∀ x ∈ b.drop 10, x ≠ 0) →
      NodeDiscovery.read.run b = .error .unterminatedIdentifier) ∧
    (∀ (a16 : Address16) (a64 : Address64) (s : Bytes), (∀ x ∈ s, x ≠ 0) →
      ∀ (parent : Address16) (d : UInt8), (DeviceType.ofCode? d).isSome →
      ∀ (status : UInt8) (profile manufacturer : UInt16) (n : Nat),
        n < (discoveryBytes a16 a64 s parent d status profile manufacturer).length →
        n < 10 ∨ 10 + s.length < n →
        ∃ e, firstMissing ([.plain "network address" 2,.plain "extended address" 8,
            .plain "identifier" (s.length + 1)] ++ nodeTail "status") n = some e ∧
          NodeDiscovery.read.run ((discoveryBytes a16 a64 s parent d status profile manufacturer).take n) =
            .error e) ∧
    (∀ b : Bytes, NodeDiscovery.read.run b =
      (firstFault (discoveryLayout b) b).elim (.ok (discoveryOf b,b.drop (span (discoveryLayout b))))
        .error) ∧
    (∀ (source64 : Address64) (source16 : Address16) (options : UInt8) (remote16 : Address16)
        (remote64 : Address64) (s : Bytes), (∀ x ∈ s, x ≠ 0) →
      ∀ (parent : Address16) (d event : UInt8) (profile manufacturer : UInt16) (t : Bytes),
        NodeIdentification.read.run (identificationBytes source64 source16 options remote16 remote64 s
            parent d event profile manufacturer ++ t) =
          (DeviceType.ofCode? d).elim (.error (.unknownDeviceType d)) fun ty =>
            .ok (⟨source64,source16,options,remote16,remote64,identifierText s,parent,ty,event,profile,
              manufacturer⟩,t)) ∧
    (∀ b : Bytes, 21 ≤ b.length → (∀ x ∈ b.drop 21, x ≠ 0) →
      NodeIdentification.read.run b = .error .unterminatedIdentifier) ∧
    (∀ (source64 : Address64) (source16 : Address16) (options : UInt8) (remote16 : Address16)
        (remote64 : Address64) (s : Bytes), (∀ x ∈ s, x ≠ 0) →
      ∀ (parent : Address16) (d : UInt8), (DeviceType.ofCode? d).isSome →
      ∀ (event : UInt8) (profile manufacturer : UInt16) (n : Nat),
        n < (identificationBytes source64 source16 options remote16 remote64 s parent d event profile
          manufacturer).length →
        n < 21 ∨ 21 + s.length < n →
        ∃ e, firstMissing ([.plain "source address" 8,.plain "source network address" 2,
            .plain "receive options" 1,.plain "remote network address" 2,.plain "remote address" 8,
            .plain "identifier" (s.length + 1)] ++ nodeTail "source event") n = some e ∧
          NodeIdentification.read.run ((identificationBytes source64 source16 options remote16 remote64
            s parent d event profile manufacturer).take n) = .error e) ∧
    (∀ b : Bytes, NodeIdentification.read.run b =
      (firstFault (identificationLayout b) b).elim
        (.ok (identificationOf b,b.drop (span (identificationLayout b)))) .error) ∧
    (∀ v : Bytes, AtCommand.ni.checkValue v = .ok () → ∀ t : Bytes,
      CommandResponse.readIdentifier v =
          .ok (.nodeIdentifier (String.ofList (v.map fun b => Char.ofNat b.toNat))) ∧
        CommandResponse.readIdentifier (v ++ 0 :: t) =
          .ok (.nodeIdentifier (String.ofList (v.map fun b => Char.ofNat b.toNat)))) ∧
    (∀ v : Bytes, AtCommand.ni.checkValue v = .ok () → v ≠ [] →
      ∀ k : Frame.Kind, k = .atCommandResponse ∨ k = .remoteAtCommandResponse →
        Registry.standard.decodeCommand k .ni v =
          .ok (some (.nodeIdentifier (String.ofList (v.map fun b => Char.ofNat b.toNat))))) := by
  refine ⟨fun a16 a64 _ hs => run_discoveryRead_encoded a16 a64 hs,DeviceType.isSome_ofCode?_iff,
    length_identifierText,identifierText_eq_ofList_iff,fun _ hb h => run_discoveryRead_unterminated hb h,
    fun a16 a64 _ hs parent _ hd status profile manufacturer _ hn hcut =>
      run_discoveryRead_take a16 a64 hs parent hd status profile manufacturer hn hcut,
    reads_discoveryRead,
    fun source64 source16 options remote16 remote64 _ hs => run_identificationRead_encoded source64 source16
      options remote16 remote64 hs,
    fun _ hb h => run_identificationRead_unterminated hb h,
    fun source64 source16 options remote16 remote64 _ hs parent _ hd event profile manufacturer _ hn hcut =>
      run_identificationRead_take source64 source16 options remote16 remote64 hs parent hd event profile
        manufacturer hn hcut,
    reads_identificationRead,fun _ h t => CommandResponse.readIdentifier_of_checkValue h t,?_⟩
  intro v h hv k hk
  rw [Registry.standard_decodeCommand_ni hk hv,(CommandResponse.readIdentifier_of_checkValue h []).1]
  rfl

end RadioLink
