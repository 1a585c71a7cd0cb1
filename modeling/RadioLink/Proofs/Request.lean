import RadioLink.Proofs.Bytes
import RadioLink.Proofs.Frame.Decode
import RadioLink.Request
/-! Requests as frames. A command value passes its check exactly when it is short enough and,
for the node identifier, printable ASCII (`AtCommand.checkValue_eq_ok_iff`); a number is sent in
the fewest big-endian bytes that hold it (`valueOfNat32_shortest`); and every request that fits
one frame goes out as a wire form that reads back as its documented frame type and body.

Main statement: `request_encoding`. -/
namespace RadioLink

/-! ### Values -/

theorem AtCommand.code_length (c : AtCommand) : c.code.length = 2 := by
  cases c <;> rfl

/-- A value passes its command's check at four bytes or fewer, twenty printable for the name. -/
theorem AtCommand.checkValue_eq_ok_iff (c : AtCommand) (v : Bytes) :
    c.checkValue v = .ok () ↔
      if c = .ni then v.length ≤ 20 ∧ ∀ b ∈ v, 32 ≤ b ∧ b ≤ 126 else v.length ≤ 4 := by
  unfold AtCommand.checkValue AtCommand.maxValueLength
  by_cases hc : c = .ni
  · subst hc
    by_cases hl : v.length > 20
    · simp only [if_pos hl,reduceIte,reduceCtorEq,false_iff,not_and]
      omega
    · simp only [if_neg hl,reduceIte]
      cases hf : v.find? fun b => !(32 ≤ b && b ≤ 126) with
      | some b =>
        have hp := List.find?_some hf
        simp only [Bool.not_eq_true',Bool.and_eq_false_iff,decide_eq_false_iff_not] at hp
        simp only [reduceCtorEq,false_iff,not_and,not_forall]
        intro _
        refine ⟨b,List.mem_of_find?_eq_some hf,?_⟩
        rcases hp with hp | hp <;> simp [hp]
      | none =>
        have hall := List.find?_eq_none.mp hf
        simp only [Bool.not_eq_true'] at hall
        simp only [true_iff]
        exact ⟨by omega,fun b hb => by simpa using hall b hb⟩
  · simp only [hc,reduceIte]
    by_cases hl : v.length > 4
    · simp only [if_pos hl,reduceCtorEq,false_iff]
      omega
    · simp only [if_neg hl,true_iff]
      omega

theorem AtCommand.length_le_of_checkValue {c : AtCommand} {v : Bytes} (h : c.checkValue v = .ok ()) :
    v.length ≤ 20 := by
  rw [AtCommand.checkValue_eq_ok_iff] at h
  split_ifs at h <;> omega

theorem AtRequest.set_eq_ok_iff {c : AtCommand} {v : Bytes} {r : AtRequest} :
    AtRequest.set c v = .ok r ↔ c.checkValue v = .ok () ∧ r = { command := c, value := v } := by
  cases hc : c.checkValue v with
  | error e => simp [AtRequest.set,hc,bind,Except.bind]
  | ok u => simp [AtRequest.set,hc,bind,Except.bind,pure,Except.pure,eq_comm]

theorem AtRequest.set_eq_ok {c : AtCommand} {v : Bytes} {r : AtRequest} (h : AtRequest.set c v = .ok r) :
    c.checkValue v = .ok () ∧ r = { command := c, value := v } :=
  AtRequest.set_eq_ok_iff.mp h

theorem RemoteAtRequest.set_eq_ok_iff {a : Address64} {c : AtCommand} {v : Bytes} {r : RemoteAtRequest} :
    RemoteAtRequest.set a c v = .ok r ↔
      c.checkValue v = .ok () ∧ r = { destination64 := a, command := c, value := v } := by
  cases hc : c.checkValue v with
  | error e => simp [RemoteAtRequest.set,hc,bind,Except.bind]
  | ok u => simp [RemoteAtRequest.set,hc,bind,Except.bind,pure,Except.pure,eq_comm]

theorem RemoteAtRequest.set_eq_ok {a : Address64} {c : AtCommand} {v : Bytes} {r : RemoteAtRequest}
    (h : RemoteAtRequest.set a c v = .ok r) :
    c.checkValue v = .ok () ∧ r = { destination64 := a, command := c, value := v } :=
  RemoteAtRequest.set_eq_ok_iff.mp h

/-! ### Numbers as values -/

theorem Bytes.ofNatBE_four (n : Nat) : Bytes.ofNatBE 4 n =
    [(n / 16777216 % 256).toUInt8,(n / 65536 % 256).toUInt8,(n / 256 % 256).toUInt8,(n % 256).toUInt8] := by
  simp [Bytes.ofNatBE,List.range_succ]

theorem valueOfNat32_eq (v : UInt32) : valueOfNat32 v =
    Bytes.ofNatBE (if v.toNat < 2 ^ 8 then 1 else if v.toNat < 2 ^ 16 then 2
      else if v.toNat < 2 ^ 24 then 3 else 4) v.toNat := by
  have hv := v.toNat_lt
  simp only [valueOfNat32,Bytes.ofNatBE_four]
  -- the leading zero bytes dropped are exactly those above the number's highest byte
  split_ifs with h1 h2 h3
  · have e1 : v.toNat / 16777216 % 256 = 0 := by omega
    have e2 : v.toNat / 65536 % 256 = 0 := by omega
    have e3 : v.toNat / 256 % 256 = 0 := by omega
    simp [e1,e2,e3,Bytes.ofNatBE]
  · have e1 : v.toNat / 16777216 % 256 = 0 := by omega
    have e2 : v.toNat / 65536 % 256 = 0 := by omega
    have e3 : (v.toNat / 256 % 256).toUInt8 ≠ 0 := by
      rw [Ne,Bytes.toUInt8_eq_zero_iff (by omega)]
      omega
    simp [e1,e2,e3,Bytes.ofNatBE,List.range_succ]
  · have e1 : v.toNat / 16777216 % 256 = 0 := by omega
    have e2 : (v.toNat / 65536 % 256).toUInt8 ≠ 0 := by
      rw [Ne,Bytes.toUInt8_eq_zero_iff (by omega)]
      omega
    simp [e1,e2,Bytes.ofNatBE,List.range_succ]
  · have e1 : (v.toNat / 16777216 % 256).toUInt8 ≠ 0 := by
      rw [Ne,Bytes.toUInt8_eq_zero_iff (by omega)]
      omega
    simp [e1,Bytes.ofNatBE,List.range_succ]

theorem toNatBE_valueOfNat32 (v : UInt32) : Bytes.toNatBE (valueOfNat32 v) = v.toNat := by
  have hv := v.toNat_lt
  rw [valueOfNat32_eq]
  apply Bytes.toNatBE_ofNatBE_of_lt
  split_ifs <;> omega

theorem length_valueOfNat32_le (v : UInt32) : (valueOfNat32 v).length ≤ 4 := by
  rw [valueOfNat32_eq,Bytes.length_ofNatBE]
  split_ifs <;> omega

theorem valueOfNat32_ne_nil (v : UInt32) : valueOfNat32 v ≠ [] := by
  rw [valueOfNat32_eq,← List.length_pos_iff,Bytes.length_ofNatBE]
  split_ifs <;> omega

theorem valueOfNat32_shortest (v : UInt32) {bs : Bytes} (hne : bs ≠ []) (h : Bytes.toNatBE bs = v.toNat) :
    (valueOfNat32 v).length ≤ bs.length := by
  have hlt := Bytes.toNatBE_lt bs
  rw [h] at hlt
  -- a number of at least `256 ^ k` needs more than `k` bytes
  have needs : ∀ k, 256 ^ k ≤ v.toNat → k < bs.length := fun k hk =>
    (Nat.pow_lt_pow_iff_right (by norm_num)).mp (lt_of_le_of_lt hk hlt)
  rw [valueOfNat32_eq,Bytes.length_ofNatBE]
  split_ifs with h1 h2 h3
  · exact List.length_pos_iff.mpr hne
  · exact needs 1 (by omega)
  · exact needs 2 (by norm_num; omega)
  · exact needs 3 (by norm_num; omega)

theorem AtRequest.setU32_eq_ok_iff {c : AtCommand} {v : UInt32} {r : AtRequest} :
    AtRequest.setU32 c v = .ok r ↔
      (c ≠ .ni ∨ ∀ b ∈ valueOfNat32 v, 32 ≤ b ∧ b ≤ 126) ∧ r = { command := c, value := valueOfNat32 v } := by
  have hl := length_valueOfNat32_le v
  rw [AtRequest.setU32,AtRequest.set_eq_ok_iff,AtCommand.checkValue_eq_ok_iff]
  by_cases hc : c = .ni <;> simp [hc] <;> omega

theorem RemoteAtRequest.setU32_eq_ok_iff {a : Address64} {c : AtCommand} {v : UInt32} {r : RemoteAtRequest} :
    RemoteAtRequest.setU32 a c v = .ok r ↔
      (c ≠ .ni ∨ ∀ b ∈ valueOfNat32 v, 32 ≤ b ∧ b ≤ 126) ∧
        r = { destination64 := a, command := c, value := valueOfNat32 v } := by
  have hl := length_valueOfNat32_le v
  rw [RemoteAtRequest.setU32,RemoteAtRequest.set_eq_ok_iff,AtCommand.checkValue_eq_ok_iff]
  by_cases hc : c = .ni <;> simp [hc] <;> omega

/-! ### Frames -/

theorem Request.len_withFrameId (i : FrameId) (req : Request) :
    (req.withFrameId i).toFrame.len = req.toFrame.len := by
  cases req <;> simp [Request.withFrameId,Request.toFrame,Frame.RawFrame.len,AtRequest.body,
    RemoteAtRequest.body,TransmitRequest.body]

theorem Request.head_toFrame_data (req : Request) : req.toFrame.data.head? = some req.frameId.value := by
  cases req <;> rfl

/-- The wire form of a request reads back as `f` under every limit it fits, whatever follows. -/
def Request.ReadsBackAs (req : Request) (f : Frame.RawFrame) : Prop :=
  ∃ w, Frame.encode req.toFrame.kind req.toFrame.data = .ok w ∧
    ∀ m, req.toFrame.len ≤ m → ∀ rest, Frame.decode m (w ++ rest) = ⟨.frame f,rest⟩

theorem Request.readsBackAs_toFrame {req : Request} (h : req.toFrame.len ≤ Frame.maxLength) :
    req.ReadsBackAs req.toFrame :=
  ⟨_,Frame.encode_eq_ok h,fun _ hm rest => Frame.decode_wire_append h hm rest⟩

/-- Requests are the frames they are documented to be, and read back from their wire forms. -/
theorem request_encoding :
    (∀ r : AtRequest, (Request.at r).toFrame.len ≤ Frame.maxLength →
      (Request.at r).ReadsBackAs
        ⟨(Request.at r).kind.code,r.frameId.value :: r.command.code ++ r.value⟩ ∧
      (Request.at r).kind.code = if r.queued then 0x09 else 0x08) ∧
    (∀ r : RemoteAtRequest, (Request.remoteAt r).toFrame.len ≤ Frame.maxLength →
      (Request.remoteAt r).ReadsBackAs
        ⟨(Request.remoteAt r).kind.code,r.frameId.value :: Bytes.ofNatBE 8 r.destination64.value.toNat ++
          Bytes.ofNatBE 2 r.destination16.value.toNat ++ [if r.applyChanges then 0x02 else 0x00] ++
          r.command.code ++ r.value⟩ ∧
      (Request.remoteAt r).kind.code = 0x17) ∧
    (∀ r : TransmitRequest, (Request.transmit r).toFrame.len ≤ Frame.maxLength →
      (Request.transmit r).ReadsBackAs
        ⟨(Request.transmit r).kind.code,r.frameId.value :: Bytes.ofNatBE 8 r.destination64.value.toNat ++
          Bytes.ofNatBE 2 r.destination16.value.toNat ++ [r.broadcastRadius,r.options] ++ r.data⟩ ∧
      (Request.transmit r).kind.code = 0x10) ∧
    (∀ (req : Request) (i : FrameId),
      (req.withFrameId i).frameId = i ∧ (req.withFrameId i).toFrame.data.head? = some i.value) ∧
    (∀ c v r, AtRequest.set c v = .ok r ↔
      (if c = .ni then v.length ≤ 20 ∧ ∀ b ∈ v, 32 ≤ b ∧ b ≤ 126 else v.length ≤ 4) ∧
        r = { command := c, value := v }) ∧
    (∀ a c v r, RemoteAtRequest.set a c v = .ok r ↔
      (if c = .ni then v.length ≤ 20 ∧ ∀ b ∈ v, 32 ≤ b ∧ b ≤ 126 else v.length ≤ 4) ∧
        r = { destination64 := a, command := c, value := v }) ∧
    (∀ c v r, AtRequest.setU32 c v = .ok r ↔
      (c ≠ .ni ∨ ∀ b ∈ valueOfNat32 v, 32 ≤ b ∧ b ≤ 126) ∧ r = { command := c, value := valueOfNat32 v }) ∧
    (∀ a c v r, RemoteAtRequest.setU32 a c v = .ok r ↔
      (c ≠ .ni ∨ ∀ b ∈ valueOfNat32 v, 32 ≤ b ∧ b ≤ 126) ∧
        r = { destination64 := a, command := c, value := valueOfNat32 v }) ∧
    (∀ v : UInt32, Bytes.toNatBE (valueOfNat32 v) = v.toNat ∧ valueOfNat32 v ≠ [] ∧
      ∀ bs : Bytes, bs ≠ [] → Bytes.toNatBE bs = v.toNat → (valueOfNat32 v).length ≤ bs.length) ∧
    valueOfNat32 0 = [0x00] := by
  refine ⟨fun r h => ⟨Request.readsBackAs_toFrame h,?_⟩,fun r h => ⟨Request.readsBackAs_toFrame h,rfl⟩,
    fun r h => ⟨Request.readsBackAs_toFrame h,rfl⟩,
    fun req i => ⟨Request.frameId_withFrameId i req,by rw [Request.head_toFrame_data,Request.frameId_withFrameId]⟩,
    fun c v r => by rw [AtRequest.set_eq_ok_iff,AtCommand.checkValue_eq_ok_iff],
    fun a c v r => by rw [RemoteAtRequest.set_eq_ok_iff,AtCommand.checkValue_eq_ok_iff],
    fun c v r => AtRequest.setU32_eq_ok_iff,fun a c v r => RemoteAtRequest.setU32_eq_ok_iff,
    fun v => ⟨toNatBE_valueOfNat32 v,valueOfNat32_ne_nil v,fun bs hne h => valueOfNat32_shortest v hne h⟩,
    by decide⟩
  show (if r.queued then Frame.Kind.atCommandQueue else .atCommand).code = _
  split <;> rfl

end RadioLink
