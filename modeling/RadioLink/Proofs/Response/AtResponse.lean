import RadioLink.Proofs.Response.Layout
/-! Command responses: frame id, command, status and payload, with the source addresses after the
frame id in a remote one (`reads_localRead`, `reads_remoteRead`). The decoder table answers by
key with its newest entry, or raw bytes. Main statement: `at_response_layout`. -/
namespace RadioLink
namespace FieldReader

def Field.command : Field :=
  ⟨"command",2,fun v => match v with
    | [a,b] => if (AtCommand.ofCode? a b).isSome then none else some (.unknownCommand a b)
    | _ => none⟩

@[simp] theorem Field.width_command : Field.command.width = 2 := rfl

def commandAt (b : Bytes) (i : Nat) : AtCommand :=
  (AtCommand.ofCode? (b.getD i 0) (b.getD (i + 1) 0)).getD default

def Field.status (kind : Frame.Kind) (interpret : UInt8 → Option CommandStatus) : Field :=
  Field.code "status" interpret (.unknownStatus kind)

@[simp] theorem Field.width_status (kind : Frame.Kind) (interpret : UInt8 → Option CommandStatus) :
    (Field.status kind interpret).width = 1 := rfl

def Field.payload (reg : Registry) (kind : Frame.Kind) (c : AtCommand) (p : Bytes) : Field :=
  ⟨"value",p.length,fun v => match reg.decodeCommand kind c v with
    | .ok _ => none
    | .error e => some e⟩

@[simp] theorem Field.width_payload (reg : Registry) (kind : Frame.Kind) (c : AtCommand) (p : Bytes) :
    (Field.payload reg kind c p).width = p.length := rfl

def payloadValue (reg : Registry) (kind : Frame.Kind) (c : AtCommand) (p : Bytes) :
    Option CommandResponse :=
  match reg.decodeCommand kind c p with
  | .ok v => v
  | .error _ => none

theorem Reads.command : Reads command (fun _ => [Field.command]) (commandAt · 0) := by
  intro bs
  match bs with
  | [] => rfl
  | [_] => rfl
  | a :: b :: rest =>
    rw [FieldReader.command,FieldReader.run_bind]
    cases h : AtCommand.ofCode? a b <;>
      simp [FieldReader.take,run,StateT.run,Except.bind,firstFault,Field.command,commandAt,h] <;> rfl

theorem Reads.status (kind : Frame.Kind) (interpret : UInt8 → Option CommandStatus) :
    Reads (status kind interpret) (fun _ => [Field.status kind interpret])
      (fun bs => (interpret (bs.headD 0)).getD default) := by
  unfold FieldReader.status
  exact Reads.code "status" interpret (.unknownStatus kind) fun c => by cases interpret c <;> rfl

theorem Reads.commandValue (reg : Registry) (kind : Frame.Kind) (c : AtCommand) :
    Reads (commandValue reg kind c) (fun bs => [Field.payload reg kind c bs])
      (payloadValue reg kind c) := by
  intro bs
  rw [FieldReader.commandValue,FieldReader.run_bind]
  cases h : reg.decodeCommand kind c bs <;>
    simp [FieldReader.rest,run,StateT.run,Except.bind,firstFault,Field.payload,payloadValue,h] <;> rfl

/-! ### The two layouts -/

/-- The fields both command responses end with: command, status and payload. -/
def commandFields (reg : Registry) (kind : Frame.Kind) (interpret : UInt8 → Option CommandStatus)
    (c : AtCommand) (p : Bytes) : List Field :=
  [Field.command,Field.status kind interpret,Field.payload reg kind c p]

def localLayout (reg : Registry) (b : Bytes) : List Field :=
  .plain "frame id" 1 ::
    commandFields reg .atCommandResponse CommandStatus.local? (commandAt b 1) (b.drop 4)

def localOf (reg : Registry) (b : Bytes) : LocalAtResponse where
  frameId := ⟨b.getD 0 0⟩
  command := commandAt b 1
  status := (CommandStatus.local? (b.getD 3 0)).getD default
  response := payloadValue reg .atCommandResponse (commandAt b 1) (b.drop 4)

def remoteLayout (reg : Registry) (b : Bytes) : List Field :=
  [.plain "frame id" 1,.plain "source address" 8,.plain "source network address" 2] ++
    commandFields reg .remoteAtCommandResponse CommandStatus.remote? (commandAt b 11) (b.drop 14)

def remoteOf (reg : Registry) (b : Bytes) : RemoteAtResponse where
  frameId := ⟨b.getD 0 0⟩
  source64 := Address64.ofBytes ((b.drop 1).take 8)
  source16 := Address16.ofBytes ((b.drop 9).take 2)
  command := commandAt b 11
  status := (CommandStatus.remote? (b.getD 13 0)).getD default
  response := payloadValue reg .remoteAtCommandResponse (commandAt b 11) (b.drop 14)

@[simp] theorem commandAt_drop (b : Bytes) (i j : Nat) : commandAt (b.drop i) j = commandAt b (i + j) := by
  simp [commandAt,List.getD_eq_getElem?_getD,Nat.add_assoc]

@[simp] theorem commandAt_tail (b : Bytes) (j : Nat) : commandAt b.tail j = commandAt b (j + 1) := by
  simp [commandAt,List.getD_eq_getElem?_getD,Nat.add_comm,Nat.add_left_comm]

theorem reads_localRead (reg : Registry) : Reads (LocalAtResponse.read reg) (localLayout reg) (localOf reg) := by
  unfold LocalAtResponse.read
  apply Reads.congr
  · apply Reads.bind (Reads.byte _); intro frameId
    apply Reads.bind Reads.command; intro command
    apply Reads.bind (Reads.status _ _); intro status
    apply Reads.bind (Reads.commandValue _ _ _); intro response
    exact Reads.pure _
  · intro bs
    simp [localLayout,commandFields]
  · intro bs _
    simp [localOf,List.getD_eq_getElem?_getD,List.head?_eq_getElem?]

theorem reads_remoteRead (reg : Registry) :
    Reads (RemoteAtResponse.read reg) (remoteLayout reg) (remoteOf reg) := by
  unfold RemoteAtResponse.read
  apply Reads.congr
  · apply Reads.bind (Reads.byte _); intro frameId
    apply Reads.bind (Reads.address64 _); intro source64
    apply Reads.bind (Reads.address16 _); intro source16
    apply Reads.bind Reads.command; intro command
    apply Reads.bind (Reads.status _ _); intro status
    apply Reads.bind (Reads.commandValue _ _ _); intro response
    exact Reads.pure _
  · intro bs
    simp [remoteLayout,commandFields]
  · intro bs _
    simp [remoteOf,List.getD_eq_getElem?_getD,List.head?_eq_getElem?]

def transmitStatusLayout : List Field :=
  [.plain "frame id" 1,.plain "destination network address" 2,.plain "retry count" 1,
    .plain "delivery status" 1,.plain "discovery status" 1]

def transmitStatusOf (b : Bytes) : TransmitStatus where
  frameId := ⟨b.getD 0 0⟩
  destination16 := Address16.ofBytes ((b.drop 1).take 2)
  retryCount := b.getD 3 0
  deliveryStatus := b.getD 4 0
  discoveryStatus := b.getD 5 0

def receiveLayout (b : Bytes) : List Field :=
  [.plain "source address" 8,.plain "source network address" 2,.plain "receive options" 1,
    .plain "rest" (b.length - 11)]

def receiveOf (b : Bytes) : ReceivePacket where
  source64 := Address64.ofBytes (b.take 8)
  source16 := Address16.ofBytes ((b.drop 8).take 2)
  options := b.getD 10 0
  data := b.drop 11

theorem reads_transmitStatusRead :
    Reads TransmitStatus.read (fun _ => transmitStatusLayout) transmitStatusOf := by
  unfold TransmitStatus.read
  apply Reads.congr
  · apply Reads.bind (Reads.byte _); intro frameId
    apply Reads.bind (Reads.address16 _); intro destination16
    apply Reads.bind (Reads.byte _); intro retryCount
    apply Reads.bind (Reads.byte _); intro deliveryStatus
    apply Reads.bind (Reads.byte _); intro discoveryStatus
    exact Reads.pure _
  · intro bs
    rfl
  · intro bs _
    simp [transmitStatusOf,List.getD_eq_getElem?_getD,List.head?_eq_getElem?]

theorem reads_receiveRead : Reads ReceivePacket.read receiveLayout receiveOf := by
  unfold ReceivePacket.read
  apply Reads.congr
  · apply Reads.bind (Reads.address64 _); intro source64
    apply Reads.bind (Reads.address16 _); intro source16
    apply Reads.bind (Reads.byte _); intro options
    apply Reads.bind Reads.rest; intro data
    exact Reads.pure _
  · intro bs
    simp [receiveLayout]
  · intro bs _
    simp [receiveOf,List.getD_eq_getElem?_getD,List.head?_eq_getElem?]

/-! ### Which bodies pass -/

@[simp] theorem Field.refuse_plain (what : String) (w : Nat) (v : Bytes) :
    (Field.plain what w).refuse v = none := rfl

@[simp] theorem Field.refuse_command (a b : UInt8) :
    Field.command.refuse [a,b] = none ↔ (AtCommand.ofCode? a b).isSome := by
  by_cases h : (AtCommand.ofCode? a b).isSome <;> simp [Field.command,h]

@[simp] theorem Field.refuse_payload (reg : Registry) (kind : Frame.Kind) (c : AtCommand) (p v : Bytes) :
    (Field.payload reg kind c p).refuse v = none ↔ ∃ r, reg.decodeCommand kind c v = .ok r := by
  cases h : reg.decodeCommand kind c v <;> simp [Field.payload,h]

theorem firstFault_commandFields_eq_none_iff (reg : Registry) (kind : Frame.Kind)
    (interpret : UInt8 → Option CommandStatus) (c : AtCommand) (bs : Bytes) :
    firstFault (commandFields reg kind interpret c (bs.drop 3)) bs = none ↔
      3 ≤ bs.length ∧ (AtCommand.ofCode? (bs.getD 0 0) (bs.getD 1 0)).isSome ∧
        (interpret (bs.getD 2 0)).isSome ∧ ∃ r, reg.decodeCommand kind c (bs.drop 3) = .ok r := by
  match bs with
  | a :: b :: st :: p =>
    simp [commandFields,Field.status,firstFault_cons_eq_none_iff]
  | [] | [_] | [_,_] =>
    simp [commandFields,Field.status,firstFault]

theorem firstFault_localLayout_eq_none_iff (reg : Registry) (b : Bytes) :
    firstFault (localLayout reg b) b = none ↔
      4 ≤ b.length ∧ (AtCommand.ofCode? (b.getD 1 0) (b.getD 2 0)).isSome ∧
        (CommandStatus.local? (b.getD 3 0)).isSome ∧
        ∃ r, reg.decodeCommand .atCommandResponse (commandAt b 1) (b.drop 4) = .ok r := by
  rw [localLayout,firstFault_cons_eq_none_iff,Field.width_plain,show b.drop 4 = (b.drop 1).drop 3 by simp,
    firstFault_commandFields_eq_none_iff]
  simp only [Field.refuse_plain,List.length_drop,List.drop_drop]
  simp [List.getD_eq_getElem?_getD]
  exact ⟨fun ⟨_,h,hr⟩ => ⟨by omega,hr⟩,fun ⟨h,hr⟩ => ⟨by omega,by omega,hr⟩⟩

theorem firstFault_remoteLayout_eq_none_iff (reg : Registry) (b : Bytes) :
    firstFault (remoteLayout reg b) b = none ↔
      14 ≤ b.length ∧ (AtCommand.ofCode? (b.getD 11 0) (b.getD 12 0)).isSome ∧
        (CommandStatus.remote? (b.getD 13 0)).isSome ∧
        ∃ r, reg.decodeCommand .remoteAtCommandResponse (commandAt b 11) (b.drop 14) = .ok r := by
  have hplain : firstFault [.plain "frame id" 1,.plain "source address" 8,
      .plain "source network address" 2] b = none ↔ 11 ≤ b.length := by
    rw [firstFault_of_plain (by simp),firstMissing_eq_none_iff]
    simp
  have hspan : span [.plain "frame id" 1,.plain "source address" 8,
      .plain "source network address" 2] = 11 := rfl
  rw [remoteLayout,firstFault_append,Option.or_eq_none_iff,hplain,hspan,
    show b.drop 14 = (b.drop 11).drop 3 by simp,firstFault_commandFields_eq_none_iff]
  simp [List.getD_eq_getElem?_getD]
  exact ⟨fun ⟨_,h,hr⟩ => ⟨by omega,hr⟩,fun ⟨h,hr⟩ => ⟨by omega,by omega,hr⟩⟩

theorem commandFields_pass_iff (reg : Registry) (kind : Frame.Kind)
    (interpret : UInt8 → Option CommandStatus) (a₁ a₂ st : UInt8) (p : Bytes)
    (P : AtCommand → CommandStatus → Option CommandResponse → Prop) :
    ((AtCommand.ofCode? a₁ a₂).isSome ∧ (interpret st).isSome ∧
        (∃ v, reg.decodeCommand kind ((AtCommand.ofCode? a₁ a₂).getD default) p = .ok v)) ∧
      P ((AtCommand.ofCode? a₁ a₂).getD default) ((interpret st).getD default)
        (payloadValue reg kind ((AtCommand.ofCode? a₁ a₂).getD default) p) ↔
    ∃ c s v, AtCommand.ofCode? a₁ a₂ = some c ∧ interpret st = some s ∧
      reg.decodeCommand kind c p = .ok v ∧ P c s v := by
  constructor
  · rintro ⟨⟨hc,hs,v,hv⟩,hP⟩
    obtain ⟨c,hc⟩ := Option.isSome_iff_exists.mp hc
    obtain ⟨s,hs⟩ := Option.isSome_iff_exists.mp hs
    rw [hc,Option.getD_some] at hv hP
    rw [hs,Option.getD_some,payloadValue,hv] at hP
    exact ⟨c,s,v,hc,hs,hv,hP⟩
  · rintro ⟨c,s,v,hc,hs,hv,hP⟩
    rw [hc,hs]
    simpa [payloadValue,hv] using hP

theorem map_fst_run_of_reads_plain {x : FieldReader α} {what : String} {n : Nat} {v : Bytes → α}
    (h : Reads x (fun _ => [.plain what n]) v) (bs : Bytes) :
    (x.run bs).map Prod.fst =
      if bs.length < n then .error (.truncated what n bs.length) else .ok (v bs) := by
  rw [h bs]
  by_cases hn : bs.length < n <;> simp [firstFault,Field.plain,hn] <;> rfl

end FieldReader

/-! ### The decoder table -/

namespace Decoder

open FieldReader

theorem decode_byte (wrap : UInt8 → CommandResponse) (p : Bytes) :
    (Decoder.byte wrap).decode p =
      if p.length < 1 then .error (.truncated "value" 1 p.length) else .ok (wrap (p.headD 0)) := by
  simp only [decode]
  rw [map_fst_run_of_reads_plain (Reads.byte _)]
  split <;> rfl

theorem decode_word (wrap : UInt16 → CommandResponse) (p : Bytes) :
    (Decoder.word wrap).decode p =
      if p.length < 2 then .error (.truncated "value" 2 p.length)
      else .ok (wrap (Bytes.toNatBE (p.take 2)).toUInt16) := by
  simp only [decode]
  rw [map_fst_run_of_reads_plain (Reads.word _)]
  split <;> rfl

theorem decode_quad (wrap : UInt32 → CommandResponse) (p : Bytes) :
    (Decoder.quad wrap).decode p =
      if p.length < 4 then .error (.truncated "value" 4 p.length)
      else .ok (wrap (Bytes.toNatBE (p.take 4)).toUInt32) := by
  simp only [decode]
  rw [map_fst_run_of_reads_plain (Reads.quad _)]
  split <;> rfl

theorem decode_long (wrap : UInt64 → CommandResponse) (p : Bytes) :
    (Decoder.long wrap).decode p =
      if p.length < 8 then .error (.truncated "value" 8 p.length)
      else .ok (wrap (Bytes.toNatBE (p.take 8)).toUInt64) := by
  simp only [decode]
  rw [map_fst_run_of_reads_plain (Reads.long _)]
  split <;> rfl

end Decoder

namespace Registry

theorem decoder_registerFor (r : Registry) (k : Frame.Kind) (c : AtCommand) (d : Decoder)
    (k' : Frame.Kind) (c' : AtCommand) :
    (r.registerFor k c d).decoder k' c' = if k' = k ∧ c' = c then d else r.decoder k' c' := by
  by_cases h : k' = k ∧ c' = c
  · obtain ⟨rfl,rfl⟩ := h
    simp [decoder,registerFor]
  · rw [if_neg h]
    -- the new entry does not match, so the search goes on into the old table
    have hfalse : (k == k' && c == c') = false := by
      rw [Bool.eq_false_iff]
      intro h'
      simp only [Bool.and_eq_true,beq_iff_eq] at h'
      exact h ⟨h'.1.symm,h'.2.symm⟩
    simp only [decoder,registerFor,List.find?_cons,hfalse]

theorem decoder_register (r : Registry) (c : AtCommand) (d : Decoder) (k' : Frame.Kind)
    (c' : AtCommand) :
    (r.register c d).decoder k' c' =
      if (k' = .atCommandResponse ∨ k' = .remoteAtCommandResponse) ∧ c' = c then d
      else r.decoder k' c' := by
  rw [register,decoder_registerFor,decoder_registerFor]
  by_cases hc : c' = c <;> by_cases hr : k' = .remoteAtCommandResponse <;>
    by_cases hl : k' = .atCommandResponse <;> simp_all

theorem decoder_of_unregistered {r : Registry} {k : Frame.Kind} {c : AtCommand}
    (h : ∀ e ∈ r.entries, ¬ (e.kind = k ∧ e.command = c)) : r.decoder k c = .raw := by
  have hnone : r.entries.find? (fun e => e.kind == k && e.command == c) = none := by
    rw [List.find?_eq_none]
    intro e he
    simpa using h e he
  simp [decoder,hnone]

theorem decodeCommand_eq_ok_none_iff (r : Registry) (k : Frame.Kind) (c : AtCommand) (p : Bytes) :
    r.decodeCommand k c p = .ok none ↔ p = [] := by
  cases p with
  | nil => simp [decodeCommand]
  | cons b p =>
    simp only [decodeCommand,List.isEmpty_cons,Bool.false_eq_true,if_false,reduceCtorEq,iff_false]
    cases (r.decoder k c).decode (b :: p) <;> simp [Except.map]

theorem decodeCommand_of_ne_nil (r : Registry) (k : Frame.Kind) (c : AtCommand) {p : Bytes}
    (hp : p ≠ []) : r.decodeCommand k c p = ((r.decoder k c).decode p).map some := by
  simp [decodeCommand,List.isEmpty_iff,hp]

theorem decodeCommand_of_unregistered {r : Registry} {k : Frame.Kind} {c : AtCommand} {p : Bytes}
    (h : ∀ e ∈ r.entries, ¬ (e.kind = k ∧ e.command = c)) (hp : p ≠ []) :
    r.decodeCommand k c p = .ok (some (.raw p)) := by
  rw [decodeCommand_of_ne_nil r k c hp,decoder_of_unregistered h]
  rfl

end Registry

namespace CommandStatus

theorem isSome_local?_iff (st : UInt8) : (local? st).isSome ↔ st ≤ 3 := by
  unfold local?
  split <;> simp_all [UInt8.lt_iff_toNat_lt,← UInt8.toNat_inj]
  omega

theorem isSome_remote?_iff (st : UInt8) : (remote? st).isSome ↔ st ≤ 4 ∨ 11 ≤ st ∧ st ≤ 13 := by
  unfold remote? local?
  split <;> (try split) <;> simp_all [UInt8.le_iff_toNat_le,← UInt8.toNat_inj]
  omega

end CommandStatus

namespace Response

open FieldReader

theorem map_run_of_reads {x : FieldReader α} {fs : Bytes → List Field} {v : Bytes → α}
    (h : Reads x fs v) (g : α → Response) (bs : Bytes) :
    ((x.run bs).map Prod.fst).map g = (firstFault (fs bs) bs).elim (.ok (g (v bs))) .error := by
  rw [h bs]
  cases firstFault (fs bs) bs <;> rfl

theorem elim_eq_ok_iff {o : Option DecodeError} {a r : Response} :
    o.elim (Except.ok a) Except.error = (Except.ok r : Except DecodeError Response) ↔
      o = none ∧ r = a := by
  cases o <;> simp [eq_comm]

theorem decode_local (reg : Registry) (b : Bytes) :
    decode reg ⟨0x88,b⟩ =
      (firstFault (localLayout reg b) b).elim (.ok (.localAt (localOf reg b))) .error := by
  have hk : Frame.Kind.ofCode? 0x88 = some .atCommandResponse := rfl
  simp only [decode,hk]
  exact map_run_of_reads (reads_localRead reg) _ b

theorem decode_remote (reg : Registry) (b : Bytes) :
    decode reg ⟨0x97,b⟩ =
      (firstFault (remoteLayout reg b) b).elim (.ok (.remoteAt (remoteOf reg b))) .error := by
  have hk : Frame.Kind.ofCode? 0x97 = some .remoteAtCommandResponse := rfl
  simp only [decode,hk]
  exact map_run_of_reads (reads_remoteRead reg) _ b

theorem decode_local_eq_ok_iff (reg : Registry) (b : Bytes) (r : Response) :
    decode reg ⟨0x88,b⟩ = .ok r ↔
      4 ≤ b.length ∧ ∃ c s v, AtCommand.ofCode? (b.getD 1 0) (b.getD 2 0) = some c ∧
        CommandStatus.local? (b.getD 3 0) = some s ∧
        reg.decodeCommand .atCommandResponse c (b.drop 4) = .ok v ∧
        r = .localAt ⟨⟨b.getD 0 0⟩,c,s,v⟩ := by
  rw [decode_local,elim_eq_ok_iff,firstFault_localLayout_eq_none_iff,and_assoc]
  exact and_congr_right fun _ => commandFields_pass_iff reg .atCommandResponse CommandStatus.local?
    _ _ _ _ fun c s v => r = .localAt ⟨⟨b.getD 0 0⟩,c,s,v⟩

theorem decode_remote_eq_ok_iff (reg : Registry) (b : Bytes) (r : Response) :
    decode reg ⟨0x97,b⟩ = .ok r ↔
      14 ≤ b.length ∧ ∃ c s v, AtCommand.ofCode? (b.getD 11 0) (b.getD 12 0) = some c ∧
        CommandStatus.remote? (b.getD 13 0) = some s ∧
        reg.decodeCommand .remoteAtCommandResponse c (b.drop 14) = .ok v ∧
        r = .remoteAt ⟨⟨b.getD 0 0⟩,Address64.ofBytes ((b.drop 1).take 8),
          Address16.ofBytes ((b.drop 9).take 2),c,s,v⟩ := by
  rw [decode_remote,elim_eq_ok_iff,firstFault_remoteLayout_eq_none_iff,and_assoc]
  exact and_congr_right fun _ => commandFields_pass_iff reg .remoteAtCommandResponse
    CommandStatus.remote? _ _ _ _ fun c s v => r = .remoteAt ⟨⟨b.getD 0 0⟩,
      Address64.ofBytes ((b.drop 1).take 8),Address16.ofBytes ((b.drop 9).take 2),c,s,v⟩

theorem decode_transmitStatus (reg : Registry) (b : Bytes) :
    decode reg ⟨0x8B,b⟩ =
      (firstMissing transmitStatusLayout b.length).elim (.ok (.transmitStatus (transmitStatusOf b)))
        .error := by
  have hk : Frame.Kind.ofCode? 0x8B = some .transmitStatus := rfl
  simp only [decode,hk]
  rw [map_run_of_reads reads_transmitStatusRead,firstFault_of_plain (by simp [transmitStatusLayout])]

theorem decode_receive (reg : Registry) (b : Bytes) :
    decode reg ⟨0x90,b⟩ =
      (firstMissing (receiveLayout b) b.length).elim (.ok (.receive (receiveOf b))) .error := by
  have hk : Frame.Kind.ofCode? 0x90 = some .receivePacket := rfl
  simp only [decode,hk]
  rw [map_run_of_reads reads_receiveRead,firstFault_of_plain (by simp [receiveLayout])]

/-- Command responses decode exactly when their fields read at their offsets, else the first fault. -/
theorem at_response_layout (reg : Registry) (b : Bytes) (r : Response) :
    (decode reg ⟨0x88,b⟩ = .ok r ↔
      4 ≤ b.length ∧ ∃ c s v, AtCommand.ofCode? (b.getD 1 0) (b.getD 2 0) = some c ∧
        CommandStatus.local? (b.getD 3 0) = some s ∧
        reg.decodeCommand .atCommandResponse c (b.drop 4) = .ok v ∧
        r = .localAt ⟨⟨b.getD 0 0⟩,c,s,v⟩) ∧
    (decode reg ⟨0x97,b⟩ = .ok r ↔
      14 ≤ b.length ∧ ∃ c s v, AtCommand.ofCode? (b.getD 11 0) (b.getD 12 0) = some c ∧
        CommandStatus.remote? (b.getD 13 0) = some s ∧
        reg.decodeCommand .remoteAtCommandResponse c (b.drop 14) = .ok v ∧
        r = .remoteAt ⟨⟨b.getD 0 0⟩,Address64.ofBytes ((b.drop 1).take 8),
          Address16.ofBytes ((b.drop 9).take 2),c,s,v⟩) ∧
    decode reg ⟨0x88,b⟩ =
      (firstFault (localLayout reg b) b).elim (.ok (.localAt (localOf reg b))) .error ∧
    decode reg ⟨0x97,b⟩ =
      (firstFault (remoteLayout reg b) b).elim (.ok (.remoteAt (remoteOf reg b))) .error ∧
    (∀ st, (CommandStatus.local? st).isSome ↔ st ≤ 3) ∧
    (∀ st, (CommandStatus.remote? st).isSome ↔ st ≤ 4 ∨ 11 ≤ st ∧ st ≤ 13) ∧
    (∀ k c p, reg.decodeCommand k c p = .ok none ↔ p = []) ∧
    (∀ k c p, p ≠ [] → reg.decodeCommand k c p = ((reg.decoder k c).decode p).map some) ∧
    (∀ k c p, (∀ e ∈ reg.entries, ¬ (e.kind = k ∧ e.command = c)) → p ≠ [] →
      reg.decodeCommand k c p = .ok (some (.raw p))) ∧
    (∀ wrap p, (Decoder.byte wrap).decode p =
      if p.length < 1 then .error (.truncated "value" 1 p.length) else .ok (wrap (p.headD 0))) ∧
    (∀ wrap p, (Decoder.word wrap).decode p =
      if p.length < 2 then .error (.truncated "value" 2 p.length)
      else .ok (wrap (Bytes.toNatBE (p.take 2)).toUInt16)) ∧
    (∀ wrap p, (Decoder.quad wrap).decode p =
      if p.length < 4 then .error (.truncated "value" 4 p.length)
      else .ok (wrap (Bytes.toNatBE (p.take 4)).toUInt32)) ∧
    (∀ wrap p, (Decoder.long wrap).decode p =
      if p.length < 8 then .error (.truncated "value" 8 p.length)
      else .ok (wrap (Bytes.toNatBE (p.take 8)).toUInt64)) ∧
    (∀ c d k' c', (reg.register c d).decoder k' c' =
      if (k' = .atCommandResponse ∨ k' = .remoteAtCommandResponse) ∧ c' = c then d
      else reg.decoder k' c') ∧
    (∀ k c d k' c', (reg.registerFor k c d).decoder k' c' =
      if k' = k ∧ c' = c then d else reg.decoder k' c') ∧
    decode reg ⟨0x8B,b⟩ =
      (firstMissing transmitStatusLayout b.length).elim (.ok (.transmitStatus (transmitStatusOf b)))
        .error ∧
    decode reg ⟨0x90,b⟩ =
      (firstMissing (receiveLayout b) b.length).elim (.ok (.receive (receiveOf b))) .error :=
  ⟨decode_local_eq_ok_iff reg b r,decode_remote_eq_ok_iff reg b r,decode_local reg b,
    decode_remote reg b,CommandStatus.isSome_local?_iff,CommandStatus.isSome_remote?_iff,
    reg.decodeCommand_eq_ok_none_iff,fun k c _ hp => reg.decodeCommand_of_ne_nil k c hp,
    fun _ _ _ h hp => Registry.decodeCommand_of_unregistered h hp,Decoder.decode_byte,
    Decoder.decode_word,Decoder.decode_quad,Decoder.decode_long,reg.decoder_register,
    reg.decoder_registerFor,decode_transmitStatus reg b,decode_receive reg b⟩

end Response

end RadioLink
