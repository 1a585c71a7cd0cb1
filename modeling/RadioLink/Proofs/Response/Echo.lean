import RadioLink.Response.Frame
/-! The frame identifier a response echoes. Frames of some types start their body with the
identifier of the request they answer; the responses read from such frames keep it, and a frame
that cannot be read keeps it too, taken from its first body byte by the type table. So the two
ways of finding the identifier agree on every frame, whatever decoder table reads it
(`ofFrame_echoes`): a wait on an identifier is ended by its answer even when the answer's
payload is unreadable. -/
namespace RadioLink

/-! ### What a field reader yields -/

namespace FieldReader

variable {α β : Type}

def Yields (x : FieldReader α) (P : α → Prop) : Prop :=
  ∀ bs a rest, x.run bs = .ok (a,rest) → P a

theorem run_bind_eq_ok {x : FieldReader α} {k : α → FieldReader β} {bs rest : Bytes} {b : β}
    (h : (x >>= k).run bs = .ok (b,rest)) :
    ∃ a mid, x.run bs = .ok (a,mid) ∧ (k a).run mid = .ok (b,rest) := by
  simp only [run,StateT.run,bind,StateT.bind] at h ⊢
  cases hx : x bs with
  | error e => simp [hx,Except.bind] at h
  | ok p => exact ⟨p.1,p.2,rfl,by simpa [hx,Except.bind] using h⟩

theorem Yields.bind {x : FieldReader α} {k : α → FieldReader β} {P : β → Prop}
    (h : ∀ a, Yields (k a) P) : Yields (x >>= k) P := by
  intro bs b rest hrun
  obtain ⟨a,mid,-,hk⟩ := run_bind_eq_ok hrun
  exact h a mid b rest hk

theorem Yields.pure {a : α} {P : α → Prop} (h : P a) : Yields (Pure.pure a) P := by
  intro bs b rest hrun
  have hval : (Except.ok (a,bs) : Except DecodeError (α × Bytes)) = .ok (b,rest) := hrun
  simp only [Except.ok.injEq,Prod.mk.injEq] at hval
  rw [← hval.1]
  exact h

theorem run_byte_bind_cons (what : String) (k : UInt8 → FieldReader α) (b : UInt8) (tl : Bytes) :
    (byte what >>= k).run (b :: tl) = (k b).run tl := by
  simp [run,byte,Bind.bind,Pure.pure]
  rfl

theorem run_byte_bind_nil (what : String) (k : UInt8 → FieldReader α) :
    (byte what >>= k).run [] = .error (.truncated what 1 0) := by
  simp [run,byte,Bind.bind,Pure.pure]
  rfl

theorem head_of_byte_bind (key : α → UInt8) {what : String} {k : UInt8 → FieldReader α}
    (hk : ∀ b, Yields (k b) (key · = b)) {bs rest : Bytes} {a : α}
    (h : (byte what >>= k).run bs = .ok (a,rest)) : bs.head? = some (key a) := by
  cases bs with
  | nil => simp [run_byte_bind_nil] at h
  | cons b tl =>
    rw [run_byte_bind_cons] at h
    rw [hk b tl a rest h]
    rfl

end FieldReader

open FieldReader

/-! ### The readers of frame-identifier-carrying responses -/

theorem LocalAtResponse.read_frameId {reg : Registry} {bs rest : Bytes} {r : LocalAtResponse}
    (h : (read reg).run bs = .ok (r,rest)) : bs.head? = some r.frameId.value := by
  unfold read at h
  refine head_of_byte_bind (·.frameId.value) (fun _ => ?_) h
  exact .bind fun _ => .bind fun _ => .bind fun _ => .pure rfl

theorem RemoteAtResponse.read_frameId {reg : Registry} {bs rest : Bytes} {r : RemoteAtResponse}
    (h : (read reg).run bs = .ok (r,rest)) : bs.head? = some r.frameId.value := by
  unfold read at h
  refine head_of_byte_bind (·.frameId.value) (fun _ => ?_) h
  exact .bind fun _ => .bind fun _ => .bind fun _ => .bind fun _ => .bind fun _ => .pure rfl

theorem TransmitStatus.read_frameId {bs rest : Bytes} {s : TransmitStatus}
    (h : read.run bs = .ok (s,rest)) : bs.head? = some s.frameId.value := by
  unfold read at h
  refine head_of_byte_bind (·.frameId.value) (fun _ => ?_) h
  exact .bind fun _ => .bind fun _ => .bind fun _ => .bind fun _ => .pure rfl

/-! ### Frame types -/

namespace Frame

theorem Kind.code_of_ofCode? {c : UInt8} {k : Kind} (h : Kind.ofCode? c = some k) : k.code = c := by
  have hk := List.find?_some h
  simpa using hk

/-- The frame identifier a frame carries by its type: its first body byte, if its type has one. -/
def RawFrame.echoedId (f : RawFrame) : Option FrameId :=
  match Kind.ofCode? f.kind, f.data with
  | some k, b :: _ => if k.hasFrameId then some ⟨b⟩ else none
  | _, _ => none

theorem RawFrame.echoedId_of_hasFrameId {f : RawFrame} {k : Kind} (hk : Kind.ofCode? f.kind = some k)
    (hid : k.hasFrameId = true) {i : FrameId} (hd : f.data.head? = some i.value) :
    f.echoedId = some i := by
  cases hdata : f.data with
  | nil => simp [hdata] at hd
  | cons b tl =>
    simp only [hdata,List.head?_cons,Option.some.injEq] at hd
    simp [echoedId,hk,hdata,hid,hd]

theorem RawFrame.echoedId_of_not_hasFrameId {f : RawFrame} {k : Kind}
    (hk : Kind.ofCode? f.kind = some k) (hid : k.hasFrameId = false) : f.echoedId = none := by
  cases hd : f.data with
  | nil => simp [echoedId,hk,hd]
  | cons b tl => simp [echoedId,hk,hd,hid]

end Frame

/-! ### Responses -/

namespace Response

variable {reg : Registry} {f : Frame.RawFrame} {r : Response}

theorem ok_of_map_body {α : Type} {x : FieldReader α} {g : α → Response} {bs : Bytes}
    (h : ((x.run bs).map Prod.fst).map g = .ok r) : ∃ a rest, x.run bs = .ok (a,rest) ∧ r = g a := by
  cases hx : x.run bs with
  | error e => simp [hx,Except.map] at h
  | ok p => exact ⟨p.1,p.2,rfl,by simpa [hx,Except.map] using h.symm⟩

theorem echoes_of_decode (h : decode reg f = .ok r) :
    r.frameType = f.kind ∧ r.frameId? = f.echoedId ∧ r.isUndecoded = false := by
  cases hk : Frame.Kind.ofCode? f.kind with
  | none => simp [decode,hk] at h
  | some k =>
    rw [← Frame.Kind.code_of_ofCode? hk]
    cases k <;> simp only [decode,hk] at h
    case atCommandResponse =>
      obtain ⟨a,rest,hrun,rfl⟩ := ok_of_map_body h
      exact ⟨rfl,(Frame.RawFrame.echoedId_of_hasFrameId hk rfl (LocalAtResponse.read_frameId hrun)).symm,rfl⟩
    case remoteAtCommandResponse =>
      obtain ⟨a,rest,hrun,rfl⟩ := ok_of_map_body h
      exact ⟨rfl,(Frame.RawFrame.echoedId_of_hasFrameId hk rfl (RemoteAtResponse.read_frameId hrun)).symm,
        rfl⟩
    case transmitStatus =>
      obtain ⟨a,rest,hrun,rfl⟩ := ok_of_map_body h
      exact ⟨rfl,(Frame.RawFrame.echoedId_of_hasFrameId hk rfl (TransmitStatus.read_frameId hrun)).symm,rfl⟩
    case modemStatus | receivePacket | ioSampleIndicator | nodeIdentification =>
      obtain ⟨a,rest,-,rfl⟩ := ok_of_map_body h
      exact ⟨rfl,(Frame.RawFrame.echoedId_of_not_hasFrameId hk rfl).symm,rfl⟩
    all_goals cases h

@[simp] theorem frameType_undecodedOf (f : Frame.RawFrame) (e : DecodeError) :
    (undecodedOf f e).frameType = f.kind :=
  rfl

@[simp] theorem frameId_undecodedOf (f : Frame.RawFrame) (e : DecodeError) :
    (undecodedOf f e).frameId? = f.echoedId :=
  rfl

theorem isUndecoded_ofFrame (reg : Registry) (f : Frame.RawFrame) :
    (ofFrame reg f).isUndecoded = (decode reg f).toBool.not := by
  cases hd : decode reg f with
  | ok r => simp [ofFrame,hd,(echoes_of_decode hd).2.2,Except.toBool]
  | error e => simp [ofFrame,hd,undecodedOf,isUndecoded,Except.toBool]

/-- Decoded or not, a frame's response has its type byte and echoes its identifier. -/
theorem ofFrame_echoes (reg : Registry) (f : Frame.RawFrame) :
    (ofFrame reg f).frameType = f.kind ∧ (ofFrame reg f).frameId? = f.echoedId ∧
      ∀ r e, decode reg f = .ok r → r.frameId? = (undecodedOf f e).frameId? := by
  refine ⟨?_,?_,fun r e h => by rw [frameId_undecodedOf,(echoes_of_decode h).2.1]⟩
  all_goals
    cases hd : decode reg f with
    | ok r => simp [ofFrame,hd,echoes_of_decode hd]
    | error e => simp [ofFrame,hd]

example : (ofFrame .standard ⟨0x88,[0x07,0x5A,0x5A,0x00]⟩).frameId? = some ⟨7⟩ := by decide

end Response

end RadioLink
