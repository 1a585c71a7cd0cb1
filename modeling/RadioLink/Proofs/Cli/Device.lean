import RadioLink.Proofs.Link.Pipeline
import RadioLink.Cli.Rig
/-! A scripted device answering one request. A device that writes only frames and hang-ups
hands the link the frames of its replies (`Rig.deliver_eq`); a waiting link takes the first
carrying its identifier (`Radio.Awaits.answer_foldl_receiveFrame`), so after `Rig.wake_one`
the link holds the device's answer. -/
namespace RadioLink

namespace Radio

variable {r : Radio}

/-! ### Frames written whole -/

@[simp] theorem inbound_receiveFrame (f : Frame.RawFrame) : (r.receiveFrame f).inbound = r.inbound := by
  unfold receiveFrame
  split <;> rfl

@[simp] theorem reading_receiveFrame (f : Frame.RawFrame) : (r.receiveFrame f).reading = r.reading := by
  unfold receiveFrame
  split <;> rfl

@[simp] theorem registry_receiveFrame (f : Frame.RawFrame) : (r.receiveFrame f).registry = r.registry := by
  simp [receiveFrame_eq]

@[simp] theorem state_receiveFrame (f : Frame.RawFrame) : (r.receiveFrame f).state = r.state := by
  simp [receiveFrame_eq]

@[simp] theorem ids_receiveFrame (f : Frame.RawFrame) : (r.receiveFrame f).ids = r.ids := by
  simp [receiveFrame_eq,countFaults,dispatch]

@[simp] theorem length_subscribers_receiveFrame (f : Frame.RawFrame) :
    (r.receiveFrame f).subscribers.length = r.subscribers.length := by
  simp [receiveFrame_eq,countFaults,dispatch]

@[simp] theorem ids_foldl_receiveFrame (fs : List Frame.RawFrame) : (fs.foldl receiveFrame r).ids = r.ids := by
  induction fs generalizing r with
  | nil => rfl
  | cons f fs ih => simp [ih]

@[simp] theorem length_subscribers_foldl_receiveFrame (fs : List Frame.RawFrame) :
    (fs.foldl receiveFrame r).subscribers.length = r.subscribers.length := by
  induction fs generalizing r with
  | nil => rfl
  | cons f fs ih => simp [ih]

theorem readAll_of_inbound_nil (n : Nat) (h : r.inbound = []) : r.readAll n = r := by
  cases n with
  | zero => rfl
  | succ n =>
    have hskip : Frame.skipToStart r.inbound = (0,r.inbound) := by simp [h,Frame.skipToStart_nil]
    have hdec : (Frame.decode Frame.maxLength r.inbound).result = .pending := by rw [h]; rfl
    simp only [readAll,hskip,hdec,Nat.add_zero]

theorem ingest_wire (hin : r.inbound = []) (hread : r.reading = true) {f : Frame.RawFrame}
    (hf : f.len ≤ Frame.maxLength) : r.ingest f.wire = r.receiveFrame f := by
  have hdec : Frame.decode Frame.maxLength f.wire = ⟨.frame f,[]⟩ := by
    simpa using Frame.decode_wire_append hf hf []
  have hskip : Frame.skipToStart f.wire = (0,f.wire) := by
    simp [Frame.RawFrame.wire]
  simp only [ingest,hread,if_true,hin,List.nil_append,readAll,hskip,hdec]
  rw [readAll_of_inbound_nil _ (by simp)]
  cases r
  simp only at hin hread
  subst hin hread
  rfl

theorem ingest_nil (hin : r.inbound = []) : r.ingest [] = r := by
  unfold ingest
  split
  · rw [List.append_nil]
    exact readAll_of_inbound_nil _ hin
  · rfl

theorem foldl_receiveFrame_idle (fs : List Frame.RawFrame) :
    (fs.foldl receiveFrame r).inbound = r.inbound ∧ (fs.foldl receiveFrame r).reading = r.reading ∧
      (fs.foldl receiveFrame r).registry = r.registry ∧ (fs.foldl receiveFrame r).state = r.state := by
  induction fs generalizing r with
  | nil => simp
  | cons f fs ih => simpa using ih (r := r.receiveFrame f)

/-! ### The answer to one request -/

/-- A link whose one registered wait is `g`, still without an answer. -/
structure Awaits (r : Radio) (g : Guard) : Prop where
  wait_eq : r.wait = some g
  entries_eq : r.pending.entries = [g]
  answer_eq : r.answer = none

@[simp] theorem answer_countFaults (d c : Nat) : (r.countFaults d c).answer = r.answer := rfl

@[simp] theorem pending_countFaults (d c : Nat) : (r.countFaults d c).pending = r.pending := rfl

@[simp] theorem wait_countFaults (d c : Nat) : (r.countFaults d c).wait = r.wait := rfl

theorem dispatch_settled (h : r.pending.entries = []) (f : Response) :
    (r.dispatch f).answer = r.answer ∧ (r.dispatch f).pending.entries = [] := by
  cases hf : f.frameId? <;> simp [dispatch,hf,PendingTable.take,h]

theorem Awaits.dispatch_hit {g : Guard} (h : r.Awaits g) {f : Response} (hf : f.frameId? = some g.id) :
    (r.dispatch f).answer = some f ∧ (r.dispatch f).pending.entries = [] := by
  simp [dispatch,hf,PendingTable.take,h.entries_eq,h.wait_eq]

theorem Awaits.dispatch_miss {g : Guard} (h : r.Awaits g) {f : Response} (hf : f.frameId? ≠ some g.id) :
    (r.dispatch f).Awaits g := by
  cases hi : f.frameId? with
  | none => constructor <;> simp [dispatch,hi,h.wait_eq,h.entries_eq,h.answer_eq]
  | some i =>
    have hne : (g.id == i) = false := by
      rw [hi] at hf
      simpa using fun h' => hf (congrArg some h'.symm)
    constructor <;> simp [dispatch,hi,PendingTable.take,h.wait_eq,h.entries_eq,h.answer_eq,hne]

theorem answer_foldl_receiveFrame_settled (h : r.pending.entries = []) (fs : List Frame.RawFrame) :
    (fs.foldl receiveFrame r).answer = r.answer := by
  induction fs generalizing r with
  | nil => rfl
  | cons f fs ih =>
    obtain ⟨ha,he⟩ := dispatch_settled h (Response.ofFrame r.registry f)
    rw [List.foldl_cons,ih (by simpa [receiveFrame_eq] using he)]
    simpa [receiveFrame_eq] using ha

/-- A link waiting on `g` answers with the first frame received that carries its identifier. -/
theorem Awaits.answer_foldl_receiveFrame {g : Guard} (h : r.Awaits g) (fs : List Frame.RawFrame) :
    (fs.foldl receiveFrame r).answer =
      (fs.find? (·.echoedId == some g.id)).map (Response.ofFrame r.registry) := by
  induction fs generalizing r with
  | nil => simp [h.answer_eq]
  | cons f fs ih =>
    have hid := (Response.ofFrame_echoes r.registry f).2.1
    by_cases hf : f.echoedId = some g.id
    · obtain ⟨ha,he⟩ := h.dispatch_hit (f := Response.ofFrame r.registry f) (by rw [hid,hf])
      rw [List.foldl_cons,answer_foldl_receiveFrame_settled (by simpa [receiveFrame_eq] using he)]
      simpa [receiveFrame_eq,hf] using ha
    · have hw := h.dispatch_miss (f := Response.ofFrame r.registry f) (by rwa [hid])
      have hw' : (r.receiveFrame f).Awaits g := by
        rw [receiveFrame_eq]
        exact ⟨hw.wait_eq,hw.entries_eq,hw.answer_eq⟩
      rw [List.foldl_cons,ih hw',registry_receiveFrame]
      simp [hf]

@[simp] theorem answer_endOfStream : r.endOfStream.answer = r.answer := by
  unfold endOfStream
  split <;> rfl

theorem isConnected_endOfStream (h : r.reading = true) : r.endOfStream.isConnected = false := by
  simp [endOfStream,h,isConnected]

end Radio

/-! ### Replies -/

namespace Reply

def isRaw : Reply → Bool
  | .raw _ => true
  | _ => false

/-- The frame a reply writes to the request `requestId`: a frame reply that fits the length field. -/
def frameOf (requestId : Option UInt8) : Reply → Option Frame.RawFrame
  | .frame kind data echoId =>
    let f : Frame.RawFrame := ⟨kind,body data echoId requestId⟩
    if f.len ≤ Frame.maxLength then some f else none
  | _ => none

def framesOf (requestId : Option UInt8) (rs : List Reply) : List Frame.RawFrame :=
  (rs.takeWhile (· != .hangup)).filterMap (frameOf requestId)

theorem wire_frame (kind : UInt8) (data : Bytes) (echoId : Bool) (requestId : Option UInt8) :
    (Reply.frame kind data echoId).wire requestId =
      (((Reply.frame kind data echoId).frameOf requestId).map Frame.RawFrame.wire).getD [] := by
  by_cases hf : (⟨kind,body data echoId requestId⟩ : Frame.RawFrame).len ≤ Frame.maxLength
  · have hf' : ¬ (⟨kind,body data echoId requestId⟩ : Frame.RawFrame).len > Frame.maxLength := by omega
    simp [wire,frameOf,Frame.encode,hf,hf']
  · have hf' : (⟨kind,body data echoId requestId⟩ : Frame.RawFrame).len > Frame.maxLength := by omega
    simp [wire,frameOf,Frame.encode,hf,hf']

end Reply

namespace Cli

namespace Device

def firstReplies (d : Device) : List Reply := (d.replies[0]?).getD []

def framesFor (d : Device) (f : Frame.RawFrame) : List Frame.RawFrame :=
  Reply.framesOf none d.unsolicited ++ Reply.framesOf f.data.head? d.firstReplies

/-- The response to the request `f` under `id`: the first frame the device writes carrying `id`. -/
def answerTo (d : Device) (reg : Registry) (id : FrameId) (f : Frame.RawFrame) : Option Response :=
  ((d.framesFor f).find? (·.echoedId == some id)).map (Response.ofFrame reg)

end Device

namespace Rig

variable {r : Rig}

theorem deliver_eq (requestId : Option UInt8) (rs : List Reply) (hraw : ∀ x ∈ rs, x.isRaw = false)
    (hin : r.radio.inbound = []) (hread : r.radio.reading = true) :
    r.deliver requestId rs =
      if .hangup ∈ rs then
        { r with radio := ((Reply.framesOf requestId rs).foldl Radio.receiveFrame r.radio).endOfStream,
                 gone := true }
      else { r with radio := (Reply.framesOf requestId rs).foldl Radio.receiveFrame r.radio } := by
  induction rs generalizing r with
  | nil => simp [deliver,Reply.framesOf]
  | cons x rs ih =>
    cases x with
    | hangup => simp [deliver,Reply.framesOf]
    | raw bs => simp [Reply.isRaw] at hraw
    | frame kind data echoId =>
      have hx : r.radio.ingest ((Reply.frame kind data echoId).wire requestId) =
          ((Reply.frame kind data echoId).frameOf requestId).toList.foldl Radio.receiveFrame r.radio := by
        rw [Reply.wire_frame]
        cases hf : (Reply.frame kind data echoId).frameOf requestId with
        | none => simpa using Radio.ingest_nil hin
        | some f =>
          have hlen : f.len ≤ Frame.maxLength := by
            simp only [Reply.frameOf] at hf
            split_ifs at hf with h
            cases hf
            exact h
          simpa using Radio.ingest_wire hin hread hlen
      have hidle := Radio.foldl_receiveFrame_idle
        (r := r.radio) ((Reply.frame kind data echoId).frameOf requestId).toList
      have ih' := ih (r := { r with radio := r.radio.ingest ((Reply.frame kind data echoId).wire requestId) })
        (fun x hx => hraw x (List.mem_cons_of_mem _ hx)) (by rw [hx,hidle.1,hin]) (by rw [hx,hidle.2.1,hread])
      have hfr : Reply.framesOf requestId (Reply.frame kind data echoId :: rs) =
          ((Reply.frame kind data echoId).frameOf requestId).toList ++ Reply.framesOf requestId rs := by
        cases hf : (Reply.frame kind data echoId).frameOf requestId <;> simp [Reply.framesOf,hf]
      simp only [deliver] at ih' ⊢
      rw [ih',hx,hfr,List.foldl_append]
      simp only [List.mem_cons,reduceCtorEq,false_or]

theorem transmit_asleep (h : r.awake = false) (f : Frame.RawFrame) :
    r.transmit f = { r with unread := r.unread ++ [f] } := by
  simp [transmit,h]

theorem wake_one_eq {f : Frame.RawFrame} (ha : r.awake = false) (hu : r.unread = [f]) (hs : r.saw = [])
    (hg : r.gone = false) (hin : r.radio.inbound = []) (hread : r.radio.reading = true)
    (hraw : ∀ x ∈ r.device.unsolicited ++ r.device.firstReplies, x.isRaw = false)
    (hh : .hangup ∉ r.device.unsolicited) :
    r.wake =
      if .hangup ∈ r.device.firstReplies then
        { r with awake := true, unread := [], saw := [f], gone := true,
                 radio := ((r.device.framesFor f).foldl Radio.receiveFrame r.radio).endOfStream }
      else
        { r with awake := true, unread := [], saw := [f],
                 radio := (r.device.framesFor f).foldl Radio.receiveFrame r.radio } := by
  -- the unsolicited frames arrive first and keep the link live; then the request is served
  have hunsol := deliver_eq (r := { r with awake := true, unread := [] }) none r.device.unsolicited
    (fun x hx => hraw x (List.mem_append_left _ hx)) hin hread
  simp only [hh,if_false] at hunsol
  have hidle := Radio.foldl_receiveFrame_idle (r := r.radio) (Reply.framesOf none r.device.unsolicited)
  have hserve := deliver_eq
    (r := { r with awake := true, unread := [], saw := [f],
                   radio := (Reply.framesOf none r.device.unsolicited).foldl Radio.receiveFrame r.radio })
    f.data.head? r.device.firstReplies (fun x hx => hraw x (List.mem_append_right _ hx))
    (by rw [hidle.1,hin]) (by rw [hidle.2.1,hread])
  have hwake : r.wake =
      { r with awake := true, unread := [], saw := [f],
               radio := (Reply.framesOf none r.device.unsolicited).foldl Radio.receiveFrame r.radio }.deliver
        f.data.head? r.device.firstReplies := by
    simp only [wake,ha,Bool.false_eq_true,if_false,hu,List.foldl_cons,List.foldl_nil,hunsol]
    simp [serve,hg,hs,Device.firstReplies]
  rw [hwake,hserve,Device.framesFor,List.foldl_append]

/-- A device that wakes with one request queued reads it alone and answers it onto the link. -/
theorem wake_one {f : Frame.RawFrame} (ha : r.awake = false) (hu : r.unread = [f]) (hs : r.saw = [])
    (hg : r.gone = false) (hin : r.radio.inbound = []) (hread : r.radio.reading = true)
    (hraw : ∀ x ∈ r.device.unsolicited ++ r.device.firstReplies, x.isRaw = false)
    (hh : .hangup ∉ r.device.unsolicited) {g : Guard} (hw : r.radio.Awaits g) :
    r.wake.saw = [f] ∧
      r.wake.radio.answer = r.device.answerTo r.radio.registry g.id f ∧
      r.wake.radio.isConnected = (r.radio.isConnected && !(Reply.hangup ∈ r.device.firstReplies)) := by
  have hans := hw.answer_foldl_receiveFrame (r.device.framesFor f)
  obtain ⟨-,hreading,-,hstate⟩ := Radio.foldl_receiveFrame_idle (r := r.radio) (r.device.framesFor f)
  rw [wake_one_eq ha hu hs hg hin hread hraw hh,Device.answerTo]
  by_cases hd : Reply.hangup ∈ r.device.firstReplies
  · simp only [hd,if_true]
    refine ⟨trivial,by rw [Radio.answer_endOfStream,hans],?_⟩
    rw [Radio.isConnected_endOfStream (hreading.trans hread)]
    simp
  · simp only [hd,if_false]
    refine ⟨trivial,hans,?_⟩
    simp [Radio.isConnected,hstate]

end Rig

end Cli
end RadioLink
