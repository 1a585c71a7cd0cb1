import RadioLink.Proofs.Link.Pending
import RadioLink.Link.Session
/-! Sends refused before anything is written. A synchronous send makes its checks in a fixed
order and the first that fails gives the error (`Radio.refusal`); a refused send writes nothing
and leaves the counters and the waits as it found them. Main statement: `refused_send_leaves_link`. -/
namespace RadioLink

namespace Radio

/-- Why a synchronous send is refused before anything is written: the first check that fails. -/
def refusal (r : Radio) (req : Request) : Option RadioError :=
  if req.frameId.value = 0 then some .noResponseFrameId
  else if !r.isConnected then some .notConnected
  else if (r.pending.tokenOf req.frameId).isSome then some (.frameIdInUse req.frameId)
  else if Frame.maxLength < req.toFrame.len then
    some (.frame (.tooLarge req.toFrame.len Frame.maxLength))
  else none

variable {r : Radio} {id : FrameId}

theorem expect_of_zero (h : id.value = 0) : r.expect id = .error .noResponseFrameId := by
  simp [expect,h]

theorem expect_of_down (h0 : id.value ≠ 0) (hc : r.isConnected = false) :
    r.expect id = .error .notConnected := by
  simp [expect,h0,PendingTable.register,hc]

theorem expect_of_taken (h0 : id.value ≠ 0) (hc : r.isConnected = true)
    (hk : (r.pending.tokenOf id).isSome = true) : r.expect id = .error (.frameIdInUse id) := by
  simp [expect,h0,PendingTable.register,hc,hk]

def registered (r : Radio) (id : FrameId) : Radio :=
  { r with
    pending := { entries := r.pending.entries ++ [⟨id,r.pending.nextToken⟩],
                 nextToken := r.pending.nextToken + 1 },
    wait := some ⟨id,r.pending.nextToken⟩, answer := none }

@[simp] theorem isConnected_registered : (r.registered id).isConnected = r.isConnected := rfl

@[simp] theorem stats_registered : (r.registered id).stats = r.stats := rfl

theorem dropWait_registered (hk : r.pending.tokenOf id = none) :
    (r.registered id).dropWait.pending = { r.pending with nextToken := r.pending.nextToken + 1 } :=
  PendingTable.drop_register hk

theorem expect_of_free (h0 : id.value ≠ 0) (hc : r.isConnected = true)
    (hk : r.pending.tokenOf id = none) : r.expect id = .ok (r.registered id) := by
  simp [expect,h0,PendingTable.register,hc,hk,registered]

theorem send_of_tooLarge {req : Request} (hc : r.isConnected = true)
    (hl : Frame.maxLength < req.toFrame.len) :
    r.send req = .error (.frame (.tooLarge req.toFrame.len Frame.maxLength)) := by
  have hl' : req.toFrame.data.length + 1 > Frame.maxLength := hl
  simp [send,hc,Frame.encode,Frame.RawFrame.len,hl']

theorem send_of_fits {req : Request} (hc : r.isConnected = true)
    (hl : req.toFrame.len ≤ Frame.maxLength) :
    r.send req = .ok (req.toFrame,{ r with stats := { r.stats with framesSent := r.stats.framesSent + 1 } }) := by
  have hl' : ¬(req.toFrame.data.length + 1 > Frame.maxLength) := Nat.not_lt.mpr hl
  simp [send,hc,Frame.encode,Frame.RawFrame.len,hl']

end Radio

namespace Session

/-- What a refused send leaves: no request read, the counters and the waits as they were. -/
structure Untouched (s : Session) (seen : PeerRead) (s' : Session) : Prop where
  nothing_written : seen = s.idleRead
  stats_eq : s'.radio.stats = s.radio.stats
  entries_eq : s'.radio.pending.entries = s.radio.pending.entries

theorem sendSync_of_expect_error {s : Session} {req : Request} {e : RadioError}
    (h : s.radio.expect req.frameId = .error e) (replies : List Reply) (t : Duration) :
    s.sendSync req replies t = (⟨s.idleRead,.error e⟩,s) := by
  simp [sendSync,h]

theorem untouched_of_expect_error {s : Session} {req : Request} {e : RadioError}
    (h : s.radio.expect req.frameId = .error e) (replies : List Reply) (t : Duration) :
    (s.sendSync req replies t).1.outcome = .error e ∧
      Untouched s (s.sendSync req replies t).1.seen (s.sendSync req replies t).2 := by
  rw [sendSync_of_expect_error h]
  exact ⟨rfl,rfl,rfl,rfl⟩

variable {s : Session} {req : Request}

/-- A refused synchronous send fails with its check's error and leaves the link untouched. -/
theorem sendSync_refused {e : RadioError} (h : s.radio.refusal req = some e) (replies : List Reply)
    (t : Duration) :
    (s.sendSync req replies t).1.outcome = .error e ∧
      Untouched s (s.sendSync req replies t).1.seen (s.sendSync req replies t).2 := by
  simp only [Radio.refusal] at h
  split_ifs at h with h0 hc hk hl
  · cases h
    exact untouched_of_expect_error (Radio.expect_of_zero h0) replies t
  · cases h
    exact untouched_of_expect_error (Radio.expect_of_down h0 (by simpa using hc)) replies t
  · cases h
    exact untouched_of_expect_error (Radio.expect_of_taken h0 (by simpa using hc) hk) replies t
  · cases h
    have hc' : s.radio.isConnected = true := by simpa using hc
    have hk' : s.radio.pending.tokenOf req.frameId = none := by simpa using hk
    have hc'' : (s.radio.registered req.frameId).isConnected = true := hc'
    have hs : s.sendSync req replies t = (⟨s.idleRead,.error (.frame (.tooLarge req.toFrame.len Frame.maxLength))⟩,
        { s with radio := (s.radio.registered req.frameId).dropWait }) := by
      simp only [sendSync,Radio.expect_of_free h0 hc' hk',Radio.send_of_tooLarge hc'' hl]
    rw [hs]
    exact ⟨rfl,rfl,rfl,by simp [Radio.dropWait_registered hk']⟩

theorem sendSync_goes_out (h : s.radio.refusal req = none) (replies : List Reply) (t : Duration) :
    (s.sendSync req replies t).1.seen = .frame req.toFrame := by
  simp only [Radio.refusal] at h
  split_ifs at h with h0 hc hk hl
  have hc' : s.radio.isConnected = true := by simpa using hc
  have hk' : s.radio.pending.tokenOf req.frameId = none := by simpa using hk
  have hc'' : (s.radio.registered req.frameId).isConnected = true := hc'
  simp only [sendSync,Radio.expect_of_free h0 hc' hk',Radio.send_of_fits hc'' (Nat.not_lt.mp hl)]

end Session

/-- A synchronous send is refused by the first failing check, and a refused send changes nothing. -/
theorem refused_send_leaves_link (s : Session) (req : Request) (replies : List Reply) (t : Duration) :
    (∀ e, s.radio.refusal req = some e →
      (s.sendSync req replies t).1.outcome = .error e ∧
        s.Untouched (s.sendSync req replies t).1.seen (s.sendSync req replies t).2) ∧
    (s.radio.refusal req = none → (s.sendSync req replies t).1.seen = .frame req.toFrame) ∧
    (s.radio.isConnected = true → Frame.maxLength < req.toFrame.len →
      s.send req = (s.idleRead,.error (.frame (.tooLarge req.toFrame.len Frame.maxLength)),s)) := by
  refine ⟨fun e h => Session.sendSync_refused h replies t,
    fun h => Session.sendSync_goes_out h replies t,fun hc hl => ?_⟩
  simp [Session.send,Radio.send_of_tooLarge hc hl]

end RadioLink
