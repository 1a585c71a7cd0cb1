import RadioLink.Proofs.Cli.Device
import RadioLink.Proofs.Cli.Run
import RadioLink.Proofs.Link.Refusal
import RadioLink.Proofs.Request
/-! The `at` and `remote-at` commands against the radio behind a TCP bridge: a failed check
exits with 64 before any link opens; otherwise the request goes out under `0x02` and the first
frame back carrying it decides the exit status. Main statement: `at_commands_exchange`. -/
namespace RadioLink

namespace Radio

variable {r : Radio}

structure Ready (r : Radio) : Prop where
  connected : r.isConnected = true
  no_waits : r.pending.entries = []
  inbound_nil : r.inbound = []
  reading : r.reading = true

theorem Ready.nextFrameId (h : r.Ready) : r.nextFrameId.2.Ready :=
  ⟨h.connected,h.no_waits,h.inbound_nil,h.reading⟩

theorem Ready.awaits_registered (h : r.Ready) (id : FrameId) :
    (r.registered id).Awaits ⟨id,r.pending.nextToken⟩ :=
  ⟨rfl,by simp [registered,h.no_waits],rfl⟩

theorem Ready.expect_eq (h : r.Ready) {id : FrameId} (h0 : id.value ≠ 0) :
    r.expect id = .ok (r.registered id) :=
  expect_of_free h0 h.connected (by simp [PendingTable.tokenOf,h.no_waits])

theorem Ready.sends (h : r.Ready) {req : Request} (hfit : req.toFrame.len ≤ Frame.maxLength) :
    ∃ id radio1 radio2 token, r.nextFrameId = (id,radio1) ∧ radio1.expect id = .ok (radio1.registered id) ∧
      (radio1.registered id).send (req.withFrameId id) = .ok ((req.withFrameId id).toFrame,radio2) ∧
      radio2.Awaits ⟨id,token⟩ ∧ radio2.inbound = [] ∧ radio2.reading = true ∧
      radio2.isConnected = true ∧ radio2.registry = r.registry ∧ radio2.subscribers = r.subscribers ∧
      radio2.ids = r.nextFrameId.2.ids := by
  have h0 : r.nextFrameId.1.value ≠ 0 := FrameId.following_ne_zero r.ids.last
  have hr1 := h.nextFrameId
  have haw := hr1.awaits_registered r.nextFrameId.1
  exact ⟨_,_,_,_,rfl,hr1.expect_eq h0,send_of_fits hr1.connected (by rwa [Request.len_withFrameId]),
    ⟨haw.wait_eq,haw.entries_eq,haw.answer_eq⟩,hr1.inbound_nil,hr1.reading,hr1.connected,rfl,rfl,rfl⟩

end Radio

/-! ### Requests for the radio's settings -/

namespace Cli

namespace Device

/-- How a call of `f` under `id` ends: with the device's answer, else by the timeout or a hang-up. -/
def callOutcome (d : Device) (reg : Registry) (id : FrameId) (f : Frame.RawFrame) (t : Duration) :
    Except RadioError Response :=
  match d.answerTo reg id f with
  | some a => .ok a
  | none => if .hangup ∈ d.firstReplies then .error .notConnected else .error (.timeout t)

variable {d : Device} {reg : Registry} {id : FrameId} {f : Frame.RawFrame} {t : Duration}

theorem callOutcome_of_answer {a : Response} (h : d.answerTo reg id f = some a) :
    d.callOutcome reg id f t = .ok a := by
  simp [callOutcome,h]

theorem callOutcome_of_silence (h : d.answerTo reg id f = none) (hd : .hangup ∉ d.firstReplies) :
    d.callOutcome reg id f t = .error (.timeout t) := by
  simp [callOutcome,h,hd]

theorem callOutcome_of_hangup (h : d.answerTo reg id f = none) (hd : .hangup ∈ d.firstReplies) :
    d.callOutcome reg id f t = .error .notConnected := by
  simp [callOutcome,h,hd]

end Device

open Run

/-! ### One call -/

/-- A call on a ready link whose device wakes before the deadline ends as `callOutcome` says. -/
theorem exec_call {p : Process} {r : Rig} (hr : p.rig = some r) (ha : r.awake = false) (hu : r.unread = [])
    (hs : r.saw = []) (hg : r.gone = false) (hready : r.radio.Ready)
    (hraw : ∀ x ∈ r.device.unsolicited ++ r.device.firstReplies, x.isRaw = false)
    (hh : .hangup ∉ r.device.unsolicited) {req : Request} (hfit : req.toFrame.len ≤ Frame.maxLength)
    {t : Duration} (hwake : r.device.delay.nanos < p.now.nanos + t.nanos)
    (hlimit : p.now.nanos + t.nanos < p.host.limit.nanos) :
    ∃ q, exec (call req t) p =
        (.ok (r.device.callOutcome r.radio.registry r.radio.nextFrameId.1
          (req.withFrameId r.radio.nextFrameId.1).toFrame t),q) ∧
      q.host = p.host ∧ q.stdout = p.stdout ∧ q.stderr = p.stderr ∧
      q.rig.map (·.saw) = some [(req.withFrameId r.radio.nextFrameId.1).toFrame] := by
  obtain ⟨id,radio1,radio2,token,hnext,hexp,hsend,haw,hin2,hread2,hconn2,hreg2,-,-⟩ := hready.sends hfit
  rw [hnext]
  have htx := Rig.transmit_asleep (r := { r with radio := radio2 }) ha (req.withFrameId id).toFrame
  simp only [call,exec_bind,exec_rig,hr,hnext,hexp,hsend,exec_setRig,exec_get,htx,haw.answer_eq,
    Option.isNone_none,if_true]
  set f := (req.withFrameId id).toFrame
  set X : Rig := { r with radio := radio2, unread := r.unread ++ [f] }
  obtain ⟨hsaw,hans,hconn⟩ := Rig.wake_one (r := X) (f := f) ha (by simp [X,hu]) hs hg hin2 hread2 hraw hh haw
  rw [exec_wakeBy_asleep (p := { p with rig := some X }) rfl ha (by simpa using hwake)
    (show max p.now.nanos r.device.delay.nanos < p.host.limit.nanos by omega)]
  simp only [X,hreg2,hconn2,Bool.true_and] at hsaw hans hconn
  generalize X.wake = W at hsaw hans hconn ⊢
  simp only
  cases hA : W.radio.answer with
  | some a => simp [exec_bind,hA,Radio.conclude,Device.callOutcome,← hans,hsaw]
  | none =>
    by_cases hd : Reply.hangup ∈ r.device.firstReplies
    · simp [exec_bind,hA,hconn,hd,Radio.conclude,Device.callOutcome,← hans,hsaw]
    · simp [exec_bind,hA,hconn,hd,Radio.conclude,Device.callOutcome,← hans,hsaw,-exec_sleepUntil,
        exec_sleepUntil_of_lt,hlimit]

/-- The link after a call of `f` from `r` that the device answered without hanging up. -/
structure Rig.AfterCall (R r : Rig) (f : Frame.RawFrame) : Prop where
  awake : R.awake = true
  gone : R.gone = false
  saw : R.saw = [f]
  device : R.device = r.device
  connected : R.radio.isConnected = true
  inbound_nil : R.radio.inbound = []
  reading : R.radio.reading = true
  registry : R.radio.registry = r.radio.registry
  subscribers : R.radio.subscribers.length = r.radio.subscribers.length
  ids : R.radio.ids = r.radio.nextFrameId.2.ids

theorem exec_call_answered {p : Process} {r : Rig} (hr : p.rig = some r) (ha : r.awake = false)
    (hu : r.unread = []) (hs : r.saw = []) (hg : r.gone = false) (hready : r.radio.Ready)
    (hraw : ∀ x ∈ r.device.unsolicited ++ r.device.firstReplies, x.isRaw = false)
    (hh : .hangup ∉ r.device.unsolicited) (hd : .hangup ∉ r.device.firstReplies) {req : Request}
    (hfit : req.toFrame.len ≤ Frame.maxLength) {t : Duration}
    (hwake : r.device.delay.nanos < p.now.nanos + t.nanos)
    (hlimit : p.now.nanos + t.nanos < p.host.limit.nanos) {a : Response}
    (hans : r.device.answerTo r.radio.registry r.radio.nextFrameId.1
      (req.withFrameId r.radio.nextFrameId.1).toFrame = some a) :
    ∃ R, exec (call req t) p =
        (.ok (.ok a),{ p with now := ⟨max p.now.nanos r.device.delay.nanos⟩, rig := some R }) ∧
      R.AfterCall r (req.withFrameId r.radio.nextFrameId.1).toFrame := by
  obtain ⟨id,radio1,radio2,token,hnext,hexp,hsend,haw,hin2,hread2,hconn2,hreg2,hsub2,hids2⟩ :=
    hready.sends hfit
  rw [hnext] at hans ⊢
  have htx := Rig.transmit_asleep (r := { r with radio := radio2 }) ha (req.withFrameId id).toFrame
  simp only [call,exec_bind,exec_rig,hr,hnext,hexp,hsend,exec_setRig,exec_get,htx,haw.answer_eq,
    Option.isNone_none,if_true]
  set f := (req.withFrameId id).toFrame
  set X : Rig := { r with radio := radio2, unread := r.unread ++ [f] }
  obtain ⟨-,hA,-⟩ := Rig.wake_one (r := X) (f := f) ha (by simp [X,hu]) hs hg hin2 hread2 hraw hh haw
  have hwk := Rig.wake_one_eq (r := X) (f := f) ha (by simp [X,hu]) hs hg hin2 hread2 hraw hh
  rw [exec_wakeBy_asleep (p := { p with rig := some X }) rfl ha (by simpa using hwake)
    (show max p.now.nanos r.device.delay.nanos < p.host.limit.nanos by omega)]
  simp only [X,hreg2,hd,if_false] at hA hwk
  rw [hans] at hA
  obtain ⟨hin3,hread3,hreg3,hstate3⟩ := Radio.foldl_receiveFrame_idle (r := radio2) (r.device.framesFor f)
  refine ⟨{ X.wake with radio := { X.wake.radio.dropWait with answer := none } },?_,?_⟩
  · simp [X,exec_bind,hA,Radio.conclude]
  · simp only [X,hwk]
    exact ⟨rfl,hg,rfl,rfl,by simpa [Radio.dropWait,Radio.isConnected,hstate3] using hconn2,
      by simp [Radio.dropWait,hin3,hin2],by simp [Radio.dropWait,hread3,hread2],
      by simp [Radio.dropWait,hreg3,hreg2],by simp [Radio.dropWait,hsub2],by simp [Radio.dropWait,hids2,hnext]⟩

/-- A call whose device sleeps past the deadline times out, the request still queued. -/
theorem exec_call_late {p : Process} {r : Rig} (hr : p.rig = some r) (ha : r.awake = false)
    (hready : r.radio.Ready) {req : Request} (hfit : req.toFrame.len ≤ Frame.maxLength) {t : Duration}
    (hlate : p.now.nanos + t.nanos ≤ r.device.delay.nanos)
    (hlimit : p.now.nanos + t.nanos < p.host.limit.nanos) :
    ∃ q, exec (call req t) p = (.ok (.error (.timeout t)),q) ∧
      q.host = p.host ∧ q.stdout = p.stdout ∧ q.stderr = p.stderr ∧ q.rig.map (·.saw) = some r.saw := by
  obtain ⟨id,radio1,radio2,token,hnext,hexp,hsend,haw,-,-,hconn2,-,-,-⟩ := hready.sends hfit
  have htx := Rig.transmit_asleep (r := { r with radio := radio2 }) ha (req.withFrameId id).toFrame
  simp only [call,exec_bind,exec_rig,hr,hnext,hexp,hsend,exec_setRig,exec_get,htx,haw.answer_eq,
    Option.isNone_none,if_true]
  set X : Rig := { r with radio := radio2, unread := r.unread ++ [(req.withFrameId id).toFrame] }
  rw [exec_wakeBy_late (p := { p with rig := some X }) rfl
    (show ¬ r.device.delay.nanos < p.now.nanos + t.nanos by omega)]
  simp [X,exec_bind,haw.answer_eq,hconn2,Radio.conclude,-exec_sleepUntil,exec_sleepUntil_of_lt,hlimit]

theorem exec_ask_ok (format : Format) (context : String) {req : Request} {t : Duration} {p q : Process}
    {a : Response} (h : exec (call req t) p = (.ok (.ok a),q)) :
    exec (ask format context req t) p = (.error (.exit (responseExitCode a)),
      { q with stdout := q.stdout ++ frameLines format (toString (q.host.epoch + q.now.secs)) a }) := by
  simp [ask,exec_bind,h,printFrame]

theorem exec_ask_error (format : Format) (context : String) {req : Request} {t : Duration} {p q : Process}
    {e : RadioError} (h : exec (call req t) p = (.ok (.error e),q)) :
    exec (ask format context req t) p = (.error (.exit (Failure.ofRadio context e).code),
      { q with stderr := q.stderr ++ ["error: " ++ (Failure.ofRadio context e).message] }) := by
  simp [ask,exec_bind,h]

/-! ### The link to the bridge -/

def Rig.opened (d : Device) (t : Duration) : Rig :=
  { radio := { config := { defaultTimeout := t }, registry := .standard, backlog := Backlog.new 100 },
    device := d }

theorem Rig.opened_ready (d : Device) (t : Duration) : (Rig.opened d t).radio.Ready :=
  ⟨rfl,rfl,rfl,rfl⟩

theorem exec_openLink_bridge {link : LinkOptions} {addr : String} {t : Duration} {p : Process}
    (hA : p.host.radioAddress = some addr) (hl : link.tcp = some addr)
    (ht : parseDuration link.timeout = .ok t) :
    exec (openLink link) p = (.ok (),{ p with rig := some (Rig.opened p.host.device t) }) := by
  have hopen : Radio.open { defaultTimeout := t } Registry.standard =
      .ok (Rig.opened p.host.device t).radio := rfl
  simp [openLink,startRadio,attach,exec_bind,hl,Host.connect,hA,ht,hopen,Rig.opened]

theorem exec_openLink_then {h : Host} {link : LinkOptions} {addr : String} {t : Duration}
    (hA : h.radioAddress = some addr) (hl : link.tcp = some addr)
    (ht : parseDuration link.timeout = .ok t) (x : Run Unit) :
    exec (openLink link >>= fun _ => x) { host := h } =
      exec x { host := h, rig := some (Rig.opened h.device t) } := by
  rw [exec_bind,exec_openLink_bridge (p := { host := h }) hA hl ht]

/-! ### What a run shows -/

theorem transcript_of_exec {h : Host} {run : Run Unit} {code : Nat} {q : Process}
    (hrun : exec run { host := h } = (.error (.exit code),q)) :
    transcript h run =
      { ending := .exit code, stdout := q.stdout, stderr := q.stderr,
        deviceSaw := (q.rig.map (·.saw)).getD [] } := by
  rw [transcript_eq,hrun]

/-- The device serves one request within `t`: it wakes in time and writes only frames and hang-ups. -/
structure Host.Serves (h : Host) (t : Duration) : Prop where
  wakes : h.device.delay.nanos < t.nanos
  within_limit : t.nanos < h.limit.nanos
  frames_only : ∀ x ∈ h.device.unsolicited ++ h.device.firstReplies, x.isRaw = false
  reads : Reply.hangup ∉ h.device.unsolicited

/-- What a run that asks the radio one request, as the frame `f`, shows on the host `h`. -/
structure Exchanged (h : Host) (format : Format) (run : Run Unit) (f : Frame.RawFrame) : Prop where
  read_once : (transcript h run).deviceSaw = [f]
  answered : ∀ a, h.device.answerTo .standard FrameId.first f = some a →
    (transcript h run).ending = .exit (responseExitCode a) ∧ (transcript h run).stderr = [] ∧
      ∃ stamp, (transcript h run).stdout = frameLines format stamp a
  timed_out : h.device.answerTo .standard FrameId.first f = none → .hangup ∉ h.device.firstReplies →
    (transcript h run).ending = .exit exitTimeout ∧ (transcript h run).stdout = [] ∧
      ∃ msg, (transcript h run).stderr = ["error: " ++ msg]
  hung_up : h.device.answerTo .standard FrameId.first f = none → .hangup ∈ h.device.firstReplies →
    (transcript h run).ending = .exit exitTransport ∧ (transcript h run).stdout = [] ∧
      ∃ msg, (transcript h run).stderr = ["error: " ++ msg]

theorem Exchanged.of_exec_eq {h : Host} {format : Format} {run run' : Run Unit} {f : Frame.RawFrame}
    (hx : Exchanged h format run' f) (he : exec run { host := h } = exec run' { host := h }) :
    Exchanged h format run f := by
  have ht := transcript_congr he
  obtain ⟨h₁,h₂,h₃,h₄⟩ := hx
  exact ⟨by rwa [ht],by rwa [ht],by rwa [ht],by rwa [ht]⟩

theorem openLink_ask_exchanged {h : Host} {addr : String} (hA : h.radioAddress = some addr)
    {link : LinkOptions} (hl : link.tcp = some addr) {t : Duration}
    (ht : parseDuration link.timeout = .ok t) (hs : h.Serves t) {req : Request}
    (hfit : req.toFrame.len ≤ Frame.maxLength) (format : Format) (context : String) :
    Exchanged h format (openLink link >>= fun _ => ask format context req t)
      (req.withFrameId FrameId.first).toFrame := by
  obtain ⟨q,hcall,-,hout,herr,hsaw⟩ := exec_call (p := { host := h, rig := some (Rig.opened h.device t) })
    rfl rfl rfl rfl rfl (Rig.opened_ready h.device t) hs.frames_only hs.reads hfit
    (by simpa [Rig.opened] using hs.wakes) (by simpa using hs.within_limit)
  set f := (req.withFrameId FrameId.first).toFrame
  have hcall' : exec (call req t) { host := h, rig := some (Rig.opened h.device t) } =
      (.ok (h.device.callOutcome .standard FrameId.first f t),q) := hcall
  have hrun := exec_openLink_then hA hl ht (ask format context req t)
  have hsaw' : (q.rig.map (·.saw)).getD [] = [f] := by
    rw [hsaw]
    rfl
  simp only at hout herr
  have hok : ∀ a, h.device.callOutcome .standard FrameId.first f t = .ok a →
      transcript h (openLink link >>= fun _ => ask format context req t) =
        { ending := .exit (responseExitCode a),
          stdout := frameLines format (toString (q.host.epoch + q.now.secs)) a, stderr := [],
          deviceSaw := [f] } := by
    intro a ho
    rw [ho] at hcall'
    rw [transcript_of_exec (hrun.trans (exec_ask_ok format context hcall')),← hsaw',hout,herr]
    rfl
  have hfail : ∀ e, h.device.callOutcome .standard FrameId.first f t = .error e →
      transcript h (openLink link >>= fun _ => ask format context req t) =
        { ending := .exit (Failure.ofRadio context e).code, stdout := [],
          stderr := ["error: " ++ (Failure.ofRadio context e).message], deviceSaw := [f] } := by
    intro e ho
    rw [ho] at hcall'
    rw [transcript_of_exec (hrun.trans (exec_ask_error format context hcall')),← hsaw',hout,herr]
    rfl
  refine ⟨?_,fun a ha => ?_,fun hn hd => ?_,fun hn hd => ?_⟩
  · cases ho : h.device.callOutcome .standard FrameId.first f t with
    | ok a => rw [hok a ho]
    | error e => rw [hfail e ho]
  · rw [hok a (Device.callOutcome_of_answer ha)]
    exact ⟨rfl,rfl,_,rfl⟩
  · rw [hfail _ (Device.callOutcome_of_silence hn hd)]
    exact ⟨rfl,rfl,_,rfl⟩
  · rw [hfail _ (Device.callOutcome_of_hangup hn hd)]
    exact ⟨rfl,rfl,_,rfl⟩

theorem openLink_ask_late {h : Host} {addr : String} (hA : h.radioAddress = some addr)
    {link : LinkOptions} (hl : link.tcp = some addr) {t : Duration}
    (ht : parseDuration link.timeout = .ok t) (hlate : t.nanos ≤ h.device.delay.nanos)
    (hlimit : t.nanos < h.limit.nanos) {req : Request} (hfit : req.toFrame.len ≤ Frame.maxLength)
    (format : Format) (context : String) :
    (transcript h (openLink link >>= fun _ => ask format context req t)).deviceSaw = [] ∧
      (transcript h (openLink link >>= fun _ => ask format context req t)).ending = .exit exitTimeout ∧
      (transcript h (openLink link >>= fun _ => ask format context req t)).stdout = [] ∧
      ∃ msg, (transcript h (openLink link >>= fun _ => ask format context req t)).stderr = ["error: " ++ msg] := by
  obtain ⟨q,hcall,-,hout,herr,hsaw⟩ := exec_call_late (p := { host := h, rig := some (Rig.opened h.device t) })
    rfl rfl (Rig.opened_ready h.device t) hfit (by simpa [Rig.opened] using hlate) (by simpa using hlimit)
  simp only at hout herr
  rw [transcript_of_exec ((exec_openLink_then hA hl ht _).trans (exec_ask_error format context hcall))]
  refine ⟨?_,rfl,hout,(Failure.ofRadio context (.timeout t)).message,?_⟩
  · simp only [hsaw]
    rfl
  · simp only [herr]
    rfl

/-! ### The checks before the link -/

theorem parseDuration_error_usage {s : String} {f : Failure} (h : parseDuration s = .error f) :
    f.code = exitUsage := by
  unfold parseDuration at h
  dsimp only at h
  split at h
  · cases h
    rfl
  · split at h <;> cases h <;> rfl

theorem parseHexValue_error_usage {s : String} {f : Failure} (h : parseHexValue s = .error f) :
    f.code = exitUsage := by
  unfold parseHexValue at h
  dsimp only at h
  split at h <;> cases h
  rfl

theorem valueBytes_error_usage {hex text : Option String} {f : Failure}
    (h : valueBytes hex text = .error f) : f.code = exitUsage := by
  unfold valueBytes at h
  split at h
  · cases hx : parseHexValue _ with
    | error e =>
      rw [hx] at h
      cases h
      exact parseHexValue_error_usage hx
    | ok bs =>
      rw [hx] at h
      cases h
  · cases h
  · cases h

/-- A run stopped by a check of its command line: status 64, no link opened, no time passed. -/
structure RefusedEarly (h : Host) (run : Run Unit) (f : Failure) : Prop where
  usage : f.code = exitUsage
  stops : exec run { host := h } = (.error (.exit exitUsage),{ host := h, stderr := ["error: " ++ f.message] })

/-- What a checked command promises on the host `h`: a failed check exits with 64, else `Exchanged`. -/
structure AskContract (h : Host) (format : Format) (link : LinkOptions) (value : ValueOptions)
    {α : Type} (build : Bytes → Except EncodeError α) (run : Run Unit)
    (frame : Option Bytes → Frame.RawFrame) : Prop where
  bad_timeout : ∀ f, parseDuration link.timeout = .error f → RefusedEarly h run f
  bad_value : ∀ t f, parseDuration link.timeout = .ok t → valueBytes value.hex value.text = .error f →
    RefusedEarly h run f
  bad_request : ∀ t v e, parseDuration link.timeout = .ok t →
    valueBytes value.hex value.text = .ok (some v) → build v = .error e →
    RefusedEarly h run (Failure.ofEncode "invalid value" e)
  exchanged : ∀ t vb, parseDuration link.timeout = .ok t → valueBytes value.hex value.text = .ok vb →
    (∀ v, vb = some v → ∃ r, build v = .ok r) → h.Serves t → Exchanged h format run (frame vb)
  slept_through : ∀ t vb, parseDuration link.timeout = .ok t → valueBytes value.hex value.text = .ok vb →
    (∀ v, vb = some v → ∃ r, build v = .ok r) → t.nanos ≤ h.device.delay.nanos → t.nanos < h.limit.nanos →
    (transcript h run).deviceSaw = [] ∧ (transcript h run).ending = .exit exitTimeout ∧
      (transcript h run).stdout = [] ∧ ∃ msg, (transcript h run).stderr = ["error: " ++ msg]

def checkedAsk {α : Type} (format : Format) (link : LinkOptions) (value : ValueOptions)
    (build : Bytes → Except EncodeError α) (query : α) (adjust : α → α) (wrap : α → Request)
    (context : String) : Run Unit := do
  let timeout ← orFail (parseDuration link.timeout)
  let req ← match ← bytesOf value with
    | some v => orFail ((build v).mapError (Failure.ofEncode "invalid value"))
    | none => pure query
  let req := adjust req
  openLink link
  ask format context (wrap req) timeout

theorem runLocal_eq (format : Format) (link : LinkOptions) (command : AtCommand) (value : ValueOptions)
    (queued : Bool) :
    runLocal format link command value queued =
      checkedAsk format link value (AtRequest.set command) (AtRequest.query command)
        (fun req => if queued then { req with queued := true } else req) .at
        (command.mnemonic ++ " failed") := rfl

theorem runRemote_eq (format : Format) (link : LinkOptions) (address : Address64) (command : AtCommand)
    (value : ValueOptions) (noApply : Bool) :
    runRemote format link address command value noApply =
      checkedAsk format link value (RemoteAtRequest.set address command)
        (RemoteAtRequest.query address command)
        (fun req => if noApply then { req with applyChanges := false } else req) .remoteAt
        (command.mnemonic ++ " on " ++ address.display ++ " failed") := rfl

section Checked

variable {h : Host} {format : Format} {link : LinkOptions} {value : ValueOptions} {α : Type}
  {build : Bytes → Except EncodeError α} {query : α} {adjust : α → α} {wrap : α → Request}
  {context : String}

theorem checkedAsk_bad_timeout {f : Failure} (hT : parseDuration link.timeout = .error f) :
    RefusedEarly h (checkedAsk format link value build query adjust wrap context) f := by
  have hu := parseDuration_error_usage hT
  exact ⟨hu,by simp [checkedAsk,exec_bind,hT,hu]⟩

theorem checkedAsk_bad_value {t : Duration} {f : Failure} (hT : parseDuration link.timeout = .ok t)
    (hV : valueBytes value.hex value.text = .error f) :
    RefusedEarly h (checkedAsk format link value build query adjust wrap context) f := by
  have hu := valueBytes_error_usage hV
  exact ⟨hu,by simp [checkedAsk,exec_bind,hT,bytesOf,hV,hu]⟩

theorem checkedAsk_bad_request {t : Duration} {v : Bytes} {e : EncodeError}
    (hT : parseDuration link.timeout = .ok t) (hV : valueBytes value.hex value.text = .ok (some v))
    (hB : build v = .error e) :
    RefusedEarly h (checkedAsk format link value build query adjust wrap context)
      (Failure.ofEncode "invalid value" e) :=
  ⟨rfl,by simp [checkedAsk,exec_bind,hT,bytesOf,hV,hB,Except.mapError,Failure.ofEncode]⟩

theorem exec_checkedAsk {t : Duration} {vb : Option Bytes} {req : α}
    (hT : parseDuration link.timeout = .ok t) (hV : valueBytes value.hex value.text = .ok vb)
    (hreq : vb.elim (.ok query) build = .ok req) (p : Process) :
    exec (checkedAsk format link value build query adjust wrap context) p =
      exec (openLink link >>= fun _ => ask format context (wrap (adjust req)) t) p := by
  cases vb with
  | none =>
    cases hreq
    simp [checkedAsk,exec_bind,hT,bytesOf,hV]
  | some v =>
    simp only [Option.elim] at hreq
    simp [checkedAsk,exec_bind,hT,bytesOf,hV,hreq,Except.mapError]

theorem elim_build_ok {vb : Option Bytes} (hok : ∀ v, vb = some v → ∃ r, build v = .ok r) :
    ∃ req, vb.elim (.ok query) build = .ok req := by
  cases vb with
  | none => exact ⟨query,rfl⟩
  | some v => exact hok v rfl

/-- A checked command against the bridge keeps its `AskContract`. -/
theorem checkedAsk_contract {addr : String} (hA : h.radioAddress = some addr)
    (hl : link.tcp = some addr) {frame : Option Bytes → Frame.RawFrame}
    (hframe : ∀ vb req, vb.elim (.ok query) build = .ok req →
      ((wrap (adjust req)).withFrameId FrameId.first).toFrame = frame vb ∧
        (wrap (adjust req)).toFrame.len ≤ Frame.maxLength) :
    AskContract h format link value build (checkedAsk format link value build query adjust wrap context)
      frame where
  bad_timeout _ hT := checkedAsk_bad_timeout hT
  bad_value _ _ hT hV := checkedAsk_bad_value hT hV
  bad_request _ _ _ hT hV hB := checkedAsk_bad_request hT hV hB
  exchanged t vb hT hV hok hs := by
    obtain ⟨req,hreq⟩ := elim_build_ok hok
    obtain ⟨hf,hfit⟩ := hframe vb req hreq
    rw [← hf]
    exact (openLink_ask_exchanged hA hl hT hs hfit format context).of_exec_eq (exec_checkedAsk hT hV hreq _)
  slept_through t vb hT hV hok hlate hlimit := by
    obtain ⟨req,hreq⟩ := elim_build_ok hok
    rw [transcript_congr (exec_checkedAsk hT hV hreq _)]
    exact openLink_ask_late hA hl hT hlate hlimit (hframe vb req hreq).2 format context

end Checked

/-! ### The two commands -/

theorem localAt_frame {command : AtCommand} {queued : Bool} {vb : Option Bytes} {req : AtRequest}
    (hreq : vb.elim (.ok (AtRequest.query command)) (AtRequest.set command) = .ok req) :
    ((Request.at (if queued then { req with queued := true } else req)).withFrameId FrameId.first).toFrame =
        ⟨if queued then 0x09 else 0x08,0x02 :: command.code ++ vb.getD []⟩ ∧
      (Request.at (if queued then { req with queued := true } else req)).toFrame.len ≤ Frame.maxLength := by
  obtain ⟨rfl,hv⟩ : req = { command,value := vb.getD [] } ∧ (vb.getD []).length ≤ 20 := by
    cases vb with
    | none =>
      cases hreq
      exact ⟨rfl,by simp⟩
    | some v =>
      obtain ⟨hc,rfl⟩ := AtRequest.set_eq_ok hreq
      exact ⟨rfl,AtCommand.length_le_of_checkValue hc⟩
  have hc := AtCommand.code_length command
  cases queued <;> refine ⟨rfl,?_⟩ <;>
    simp [Request.toFrame,AtRequest.body,Frame.RawFrame.len,Frame.maxLength,hc] <;> omega

theorem remoteAt_frame {address : Address64} {command : AtCommand} {noApply : Bool}
    {vb : Option Bytes} {req : RemoteAtRequest}
    (hreq : vb.elim (.ok (RemoteAtRequest.query address command)) (RemoteAtRequest.set address command) =
      .ok req) :
    ((Request.remoteAt (if noApply then { req with applyChanges := false } else req)).withFrameId
        FrameId.first).toFrame =
        ⟨0x17,0x02 :: address.toBytes ++ [0xFF,0xFE] ++ [if noApply then 0x00 else 0x02] ++
          command.code ++ vb.getD []⟩ ∧
      (Request.remoteAt (if noApply then { req with applyChanges := false } else req)).toFrame.len ≤
        Frame.maxLength := by
  obtain ⟨rfl,hv⟩ : req = { destination64 := address,command,value := vb.getD [] } ∧
      (vb.getD []).length ≤ 20 := by
    cases vb with
    | none =>
      cases hreq
      exact ⟨rfl,by simp⟩
    | some v =>
      obtain ⟨hc,rfl⟩ := RemoteAtRequest.set_eq_ok hreq
      exact ⟨rfl,AtCommand.length_le_of_checkValue hc⟩
  have hc := AtCommand.code_length command
  have h16 : Address16.unknown.toBytes = [0xFF,0xFE] := rfl
  cases noApply <;>
    refine ⟨by simp [Request.withFrameId,Request.toFrame,RemoteAtRequest.body,h16,FrameId.first]; rfl,?_⟩ <;>
    simp [Request.toFrame,RemoteAtRequest.body,Frame.RawFrame.len,Frame.maxLength,hc,h16,Address64.toBytes,
      Bytes.ofNatBE] <;> omega

/-- The `at` and `remote-at` commands: a failed check exits with 64 before any link opens; otherwise
the request goes out as one frame and the run ends by the first answer carrying `0x02`. -/
theorem at_commands_exchange (h : Host) (addr : String) (hA : h.radioAddress = some addr)
    (format : Format) (link : LinkOptions) (hl : link.tcp = some addr) (command : AtCommand)
    (value : ValueOptions) :
    (∀ queued, AskContract h format link value (AtRequest.set command)
      (runLocal format link command value queued)
      fun vb => ⟨if queued then 0x09 else 0x08,0x02 :: command.code ++ vb.getD []⟩) ∧
    ∀ address noApply, AskContract h format link value (RemoteAtRequest.set address command)
      (runRemote format link address command value noApply)
      fun vb => ⟨0x17,0x02 :: address.toBytes ++ [0xFF,0xFE] ++ [if noApply then 0x00 else 0x02] ++
        command.code ++ vb.getD []⟩ := by
  refine ⟨fun queued => ?_,fun address noApply => ?_⟩
  · rw [runLocal_eq]
    exact checkedAsk_contract hA hl fun _ _ hreq => localAt_frame hreq
  · rw [runRemote_eq]
    exact checkedAsk_contract hA hl fun _ _ hreq => remoteAt_frame hreq

/-- The hardware version asked of a radio that answers it, and of one that hangs up instead. -/
theorem at_commands_exchange_answered :
    let answerer : Device := { replies := [[.frame 0x88 [0x00, 0x48, 0x56, 0x00, 0x1A, 0x46] true]] }
    let answering : Host := { radioAddress := some "127.0.0.1:9750", device := answerer }
    let hanging : Host := { radioAddress := some "127.0.0.1:9750", device := { replies := [[.hangup]] } }
    let link : LinkOptions := { port := none, baud := 9600, tcp := some "127.0.0.1:9750", timeout := "5s" }
    let f : Frame.RawFrame := ⟨0x08, [0x02, 0x48, 0x56]⟩
    let a := Response.ofFrame .standard ⟨0x88, [0x02, 0x48, 0x56, 0x00, 0x1A, 0x46]⟩
    answering.device.answerTo .standard FrameId.first f = some a ∧
      (transcript answering (runLocal .json link .hv ⟨none,none⟩ false)).deviceSaw = [f] ∧
      (transcript answering (runLocal .json link .hv ⟨none,none⟩ false)).ending = .exit exitSuccess ∧
      (∃ stamp, (transcript answering (runLocal .json link .hv ⟨none,none⟩ false)).stdout =
        frameLines .json stamp a) ∧
      (transcript hanging (runLocal .json link .hv ⟨none,none⟩ false)).ending = .exit exitTransport := by
  intro answerer answering hanging link f a
  have hT : parseDuration link.timeout = .ok (Duration.ofSecs 5) := by decide
  have hV : valueBytes (ValueOptions.hex ⟨none,none⟩) (ValueOptions.text ⟨none,none⟩) = .ok none := rfl
  have hs₁ : answering.Serves (Duration.ofSecs 5) :=
    ⟨by decide, by decide, by decide, by decide⟩
  have hs₂ : hanging.Serves (Duration.ofSecs 5) :=
    ⟨by decide, by decide, by decide, by decide⟩
  have ha : answering.device.answerTo .standard FrameId.first f = some a := by decide
  have hx₁ : Exchanged answering .json (runLocal .json link .hv ⟨none,none⟩ false) f :=
    ((at_commands_exchange answering "127.0.0.1:9750" rfl .json link rfl .hv ⟨none,none⟩).1
      false).exchanged _ none hT hV (fun _ h => by cases h) hs₁
  have hx₂ : Exchanged hanging .json (runLocal .json link .hv ⟨none,none⟩ false) f :=
    ((at_commands_exchange hanging "127.0.0.1:9750" rfl .json link rfl .hv ⟨none,none⟩).1
      false).exchanged _ none hT hV (fun _ h => by cases h) hs₂
  obtain ⟨hend,-,hout⟩ := hx₁.answered a ha
  refine ⟨ha,hx₁.read_once,?_,hout,(hx₂.hung_up (by decide) (by decide)).1⟩
  rw [hend]
  rfl

end Cli
end RadioLink
