import RadioLink.Proofs.Cli.Collection
/-! The `discover` command. With `--wait` it prints every answer the device writes before the
deadline (`transcript_runDiscover_wait`); without it, it first asks the radio for its discovery
timeout and waits that long under the next fresh identifier (`transcript_runDiscover_default`).
Main statement: `discover_collects_answers`. -/
namespace RadioLink

namespace Radio

variable {r : Radio}

theorem getElem?_subscribers_dispatch {i : Nat} {s : Subscription} (h : r.subscribers[i]? = some s)
    (hl : s.linked = true) (hs : s.listening = true) (f : Response) :
    (r.dispatch f).subscribers[i]? = some { s with frames := s.frames ++ [f] } := by
  simp [subscribers_dispatch,h,Subscription.offer,hl,hs]

theorem getElem?_subscribers_foldl_receiveFrame {i : Nat} {s : Subscription}
    (h : r.subscribers[i]? = some s) (hl : s.linked = true) (hs : s.listening = true)
    (fs : List Frame.RawFrame) :
    (fs.foldl receiveFrame r).subscribers[i]? =
      some { s with frames := s.frames ++ fs.map (Response.ofFrame r.registry) } := by
  induction fs generalizing r s with
  | nil => simpa using h
  | cons f fs ih =>
    have h' : (r.receiveFrame f).subscribers[i]? =
        some { s with frames := s.frames ++ [Response.ofFrame r.registry f] } := by
      rw [receiveFrame_eq]
      exact getElem?_subscribers_dispatch h hl hs _
    rw [List.foldl_cons,ih h' hl hs,registry_receiveFrame]
    simp

end Radio

namespace Cli

theorem Rig.received_wake_one {r : Rig} {f : Frame.RawFrame} (ha : r.awake = false)
    (hu : r.unread = [f]) (hs : r.saw = []) (hg : r.gone = false) (hin : r.radio.inbound = [])
    (hread : r.radio.reading = true)
    (hraw : ∀ x ∈ r.device.unsolicited ++ r.device.firstReplies, x.isRaw = false)
    (hh : .hangup ∉ r.device.unsolicited) {i : Nat} {sub : Subscription}
    (hi : r.radio.subscribers[i]? = some sub) (hl : sub.linked = true) (hsl : sub.listening = true) :
    r.wake.saw = [f] ∧
      r.wake.radio.received i = sub.frames ++ (r.device.framesFor f).map (Response.ofFrame r.radio.registry) := by
  have hsub := Radio.getElem?_subscribers_foldl_receiveFrame hi hl hsl (r.device.framesFor f)
  rw [Rig.wake_one_eq ha hu hs hg hin hread hraw hh]
  split
  · refine ⟨rfl,?_⟩
    rw [Radio.received_endOfStream]
    simp [Radio.received,hsub]
  · simp [Radio.received,hsub]

open Run

/-! ### Node answers -/

/-- The answers to the discovery `id` are the local command responses carrying `id` and a node. -/
theorem answerTo_eq_some_iff {id : FrameId} {r : Response} {n : NodeDiscovery} :
    answerTo id r = some n ↔ ∃ a, r = .localAt a ∧ a.frameId = id ∧ a.response = some (.nodeDiscovery n) := by
  constructor
  · intro h
    cases r with
    | localAt a =>
      rcases hr : a.response with _ | v
      · simp [answerTo,hr] at h
      · cases v with
        | nodeDiscovery m =>
          by_cases hid : a.frameId = id
          · simp only [answerTo,hr,hid,beq_self_eq_true,if_true,Option.some.injEq] at h
            exact ⟨a,rfl,hid,by rw [hr,h]⟩
          · simp [answerTo,hr,hid] at h
        | _ => simp [answerTo,hr] at h
    | _ => simp [answerTo] at h
  · rintro ⟨a,rfl,rfl,hr⟩
    simp [answerTo,hr]

/-! ### The command -/

def discoverRequest (id : FrameId) : Request := .at { AtRequest.query .nd with frameId := id }

def discoverRig (h : Host) (t : Duration) : Rig :=
  let radio := (Rig.opened h.device t).radio.subscribe.2.nextFrameId.2
  { Rig.opened h.device t with
    radio := { radio with stats := { radio.stats with framesSent := 1 } },
    unread := [(discoverRequest FrameId.first).toFrame] }

theorem exec_runDiscover_wait (h : Host) (link : LinkOptions) (hreach : link.Reaches h)
    {t : Duration} (ht : parseDuration link.timeout = .ok t) (format : Format) {s : String}
    {W : Duration} (hW : parseDuration s = .ok W) :
    exec (runDiscover format link (some s)) { host := h } =
      exec (do say (nodeLines format (← collectNodes 0 FrameId.first W)))
        { host := h, rig := some (discoverRig h t) } := by
  have hopen := exec_openLink_reaches (p := { host := h }) hreach ht
  let radio := (Rig.opened h.device t).radio.subscribe.2.nextFrameId.2
  have hsub : (Rig.opened h.device t).radio.subscribe.1 = 0 := rfl
  have hid : (Rig.opened h.device t).radio.subscribe.2.nextFrameId.1 = FrameId.first := rfl
  have hsend : radio.send (discoverRequest FrameId.first) =
      .ok ((discoverRequest FrameId.first).toFrame,
        { radio with stats := { radio.stats with framesSent := 1 } }) := rfl
  simp only [runDiscover,exec_bind,exec_orFail,ht,hW,hopen,subscribe,nextFrameId,send,exec_rig,
    exec_setRig,exec_pure,hsub,hid]
  rw [show Request.at { AtRequest.query .nd with frameId := FrameId.first } =
    discoverRequest FrameId.first from rfl,hsend]
  simp only [exec_bind,exec_setRig,exec_pure,Rig.transmit,
    show (Rig.opened h.device t).awake = false from rfl,Bool.false_eq_true,if_false]
  rfl

theorem transcript_of_collect {h : Host} {x : Run Unit} {P q : Process} {format : Format} {w : Nat}
    {id : FrameId} {W : Duration} {ns : List NodeDiscovery}
    (hx : exec x { host := h } = exec (do say (nodeLines format (← collectNodes w id W))) P)
    (hq : exec (collectNodes w id W) P = (.ok ns,q)) (hqo : q.stdout = []) (hqe : q.stderr = []) :
    (transcript h x).ending = .exit exitSuccess ∧ (transcript h x).stderr = [] ∧
      (transcript h x).deviceSaw = (q.rig.map (·.saw)).getD [] ∧
      (transcript h x).stdout = nodeLines format ns := by
  have he : exec x { host := h } = (.ok (),{ q with stdout := q.stdout ++ nodeLines format ns }) := by
    rw [hx,exec_bind,hq]
    rfl
  rw [transcript_eq,he]
  simp [hqo,hqe]

theorem parseDuration_pos {s : String} {W : Duration} (h : parseDuration s = .ok W) : 0 < W.nanos := by
  unfold parseDuration at h
  dsimp only at h
  split at h
  · nomatch h
  · split at h
    · nomatch h
    · nomatch h
    · next _ n hn _ =>
      rw [Except.ok.injEq] at h
      subst h
      have hpos : 0 < n := Nat.pos_of_ne_zero hn
      split_ifs <;> simp only [Duration.ofMillis,Duration.ofSecs,Duration.nanosPerSec] <;> omega

theorem deadlineAfter_of_lt {now wait : Duration} (h : now.nanos + wait.nanos < clockEnd.nanos) :
    deadlineAfter now wait = some ⟨now.nanos + wait.nanos⟩ := by
  simp [deadlineAfter,h]

/-- `discover --wait W` prints every answer the device writes before `W` and exits with status 0. -/
theorem transcript_runDiscover_wait (h : Host) (link : LinkOptions) (hreach : link.Reaches h)
    (hclock : h.limit.nanos ≤ clockEnd.nanos) {t : Duration} (ht : parseDuration link.timeout = .ok t)
    (format : Format) {s : String} {W : Duration} (hW : parseDuration s = .ok W) :
    let f := (discoverRequest FrameId.first).toFrame
    let run := transcript h (runDiscover format link (some s))
    (h.Serves W →
      run.ending = .exit exitSuccess ∧ run.stderr = [] ∧ run.deviceSaw = [f] ∧
        run.stdout = nodeLines format
          (((h.device.framesFor f).map (Response.ofFrame .standard)).filterMap (answerTo FrameId.first))) ∧
    (W.nanos ≤ h.device.delay.nanos → W.nanos < h.limit.nanos →
      run.ending = .exit exitSuccess ∧ run.stderr = [] ∧ run.deviceSaw = [] ∧
        run.stdout = nodeLines format []) := by
  intro f run
  have hpos := parseDuration_pos hW
  have hlink : (discoverRig h t).radio.holds 0 = true := rfl
  have hdl : W.nanos < h.limit.nanos → deadlineAfter ⟨0⟩ W = some W := fun hlim => by
    rw [deadlineAfter_of_lt (by dsimp only; omega),Nat.zero_add]
  refine ⟨fun hs => ?_,fun hlate hlim => ?_⟩
  · have hd : h.device.delay.nanos < W.nanos := hs.wakes
    have hwake : (discoverRig h t).byDeadline (deadlineAfter ⟨0⟩ W) = (discoverRig h t).wake := by
      simp [hdl hs.within_limit,Rig.byDeadline,Rig.wakesBy,discoverRig,Rig.opened,hd]
    obtain ⟨hcol,-⟩ := exec_collectNodes (p := { host := h, rig := some (discoverRig h t) })
      (r := discoverRig h t) rfl 0 FrameId.first hpos (by simpa using hpos.trans hs.within_limit)
      (fun _ => by simpa [discoverRig,Rig.opened] using hd.trans hs.within_limit)
    obtain ⟨q,hq,-,hqo,hqe,hqr⟩ := hcol (Or.inr (by simpa [hdl hs.within_limit] using hs.within_limit))
    obtain ⟨hsaw,hrec⟩ := Rig.received_wake_one (r := discoverRig h t) (f := f) rfl rfl rfl rfl rfl rfl
      hs.frames_only hs.reads (show (discoverRig h t).radio.subscribers[0]? = some {} from rfl) rfl rfl
    simp only [hlink,if_true,hwake,hrec] at hq hqr
    obtain ⟨hend,herr,hsaw',hout⟩ :=
      transcript_of_collect (exec_runDiscover_wait h link hreach ht format hW) hq hqo hqe
    exact ⟨hend,herr,by simpa [hqr,hsaw] using hsaw',hout⟩
  · have hsleep : (discoverRig h t).byDeadline (deadlineAfter ⟨0⟩ W) = discoverRig h t := by
      have hnot : ¬ h.device.delay.nanos < W.nanos := by omega
      simp [hdl hlim,Rig.byDeadline,Rig.wakesBy,discoverRig,Rig.opened,hnot]
    obtain ⟨hcol,-⟩ := exec_collectNodes (p := { host := h, rig := some (discoverRig h t) })
      (r := discoverRig h t) rfl 0 FrameId.first hpos (by simpa using hpos.trans hlim)
      (fun hw => absurd hw (by simp [Rig.wakesBy,hdl hlim,discoverRig,Rig.opened]; exact decide_eq_false (by omega)))
    obtain ⟨q,hq,-,hqo,hqe,hqr⟩ := hcol (Or.inr (by simpa [hdl hlim] using hlim))
    simp only [hlink,if_true,hsleep] at hq hqr
    obtain ⟨hend,herr,hsaw,hout⟩ :=
      transcript_of_collect (exec_runDiscover_wait h link hreach ht format hW) hq hqo hqe
    exact ⟨hend,herr,by rw [hsaw,hqr]; rfl,hout⟩

/-! ### The default wait -/

def ntFrame : Frame.RawFrame := ((Request.at (AtRequest.query .nt)).withFrameId FrameId.first).toFrame

def Device.secondReplies (d : Device) : List Reply := (d.replies[1]?).getD []

/-- The link once `discover` has subscribed and sent its node discovery under the identifier `3`. -/
def Rig.sentDiscovery (R : Rig) : Rig :=
  let radio := R.radio.subscribe.2.nextFrameId.2
  { R with radio := { radio with stats := { radio.stats with framesSent := radio.stats.framesSent + 1 } } }.transmit
    (discoverRequest ⟨3⟩).toFrame

theorem Rig.sentDiscovery_eq {R : Rig} {d : Device} {t : Duration}
    (hR : R.AfterCall (Rig.opened d t) ntFrame) (hraw : ∀ x ∈ d.secondReplies, x.isRaw = false) :
    R.sentDiscovery.awake = true ∧ R.sentDiscovery.saw = [ntFrame,(discoverRequest ⟨3⟩).toFrame] ∧
      R.sentDiscovery.radio.received 0 =
        (Reply.framesOf (some 3) d.secondReplies).map (Response.ofFrame .standard) ∧
      R.sentDiscovery.radio.holds 0 = !decide (Reply.hangup ∈ d.secondReplies) := by
  have hnil : R.radio.subscribers = [] := List.eq_nil_of_length_eq_zero hR.subscribers
  let radio := R.radio.subscribe.2.nextFrameId.2
  let radio' : Radio := { radio with stats := { radio.stats with framesSent := radio.stats.framesSent + 1 } }
  have hsub : radio'.subscribers[0]? = some { linked := true } := by
    simp [radio',radio,Radio.subscribe,Radio.nextFrameId,hnil,hR.connected]
  have hin : radio'.inbound = [] := hR.inbound_nil
  have hread : radio'.reading = true := hR.reading
  have hreg : radio'.registry = .standard := hR.registry
  have hserve : R.sentDiscovery =
      { R with radio := radio', saw := [ntFrame,(discoverRequest ⟨3⟩).toFrame] }.deliver (some 3)
        d.secondReplies := by
    simp [Rig.sentDiscovery,Rig.transmit,hR.awake,Rig.serve,hR.gone,hR.saw,hR.device,Device.secondReplies,
      radio',radio]
    rfl
  have hfold := Radio.getElem?_subscribers_foldl_receiveFrame hsub rfl rfl
    (Reply.framesOf (some 3) d.secondReplies)
  rw [hserve,Rig.deliver_eq (r := { R with radio := radio', saw := [ntFrame,(discoverRequest ⟨3⟩).toFrame] })
    _ _ hraw hin hread]
  split
  · next hh =>
    have hread' := (Radio.foldl_receiveFrame_idle (r := radio') (Reply.framesOf (some 3) d.secondReplies)).2.1
    refine ⟨hR.awake,rfl,?_,?_⟩
    · rw [Radio.received_endOfStream]
      simp [Radio.received,hfold,hreg]
    · simp [Radio.holds_endOfStream (hread'.trans hread),hh]
  · next hh =>
    refine ⟨hR.awake,rfl,?_,?_⟩
    · simp [Radio.received,hfold,hreg]
    · simp [Radio.holds,hfold,hh]

theorem exec_runDiscover_default (h : Host) (link : LinkOptions) (hreach : link.Reaches h)
    {t : Duration} (ht : parseDuration link.timeout = .ok t) (hs : h.Serves t)
    (hd : .hangup ∉ h.device.firstReplies) {a : LocalAtResponse} {W : Duration}
    (hans : h.device.answerTo .standard FrameId.first ntFrame = some (.localAt a))
    (hW : a.response = some (.discoveryTimeout W)) (format : Format) :
    ∃ R : Rig, R.AfterCall (Rig.opened h.device t) ntFrame ∧
      exec (runDiscover format link none) { host := h } =
        exec (do say (nodeLines format (← collectNodes 0 ⟨3⟩ W)))
          { host := h, now := h.device.delay, rig := some R.sentDiscovery } := by
  have hopen := exec_openLink_reaches (p := { host := h }) hreach ht
  obtain ⟨R,hcall,hR⟩ := exec_call_answered (p := { host := h, rig := some (Rig.opened h.device t) })
    rfl rfl rfl rfl rfl (Rig.opened_ready h.device t) hs.frames_only hs.reads hd
    (show (Request.at (AtRequest.query .nt)).toFrame.len ≤ Frame.maxLength by decide)
    (by simpa [Rig.opened] using hs.wakes)
    (by simpa using hs.within_limit) hans
  refine ⟨R,hR,?_⟩
  obtain ⟨fid,cmd,st,resp⟩ := a
  cases hW
  have hnil : R.radio.subscribers = [] := List.eq_nil_of_length_eq_zero hR.subscribers
  have hid : R.radio.subscribe.2.nextFrameId.1 = ⟨3⟩ := by
    simp only [Radio.subscribe,Radio.nextFrameId,hR.ids]
    rfl
  have hsub : R.radio.subscribe.1 = 0 := by simp [Radio.subscribe,hnil]
  have hsend : R.radio.subscribe.2.nextFrameId.2.send (discoverRequest ⟨3⟩) =
      .ok ((discoverRequest ⟨3⟩).toFrame,
        { R.radio.subscribe.2.nextFrameId.2 with
          stats := { R.radio.subscribe.2.nextFrameId.2.stats with
            framesSent := R.radio.subscribe.2.nextFrameId.2.stats.framesSent + 1 } }) :=
    Radio.send_of_fits hR.connected (by decide)
  simp only [runDiscover,exec_bind,exec_orFail,ht,hopen,discoveryTimeout,hcall,subscribe,nextFrameId,send,
    exec_rig,exec_setRig,exec_pure,Nat.zero_max]
  unfold discoverRequest at hsend
  rw [hid,hsend,hsub]
  simp only [exec_bind,exec_setRig,exec_pure]
  rfl

/-- `discover` waits the discovery timeout the radio reports and prints each answer under `3`. -/
theorem transcript_runDiscover_default (h : Host) (link : LinkOptions) (hreach : link.Reaches h)
    (hclock : h.limit.nanos ≤ clockEnd.nanos) {t : Duration} (ht : parseDuration link.timeout = .ok t)
    (hs : h.Serves t) (hd : .hangup ∉ h.device.firstReplies) {a : LocalAtResponse} {W : Duration}
    (hans : h.device.answerTo .standard FrameId.first ntFrame = some (.localAt a))
    (hW : a.response = some (.discoveryTimeout W)) (hraw : ∀ x ∈ h.device.secondReplies, x.isRaw = false)
    (hlim : h.device.delay.nanos + W.nanos < h.limit.nanos) (format : Format) :
    let run := transcript h (runDiscover format link none)
    run.ending = .exit exitSuccess ∧ run.stderr = [] ∧
      run.deviceSaw = [ntFrame,(discoverRequest ⟨3⟩).toFrame] ∧
      run.stdout = nodeLines format (if W.nanos = 0 then [] else
        ((Reply.framesOf (some 3) h.device.secondReplies).map (Response.ofFrame .standard)).filterMap
          (answerTo ⟨3⟩)) := by
  intro run
  obtain ⟨R,hR,hexec⟩ := exec_runDiscover_default h link hreach ht hs hd hans hW format
  obtain ⟨hawake,hsaw,hrec,-⟩ := Rig.sentDiscovery_eq hR hraw
  set P : Process := { host := h, now := h.device.delay, rig := some R.sentDiscovery }
  -- the device is awake, so the wait wakes nothing and the collection is one read
  obtain ⟨q,hq,hqo,hqe,hqr⟩ : ∃ q, exec (collectNodes 0 ⟨3⟩ W) P =
      (.ok (if W.nanos = 0 then [] else (R.sentDiscovery.radio.received 0).filterMap (answerTo ⟨3⟩)),q) ∧
      q.stdout = [] ∧ q.stderr = [] ∧ q.rig = some R.sentDiscovery := by
    by_cases hW0 : W.nanos = 0
    · obtain ⟨n⟩ := W
      obtain rfl : n = 0 := hW0
      have hz := exec_collectNodes_zero (p := P) rfl 0 ⟨3⟩ (by simp only [P]; omega)
        (by simp only [P]; omega)
      exact ⟨P,by simpa using hz,rfl,rfl,rfl⟩
    · have hdl : deadlineAfter P.now W = some ⟨h.device.delay.nanos + W.nanos⟩ :=
        deadlineAfter_of_lt (show h.device.delay.nanos + W.nanos < clockEnd.nanos by omega)
      obtain ⟨hcol,-⟩ := exec_collectNodes (p := P) rfl 0 ⟨3⟩ (show 0 < W.nanos by omega)
        (show h.device.delay.nanos < h.limit.nanos by omega) (fun hw => absurd hw (by simp [Rig.wakesBy,hawake]))
      obtain ⟨q,hq,-,hqo,hqe,hqr⟩ := hcol (Or.inr (by rw [hdl]; exact decide_eq_true hlim))
      simp only [Rig.byDeadline_of_awake hawake,ite_self] at hq hqr
      exact ⟨q,by simpa [hW0] using hq,hqo,hqe,hqr⟩
  obtain ⟨hend,herr,hsaw',hout⟩ := transcript_of_collect hexec hq hqo hqe
  exact ⟨hend,herr,hsaw'.trans (by simp [hqr,hsaw]),hout.trans (by rw [hrec])⟩

/-- Node collection keeps exactly the answers to its discovery, from the receive loop over timed
arrivals to the `discover` command with and without `--wait`. -/
theorem discover_collects_answers (h : Host) (link : LinkOptions) (hreach : link.Reaches h)
    (hclock : h.limit.nanos ≤ clockEnd.nanos) {t : Duration} (ht : parseDuration link.timeout = .ok t)
    (format : Format) :
    (∀ (id : FrameId) (r : Response) (n : NodeDiscovery),
      answerTo id r = some n ↔ ∃ a, r = .localAt a ∧ a.frameId = id ∧ a.response = some (.nodeDiscovery n)) ∧
    (∀ (id : FrameId) (closesAt : Option Duration) (now : Duration) (arrivals : List (Duration × Response)),
      ClosesAfter closesAt now arrivals →
      collectLoop id closesAt none [] now arrivals =
        closesAt.map fun c => (arrivals.filterMap (answerTo id ·.2),c)) ∧
    (∀ (id : FrameId) (closesAt : Option Duration) (d now : Duration) (arrivals : List (Duration × Response)),
      arrivals.Pairwise (fun a b => a.1.nanos ≤ b.1.nanos) → ClosesAfter closesAt now arrivals →
      now.nanos < d.nanos →
      collectLoop id closesAt (some d) [] now arrivals =
        some ((arrivals.filter (·.1.nanos < d.nanos)).filterMap (answerTo id ·.2),
          (closesAt.filter (·.nanos < d.nanos)).getD d)) ∧
    (∀ (p : Process) (r : Rig), p.rig = some r → ∀ (w : Nat) (id : FrameId) (wait : Duration),
      0 < wait.nanos → p.now.nanos < p.host.limit.nanos →
      (r.wakesBy (deadlineAfter p.now wait) = true →
        max p.now.nanos r.device.delay.nanos < p.host.limit.nanos) →
      let d := deadlineAfter p.now wait
      let r' := if r.radio.holds w then r.byDeadline d else r
      (r'.radio.holds w = false ∨ d.any (·.nanos < p.host.limit.nanos) →
        ∃ q, exec (collectNodes w id wait) p = (.ok ((r'.radio.received w).filterMap (answerTo id)),q) ∧
          q.host = p.host ∧ q.stdout = p.stdout ∧ q.stderr = p.stderr ∧ q.rig = some r') ∧
      (r'.radio.holds w = true → d.all (p.host.limit.nanos ≤ ·.nanos) →
        ∃ q, exec (collectNodes w id wait) p = (.error .stopped,q) ∧
          q.stdout = p.stdout ∧ q.stderr = p.stderr)) ∧
    (∀ (s : String) (W : Duration), parseDuration s = .ok W →
      let f := (discoverRequest FrameId.first).toFrame
      let run := transcript h (runDiscover format link (some s))
      (h.Serves W →
        run.ending = .exit exitSuccess ∧ run.stderr = [] ∧ run.deviceSaw = [f] ∧
          run.stdout = nodeLines format
            (((h.device.framesFor f).map (Response.ofFrame .standard)).filterMap (answerTo FrameId.first))) ∧
      (W.nanos ≤ h.device.delay.nanos → W.nanos < h.limit.nanos →
        run.ending = .exit exitSuccess ∧ run.stderr = [] ∧ run.deviceSaw = [] ∧
          run.stdout = nodeLines format [])) ∧
    (∀ (a : LocalAtResponse) (W : Duration), h.Serves t → .hangup ∉ h.device.firstReplies →
      h.device.answerTo .standard FrameId.first ntFrame = some (.localAt a) →
      a.response = some (.discoveryTimeout W) → (∀ x ∈ h.device.secondReplies, x.isRaw = false) →
      h.device.delay.nanos + W.nanos < h.limit.nanos →
      let run := transcript h (runDiscover format link none)
      run.ending = .exit exitSuccess ∧ run.stderr = [] ∧
        run.deviceSaw = [ntFrame,(discoverRequest ⟨3⟩).toFrame] ∧
        run.stdout = nodeLines format (if W.nanos = 0 then [] else
          ((Reply.framesOf (some 3) h.device.secondReplies).map (Response.ofFrame .standard)).filterMap
            (answerTo ⟨3⟩))) :=
  ⟨fun _ _ _ => answerTo_eq_some_iff,
    fun _ _ _ _ hclose => collectLoop_none hclose [],
    fun _ _ _ _ _ hsorted hclose hnow => collectLoop_some hsorted hclose hnow [],
    fun _ _ hr w id _ hwait hnow hl => exec_collectNodes hr w id hwait hnow hl,
    fun _ _ hW => transcript_runDiscover_wait h link hreach hclock ht format hW,
    fun _ _ hs hd hans hW hraw hlim =>
      transcript_runDiscover_default h link hreach hclock ht hs hd hans hW hraw hlim format⟩

/-- A device that answers the NT query, then the discovery with the node `PROBE`: it alone prints. -/
theorem discover_collects_answers_probe :
    let probe : Device :=
      { replies := [[.frame 0x88 [0x00,0x4E,0x54,0x00,0x00,0x3C] true],
          [.frame 0x88 [0x00,0x4E,0x44,0x00,0xAE,0x38,0x00,0x13,0xA2,0x00,0x40,0x2D,0x03,0x0D,
            0x50,0x52,0x4F,0x42,0x45,0x00,0xFF,0xFE,0x01,0x00,0xC1,0x05,0x10,0x1E] true,
           .frame 0x8A [0x02] false,.hangup]] }
    let h : Host := { radioPort := some "/dev/pts/1", device := probe }
    let link : LinkOptions := { port := some "/dev/pts/1", baud := 9600, tcp := none, timeout := "5s" }
    link.Reaches h ∧ h.limit.nanos ≤ clockEnd.nanos ∧ parseDuration link.timeout = .ok (Duration.ofSecs 5) ∧
      (transcript h (runDiscover .json link none)).ending = .exit exitSuccess ∧
      (transcript h (runDiscover .json link none)).deviceSaw = [ntFrame,(discoverRequest ⟨3⟩).toFrame] ∧
      (transcript h (runDiscover .json link none)).stdout =
        nodeLines .json [⟨⟨0xAE38⟩,⟨0x0013A200402D030D⟩,"PROBE",⟨0xFFFE⟩,.router,0,0xC105,0x101E⟩] := by
  intro probe h link
  have hreach : link.Reaches h := Or.inr ⟨rfl,_,rfl,rfl⟩
  have hclock : h.limit.nanos ≤ clockEnd.nanos := by decide
  have ht : parseDuration link.timeout = .ok (Duration.ofSecs 5) := by decide
  have hs : h.Serves (Duration.ofSecs 5) := ⟨by decide,by decide,by decide,by decide⟩
  have hans : h.device.answerTo .standard FrameId.first ntFrame =
      some (.localAt ⟨FrameId.first,.nt,.ok,some (.discoveryTimeout (Duration.ofMillis 6000))⟩) := by
    decide
  have hnodes : ((Reply.framesOf (some 3) h.device.secondReplies).map (Response.ofFrame .standard)).filterMap
      (answerTo ⟨3⟩) = [⟨⟨0xAE38⟩,⟨0x0013A200402D030D⟩,"PROBE",⟨0xFFFE⟩,.router,0,0xC105,0x101E⟩] := by
    decide
  obtain ⟨hend,-,hsaw,hout⟩ := (discover_collects_answers h link hreach hclock ht .json).2.2.2.2.2 _ _ hs
    (by decide) hans rfl (by decide) (by decide)
  refine ⟨hreach,hclock,ht,hend,hsaw,?_⟩
  rw [hout,hnodes]
  rfl

end Cli
end RadioLink
