import RadioLink.Proofs.Cli.Exchange
/-! The `listen` command prints the matching frames of its subscription, counting each after it
is printed (`exec_printUntil_some`), so a limit of zero prints one frame.
Main statement: `listen_prints_first_matching`. -/
namespace RadioLink
namespace Cli

open Run

/-! ### Opening the link -/

/-- The link options lead to the scripted radio: through its bridge's address, else its serial port. -/
def LinkOptions.Reaches (link : LinkOptions) (h : Host) : Prop :=
  (∃ addr, link.tcp = some addr ∧ h.radioAddress = some addr) ∨
    (link.tcp = none ∧ ∃ port, link.port = some port ∧ h.radioPort = some port)

theorem exec_openLink_reaches {link : LinkOptions} {t : Duration} {p : Process}
    (hreach : link.Reaches p.host) (ht : parseDuration link.timeout = .ok t) :
    exec (openLink link) p = (.ok (),{ p with rig := some (Rig.opened p.host.device t) }) := by
  rcases hreach with ⟨addr,hl,hA⟩ | ⟨hl,port,hp,hP⟩
  · exact exec_openLink_bridge hA hl ht
  · have hopen : Radio.open { defaultTimeout := t } Registry.standard =
        .ok (Rig.opened p.host.device t).radio := rfl
    simp [openLink,startRadio,attach,exec_bind,hl,hp,Host.openPort,hP,ht,hopen,Rig.opened]

theorem exec_wakeBy_none_asleep {p : Process} {r : Rig} (hr : p.rig = some r) (ha : r.awake = false)
    (hl : max p.now.nanos r.device.delay.nanos < p.host.limit.nanos) :
    exec (wakeBy none) p =
      (.ok (),{ p with now := ⟨max p.now.nanos r.device.delay.nanos⟩, rig := some r.wake }) := by
  have hsleep : exec (sleepUntil ⟨max p.now.nanos r.device.delay.nanos⟩) p =
      (.ok (),{ p with now := ⟨max p.now.nanos r.device.delay.nanos⟩ }) := by
    rw [exec_sleepUntil_of_lt hl,Nat.max_eq_right (Nat.le_max_left _ _)]
  simp only [wakeBy,exec_bind,exec_rig,hr,ha,Bool.not_false,Bool.and_self,if_true,exec_get,hsleep,
    exec_setRig]

theorem exec_mapM_parseFrameType {ts : List String} {l : List UInt8}
    (hl : ts.mapM parseFrameType = .ok l) (p : Process) :
    exec (ts.mapM fun t => orFail (parseFrameType t)) p = (.ok l,p) := by
  induction ts generalizing l with
  | nil =>
    cases hl
    rfl
  | cons s ts ih =>
    cases hs : parseFrameType s with
    | error f =>
      simp only [List.mapM_cons,hs] at hl
      cases hl
    | ok b =>
      cases hts : ts.mapM parseFrameType with
      | error f =>
        simp only [List.mapM_cons,hs,hts] at hl
        cases hl
      | ok l' =>
        simp only [List.mapM_cons,hs,hts] at hl
        cases hl
        simp [List.mapM_cons,exec_bind,hs,ih hts]

/-! ### The printing loop -/

theorem exec_printFrame (format : Format) (r : Response) (p : Process) :
    exec (printFrame format r) p =
      (.ok (),{ p with stdout := p.stdout ++ frameLines format (toString (p.host.epoch + p.now.secs)) r }) :=
  rfl

theorem exec_printUntil_some (format : Format) (c k : Nat) (ms : List Response) (p : Process) :
    exec (printUntil format (some c) k ms) p =
      if max (c - k) 1 ≤ ms.length then
        (.error (.exit exitSuccess),
          { p with stdout := p.stdout ++
                     (ms.take (max (c - k) 1)).flatMap
                       (frameLines format (toString (p.host.epoch + p.now.secs))) })
      else
        (.ok (),
          { p with stdout := p.stdout ++
                     ms.flatMap (frameLines format (toString (p.host.epoch + p.now.secs))) }) := by
  induction ms generalizing k p with
  | nil => simp [printUntil]
  | cons r rest ih =>
    simp only [printUntil,exec_bind,exec_printFrame]
    by_cases hc : k + 1 ≥ c
    · have h1 : max (c - k) 1 = 1 := by omega
      simp [hc,h1]
    · have h1 : max (c - k) 1 = max (c - (k + 1)) 1 + 1 := by omega
      rw [if_neg hc,ih]
      simp only [h1,List.length_cons,Nat.add_le_add_iff_right,List.take_succ_cons,
        List.flatMap_cons,List.append_assoc]

/-! ### The command -/

def listenRig (h : Host) (t : Duration) : Rig :=
  { Rig.opened h.device t with radio := (Rig.opened h.device t).radio.subscribe.2 }.wake

/-- Up to its printing, `listen` opens the link, subscribes and lets the device wake. -/
theorem exec_runListen (h : Host) (link : LinkOptions) (hreach : link.Reaches h) {t : Duration}
    (ht : parseDuration link.timeout = .ok t) (hwake : h.device.delay.nanos < h.limit.nanos)
    (format : Format) (frameTypes : Option (List String)) {types : Option (List UInt8)}
    (htypes : frameTypes.mapM (·.mapM parseFrameType) = .ok types) (count : Option Nat) :
    exec (runListen format link frameTypes count) { host := h } =
      exec (do
        printUntil format count 0 (((listenRig h t).radio.received 0).filter (passes types))
        if (← rig).radio.isConnected then hang else fail ⟨exitTransport,"link closed"⟩)
        { host := h, now := h.device.delay, rig := some (listenRig h t) } := by
  have hopen := exec_openLink_reaches (p := { host := h }) hreach ht
  have hsub : (Rig.opened h.device t).radio.subscribe.1 = 0 := rfl
  have hwk := exec_wakeBy_none_asleep
    (p := { host := h, rig := some { Rig.opened h.device t with
      radio := (Rig.opened h.device t).radio.subscribe.2 } }) rfl rfl
    (by simpa [Rig.opened] using hwake)
  simp only [Nat.zero_max] at hwk
  cases frameTypes with
  | none =>
    cases htypes
    simp only [runListen,exec_bind,exec_pure,hopen,subscribe,exec_rig,exec_setRig,hsub]
    rw [hwk]
    rfl
  | some ts =>
    obtain ⟨l,hl,rfl⟩ : ∃ l, ts.mapM parseFrameType = .ok l ∧ types = some l := by
      cases hts : ts.mapM parseFrameType with
      | error f => simp [hts] at htypes
      | ok l =>
        simp only [Option.mapM_some,hts] at htypes
        cases htypes
        exact ⟨l,rfl,rfl⟩
    simp only [runListen,exec_bind,exec_map,exec_mapM_parseFrameType hl,hopen,subscribe,exec_rig,
      exec_setRig,hsub,exec_pure]
    rw [hwk]
    rfl

/-- `listen --count N` prints the first `max N 1` frames of the chosen types, then exits with 0. -/
theorem listen_prints_first_matching (h : Host) (link : LinkOptions) (hreach : link.Reaches h)
    {t : Duration} (ht : parseDuration link.timeout = .ok t)
    (hwake : h.device.delay.nanos < h.limit.nanos) (format : Format)
    (frameTypes : Option (List String)) {types : Option (List UInt8)}
    (htypes : frameTypes.mapM (·.mapM parseFrameType) = .ok types) (N : Nat) :
    let ms := ((listenRig h t).radio.received 0).filter (passes types)
    let run := transcript h (runListen format link frameTypes (some N))
    (max N 1 ≤ ms.length → run.ending = .exit exitSuccess ∧ run.stderr = [] ∧
      ∃ stamp, run.stdout = (ms.take (max N 1)).flatMap (frameLines format stamp)) ∧
    (ms.length < max N 1 → (listenRig h t).radio.isConnected = false →
      run.ending = .exit exitTransport ∧ run.stderr = ["error: link closed"] ∧
      ∃ stamp, run.stdout = ms.flatMap (frameLines format stamp)) ∧
    (ms.length < max N 1 → (listenRig h t).radio.isConnected = true →
      run.ending = .stopped ∧ run.stderr = [] ∧
      ∃ stamp, run.stdout = ms.flatMap (frameLines format stamp)) := by
  intro ms run
  have hrunT : run = transcript h (runListen format link frameTypes (some N)) := rfl
  have hrun := exec_runListen h link hreach ht hwake format frameTypes htypes (some N)
  set p : Process := { host := h, now := h.device.delay, rig := some (listenRig h t) } with hp
  set stamp := toString (h.epoch + h.device.delay.secs)
  have hprint := exec_printUntil_some format N 0 ms p
  simp only [Nat.sub_zero] at hprint
  refine ⟨fun hle => ?_,fun hlt hdown => ?_,fun hlt hup => ?_⟩
  · rw [if_pos hle] at hprint
    have he : exec (runListen format link frameTypes (some N)) { host := h } =
        (.error (.exit exitSuccess),
          { p with stdout := [] ++ (ms.take (max N 1)).flatMap (frameLines format stamp) }) := by
      rw [hrun,exec_bind,hprint]
    rw [hrunT,transcript_eq,he]
    exact ⟨rfl,rfl,_,rfl⟩
  · rw [if_neg (by omega)] at hprint
    have he : exec (runListen format link frameTypes (some N)) { host := h } =
        (.error (.exit exitTransport),
          { p with stdout := [] ++ ms.flatMap (frameLines format stamp),
                   stderr := [] ++ ["error: link closed"] }) := by
      rw [hrun,exec_bind,hprint]
      simp [exec_bind,p,hdown]
      rfl
    rw [hrunT,transcript_eq,he]
    exact ⟨rfl,rfl,_,rfl⟩
  · rw [if_neg (by omega)] at hprint
    have he : exec (runListen format link frameTypes (some N)) { host := h } =
        (.error .stopped,
          { p with stdout := [] ++ ms.flatMap (frameLines format stamp), now := h.limit }) := by
      rw [hrun,exec_bind,hprint]
      simp [exec_bind,p,hup,hang]
      rfl
    rw [hrunT,transcript_eq,he]
    exact ⟨rfl,rfl,_,rfl⟩

/-- A device writes a modem status and a data sample; with only modem status wanted, one prints. -/
theorem listen_prints_first_matching_filtered :
    let h : Host := { radioPort := some "/dev/pts/1",
                      device := { unsolicited := [.frame 0x8A [0x06] false,
                                                  .frame 0x92 [0x00,0x13,0xA2,0x00] false] } }
    let link : LinkOptions := { port := some "/dev/pts/1", baud := 9600, tcp := none, timeout := "5s" }
    let ms := ((listenRig h (Duration.ofSecs 5)).radio.received 0).filter (passes (some [0x8A]))
    let run := transcript h (runListen .json link (some ["0x8a"]) (some 1))
    link.Reaches h ∧ parseDuration link.timeout = .ok (Duration.ofSecs 5) ∧
      h.device.delay.nanos < h.limit.nanos ∧
      (some ["0x8a"]).mapM (·.mapM parseFrameType) = .ok (some [0x8A]) ∧
      (max 1 1 ≤ ms.length → run.ending = .exit exitSuccess ∧ run.stderr = [] ∧
        ∃ stamp, run.stdout = (ms.take (max 1 1)).flatMap (frameLines .json stamp)) ∧
      (ms.length < max 1 1 → (listenRig h (Duration.ofSecs 5)).radio.isConnected = false →
        run.ending = .exit exitTransport ∧ run.stderr = ["error: link closed"] ∧
        ∃ stamp, run.stdout = ms.flatMap (frameLines .json stamp)) ∧
      (ms.length < max 1 1 → (listenRig h (Duration.ofSecs 5)).radio.isConnected = true →
        run.ending = .stopped ∧ run.stderr = [] ∧
        ∃ stamp, run.stdout = ms.flatMap (frameLines .json stamp)) := by
  intro h link ms run
  have hreach : link.Reaches h := Or.inr ⟨rfl,_,rfl,rfl⟩
  have ht : parseDuration link.timeout = .ok (Duration.ofSecs 5) := by decide
  have hwake : h.device.delay.nanos < h.limit.nanos := by decide
  have htypes : (some ["0x8a"]).mapM (·.mapM parseFrameType) = .ok (some [0x8A]) := by decide
  exact ⟨hreach,ht,hwake,htypes,listen_prints_first_matching h link hreach ht hwake .json _ htypes 1⟩

/-- `listen --count 0` prints the device's one frame and exits with 0: the limit is checked after. -/
theorem listen_count_zero_prints_a_frame :
    let h : Host := { radioPort := some "/dev/pts/1",
                      device := { unsolicited := [.frame 0x8A [0x06] false] } }
    let link : LinkOptions := { port := some "/dev/pts/1", baud := 9600, tcp := none, timeout := "5s" }
    (transcript h (runListen .json link none (some 0))).ending = .exit exitSuccess ∧
      (transcript h (runListen .json link none (some 0))).stdout ≠ [] := by
  intro h link
  have hrun := exec_runListen h link (Or.inr ⟨rfl,_,rfl,rfl⟩) (t := Duration.ofSecs 5) (by decide)
    (by decide) .json none
    (show (none : Option (List String)).mapM (·.mapM parseFrameType) = .ok none from rfl) (some 0)
  set p : Process := { host := h, now := h.device.delay, rig := some (listenRig h (Duration.ofSecs 5)) }
  obtain ⟨m,hm⟩ : ∃ m, ((listenRig h (Duration.ofSecs 5)).radio.received 0).filter (passes none) = [m] :=
    List.length_eq_one_iff.mp (by decide)
  have hprint := exec_printUntil_some .json 0 0 [m] p
  rw [if_pos (by simp)] at hprint
  rw [hm,exec_bind,hprint] at hrun
  rw [transcript_eq,hrun]
  exact ⟨rfl,by simp [frameLines]⟩

end Cli
end RadioLink
