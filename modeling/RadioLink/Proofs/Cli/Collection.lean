import RadioLink.Proofs.Cli.Listen
import RadioLink.Proofs.Link.Delivery
/-! The receive loop of node collection. Over responses in order of arrival it keeps the answers
among those that arrive before the deadline (`collectLoop_some`), or all of them without one
(`collectLoop_none`). Since a subscription only ever grows (`Rig.extends_wake`), running the loop
over what the subscription holds is one read of it once the wait is over (`exec_collectNodes`). -/
namespace RadioLink

namespace Radio

/-- Each subscription of `r'` starts with what it received in `r`. -/
def Extends (r r' : Radio) : Prop := ∀ i, r.received i <+: r'.received i

theorem Extends.refl (r : Radio) : r.Extends r := fun _ => List.prefix_refl _

theorem Extends.trans {r₁ r₂ r₃ : Radio} (h₁ : r₁.Extends r₂) (h₂ : r₂.Extends r₃) : r₁.Extends r₃ :=
  fun i => (h₁ i).trans (h₂ i)

theorem extends_of_subscribers {r r' : Radio} (h : r'.subscribers = r.subscribers) : r.Extends r' := by
  intro i
  simp [received,h]

theorem Subscription.frames_prefix_offer (s : Subscription) (f : Response) :
    s.frames <+: (s.offer f).frames := by
  unfold Subscription.offer
  split_ifs <;> simp

theorem extends_dispatch (r : Radio) (f : Response) : r.Extends (r.dispatch f) := by
  intro i
  simp only [received,subscribers_dispatch,List.getElem?_map]
  cases r.subscribers[i]? <;> simp [Subscription.frames_prefix_offer]

theorem extends_receiveFrame (r : Radio) (f : Frame.RawFrame) : r.Extends (r.receiveFrame f) := by
  rw [receiveFrame_eq]
  exact (extends_dispatch r _).trans (extends_of_subscribers rfl)

theorem extends_readAll (n : Nat) (r : Radio) : r.Extends (r.readAll n) := by
  induction n generalizing r with
  | zero => exact Extends.refl r
  | succ n ih =>
    simp only [readAll]
    split
    · exact extends_of_subscribers rfl
    · exact ((extends_of_subscribers (by rfl)).trans (extends_receiveFrame _ _)).trans (ih _)
    · exact (extends_of_subscribers (by rfl)).trans (ih _)
    · exact (extends_of_subscribers (by rfl)).trans (ih _)

theorem extends_ingest (r : Radio) (bs : Bytes) : r.Extends (r.ingest bs) := by
  unfold ingest
  split
  · exact (extends_of_subscribers (by rfl)).trans (extends_readAll _ _)
  · exact Extends.refl r

@[simp] theorem received_endOfStream (r : Radio) (i : Nat) : r.endOfStream.received i = r.received i := by
  unfold endOfStream
  split
  · simp only [release,releaseWaiters,received,List.getElem?_map]
    cases r.subscribers[i]? <;> rfl
  · rfl

theorem extends_endOfStream (r : Radio) : r.Extends r.endOfStream := by
  intro i
  rw [received_endOfStream]

theorem holds_endOfStream {r : Radio} (h : r.reading = true) (i : Nat) : r.endOfStream.holds i = false := by
  simp only [endOfStream,h,if_true,release,releaseWaiters,holds,List.getElem?_map]
  cases r.subscribers[i]? <;> rfl

end Radio

namespace Cli

namespace Rig

theorem extends_deliver (r : Rig) (requestId : Option UInt8) (rs : List Reply) :
    r.radio.Extends (r.deliver requestId rs).radio := by
  induction rs generalizing r with
  | nil => exact Radio.Extends.refl _
  | cons x rs ih =>
    cases x with
    | hangup => exact Radio.extends_endOfStream _
    | raw bs => exact (Radio.extends_ingest _ _).trans (ih { r with radio := r.radio.ingest _ })
    | frame kind data echoId =>
      exact (Radio.extends_ingest _ _).trans (ih { r with radio := r.radio.ingest _ })

theorem extends_serve (r : Rig) (f : Frame.RawFrame) : r.radio.Extends (r.serve f).radio := by
  unfold serve
  split
  · exact Radio.Extends.refl _
  · exact extends_deliver { r with saw := r.saw ++ [f] } _ _

theorem extends_foldl_serve (fs : List Frame.RawFrame) (r : Rig) :
    r.radio.Extends (fs.foldl serve r).radio := by
  induction fs generalizing r with
  | nil => exact Radio.Extends.refl _
  | cons f fs ih => exact (extends_serve r f).trans (ih _)

theorem extends_wake (r : Rig) : r.radio.Extends r.wake.radio := by
  unfold wake
  split
  · exact Radio.Extends.refl _
  · exact (extends_deliver { r with awake := true, unread := [] } _ _).trans (extends_foldl_serve _ _)

/-- Whether a wait with deadline `d` (none: no deadline) wakes the sleeping device. -/
def wakesBy (r : Rig) (d : Option Duration) : Bool :=
  !r.awake && d.all (r.device.delay.nanos < ·.nanos)

def byDeadline (r : Rig) (d : Option Duration) : Rig := if r.wakesBy d then r.wake else r

def wokeAt (r : Rig) (d : Option Duration) (now : Duration) : Duration :=
  if r.wakesBy d then ⟨max now.nanos r.device.delay.nanos⟩ else now

theorem byDeadline_of_awake {r : Rig} (h : r.awake = true) (d : Option Duration) : r.byDeadline d = r := by
  simp [byDeadline,wakesBy,h]

theorem extends_byDeadline (r : Rig) (d : Option Duration) : r.radio.Extends (r.byDeadline d).radio := by
  unfold byDeadline
  split
  · exact extends_wake r
  · exact Radio.Extends.refl _

theorem le_wokeAt (r : Rig) (d : Option Duration) (now : Duration) : now.nanos ≤ (r.wokeAt d now).nanos := by
  unfold wokeAt
  split
  · exact Nat.le_max_left _ _
  · exact Nat.le_refl _

theorem wokeAt_lt (r : Rig) {d : Option Duration} {now : Duration} (hd : d.all (now.nanos < ·.nanos)) :
    d.all ((r.wokeAt d now).nanos < ·.nanos) := by
  cases d with
  | none => rfl
  | some d =>
    simp only [Option.all_some,decide_eq_true_eq] at hd ⊢
    unfold wokeAt
    split
    · next hw =>
      simp only [wakesBy,Option.all_some,Bool.and_eq_true,decide_eq_true_eq] at hw
      simp only
      omega
    · exact hd

end Rig

open Run

/-! ### The receive loop -/

/-- The channel closes, if it does, no earlier than `now` and than each arrival. -/
def ClosesAfter (closesAt : Option Duration) (now : Duration) (arrivals : List (Duration × Response)) :
    Prop :=
  ∀ c, closesAt = some c → now.nanos ≤ c.nanos ∧ ∀ a ∈ arrivals, a.1.nanos ≤ c.nanos

theorem ClosesAfter.tail {closesAt : Option Duration} {now t : Duration} {r : Response}
    {rest : List (Duration × Response)} (h : ClosesAfter closesAt now ((t,r) :: rest)) :
    ClosesAfter closesAt ⟨max now.nanos t.nanos⟩ rest := by
  intro c hc
  obtain ⟨hnow,harr⟩ := h c hc
  have ht := harr (t,r) (List.mem_cons_self ..)
  exact ⟨by simp only at ht ⊢; omega,fun a ha => harr a (List.mem_cons_of_mem _ ha)⟩

variable {id : FrameId} {closesAt : Option Duration}

@[simp] theorem collectLoop_passed {d now : Duration} (h : d.nanos ≤ now.nanos)
    (nodes : List NodeDiscovery) (arrivals : List (Duration × Response)) :
    collectLoop id closesAt (some d) nodes now arrivals = some (nodes,now) := by
  cases arrivals <;> simp [collectLoop,h]

theorem collectLoop_cons (nodes : List NodeDiscovery) (now t : Duration) (r : Response)
    (rest : List (Duration × Response)) (deadline : Option Duration)
    (hd : deadline.all fun d => t.nanos < d.nanos ∧ now.nanos < d.nanos) :
    collectLoop id closesAt deadline nodes now ((t,r) :: rest) =
      collectLoop id closesAt deadline (nodes ++ (answerTo id r).toList) ⟨max now.nanos t.nanos⟩ rest := by
  cases deadline with
  | none => rfl
  | some d =>
    simp only [Option.all_some,decide_eq_true_eq] at hd
    simp [collectLoop,Nat.not_le.mpr hd.2,hd.1]

/-- With a deadline ahead the loop keeps the answers that arrive before it. -/
theorem collectLoop_some {d now : Duration} {arrivals : List (Duration × Response)}
    (hsorted : arrivals.Pairwise fun a b => a.1.nanos ≤ b.1.nanos)
    (hclose : ClosesAfter closesAt now arrivals) (hnow : now.nanos < d.nanos) (nodes : List NodeDiscovery) :
    collectLoop id closesAt (some d) nodes now arrivals =
      some (nodes ++ (arrivals.filter (·.1.nanos < d.nanos)).filterMap (answerTo id ·.2),
        (closesAt.filter (·.nanos < d.nanos)).getD d) := by
  induction arrivals generalizing now nodes with
  | nil =>
    cases hc : closesAt with
    | none => simp [collectLoop,Nat.not_le.mpr hnow]
    | some c =>
      have hc' := (hclose c hc).1
      by_cases hcd : c.nanos < d.nanos
      · simp [collectLoop,Nat.not_le.mpr hnow,hcd,Nat.max_eq_right hc',Option.filter]
      · simp [collectLoop,Nat.not_le.mpr hnow,hcd,Option.filter]
  | cons a rest ih =>
    obtain ⟨t,r⟩ := a
    rw [List.pairwise_cons] at hsorted
    by_cases ht : t.nanos < d.nanos
    · rw [collectLoop_cons _ _ _ _ _ _ (by simpa using ⟨ht,hnow⟩),
        ih hsorted.2 hclose.tail (by simp only; omega)]
      cases hr : answerTo id r <;> simp [ht,hr]
    · -- a response too late, and every one behind it, is left: the loop ends at the deadline
      have hlate : rest.filter (·.1.nanos < d.nanos) = [] := by
        simp only [List.filter_eq_nil_iff,decide_eq_true_eq,Nat.not_lt]
        intro b hb
        have := hsorted.1 b hb
        simp only at this
        omega
      have hopen : closesAt.filter (·.nanos < d.nanos) = none := by
        cases hc : closesAt with
        | none => rfl
        | some c =>
          have := (hclose c hc).2 (t,r) (List.mem_cons_self ..)
          simp only at this
          simp [Option.filter,Nat.not_lt.mpr (Nat.le_trans (Nat.not_lt.mp ht) this)]
      simp [collectLoop,Nat.not_le.mpr hnow,ht,hlate,hopen]

/-- With no deadline the loop takes every answer and returns when the channel closes, if ever. -/
theorem collectLoop_none {now : Duration} {arrivals : List (Duration × Response)}
    (hclose : ClosesAfter closesAt now arrivals) (nodes : List NodeDiscovery) :
    collectLoop id closesAt none nodes now arrivals =
      closesAt.map fun c => (nodes ++ arrivals.filterMap (answerTo id ·.2),c) := by
  induction arrivals generalizing now nodes with
  | nil =>
    cases hc : closesAt with
    | none => rfl
    | some c => simp [collectLoop,Nat.max_eq_right (hclose c hc).1]
  | cons a rest ih =>
    obtain ⟨t,r⟩ := a
    rw [collectLoop_cons _ _ _ _ _ _ rfl,ih hclose.tail]
    cases hr : answerTo id r <;> simp [hr]

theorem collectLoop_held {held all : List Response} (hpre : held <+: all) {start woke : Duration}
    (hle : start.nanos ≤ woke.nanos) {d : Option Duration} (hd : d.all (woke.nanos < ·.nanos))
    (openAfter : Bool) :
    collectLoop id (if openAfter then none else some woke) d [] start
        (held.map (start,·) ++ (all.drop held.length).map (woke,·)) =
      (if openAfter then d else some woke).map fun t => (all.filterMap (answerTo id),t) := by
  have hall : (held.map (start,·) ++ (all.drop held.length).map (woke,·)).filterMap (answerTo id ·.2) =
      all.filterMap (answerTo id) := by
    conv_rhs => rw [← List.prefix_iff_eq_append.mp hpre]
    simp only [List.filterMap_append,List.filterMap_map,Function.comp_def]
  have hclose : ClosesAfter (if openAfter then none else some woke) start
      (held.map (start,·) ++ (all.drop held.length).map (woke,·)) := by
    intro c hc
    cases openAfter <;> simp at hc
    subst hc
    refine ⟨hle,?_⟩
    simp only [List.mem_append,List.mem_map]
    rintro _ (⟨_,_,rfl⟩ | ⟨_,_,rfl⟩)
    · exact hle
    · exact Nat.le_refl _
  cases d with
  | none =>
    rw [collectLoop_none hclose,hall]
    cases openAfter <;> rfl
  | some d =>
    simp only [Option.all_some,decide_eq_true_eq] at hd
    have hsorted : (held.map (start,·) ++ (all.drop held.length).map (woke,·)).Pairwise
        fun a b => a.1.nanos ≤ b.1.nanos := by
      rw [List.pairwise_append,List.pairwise_map,List.pairwise_map]
      refine ⟨List.pairwise_of_forall fun _ _ => Nat.le_refl _,
        List.pairwise_of_forall fun _ _ => Nat.le_refl _,?_⟩
      simp only [List.mem_map]
      rintro _ ⟨_,_,rfl⟩ _ ⟨_,_,rfl⟩
      exact hle
    have hbefore : (held.map (start,·) ++ (all.drop held.length).map (woke,·)).filter
        (·.1.nanos < d.nanos) = held.map (start,·) ++ (all.drop held.length).map (woke,·) := by
      rw [List.filter_eq_self]
      simp only [List.mem_append,List.mem_map,decide_eq_true_eq]
      rintro _ (⟨_,_,rfl⟩ | ⟨_,_,rfl⟩)
      · exact Nat.lt_of_le_of_lt hle hd
      · exact hd
    rw [collectLoop_some hsorted hclose (Nat.lt_of_le_of_lt hle hd),hbefore,hall]
    cases openAfter <;> simp [Option.filter,hd]

/-! ### The collection -/

theorem exec_wakeBy_awake {p : Process} {r : Rig} (hr : p.rig = some r) (ha : r.awake = true)
    (d : Option Duration) : exec (wakeBy d) p = (.ok (),p) := by
  simp [wakeBy,exec_bind,hr,ha]

/-- A wait with deadline `d`: the device wakes if due before it, within the time limit. -/
theorem exec_wakeBy {p : Process} {r : Rig} (hr : p.rig = some r) (d : Option Duration)
    (hl : r.wakesBy d = true → max p.now.nanos r.device.delay.nanos < p.host.limit.nanos) :
    exec (wakeBy d) p = (.ok (),{ p with now := r.wokeAt d p.now, rig := some (r.byDeadline d) }) := by
  by_cases hw : r.wakesBy d = true
  · have hw' := hw
    simp only [Rig.wakesBy,Bool.and_eq_true,Bool.not_eq_eq_eq_not,Bool.not_true] at hw'
    simp only [Rig.wokeAt,Rig.byDeadline,hw,if_true]
    cases d with
    | none => exact exec_wakeBy_none_asleep hr hw'.1 (hl hw)
    | some d => exact exec_wakeBy_asleep hr hw'.1 (by simpa using hw'.2) (hl hw)
  · have hsame : { p with now := r.wokeAt d p.now, rig := some (r.byDeadline d) } = p := by
      simp [Rig.wokeAt,Rig.byDeadline,hw,← hr]
    rw [hsame]
    cases ha : r.awake
    · cases d with
      | none => simp [Rig.wakesBy,ha] at hw
      | some d => exact exec_wakeBy_late hr (by simpa [Rig.wakesBy,ha] using hw)
    · exact exec_wakeBy_awake hr ha d

theorem exec_returnAt_some {p : Process} {nodes : List NodeDiscovery} {t : Duration}
    (ht : t.nanos < p.host.limit.nanos) :
    exec (returnAt (some (nodes,t))) p = (.ok nodes,{ p with now := ⟨max p.now.nanos t.nanos⟩ }) := by
  simp [returnAt,-exec_sleepUntil,exec_sleepUntil_of_lt ht]

theorem exec_returnAt_late {p : Process} {nodes : List NodeDiscovery} {t : Duration}
    (ht : p.host.limit.nanos ≤ t.nanos) :
    exec (returnAt (some (nodes,t))) p = (.error .stopped,{ p with now := p.host.limit }) := by
  simp [returnAt,ht]

theorem exec_returnAt_none (p : Process) :
    exec (returnAt none) p = (.error .stopped,{ p with now := p.host.limit }) := by
  simp [returnAt,hang,exec_bind]

theorem deadlineAfter_all_lt (now : Duration) {wait : Duration} (hwait : 0 < wait.nanos) :
    (deadlineAfter now wait).all (now.nanos < ·.nanos) := by
  unfold deadlineAfter
  split <;> simp [hwait]

theorem exec_collectNodes_loop {p : Process} {r : Rig} (hr : p.rig = some r) (w : Nat) (id : FrameId)
    {wait : Duration} (hwait : 0 < wait.nanos)
    (hl : r.wakesBy (deadlineAfter p.now wait) = true →
      max p.now.nanos r.device.delay.nanos < p.host.limit.nanos) :
    let d := deadlineAfter p.now wait
    let r' := if r.radio.holds w then r.byDeadline d else r
    let woke := if r.radio.holds w then r.wokeAt d p.now else p.now
    exec (collectNodes w id wait) p =
      exec (returnAt (collectLoop id (if r'.radio.holds w then none else some woke) d [] p.now
          ((r.radio.received w).map (p.now,·) ++
            ((r'.radio.received w).drop (r.radio.received w).length).map (woke,·))))
        { p with now := woke, rig := some r' } := by
  intro d r' woke
  cases hh : r.radio.holds w
  · have hp : { p with now := p.now, rig := some r } = p := by rw [← hr]
    have hdrop : ((r.radio.received w).map (p.now,·)).drop (r.radio.received w).length = [] :=
      List.drop_eq_nil_of_le (by simp)
    simp [d,r',woke,hh,hp,hdrop,collectNodes,exec_bind,received,hr]
  · simp [d,r',woke,hh,collectNodes,exec_bind,received,hr,deadlineAfter_all_lt p.now hwait,
      exec_wakeBy hr (deadlineAfter p.now wait) hl]

/-- A collection for no time returns nothing at once. -/
theorem exec_collectNodes_zero {p : Process} {r : Rig} (hr : p.rig = some r) (w : Nat) (id : FrameId)
    (hnow : p.now.nanos < p.host.limit.nanos) (hclock : p.now.nanos < clockEnd.nanos) :
    exec (collectNodes w id ⟨0⟩) p = (.ok [],p) := by
  have hd : deadlineAfter p.now ⟨0⟩ = some p.now := by simp [deadlineAfter,hclock]
  have hp : { p with now := ⟨p.now.nanos⟩, rig := some r } = p := by rw [← hr]
  simp [collectNodes,exec_bind,received,hr,hd,exec_returnAt_some hnow,hp]

/-- Collecting for a nonzero `wait` is one read of the subscription once the wait is over; it never
returns while the channel stays open past the time limit. -/
theorem exec_collectNodes {p : Process} {r : Rig} (hr : p.rig = some r) (w : Nat) (id : FrameId)
    {wait : Duration} (hwait : 0 < wait.nanos) (hnow : p.now.nanos < p.host.limit.nanos)
    (hl : r.wakesBy (deadlineAfter p.now wait) = true →
      max p.now.nanos r.device.delay.nanos < p.host.limit.nanos) :
    let d := deadlineAfter p.now wait
    let r' := if r.radio.holds w then r.byDeadline d else r
    (r'.radio.holds w = false ∨ d.any (·.nanos < p.host.limit.nanos) →
      ∃ q, exec (collectNodes w id wait) p = (.ok ((r'.radio.received w).filterMap (answerTo id)),q) ∧
        q.host = p.host ∧ q.stdout = p.stdout ∧ q.stderr = p.stderr ∧ q.rig = some r') ∧
    (r'.radio.holds w = true → d.all (p.host.limit.nanos ≤ ·.nanos) →
      ∃ q, exec (collectNodes w id wait) p = (.error .stopped,q) ∧
        q.stdout = p.stdout ∧ q.stderr = p.stderr) := by
  intro d r'
  generalize hwoke : (if r.radio.holds w = true then r.wokeAt d p.now else p.now) = woke
  have hrun : exec (collectNodes w id wait) p =
      exec (returnAt (collectLoop id (if r'.radio.holds w then none else some woke) d [] p.now
          ((r.radio.received w).map (p.now,·) ++
            ((r'.radio.received w).drop (r.radio.received w).length).map (woke,·))))
        { p with now := woke, rig := some r' } := by
    rw [← hwoke]
    exact exec_collectNodes_loop hr w id hwait hl
  have hle : p.now.nanos ≤ woke.nanos := by
    rw [← hwoke]
    split
    · exact Rig.le_wokeAt r d p.now
    · exact Nat.le_refl _
  have hbefore : d.all (woke.nanos < ·.nanos) := by
    rw [← hwoke]
    split
    · exact Rig.wokeAt_lt r (deadlineAfter_all_lt p.now hwait)
    · exact deadlineAfter_all_lt p.now hwait
  have hlimit : woke.nanos < p.host.limit.nanos := by
    rw [← hwoke]
    split
    · unfold Rig.wokeAt
      split
      · exact hl ‹_›
      · exact hnow
    · exact hnow
  have hpre : r.radio.received w <+: r'.radio.received w := by
    simp only [r']
    split
    · exact Rig.extends_byDeadline r d w
    · exact List.prefix_refl _
  rw [collectLoop_held hpre hle hbefore] at hrun
  refine ⟨fun hend => ?_,fun hopen hpast => ?_⟩
  · cases hh : r'.radio.holds w with
    | false =>
      refine ⟨{ p with now := ⟨max woke.nanos woke.nanos⟩, rig := some r' },?_,rfl,rfl,rfl,rfl⟩
      simp [hrun,hh,exec_returnAt_some (p := { p with now := woke, rig := some r' }) hlimit]
    | true =>
      obtain ⟨d₀,hd₀,hlt⟩ : ∃ d₀, d = some d₀ ∧ d₀.nanos < p.host.limit.nanos := by
        simp only [hh,Bool.true_eq_false,false_or] at hend
        cases hd : d with
        | none => simp [hd] at hend
        | some d₀ => exact ⟨d₀,rfl,by simpa [hd] using hend⟩
      refine ⟨{ p with now := ⟨max woke.nanos d₀.nanos⟩, rig := some r' },?_,rfl,rfl,rfl,rfl⟩
      simp [hrun,hh,hd₀,exec_returnAt_some (p := { p with now := woke, rig := some r' }) hlt]
  · refine ⟨{ p with now := p.host.limit, rig := some r' },?_,rfl,rfl⟩
    cases hd : d with
    | none => simp [hrun,hopen,hd,exec_returnAt_none]
    | some d₀ =>
      have hlate : p.host.limit.nanos ≤ d₀.nanos := by simpa [hd] using hpast
      simp [hrun,hopen,hd,exec_returnAt_late (p := { p with now := woke, rig := some r' }) hlate]

end Cli
end RadioLink
