import RadioLink.Proofs.Link.Correlation
import RadioLink.Proofs.Link.Delivery
import RadioLink.Link.Session
/-! What a link leaves behind when it goes down. Once the waits are released the world stays
quiet (`Quiet.step`), so a caller whose wait was open stays doomed (`Quiet.doomed_step`) and
returns not connected within three of its own steps (`Quiet.doomed_returns`); a released link
stays released whatever is done with it (`Session.step_drains`).
Main statement: `shutdown_leaves_nothing`. -/
namespace RadioLink
namespace SyncSend

/-! ### Concurrent waits on a link that went down -/

def Event.caller? {n : Nat} : Event n → Option (Fin n)
  | .register c | .send c _ | .receive c | .expire c | .leave c => some c
  | _ => none

/-- A caller bound to return not connected. -/
def Caller.Doomed (x : Caller) : Prop :=
  x.phase = .registered ∨ (x.phase = .waiting ∧ x.slot = .closed) ∨
    x.phase = .leaving (.error .notConnected) ∨ x.phase = .done (.error .notConnected)

theorem Caller.Doomed.ne_ready {x : Caller} (hx : x.Doomed) : x.phase ≠ .ready := by
  rcases hx with h | ⟨h,-⟩ | h | h <;> simp [h]

theorem Caller.Doomed.done_eq {x : Caller} (hx : x.Doomed) {out : Except RadioError Response}
    (hd : x.phase = .done out) : out = .error .notConnected := by
  rcases hx with h | ⟨h,-⟩ | h | h <;> simp_all

namespace World

variable {n : Nat} {w : World n}

theorem callers_step_other {e : Event n} {c d : Fin n} (he : e.caller? = some d) (hne : c ≠ d) :
    ((w.step e).callers c) = w.callers c := by
  cases e with
  | register d' | send d' _ | receive d' | expire d' | leave d' =>
    simp only [Event.caller?,Option.some.injEq] at he
    subst he
    simp only [step,register,send,receive,expire,leave]
    repeat' split
    all_goals simp [hne]
  | _ => simp [Event.caller?] at he

theorem register_down (h : w.state ≠ .connected) (c : Fin n) :
    w.register c = w ∨ ∃ e, (w.callers c).phase = .ready ∧
      w.register c = w.setCaller c { w.callers c with phase := .done (.error e) } := by
  unfold register
  dsimp only
  split
  · rename_i hready
    split
    · exact .inr ⟨_,hready,rfl⟩
    · have hreg : w.pending.register (w.state == .connected) (w.callers c).id = .error .notConnected := by
        simp [PendingTable.register,h]
      rw [hreg]
      exact .inr ⟨_,hready,rfl⟩
  · exact .inl rfl

theorem state_step (w : World n) : ∀ e : Event n, (∀ s, e ≠ .setState s) → (w.step e).state = w.state
  | .register d, _ => by
    simp only [step,World.register]
    split
    · split
      · rfl
      · split <;> rfl
    · rfl
  | .send d failure, _ => by
    simp only [step,World.send]
    split
    · split
      · rfl
      · split <;> rfl
    · rfl
  | .receive d, _ => by
    simp only [step,World.receive]
    split <;> rfl
  | .expire d, _ => by
    simp only [step,World.expire]
    split
    · split <;> rfl
    · rfl
  | .leave d, _ => by
    simp only [step,World.leave]
    split <;> rfl
  | .dispatch f, _ => by
    simp only [step,World.dispatch]
    split
    · split <;> rfl
    · rfl
  | .setState s, he => absurd rfl (he s)
  | .release, _ => rfl

theorem ticket_step (w : World n) (c : Fin n) :
    ∀ e : Event n, (∀ d, e ≠ .register d) → ((w.step e).callers c).ticket = (w.callers c).ticket
  | .register d, he => absurd rfl (he d)
  | .send d failure, _ => by
    simp only [step,World.send]
    split
    · split
      · exact proj_setCaller _ _ Caller.ticket (by rfl) _
      · split
        · exact proj_setCaller _ _ Caller.ticket (by rfl) _
        · exact proj_setCaller _ _ Caller.ticket (by rfl) _
    · rfl
  | .receive d, _ => by
    simp only [step,World.receive]
    split
    · exact proj_setCaller _ _ Caller.ticket (by rfl) _
    · exact proj_setCaller _ _ Caller.ticket (by rfl) _
    · rfl
  | .expire d, _ => by
    simp only [step,World.expire]
    split
    · split
      · rfl
      · exact proj_setCaller _ _ Caller.ticket (by rfl) _
    · rfl
  | .leave d, _ => by
    simp only [step,World.leave]
    split
    · exact proj_setCaller _ _ Caller.ticket (by rfl) _
    · exact proj_setCaller _ _ Caller.ticket (by rfl) _
    · rfl
  | .dispatch f, _ => by
    simp only [step,World.dispatch]
    split
    · split
      · simp only [Caller.deliver]
        split <;> rfl
      · rfl
    · rfl
  | .setState _, _ => rfl
  | .release, _ => by
    simp only [step,World.release,Caller.release]
    split
    · split <;> rfl
    · rfl

theorem step_stays_down (h : w.state ≠ .connected) {e : Event n} (he : e ≠ .setState .connected) :
    (w.step e).state ≠ .connected ∧ ∀ d, ((w.step e).callers d).ticket = (w.callers d).ticket := by
  cases e with
  | register c =>
    rcases register_down h c with h' | ⟨_,-,h'⟩ <;> simp only [World.step,h']
    · exact ⟨h,fun _ => trivial⟩
    · refine ⟨h,fun d => ?_⟩
      by_cases hd : d = c
      · subst hd
        simp
      · simp [hd]
  | setState s =>
    refine ⟨fun hs => he ?_,fun d => rfl⟩
    rw [← hs]
    rfl
  | _ =>
    refine ⟨?_,fun d => ticket_step w d _ fun _ h => by cases h⟩
    rw [state_step w _ fun _ h => by cases h]
    exact h

theorem run_stays_down (h : w.state ≠ .connected) {evs : List (Event n)}
    (hevs : ∀ e ∈ evs, e ≠ .setState .connected) :
    (w.run evs).state ≠ .connected ∧ ∀ d, ((w.run evs).callers d).ticket = (w.callers d).ticket := by
  induction evs generalizing w with
  | nil => exact ⟨h,fun d => rfl⟩
  | cons e evs ih =>
    obtain ⟨h₁,h₂⟩ := step_stays_down h (hevs e List.mem_cons_self)
    obtain ⟨ih₁,ih₂⟩ := ih h₁ fun e' he' => hevs e' (List.mem_cons_of_mem e he')
    exact ⟨ih₁,fun d => (ih₂ d).trans (h₂ d)⟩

/-! ### A caller's own steps, by phase -/

section
variable (w : World n) {c : Fin n}

theorem register_of_ne_ready (h : (w.callers c).phase ≠ .ready) : w.register c = w := by
  cases hp : (w.callers c).phase with
  | ready => exact absurd hp h
  | _ => simp only [register,hp]

theorem send_of_ne_registered (h : (w.callers c).phase ≠ .registered) (failure : Option RadioError) :
    w.send c failure = w := by
  cases hp : (w.callers c).phase with
  | registered => exact absurd hp h
  | _ => simp only [send,hp]

theorem send_down (hs : w.state ≠ .connected) (h : (w.callers c).phase = .registered)
    (failure : Option RadioError) :
    w.send c failure = w.setCaller c { w.callers c with phase := .leaving (.error .notConnected) } := by
  have hs' : (w.state != .connected) = true := by simpa using hs
  simp only [send,h,hs',if_true]

theorem receive_of_ne_waiting (h : (w.callers c).phase ≠ .waiting) : w.receive c = w := by
  cases hp : (w.callers c).phase with
  | waiting => exact absurd hp h
  | _ => simp only [receive,hp]

theorem receive_closed (h : (w.callers c).phase = .waiting) (hs : (w.callers c).slot = .closed) :
    w.receive c = w.setCaller c { w.callers c with phase := .leaving (.error .notConnected) } := by
  simp only [receive,h,hs]

theorem expire_of_ne_open (h : (w.callers c).slot ≠ .open) : w.expire c = w := by
  cases hs : (w.callers c).slot with
  | «open» => exact absurd hs h
  | _ => cases hp : (w.callers c).phase <;> simp only [expire,hs,hp]

theorem leave_of_not_leaving (h : ∀ out, (w.callers c).phase ≠ .leaving out) : w.leave c = w := by
  cases hp : (w.callers c).phase with
  | leaving out => exact absurd hp (h out)
  | _ => simp only [leave,hp]

end

/-! ### After the release -/

/-- A link that is down with its waits released: the table is empty and no channel is open. -/
structure Quiet (w : World n) : Prop where
  down : w.state ≠ .connected
  empty : w.pending.entries = []
  none_open : ∀ d, (w.callers d).slot ≠ .open

theorem Quiet.setPhase (hq : Quiet w) (c : Fin n) (p : Phase) :
    Quiet (w.setCaller c { w.callers c with phase := p }) where
  down := hq.down
  empty := hq.empty
  none_open d := by simpa using hq.none_open d

theorem Quiet.dispatch_eq (hq : Quiet w) (f : Response) :
    w.dispatch f = { w with dispatched := w.dispatched ++ [f] } := by
  have htake : ∀ i, w.pending.take i = (none,w.pending) := fun i => by
    simp [PendingTable.take,hq.empty]
  cases hf : f.frameId? with
  | none => simp only [dispatch,hf]
  | some i => simp only [dispatch,hf,htake]

theorem Quiet.release_eq (hq : Quiet w) : w.release = w := by
  have hclear : w.pending.clear = w.pending := by
    rw [PendingTable.clear,← hq.empty]
  have hcallers : (fun c => (w.callers c).release w.pending) = w.callers := by
    funext c
    unfold Caller.release
    split <;> simp [hq.empty]
  simp only [World.release,hclear,hcallers]

theorem Quiet.leave_eq (hq : Quiet w) {c : Fin n} {out : Except RadioError Response}
    (h : (w.callers c).phase = .leaving out) :
    w.leave c = w.setCaller c { w.callers c with phase := .done out } := by
  have htok : ∀ i, w.pending.tokenOf i = none := fun i => by
    simp [PendingTable.tokenOf,hq.empty]
  cases ht : (w.callers c).ticket with
  | none => simp only [leave,h,ht]
  | some g =>
    have hdrop : w.pending.drop g = w.pending := by simp [PendingTable.drop,htok]
    simp only [leave,h,ht,htok,hdrop]
    rfl

theorem Quiet.step_own (hq : Quiet w) {e : Event n} {c : Fin n} (hc : e.caller? = some c) :
    w.step e = w ∨ ∃ p, w.step e = w.setCaller c { w.callers c with phase := p } := by
  cases e with
  | register d =>
    obtain rfl : d = c := by simpa [Event.caller?] using hc
    rcases register_down hq.down d with h | ⟨_,-,h⟩
    · exact .inl h
    · exact .inr ⟨_,h⟩
  | send d failure =>
    obtain rfl : d = c := by simpa [Event.caller?] using hc
    by_cases hr : (w.callers d).phase = .registered
    · exact .inr ⟨_,send_down w hq.down hr failure⟩
    · exact .inl (send_of_ne_registered w hr failure)
  | receive d =>
    obtain rfl : d = c := by simpa [Event.caller?] using hc
    simp only [World.step,World.receive]
    split
    · exact .inr ⟨_,rfl⟩
    · exact .inr ⟨_,rfl⟩
    · exact .inl rfl
  | expire d => exact .inl (expire_of_ne_open w (hq.none_open d))
  | leave d =>
    obtain rfl : d = c := by simpa [Event.caller?] using hc
    by_cases hl : ∃ out, (w.callers d).phase = .leaving out
    · obtain ⟨out,hout⟩ := hl
      exact .inr ⟨_,hq.leave_eq hout⟩
    · exact .inl (leave_of_not_leaving w fun out hout => hl ⟨out,hout⟩)
  | _ => simp [Event.caller?] at hc

theorem Quiet.callers_step (hq : Quiet w) {e : Event n} {d : Fin n} (he : e.caller? ≠ some d) :
    (w.step e).callers d = w.callers d := by
  cases hc : e.caller? with
  | some c => exact callers_step_other hc fun hdc => he (hdc ▸ hc)
  | none =>
    cases e with
    | dispatch f => rw [World.step,hq.dispatch_eq]
    | setState s => rfl
    | release => rw [World.step,hq.release_eq]
    | _ => simp [Event.caller?] at hc

/-- Every step but a reconnection keeps a world quiet. -/
theorem Quiet.step (hq : Quiet w) {e : Event n} (he : e ≠ .setState .connected) :
    Quiet (w.step e) := by
  cases hc : e.caller? with
  | some c =>
    rcases hq.step_own hc with h | ⟨p,h⟩ <;> rw [h]
    · exact hq
    · exact hq.setPhase c p
  | none =>
    cases e with
    | dispatch f =>
      rw [World.step,hq.dispatch_eq]
      exact ⟨hq.down,hq.empty,hq.none_open⟩
    | setState s => exact ⟨fun hs => he (hs ▸ rfl),hq.empty,hq.none_open⟩
    | release =>
      rw [World.step,hq.release_eq]
      exact hq
    | _ => simp [Event.caller?] at hc

theorem Quiet.run (hq : Quiet w) {evs : List (Event n)} (hevs : ∀ e ∈ evs, e ≠ .setState .connected) :
    Quiet (w.run evs) := by
  induction evs generalizing w with
  | nil => exact hq
  | cons e evs ih =>
    exact ih (hq.step (hevs e List.mem_cons_self)) fun e' he' => hevs e' (List.mem_cons_of_mem e he')

/-- A doomed caller stays doomed in a quiet world, whoever steps. -/
theorem Quiet.doomed_step (hq : Quiet w) {c : Fin n} (hx : (w.callers c).Doomed) (e : Event n) :
    ((w.step e).callers c).Doomed := by
  by_cases hc : e.caller? = some c
  · cases e with
    | register d =>
      obtain rfl : d = c := by simpa [Event.caller?] using hc
      rwa [World.step,register_of_ne_ready w hx.ne_ready]
    | send d failure =>
      obtain rfl : d = c := by simpa [Event.caller?] using hc
      by_cases hr : (w.callers d).phase = .registered
      · rw [World.step,send_down w hq.down hr failure]
        simp [Caller.Doomed]
      · rwa [World.step,send_of_ne_registered w hr failure]
    | receive d =>
      obtain rfl : d = c := by simpa [Event.caller?] using hc
      by_cases hw : (w.callers d).phase = .waiting
      · have hs : (w.callers d).slot = .closed := by
          rcases hx with h | ⟨-,h⟩ | h | h <;> simp_all
        rw [World.step,receive_closed w hw hs]
        simp [Caller.Doomed]
      · rwa [World.step,receive_of_ne_waiting w hw]
    | expire d => rwa [World.step,expire_of_ne_open w (hq.none_open d)]
    | leave d =>
      obtain rfl : d = c := by simpa [Event.caller?] using hc
      by_cases hl : (w.callers d).phase = .leaving (.error .notConnected)
      · rw [World.step,hq.leave_eq hl]
        simp [Caller.Doomed]
      · have hnot : ∀ out, (w.callers d).phase ≠ .leaving out := by
          rintro out hout
          rcases hx with h | ⟨h,-⟩ | h | h <;> simp_all
        rwa [World.step,leave_of_not_leaving w hnot]
    | _ => simp [Event.caller?] at hc
  · rwa [hq.callers_step hc]

theorem Quiet.doomed_run (hq : Quiet w) {evs : List (Event n)}
    (hevs : ∀ e ∈ evs, e ≠ .setState .connected) {c : Fin n} (hx : (w.callers c).Doomed) :
    ((w.run evs).callers c).Doomed := by
  induction evs generalizing w with
  | nil => exact hx
  | cons e evs ih =>
    exact ih (hq.step (hevs e List.mem_cons_self)) (fun e' he' => hevs e' (List.mem_cons_of_mem e he'))
      (hq.doomed_step hx e)

/-- A doomed caller returns not connected within three steps of its own. -/
theorem Quiet.doomed_returns (hq : Quiet w) {c : Fin n} (hx : (w.callers c).Doomed)
    (failure : Option RadioError) :
    ((w.run [.send c failure,.receive c,.leave c]).callers c).phase = .done (.error .notConnected) := by
  simp only [World.run,List.foldl_cons,List.foldl_nil,World.step]
  let decided := w.setCaller c { w.callers c with phase := .leaving (.error .notConnected) }
  have hdecided : (decided.callers c).phase = .leaving (.error .notConnected) := by simp [decided]
  rcases hx with hr | ⟨hw,hs⟩ | hl | hd
  · rw [send_down w hq.down hr failure,receive_of_ne_waiting _ (by simp),
      (hq.setPhase c _).leave_eq hdecided]
    simp
  · rw [send_of_ne_registered w (by simp [hw]) failure,receive_closed w hw hs,
      (hq.setPhase c _).leave_eq hdecided]
    simp
  · rw [send_of_ne_registered w (by simp [hl]) failure,receive_of_ne_waiting w (by simp [hl]),
      hq.leave_eq hl]
    simp
  · rw [send_of_ne_registered w (by simp [hd]) failure,receive_of_ne_waiting w (by simp [hd]),
      leave_of_not_leaving w (by simp [hd])]
    exact hd

theorem Inv.quiet_release (h : Inv w) (hs : w.state ≠ .connected) : Quiet w.release where
  down := hs
  empty := rfl
  none_open d := by
    simp only [World.release,h.release_eq d]
    split
    · simp
    · assumption

theorem Inv.doomed_release (h : Inv w) {c : Fin n}
    (hc : (w.callers c).phase = .registered ∨
      ((w.callers c).phase = .waiting ∧ (w.callers c).slot = .open)) :
    (w.release.callers c).Doomed := by
  simp only [World.release,h.release_eq c]
  rcases hc with hr | ⟨hw,ho⟩
  · left
    split <;> simpa using hr
  · rw [if_pos ho]
    exact .inr (.inl ⟨hw,rfl⟩)


/-- Once the waits are released, every caller still waiting returns not connected. -/
theorem shutdown_fails_waits (calls : Fin n → FrameId × Duration) (pre mid post : List (Event n))
    {s : LinkState} (hs : s ≠ .connected) (hstay : ∀ e ∈ mid ++ post, e ≠ .setState .connected) :
    let w₀ := (start calls).run (pre ++ [.setState s])
    let w₁ := w₀.run mid
    let w := w₁.release.run post
    Quiet w ∧ (∀ c, (w.callers c).ticket = (w₀.callers c).ticket) ∧
    ∀ c, ((w₁.callers c).phase = .registered ∨
        ((w₁.callers c).phase = .waiting ∧ (w₁.callers c).slot = .open)) →
      (∀ out, (w.callers c).phase = .done out → out = .error .notConnected) ∧
      ∀ failure, ((w.run [.send c failure,.receive c,.leave c]).callers c).phase =
        .done (.error .notConnected) := by
  intro w₀ w₁ w
  have hmid : ∀ e ∈ mid, e ≠ .setState .connected := fun e he => hstay e (List.mem_append_left _ he)
  have hpost : ∀ e ∈ post, e ≠ .setState .connected := fun e he => hstay e (List.mem_append_right _ he)
  have hinv : Inv w₁ := ((inv_start calls).run _).run mid
  have hdown₀ : w₀.state ≠ .connected := by
    simpa [w₀,World.run,List.foldl_append,World.step] using hs
  -- from the change of state on: no registration through the middle, the release and after
  obtain ⟨hdown₁,hticket₁⟩ := run_stays_down hdown₀ hmid
  have hticket₂ : ∀ d, (w₁.release.callers d).ticket = (w₁.callers d).ticket :=
    (step_stays_down hdown₁ (e := .release) fun h => by cases h).2
  have hquiet : Quiet w₁.release := hinv.quiet_release hdown₁
  have hticket₃ := (run_stays_down hquiet.down hpost).2
  refine ⟨hquiet.run hpost,fun d => by rw [hticket₃ d,hticket₂ d,hticket₁ d],fun c hc => ?_⟩
  have hdoomed : (w.callers c).Doomed := hquiet.doomed_run hpost (hinv.doomed_release hc)
  exact ⟨fun out hout => hdoomed.done_eq hout,(hquiet.run hpost).doomed_returns hdoomed⟩

end World
end SyncSend

/-! ### The link once released -/

namespace Radio

/-- A link whose reader stopped and whose waits were released. -/
structure Released (r : Radio) : Prop where
  disconnected : r.state = .disconnected
  stopped : r.reading = false
  no_waits : r.pending.entries = []
  unlinked : ∀ x ∈ r.subscribers, x.linked = false
  closed : r.backlog.closed = true

variable {r : Radio}

theorem released_release (r : Radio) : r.release.Released where
  disconnected := rfl
  stopped := rfl
  no_waits := rfl
  unlinked x hx := by
    obtain ⟨y,-,rfl⟩ := List.mem_map.mp hx
    rfl
  closed := rfl

theorem released_close (h : r.shut = false) (sys : Except Frame.IoKind Unit) :
    (r.close sys).2.Released := by
  simp only [close,h,Bool.false_eq_true,if_false]
  exact ⟨rfl,rfl,rfl,(released_release r).unlinked,rfl⟩

theorem close_of_shut (h : r.shut = true) (sys : Except Frame.IoKind Unit) : r.close sys = (.ok (),r) := by
  simp only [close,h,if_true]

theorem released_readLoop (n seen : Nat) (rd : Frame.Reader) (r : Radio) (hc : r.state = .connected)
    (hd : (r.readLoop n seen rd).1.state ≠ .connected) : (r.readLoop n seen rd).1.Released := by
  induction n generalizing seen rd r with
  | zero => exact absurd hc hd
  | succ n ih =>
    cases hx : (r.countSkipped (rd.readFrame.2.skipped - seen)).afterRead rd.readFrame.1 with
    | none =>
      simp only [readLoop,hx]
      exact released_release _
    | some r₂ =>
      have h₂ : r₂.state = .connected := (state_afterRead hx).trans hc
      simp only [readLoop,hx] at hd ⊢
      exact ih _ _ r₂ h₂ hd

theorem Released.isConnected_eq (h : r.Released) : r.isConnected = false := by
  simp [isConnected,h.disconnected]

theorem Released.expect_eq (h : r.Released) (id : FrameId) :
    r.expect id = .error (if id.value = 0 then .noResponseFrameId else .notConnected) := by
  unfold expect
  split
  · rfl
  · simp [PendingTable.register,h.isConnected_eq]

theorem Released.send_eq (h : r.Released) (req : Request) : r.send req = .error .notConnected := by
  simp [send,h.isConnected_eq]

theorem Released.endOfStream_eq (h : r.Released) : r.endOfStream = r := by
  simp [endOfStream,h.stopped]

theorem Released.release_eq (h : r.Released) : r.release = r := by
  have hpending : r.pending.clear = r.pending := by
    rw [PendingTable.clear,← h.no_waits]
  have hsubs : r.subscribers.map Subscription.unlink = r.subscribers := by
    conv_rhs => rw [← List.map_id r.subscribers]
    exact List.map_congr_left fun x hx => by rw [Subscription.unlink,← h.unlinked x hx]; rfl
  have hbacklog : r.backlog.close = r.backlog := by
    rw [Backlog.close,← h.closed]
  simp only [release,releaseWaiters,hpending,hsubs,hbacklog,← h.disconnected,← h.stopped]

theorem Released.close_eq (h : r.Released) (sys : Except Frame.IoKind Unit) :
    (r.close sys).2 = { r with shut := true } := by
  cases hs : r.shut
  · simp only [close,hs,Bool.false_eq_true,if_false,h.release_eq]
  · simp only [close,hs,if_true]
    rw [← hs]

theorem shut_close (r : Radio) (sys : Except Frame.IoKind Unit) : (r.close sys).2.shut = true := by
  unfold close
  split <;> simp_all

theorem close_close (r : Radio) (sys sys' : Except Frame.IoKind Unit) :
    (r.close sys).2.close sys' = (.ok (),(r.close sys).2) :=
  close_of_shut (shut_close r sys) sys'

theorem tryRecv_eq (r : Radio) :
    r.tryRecv = (r.backlog.pop.1,{ r with backlog := r.backlog.pop.2 }) := rfl

theorem received_subscribe (r : Radio) (i : Nat) : r.subscribe.2.received i = r.received i := by
  simp only [subscribe,received,List.getElem?_append]
  split
  · rfl
  · rename_i hi
    have hnone : r.subscribers[i]? = none := List.getElem?_eq_none (by omega)
    rw [hnone]
    cases i - r.subscribers.length <;> simp

/-- What a released link can still become: still released, silent, its backlog only emptying. -/
structure Drains (r r' : Radio) : Prop where
  released : r'.Released
  stats : r'.stats = r.stats
  received : ∀ i, r'.received i = r.received i
  backlog : r'.backlog.frames <:+ r.backlog.frames
  shut : r.shut = true → r'.shut = true

theorem Drains.refl (h : r.Released) : r.Drains r :=
  ⟨h,rfl,fun _ => rfl,List.suffix_refl _,id⟩

theorem Drains.trans {r₁ r₂ : Radio} (h₁ : r.Drains r₁) (h₂ : r₁.Drains r₂) : r.Drains r₂ where
  released := h₂.released
  stats := h₂.stats.trans h₁.stats
  received i := (h₂.received i).trans (h₁.received i)
  backlog := h₂.backlog.trans h₁.backlog
  shut hs := h₂.shut (h₁.shut hs)

theorem Released.drains_backlog (h : r.Released) {b : Backlog} (hb : b.closed = true)
    (hf : b.frames <:+ r.backlog.frames) : r.Drains { r with backlog := b } :=
  ⟨⟨h.disconnected,h.stopped,h.no_waits,h.unlinked,hb⟩,rfl,fun _ => rfl,hf,id⟩

theorem Released.drains_tryRecv (h : r.Released) : r.Drains r.tryRecv.2 := by
  rw [tryRecv_eq]
  exact h.drains_backlog (by rw [Backlog.closed_pop,h.closed])
    (by rw [Backlog.frames_pop]; exact List.tail_suffix _)

theorem Released.drains_nextFrameId (h : r.Released) : r.Drains r.nextFrameId.2 :=
  ⟨⟨h.disconnected,h.stopped,h.no_waits,h.unlinked,h.closed⟩,rfl,fun _ => rfl,List.suffix_refl _,id⟩

theorem Released.drains_subscribe (h : r.Released) : r.Drains r.subscribe.2 where
  released := by
    refine ⟨h.disconnected,h.stopped,h.no_waits,fun x hx => ?_,h.closed⟩
    rcases List.mem_append.mp hx with hx | hx
    · exact h.unlinked x hx
    · rw [List.mem_singleton.mp hx]
      exact h.isConnected_eq
  stats := rfl
  received := received_subscribe r
  backlog := List.suffix_refl _
  shut := id

theorem Released.drains_close (h : r.Released) (sys : Except Frame.IoKind Unit) :
    r.Drains (r.close sys).2 := by
  rw [h.close_eq]
  exact ⟨⟨h.disconnected,h.stopped,h.no_waits,h.unlinked,h.closed⟩,rfl,fun _ => rfl,
    List.suffix_refl _,fun _ => rfl⟩

end Radio

namespace Session

/-- What can be done with a session: a request, a wait, a subscriber, the peer's writes, a close. -/
inductive Op where
  | sendSync (req : Request) (replies : List Reply) (timeout : Duration)
  | call (req : Request) (replies : List Reply) (timeout : Duration)
  | send (req : Request)
  | recv (replies : List Reply) (delay : Duration) (timeout : Option Duration)
  | collect (replies : List Reply) (delay : Duration) (timeout : Option Duration)
      (stop : Response → Bool)
  | subscribe
  | unsolicited (replies : List Reply)
  | nextFrameId
  | hangup
  | close (sys : Except Frame.IoKind Unit)

def step (s : Session) : Op → Session
  | .sendSync req replies timeout => (s.sendSync req replies timeout).2
  | .call req replies timeout => (s.call req replies timeout).2
  | .send req => (s.send req).2.2
  | .recv replies delay timeout => (s.recv replies delay timeout).2
  | .collect replies delay timeout stop => (s.collect replies delay timeout stop).2
  | .subscribe => { s with radio := s.radio.subscribe.2 }
  | .unsolicited replies => (s.unsolicited replies).2
  | .nextFrameId => s.nextFrameId.2
  | .hangup => s.hangup
  | .close sys => (s.close sys).2

def run (s : Session) (ops : List Op) : Session := ops.foldl step s

variable {s : Session}

theorem writeOne_radio (h : s.radio.reading = false) (id : Option UInt8) (rep : Reply) :
    (s.writeOne id rep).radio = s.radio := by
  cases rep with
  | hangup =>
    simp only [writeOne,hangup]
    split <;> simp [Radio.endOfStream,h]
  | _ =>
    simp only [writeOne]
    split <;> simp [Radio.ingest,h]

theorem write_radio (h : s.radio.reading = false) (id : Option UInt8) (replies : List Reply) :
    (s.write id replies).radio = s.radio := by
  induction replies generalizing s with
  | nil => rfl
  | cons rep replies ih =>
    have h₁ := writeOne_radio h id rep
    simp only [write,List.foldl_cons] at ih ⊢
    rw [ih (h₁ ▸ h),h₁]

theorem idleRead_ne_frame (s : Session) (f : Frame.RawFrame) : s.idleRead ≠ .frame f := by
  unfold idleRead
  split <;> simp

theorem sendSync_released (h : s.radio.Released) (req : Request) (replies : List Reply)
    (timeout : Duration) :
    s.sendSync req replies timeout =
      (⟨s.idleRead,.error (if req.frameId.value = 0 then .noResponseFrameId else .notConnected)⟩,s) := by
  simp only [sendSync,h.expect_eq]

theorem call_released (h : s.radio.Released) (req : Request) (replies : List Reply)
    (timeout : Duration) :
    s.call req replies timeout = (⟨s.idleRead,.error .notConnected⟩,s.nextFrameId.2) := by
  have h' : s.radio.nextFrameId.2.Released := h.drains_nextFrameId.released
  simp only [call]
  rw [sendSync_released h']
  simp [Radio.nextFrameId,FrameIdAllocator.next,FrameId.following_ne_zero,nextFrameId,idleRead]

theorem send_released (h : s.radio.Released) (req : Request) :
    s.send req = (s.idleRead,.error .notConnected,s) := by
  simp only [send,h.send_eq]

theorem recv_released (h : s.radio.Released) (replies : List Reply) (delay : Duration)
    (timeout : Option Duration) :
    (s.recv replies delay timeout).1 = s.radio.backlog.frames.head? ∧
      (s.recv replies delay timeout).2.radio = s.radio.tryRecv.2 := by
  have hclosed : s.radio.backlog.closed = true := h.closed
  unfold recv
  rw [Radio.tryRecv_eq]
  cases hb : s.radio.backlog.frames with
  | nil =>
    have hpop : s.radio.backlog.pop = (none,s.radio.backlog) := by simp [Backlog.pop,hb]
    simp only [hpop,hclosed,Bool.true_or,if_true,List.head?_nil,true_and]
    rw [write_radio h.stopped]
  | cons f rest =>
    have hpop : s.radio.backlog.pop = (some f,{ s.radio.backlog with frames := rest }) := by
      simp [Backlog.pop,hb]
    simp only [hpop,List.head?_cons,true_and]
    exact write_radio (by exact h.stopped) none replies

theorem collect_released (h : s.radio.Released) (replies : List Reply) (delay : Duration)
    (timeout : Option Duration) (stop : Response → Bool) :
    (s.collect replies delay timeout stop).2.radio =
      { s.radio with backlog := (s.radio.backlog.collect stop).2.1 } := by
  have hclosed : s.radio.backlog.closed = true := h.closed
  simp only [collect,Backlog.collect,hclosed,Bool.or_true,Bool.true_or,if_true]
  rw [write_radio (by exact h.stopped) none replies]

/-- Nothing done with a session whose link was released brings the link back. -/
theorem step_drains (h : s.radio.Released) (op : Op) : s.radio.Drains (s.step op).radio := by
  cases op with
  | sendSync req replies timeout =>
    rw [step,sendSync_released h]
    exact .refl h
  | call req replies timeout =>
    rw [step,call_released h]
    exact h.drains_nextFrameId
  | send req =>
    rw [step,send_released h]
    exact .refl h
  | recv replies delay timeout =>
    rw [step,(recv_released h replies delay timeout).2]
    exact h.drains_tryRecv
  | collect replies delay timeout stop =>
    rw [step,collect_released h]
    exact h.drains_backlog h.closed (Backlog.takeUntil_suffix stop _)
  | subscribe => exact h.drains_subscribe
  | unsolicited replies =>
    simp only [step,unsolicited]
    split
    · rw [write_radio h.stopped]
      exact .refl h
    · exact .refl h
  | nextFrameId => exact h.drains_nextFrameId
  | hangup =>
    simp only [step,hangup]
    split
    · rw [h.endOfStream_eq]
      exact .refl h
    · exact .refl h
  | close sys => exact h.drains_close sys

theorem run_drains (h : s.radio.Released) (ops : List Op) : s.radio.Drains (s.run ops).radio := by
  induction ops generalizing s with
  | nil => exact .refl h
  | cons op ops ih =>
    have h₁ := step_drains h op
    exact h₁.trans (ih h₁.released)

theorem after_release (h : s.radio.Released) (ops : List Op) :
    let t := s.run ops
    s.radio.Drains t.radio ∧
    (∀ req replies timeout, t.sendSync req replies timeout =
      (⟨t.idleRead,.error (if req.frameId.value = 0 then .noResponseFrameId else .notConnected)⟩,t)) ∧
    (∀ req replies timeout,
      t.call req replies timeout = (⟨t.idleRead,.error .notConnected⟩,t.nextFrameId.2)) ∧
    (∀ req, t.send req = (t.idleRead,.error .notConnected,t)) ∧
    (∀ f, t.idleRead ≠ .frame f) ∧
    (∀ replies delay timeout, (t.recv replies delay timeout).1 = t.radio.backlog.frames.head? ∧
      (t.recv replies delay timeout).2.radio.backlog.frames = t.radio.backlog.frames.tail) ∧
    (s.radio.shut = true → ∀ sys, t.close sys = (.ok (),t)) := by
  intro t
  have hd := run_drains h ops
  have ht : t.radio.Released := hd.released
  refine ⟨hd,sendSync_released ht,call_released ht,send_released ht,t.idleRead_ne_frame,
    fun replies delay timeout => ?_,fun hs sys => ?_⟩
  · obtain ⟨h₁,h₂⟩ := recv_released ht replies delay timeout
    refine ⟨h₁,?_⟩
    rw [h₂,Radio.tryRecv_eq,Backlog.frames_pop]
  · have hshut : t.radio.shut = true := hd.shut hs
    simp only [close,Radio.close_of_shut hshut]

@[simp] theorem radio_close (s : Session) (sys : Except Frame.IoKind Unit) :
    (s.close sys).2.radio = (s.radio.close sys).2 :=
  rfl

theorem close_close (s : Session) (sys sys' : Except Frame.IoKind Unit) :
    (s.close sys).2.close sys' = (.ok (),(s.close sys).2) := by
  simp only [close,Radio.close_close]

end Session

/-- Shutdown leaves nothing behind: waiting callers return not connected, and all is refused after. -/
theorem shutdown_leaves_nothing :
    (∀ (n : Nat) (calls : Fin n → FrameId × Duration) (pre mid post : List (SyncSend.Event n))
        (st : LinkState), st ≠ .connected → (∀ e ∈ mid ++ post, e ≠ .setState .connected) →
      let w₀ := (SyncSend.World.start calls).run (pre ++ [.setState st])
      let w₁ := w₀.run mid
      let w := w₁.release.run post
      w.Quiet ∧ (∀ c, (w.callers c).ticket = (w₀.callers c).ticket) ∧
      ∀ c, ((w₁.callers c).phase = .registered ∨
          ((w₁.callers c).phase = .waiting ∧ (w₁.callers c).slot = .open)) →
        (∀ out, (w.callers c).phase = .done out → out = .error .notConnected) ∧
        ∀ failure, ((w.run [.send c failure,.receive c,.leave c]).callers c).phase =
          .done (.error .notConnected)) ∧
    (∀ r : Radio, r.release.Released ∧ (r.shut = false → ∀ sys, (r.close sys).2.Released) ∧
      (r.shut = true → ∀ sys, r.close sys = (.ok (),r)) ∧ (r.reading = true → r.endOfStream.Released)) ∧
    (∀ (r : Radio) (n seen : Nat) (rd : Frame.Reader), r.state = .connected →
      (r.readLoop n seen rd).1.state ≠ .connected → (r.readLoop n seen rd).1.Released) ∧
    (∀ s : Session, s.radio.Released → ∀ ops : List Session.Op,
      let t := s.run ops
      s.radio.Drains t.radio ∧
      (∀ req replies timeout, t.sendSync req replies timeout =
        (⟨t.idleRead,.error (if req.frameId.value = 0 then .noResponseFrameId else .notConnected)⟩,t)) ∧
      (∀ req replies timeout,
        t.call req replies timeout = (⟨t.idleRead,.error .notConnected⟩,t.nextFrameId.2)) ∧
      (∀ req, t.send req = (t.idleRead,.error .notConnected,t)) ∧
      (∀ f, t.idleRead ≠ .frame f) ∧
      (∀ replies delay timeout, (t.recv replies delay timeout).1 = t.radio.backlog.frames.head? ∧
        (t.recv replies delay timeout).2.radio.backlog.frames = t.radio.backlog.frames.tail) ∧
      (s.radio.shut = true → ∀ sys, t.close sys = (.ok (),t))) ∧
    ∀ (s : Session) (sys sys' : Except Frame.IoKind Unit),
      (s.close sys).2.close sys' = (.ok (),(s.close sys).2) := by
  refine ⟨fun n calls pre mid post st hs hstay =>
      SyncSend.World.shutdown_fails_waits calls pre mid post hs hstay,
    fun r => ⟨Radio.released_release r,fun h => Radio.released_close h,fun h => Radio.close_of_shut h,
      fun hr => ?_⟩,
    fun r n seen rd => Radio.released_readLoop n seen rd r,fun s h ops => Session.after_release h ops,
    Session.close_close⟩
  simp only [Radio.endOfStream,hr,if_true]
  exact Radio.released_release r

/-- Two callers on a closing link both return not connected; a second close returns `Ok`. -/
theorem shutdown_leaves_nothing_blocked_waits :
    let calls : Fin 2 → FrameId × Duration :=
      fun c => if c = 0 then (⟨5⟩,⟨0⟩) else (⟨6⟩,Duration.ofMillis 50)
    let pre : List (SyncSend.Event 2) := [.register 0,.send 0 none,.register 1]
    let w₀ := (SyncSend.World.start calls).run (pre ++ [.setState .closing])
    let w₁ := w₀.run []
    let w := w₁.release.run [.setState .disconnected]
    let s : Session := { radio := { config := {}, registry := .standard, backlog := Backlog.new 100 } }
    let req : Request := .at { frameId := ⟨7⟩, command := .hv }
    (w₁.callers 0).phase = .waiting ∧ (w₁.callers 0).slot = .open ∧
      (w₁.callers 1).phase = .registered ∧
      ((w.run [.send 0 none,.receive 0,.leave 0]).callers 0).phase = .done (.error .notConnected) ∧
      ((w.run [.send 1 none,.receive 1,.leave 1]).callers 1).phase = .done (.error .notConnected) ∧
      (s.close (.error .brokenPipe)).1 = .error (.transport .brokenPipe) ∧
      (s.close (.error .brokenPipe)).2.close (.ok ()) = (.ok (),(s.close (.error .brokenPipe)).2) ∧
      ((s.close (.error .brokenPipe)).2.sendSync req [] (Duration.ofMillis 2000)).1.outcome =
        .error .notConnected := by
  intro calls pre w₀ w₁ w s req
  obtain ⟨hworld,-,-,hsession,hclose⟩ := shutdown_leaves_nothing
  have hw := hworld 2 calls pre [] [.setState .disconnected] .closing (by decide) (by simp)
  have h₀ : (w₁.callers 0).phase = .waiting ∧ (w₁.callers 0).slot = .open := by decide +kernel
  have h₁ : (w₁.callers 1).phase = .registered := by decide +kernel
  have hs : (s.close (.error .brokenPipe)).2.sendSync req [] (Duration.ofMillis 2000) = _ :=
    (hsession _ (by rw [Session.radio_close]; exact Radio.released_close rfl _) []).2.1 req []
      (Duration.ofMillis 2000)
  refine ⟨h₀.1,h₀.2,h₁,?_,?_,rfl,hclose s _ _,?_⟩
  · simp only [w,w₁,w₀]
    exact (hw.2.2 0 (.inr h₀)).2 none
  · simp only [w,w₁,w₀]
    exact (hw.2.2 1 (.inl h₁)).2 none
  · rw [hs]
    rfl

/-- A synchronous send under identifier 0 on a closed link is refused as asking for no response. -/
theorem closed_link_refuses_unanswerable_send :
    let s : Session := { radio := { config := {}, registry := .standard, backlog := Backlog.new 100 } }
    let req : Request := .at { frameId := FrameId.none, command := .hv }
    ((s.close (.ok ())).2.sendSync req [] (Duration.ofMillis 2000)).1.outcome = .error .noResponseFrameId :=
  rfl

end RadioLink
