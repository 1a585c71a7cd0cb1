import RadioLink.Proofs.Link.Pipeline
import RadioLink.Proofs.Link.Backlog
/-! Where the responses a link dispatches go, over any interleaving of the reader's dispatches
with its callers' calls: to each subscriber once and in order (`run_subscribe`), through the
backlog's own operations (`backlog_run`) and to each listener (`heard_run_addListener`). The
settings and the waits reach nothing else (`run_withSettings`, `run_withWaits`).
Main statement: `dispatch_delivers`. -/
namespace RadioLink

namespace Radio

/-- What can happen to a link: a dispatch, the reader's end, or one of its callers' calls. -/
inductive Event where
  | dispatch (f : Response)
  | subscribe
  | unsubscribe (i : Nat)
  | take
  | clear
  | addListener
  | removeListener (id : Nat)
  | expect (id : FrameId)
  | dropWait
  | release
  | close (sys : Except Frame.IoKind Unit)
  deriving DecidableEq, Repr

def step (r : Radio) : Event → Radio
  | .dispatch f => r.dispatch f
  | .subscribe => r.subscribe.2
  | .unsubscribe i => r.unsubscribe i
  | .take => r.tryRecv.2
  | .clear => r.clearBacklog.2
  | .addListener => r.addListener.2
  | .removeListener id => (r.removeListener id).2
  | .expect id => (r.expect id).toOption.getD r
  | .dropWait => r.dropWait
  | .release => r.release
  | .close sys => (r.close sys).2

/-- The link after the events in order. -/
def run (r : Radio) (evs : List Event) : Radio := evs.foldl step r

namespace Event

def dispatched? : Event → Option Response
  | .dispatch f => some f
  | _ => none

def accepted? (c : RadioConfig) : Event → Option Response
  | .dispatch f => if c.accepts f then some f else none
  | _ => none

def releases : Event → Bool
  | .release | .close _ => true
  | _ => false

def endsSubscription (i : Nat) : Event → Bool
  | .unsubscribe j => j == i
  | .release | .close _ => true
  | _ => false

def touchesSubscribers : Event → Bool
  | .dispatch _ | .release | .close _ => true
  | _ => false

end Event

variable {r : Radio} {e : Event} {evs : List Event}

@[simp] theorem run_nil : r.run [] = r := rfl

@[simp] theorem run_cons : r.run (e :: evs) = (r.step e).run evs := rfl

theorem run_append (evs evs' : List Event) : r.run (evs ++ evs') = (r.run evs).run evs' :=
  List.foldl_append

theorem step_expect (r : Radio) (id : FrameId) :
    r.step (.expect id) = r ∨
      ∃ g p, r.step (.expect id) = { r with pending := p, wait := some g, answer := none } := by
  simp only [step,expect]
  split
  · exact .inl rfl
  · split
    · exact .inl rfl
    · exact .inr ⟨_,_,rfl⟩

theorem step_close (r : Radio) (sys : Except Frame.IoKind Unit) :
    r.step (.close sys) = if r.shut then r else { r.release with shut := true } := by
  simp only [step,close]
  split <;> rfl

@[simp] theorem config_step (r : Radio) (e : Event) : (r.step e).config = r.config := by
  cases e with
  | expect id => rcases step_expect r id with h | ⟨g,p,h⟩ <;> rw [h]
  | close sys => rw [step_close]; split <;> rfl
  | _ => rfl

@[simp] theorem listeners_step_close (r : Radio) (sys : Except Frame.IoKind Unit) :
    (r.step (.close sys)).listeners = r.listeners := by
  rw [step_close]
  split <;> rfl

@[simp] theorem nextListener_step_close (r : Radio) (sys : Except Frame.IoKind Unit) :
    (r.step (.close sys)).nextListener = r.nextListener := by
  rw [step_close]
  split <;> rfl

@[simp] theorem shut_dispatch (r : Radio) (f : Response) : (r.dispatch f).shut = r.shut := rfl

theorem shut_step {e : Event} (h : (r.step e).shut = true) : r.shut = true ∨ ∃ sys, e = .close sys := by
  cases e with
  | close sys => exact .inr ⟨sys,rfl⟩
  | expect id => rcases step_expect r id with h' | ⟨g,p,h'⟩ <;> rw [h'] at h <;> exact .inl h
  | _ => exact .inl (by simpa [step,subscribe,unsubscribe,tryRecv,clearBacklog,addListener,
      removeListener,dropWait,release,releaseWaiters] using h)

theorem shut_step_down (h : r.shut = true → r.isConnected = false) (e : Event) :
    (r.step e).shut = true → (r.step e).isConnected = false := by
  intro hs
  cases e with
  | close sys =>
    rw [step_close] at hs ⊢
    split
    · exact h ‹_›
    · rfl
  | release => rfl
  | expect id =>
    rcases step_expect r id with h' | ⟨g,p,h'⟩ <;> rw [h'] at hs ⊢ <;> exact h hs
  | _ => simp_all [step,isConnected,subscribe,unsubscribe,tryRecv,clearBacklog,addListener,
      removeListener,dropWait]

theorem shut_run_down (h : r.shut = true → r.isConnected = false) (evs : List Event) :
    (r.run evs).shut = true → (r.run evs).isConnected = false := by
  induction evs generalizing r with
  | nil => exact h
  | cons e evs ih => exact ih (shut_step_down h e)

@[simp] theorem config_run (r : Radio) (evs : List Event) : (r.run evs).config = r.config := by
  induction evs generalizing r with
  | nil => rfl
  | cons e evs ih => rw [run_cons,ih,config_step]

end Radio

/-! ### Subscribers -/

namespace Subscription

/-- What an event does to subscription `i`: offered a response, stops listening, or is unlinked. -/
def onEvent (i : Nat) (s : Subscription) : Radio.Event → Subscription
  | .dispatch f => s.offer f
  | .unsubscribe j => if j = i then { s with listening := false } else s
  | .release | .close _ => s.unlink
  | _ => s

variable {i : Nat} {s : Subscription}

theorem onEvent_unlinked (h : s.linked = false) (e : Radio.Event) :
    (s.onEvent i e).frames = s.frames ∧ (s.onEvent i e).linked = false := by
  cases e with
  | dispatch f => simp [onEvent,offer,h]
  | unsubscribe j => by_cases hj : j = i <;> simp [onEvent,hj,h]
  | release | close => simp [onEvent,unlink]
  | _ => simp [onEvent,h]

theorem foldl_onEvent_unlinked (h : s.linked = false) (evs : List Radio.Event) :
    (evs.foldl (onEvent i) s).frames = s.frames ∧ (evs.foldl (onEvent i) s).linked = false := by
  induction evs generalizing s with
  | nil => exact ⟨rfl,h⟩
  | cons e evs ih =>
    obtain ⟨h₁,h₂⟩ := onEvent_unlinked (i := i) h e
    obtain ⟨ih₁,ih₂⟩ := ih h₂
    exact ⟨ih₁.trans h₁,ih₂⟩

theorem foldl_onEvent_deaf (hl : s.linked = true) (hs : s.listening = false) (evs : List Radio.Event) :
    (evs.foldl (onEvent i) s).frames = s.frames ∧
      (evs.foldl (onEvent i) s).linked = !evs.any Radio.Event.touchesSubscribers := by
  induction evs generalizing s with
  | nil => exact ⟨rfl,hl⟩
  | cons e evs ih =>
    cases ht : e.touchesSubscribers
    · have hs' : (s.onEvent i e).linked = true ∧ (s.onEvent i e).listening = false ∧
          (s.onEvent i e).frames = s.frames := by
        cases e with
        | unsubscribe j => by_cases hj : j = i <;> simp [onEvent,hj,hl,hs]
        | _ => simp_all [onEvent,Radio.Event.touchesSubscribers]
      obtain ⟨ih₁,ih₂⟩ := ih hs'.1 hs'.2.1
      simp [ih₁,ih₂,hs'.2.2,ht]
    · have hu : (s.onEvent i e).linked = false ∧ (s.onEvent i e).frames = s.frames := by
        cases e <;> simp_all [onEvent,offer,unlink,Radio.Event.touchesSubscribers]
      obtain ⟨h₁,h₂⟩ := foldl_onEvent_unlinked (i := i) hu.1 evs
      simp [h₁,h₂,hu.2,ht]

theorem foldl_onEvent_live (hl : s.linked = true) (hs : s.listening = true) (evs : List Radio.Event) :
    (evs.foldl (onEvent i) s).frames =
        s.frames ++ (evs.takeWhile (!·.endsSubscription i)).filterMap Radio.Event.dispatched? ∧
      (evs.foldl (onEvent i) s).linked =
        !(evs.dropWhile (!·.endsSubscription i)).any Radio.Event.touchesSubscribers := by
  induction evs generalizing s with
  | nil => simp [hl]
  | cons e evs ih =>
    rw [List.foldl_cons]
    cases e with
    | dispatch f =>
      have ho : s.onEvent i (.dispatch f) = { s with frames := s.frames ++ [f] } := by
        simp [onEvent,offer,hl,hs]
      obtain ⟨ih₁,ih₂⟩ := ih (s := { s with frames := s.frames ++ [f] }) hl hs
      rw [ho,ih₁,ih₂]
      simp [Radio.Event.endsSubscription,Radio.Event.dispatched?]
    | unsubscribe j =>
      by_cases hj : j = i
      · subst hj
        obtain ⟨h₁,h₂⟩ := foldl_onEvent_deaf (i := j) (s := { s with listening := false }) hl rfl evs
        rw [show s.onEvent j (.unsubscribe j) = { s with listening := false } by simp [onEvent],h₁,h₂]
        simp [Radio.Event.endsSubscription,Radio.Event.touchesSubscribers]
      · obtain ⟨ih₁,ih₂⟩ := ih hl hs
        rw [show s.onEvent i (.unsubscribe j) = s by simp [onEvent,hj],ih₁,ih₂]
        simp [Radio.Event.endsSubscription,hj,Radio.Event.dispatched?,List.filterMap_cons]
    | release | close =>
      obtain ⟨h₁,h₂⟩ := foldl_onEvent_unlinked (i := i) (s := s.unlink) rfl evs
      simp only [onEvent]
      rw [h₁,h₂]
      simp [unlink,Radio.Event.endsSubscription,Radio.Event.touchesSubscribers]
    | _ =>
      obtain ⟨ih₁,ih₂⟩ := ih hl hs
      simp only [onEvent]
      rw [ih₁,ih₂]
      simp [Radio.Event.endsSubscription,Radio.Event.dispatched?,List.filterMap_cons]

end Subscription

namespace Radio

variable {r : Radio}

@[simp] theorem subscribers_dispatch (r : Radio) (f : Response) :
    (r.dispatch f).subscribers = r.subscribers.map (·.offer f) :=
  rfl

theorem getElem?_subscribers_step {i : Nat} {s : Subscription} (h : r.subscribers[i]? = some s)
    (hshut : r.shut = true → s.linked = false) (e : Event) :
    (r.step e).subscribers[i]? = some (s.onEvent i e) := by
  cases e with
  | dispatch f => simp [step,h,Subscription.onEvent]
  | subscribe =>
    have hi : i < r.subscribers.length := (List.getElem?_eq_some_iff.mp h).1
    simp [step,subscribe,List.getElem?_append_left hi,h,Subscription.onEvent]
  | unsubscribe j =>
    by_cases hj : j = i
    · subst hj
      simp [step,unsubscribe,h,Subscription.onEvent]
    · simp [step,unsubscribe,hj,h,Subscription.onEvent]
  | release => simp [step,release,releaseWaiters,h,Subscription.onEvent]
  | close sys =>
    rw [step_close]
    cases hs : r.shut
    · simp [release,releaseWaiters,h,Subscription.onEvent]
    · have hu : s.unlink = s := by
        cases s
        simp_all [Subscription.unlink]
      simp [h,Subscription.onEvent,hu]
  | expect id => rcases step_expect r id with h' | ⟨g,p,h'⟩ <;> simp [h',h,Subscription.onEvent]
  | _ => simp [step,tryRecv,clearBacklog,addListener,removeListener,dropWait,h,Subscription.onEvent]

theorem getElem?_subscribers_run {i : Nat} {s : Subscription} (h : r.subscribers[i]? = some s)
    (hshut : r.shut = true → s.linked = false) (evs : List Event) :
    (r.run evs).subscribers[i]? = some (evs.foldl (Subscription.onEvent i) s) := by
  induction evs generalizing r s with
  | nil => exact h
  | cons e evs ih =>
    refine ih (getElem?_subscribers_step h hshut e) fun hs => ?_
    rcases shut_step hs with hs | ⟨sys,rfl⟩
    · exact (Subscription.onEvent_unlinked (hshut hs) e).2
    · rfl

/-- A subscriber that joins a connected link gets every response from then on, once and in order. -/
theorem run_subscribe (r : Radio) (hc : r.isConnected = true) (hs : r.shut = false)
    (evs : List Event) :
    (r.run (.subscribe :: evs)).received r.subscribers.length =
        (evs.takeWhile (!·.endsSubscription r.subscribers.length)).filterMap Event.dispatched? ∧
      ((r.run (.subscribe :: evs)).subscribers[r.subscribers.length]?.map (·.linked)) =
        some !(evs.dropWhile (!·.endsSubscription r.subscribers.length)).any
          Event.touchesSubscribers := by
  have hnew : (r.step .subscribe).subscribers[r.subscribers.length]? = some { linked := true } := by
    simp [step,subscribe,hc]
  have hshut : (r.step .subscribe).shut = true → ({ linked := true } : Subscription).linked = false := by
    simp [step,subscribe,hs]
  obtain ⟨h₁,h₂⟩ := Subscription.foldl_onEvent_live (i := r.subscribers.length)
    (s := { linked := true }) rfl rfl evs
  rw [run_cons,received,getElem?_subscribers_run hnew hshut]
  simp [h₁,h₂]

theorem run_subscribe_disconnected (r : Radio) (hc : r.isConnected = false) (evs : List Event) :
    (r.run (.subscribe :: evs)).received r.subscribers.length = [] := by
  have hnew : (r.step .subscribe).subscribers[r.subscribers.length]? = some { linked := false } := by
    simp [step,subscribe,hc]
  obtain ⟨h₁,-⟩ := Subscription.foldl_onEvent_unlinked (i := r.subscribers.length)
    (s := { linked := false }) rfl evs
  rw [run_cons,received,getElem?_subscribers_run hnew (fun _ => rfl)]
  simp [h₁]

/-! ### The backlog -/

/-- What an event does to the backlog, as one of the backlog's own operations. -/
def backlogOp (r : Radio) : Event → Option Backlog.Op
  | .dispatch f => if r.config.accepts f then some (.push f) else none
  | .take => some .take
  | .clear => some .clear
  | .release => some .close
  | .close _ => if r.shut then none else some .close
  | _ => none

def backlogOpsOf (r : Radio) : List Event → List Backlog.Op
  | [] => []
  | e :: evs => (r.backlogOp e).toList ++ (r.step e).backlogOpsOf evs

def departuresOf (r : Radio) (evs : List Event) : List Backlog.Departure :=
  r.backlog.departuresOf (r.backlogOpsOf evs)

theorem backlog_dispatch (r : Radio) (f : Response) :
    (r.dispatch f).backlog = if r.config.accepts f then (r.backlog.push f).2 else r.backlog := by
  by_cases ha : r.config.accepts f <;> simp [dispatch,ha]

theorem backlog_step (r : Radio) (e : Event) :
    (r.step e).backlog = r.backlog.run (r.backlogOp e).toList := by
  cases e with
  | dispatch f =>
    rw [step,backlog_dispatch]
    by_cases ha : r.config.accepts f <;> simp [backlogOp,ha,Backlog.perform]
  | close sys =>
    rw [step_close]
    cases hs : r.shut <;> simp [backlogOp,hs,release,releaseWaiters,Backlog.perform]
  | expect id => rcases step_expect r id with h | ⟨g,p,h⟩ <;> simp [h,backlogOp]
  | take => simp [step,tryRecv,backlogOp,Backlog.perform]
  | clear => simp [step,clearBacklog,backlogOp,Backlog.perform]
  | release => simp [step,release,releaseWaiters,backlogOp,Backlog.perform]
  | _ => simp [step,backlogOp,subscribe,unsubscribe,addListener,removeListener,dropWait]

theorem backlog_run (r : Radio) (evs : List Event) :
    (r.run evs).backlog = r.backlog.run (r.backlogOpsOf evs) := by
  induction evs generalizing r with
  | nil => rfl
  | cons e evs ih => rw [run_cons,ih,backlogOpsOf,Backlog.run_append,backlog_step]

theorem filterMap_pushed_backlogOpsOf (r : Radio) (evs : List Event) :
    (r.backlogOpsOf evs).filterMap Backlog.Op.pushed? = evs.filterMap (Event.accepted? r.config) := by
  induction evs generalizing r with
  | nil => rfl
  | cons e evs ih =>
    have he : ((r.backlogOp e).toList).filterMap Backlog.Op.pushed? = (e.accepted? r.config).toList := by
      cases e with
      | dispatch f => by_cases ha : r.config.accepts f <;> simp [backlogOp,ha,Event.accepted?,Backlog.Op.pushed?]
      | close sys => cases r.shut <;> simp [backlogOp,Event.accepted?,Backlog.Op.pushed?]
      | _ => simp [backlogOp,Event.accepted?,Backlog.Op.pushed?]
    rw [backlogOpsOf,List.filterMap_append,ih,config_step,he,List.filterMap_cons]
    cases e.accepted? r.config <;> simp

theorem departuresOf_cons (r : Radio) (e : Event) (evs : List Event) :
    r.departuresOf (e :: evs) =
      r.backlog.departuresOf (r.backlogOp e).toList ++ (r.step e).departuresOf evs := by
  rw [departuresOf,backlogOpsOf,Backlog.departuresOf_append,← backlog_step]
  rfl

/-- What left the backlog and what it holds are what it held and the responses it accepted. -/
theorem departuresOf_append_frames (r : Radio) (evs : List Event) :
    (r.departuresOf evs).map Backlog.Departure.frame ++ (r.run evs).backlog.frames =
      r.backlog.frames ++ evs.filterMap (Event.accepted? r.config) := by
  rw [departuresOf,backlog_run,Backlog.departuresOf_append_frames,filterMap_pushed_backlogOpsOf]

theorem backlogEvictions_step (r : Radio) (e : Event) :
    (r.step e).stats.backlogEvictions = r.stats.backlogEvictions +
      (r.backlog.departuresOf (r.backlogOp e).toList).countP Backlog.Departure.isEviction := by
  cases e with
  | dispatch f =>
    simp only [step,stats_dispatch,backlogOp]
    by_cases ha : r.config.accepts f
    · simp [ha,Backlog.departuresOf,Backlog.countP_isEviction_push]
    · simp [ha,Backlog.departuresOf]
  | take =>
    have h0 := Backlog.countP_isEviction_of_pushed (b := r.backlog)
      (show Backlog.Op.take.pushed? = none from rfl)
    simpa [step,tryRecv,backlogOp,Backlog.departuresOf] using h0
  | clear =>
    have h0 := Backlog.countP_isEviction_of_pushed (b := r.backlog)
      (show Backlog.Op.clear.pushed? = none from rfl)
    simpa [step,clearBacklog,backlogOp,Backlog.departuresOf] using h0
  | close sys =>
    rw [step_close]
    cases hs : r.shut <;> simp [backlogOp,hs,release,releaseWaiters,Backlog.departuresOf,
      Backlog.departures]
  | expect id => rcases step_expect r id with h | ⟨g,p,h⟩ <;> simp [h,backlogOp,Backlog.departuresOf]
  | release => simp [step,release,releaseWaiters,backlogOp,Backlog.departuresOf,Backlog.departures]
  | _ => simp [step,backlogOp,subscribe,unsubscribe,addListener,removeListener,dropWait,
      Backlog.departuresOf]

theorem backlogEvictions_run (r : Radio) (evs : List Event) :
    (r.run evs).stats.backlogEvictions =
      r.stats.backlogEvictions + (r.departuresOf evs).countP Backlog.Departure.isEviction := by
  induction evs generalizing r with
  | nil => simp [departuresOf,backlogOpsOf,Backlog.departuresOf]
  | cons e evs ih =>
    rw [run_cons,ih,backlogEvictions_step,departuresOf_cons,List.countP_append]
    omega

theorem size_run_le (h : r.backlog.size ≤ r.backlog.capacity) (evs : List Event) :
    (r.run evs).backlog.size ≤ (r.run evs).backlog.capacity := by
  rw [backlog_run,Backlog.capacity_run]
  exact Backlog.size_run_le h _

end Radio

/-! ### Listeners -/

namespace Listener

def onEvent (id : Nat) (l : Listener) : Radio.Event → Option Listener
  | .dispatch f => some { l with frames := l.frames ++ [f] }
  | .removeListener j => if j = id then none else some l
  | _ => some l

end Listener

namespace Radio

variable {r : Radio} {id : Nat}

def ListenersNumbered (r : Radio) : Prop := ∀ l ∈ r.listeners, l.id < r.nextListener

@[simp] theorem listeners_dispatch (r : Radio) (f : Response) :
    (r.dispatch f).listeners = r.listeners.map fun l => { l with frames := l.frames ++ [f] } :=
  rfl

@[simp] theorem nextListener_dispatch (r : Radio) (f : Response) :
    (r.dispatch f).nextListener = r.nextListener :=
  rfl

theorem nextListener_step_ge (r : Radio) (e : Event) : r.nextListener ≤ (r.step e).nextListener := by
  cases e with
  | addListener => simp [step,addListener]
  | expect id => rcases step_expect r id with h | ⟨g,p,h⟩ <;> simp [h]
  | close sys => simp
  | _ => simp [step,subscribe,unsubscribe,tryRecv,clearBacklog,removeListener,dropWait,release,
      releaseWaiters]

theorem listenersNumbered_step (h : r.ListenersNumbered) (e : Event) :
    (r.step e).ListenersNumbered := by
  intro l hl
  have hge := nextListener_step_ge r e
  cases e with
  | dispatch f =>
    obtain ⟨l₀,h₀,rfl⟩ := List.mem_map.mp hl
    exact Nat.lt_of_lt_of_le (h l₀ h₀) hge
  | addListener =>
    simp only [step,addListener,List.mem_append,List.mem_singleton] at hl ⊢
    rcases hl with hl | rfl
    · exact Nat.lt_succ_of_lt (h l hl)
    · exact Nat.lt_succ_self _
  | removeListener j =>
    simp only [step,removeListener,List.mem_filter] at hl
    exact h l hl.1
  | expect id =>
    rcases step_expect r id with h' | ⟨g,p,h'⟩ <;> rw [h'] at hl ⊢ <;> exact h l hl
  | close sys => exact Nat.lt_of_lt_of_le (h l (by simpa using hl)) hge
  | _ => exact Nat.lt_of_lt_of_le (h l (by simpa [step,subscribe,unsubscribe,tryRecv,clearBacklog,
      dropWait,release,releaseWaiters] using hl)) hge

theorem find?_listeners_step (hid : id < r.nextListener) (e : Event) :
    (r.step e).listeners.find? (·.id == id) = (r.listeners.find? (·.id == id)).bind (·.onEvent id e) := by
  cases e with
  | dispatch f =>
    have hp : ((·.id == id) ∘ fun l : Listener => { l with frames := l.frames ++ [f] }) =
        (·.id == id) := rfl
    simp only [step,listeners_dispatch,List.find?_map,hp]
    cases r.listeners.find? (·.id == id) <;> simp [Listener.onEvent]
  | addListener =>
    have hnew : ({ id := r.nextListener } : Listener).id ≠ id := by simp; omega
    simp only [step,addListener,List.find?_append]
    cases r.listeners.find? (·.id == id) <;> simp [Listener.onEvent,hnew]
  | removeListener j =>
    simp only [step,removeListener,List.find?_filter]
    by_cases hj : j = id
    · subst hj
      simp [Listener.onEvent]
    · have hp : (fun l : Listener => decide ((l.id != j) = true ∧ (l.id == id) = true)) =
          (·.id == id) := by
        funext l
        by_cases hl : l.id = id
        · simp [hl,Ne.symm hj]
        · simp [hl]
      rw [hp]
      cases r.listeners.find? (·.id == id) <;> simp [Listener.onEvent,hj]
  | expect i =>
    rcases step_expect r i with h' | ⟨g,p,h'⟩ <;> rw [h'] <;>
      cases r.listeners.find? (·.id == id) <;> simp [Listener.onEvent]
  | close sys =>
    rw [listeners_step_close]
    cases r.listeners.find? (·.id == id) <;> simp [Listener.onEvent]
  | _ =>
    simp only [step,subscribe,unsubscribe,tryRecv,clearBacklog,dropWait,release,releaseWaiters]
    cases r.listeners.find? (·.id == id) <;> simp [Listener.onEvent]

theorem listenersNumbered_run (h : r.ListenersNumbered) (evs : List Event) :
    (r.run evs).ListenersNumbered := by
  induction evs generalizing r with
  | nil => exact h
  | cons e evs ih => exact ih (listenersNumbered_step h e)

theorem find?_listeners_run_none (hid : id < r.nextListener)
    (hn : r.listeners.find? (·.id == id) = none) (evs : List Event) :
    (r.run evs).listeners.find? (·.id == id) = none := by
  induction evs generalizing r with
  | nil => exact hn
  | cons e evs ih =>
    refine ih (Nat.lt_of_lt_of_le hid (nextListener_step_ge r e)) ?_
    rw [find?_listeners_step hid,hn]
    rfl

theorem heard_run (hid : id < r.nextListener) {l : Listener}
    (hl : r.listeners.find? (·.id == id) = some l) (evs : List Event) :
    (r.run evs).heard id =
      if .removeListener id ∈ evs then [] else l.frames ++ evs.filterMap Event.dispatched? := by
  induction evs generalizing r l with
  | nil => simp [heard,hl]
  | cons e evs ih =>
    have hid' := Nat.lt_of_lt_of_le hid (nextListener_step_ge r e)
    have hstep := find?_listeners_step hid e
    rw [hl,Option.bind_some] at hstep
    rw [run_cons]
    cases e with
    | dispatch f =>
      rw [ih hid' hstep]
      simp [Event.dispatched?]
    | removeListener j =>
      by_cases hj : j = id
      · subst hj
        have hnone := find?_listeners_run_none hid' (by simpa [Listener.onEvent] using hstep) evs
        simp [heard,hnone]
      · rw [ih hid' (by simpa [Listener.onEvent,hj] using hstep)]
        simp [Ne.symm hj,Event.dispatched?,List.filterMap_cons]
    | _ =>
      rw [ih hid' hstep]
      simp [Event.dispatched?,List.filterMap_cons]

/-- A listener hears every response dispatched until it is removed, once and in order. -/
theorem heard_run_addListener (h : r.ListenersNumbered) (evs : List Event) :
    (r.run (.addListener :: evs)).heard r.nextListener =
      if .removeListener r.nextListener ∈ evs then [] else evs.filterMap Event.dispatched? := by
  have hfresh : r.listeners.find? (·.id == r.nextListener) = none := by
    rw [List.find?_eq_none]
    intro l hl
    have := h l hl
    simp only [beq_iff_eq]
    omega
  have hnew : (r.step .addListener).listeners.find? (·.id == r.nextListener) =
      some { id := r.nextListener } := by
    simp [step,addListener,List.find?_append,hfresh]
  rw [run_cons,heard_run (by simp [step,addListener]) hnew]
  simp

/-! ### What the settings and the waits do not reach -/

theorem step_withSettings (r : Radio) (c : RadioConfig) (b : Backlog) (s : LinkStats) (e : Event) :
    ∃ b' s', ({ r with config := c, backlog := b, stats := s } : Radio).step e =
      { r.step e with config := c, backlog := b', stats := s' } := by
  cases e with
  | expect id =>
    simp only [step,expect,isConnected]
    by_cases h0 : id.value = 0
    · simp only [h0,if_true]
      exact ⟨_,_,rfl⟩
    · simp only [h0,if_false]
      cases r.pending.register (r.state == .connected) id <;> exact ⟨_,_,rfl⟩
  | take =>
    simp only [step,tryRecv]
    exact ⟨_,_,rfl⟩
  | clear =>
    simp only [step,clearBacklog]
    exact ⟨_,_,rfl⟩
  | close sys =>
    rw [step_close,step_close]
    cases hs : r.shut <;> simp only [hs,if_true,if_false,Bool.false_eq_true] <;> exact ⟨_,_,rfl⟩
  | _ => exact ⟨_,_,rfl⟩

theorem run_withSettings (r : Radio) (c : RadioConfig) (b : Backlog) (s : LinkStats)
    (evs : List Event) :
    ∃ b' s', ({ r with config := c, backlog := b, stats := s } : Radio).run evs =
      { r.run evs with config := c, backlog := b', stats := s' } := by
  induction evs generalizing r b s with
  | nil => exact ⟨b,s,rfl⟩
  | cons e evs ih =>
    obtain ⟨b₁,s₁,h₁⟩ := step_withSettings r c b s e
    rw [run_cons,h₁]
    exact ih (r.step e) b₁ s₁

theorem step_withWaits (r : Radio) (p : PendingTable) (w : Option Guard) (a : Option Response)
    (e : Event) :
    ∃ p' w' a', ({ r with pending := p, wait := w, answer := a } : Radio).step e =
      { r.step e with pending := p', wait := w', answer := a' } := by
  cases e with
  | expect id =>
    rcases step_expect { r with pending := p, wait := w, answer := a } id with h | ⟨g,q,h⟩ <;>
      rcases step_expect r id with h' | ⟨g',q',h'⟩ <;> rw [h,h'] <;> exact ⟨_,_,_,rfl⟩
  | take =>
    simp only [step,tryRecv]
    exact ⟨_,_,_,rfl⟩
  | clear =>
    simp only [step,clearBacklog]
    exact ⟨_,_,_,rfl⟩
  | close sys =>
    rw [step_close,step_close]
    cases hs : r.shut <;> simp only [hs,if_true,if_false,Bool.false_eq_true] <;> exact ⟨_,_,_,rfl⟩
  | _ => exact ⟨_,_,_,rfl⟩

theorem run_withWaits (r : Radio) (p : PendingTable) (w : Option Guard) (a : Option Response)
    (evs : List Event) :
    ∃ p' w' a', ({ r with pending := p, wait := w, answer := a } : Radio).run evs =
      { r.run evs with pending := p', wait := w', answer := a' } := by
  induction evs generalizing r p w a with
  | nil => exact ⟨p,w,a,rfl⟩
  | cons e evs ih =>
    obtain ⟨p₁,w₁,a₁,h₁⟩ := step_withWaits r p w a e
    rw [run_cons,h₁]
    exact ih (r.step e) p₁ w₁ a₁

/-! ### Delivery on a fresh link -/

/-- Over any interleaving of dispatches and calls on a fresh link, subscribers, the backlog and
listeners each get the dispatched responses once and in order, and the waits reach none of them. -/
theorem dispatch_delivers {config : RadioConfig} {reg : Registry}
    (hr : Radio.open config reg = .ok r) :
    (∀ pre post, (r.run pre).isConnected = true →
      let i := (r.run pre).subscribers.length
      (r.run (pre ++ .subscribe :: post)).received i =
          (post.takeWhile (!·.endsSubscription i)).filterMap Event.dispatched? ∧
        ((r.run (pre ++ .subscribe :: post)).subscribers[i]?.map (·.linked)) =
          some !(post.dropWhile (!·.endsSubscription i)).any Event.touchesSubscribers) ∧
    (∀ evs, (r.departuresOf evs).map Backlog.Departure.frame ++ (r.run evs).backlog.frames =
        evs.filterMap (Event.accepted? config) ∧
      (r.run evs).stats.backlogEvictions =
        (r.departuresOf evs).countP Backlog.Departure.isEviction ∧
      (r.run evs).backlog.size ≤ (r.run evs).backlog.capacity) ∧
    (∀ pre post,
      let id := (r.run pre).nextListener
      (r.run (pre ++ .addListener :: post)).heard id =
        if .removeListener id ∈ post then [] else post.filterMap Event.dispatched?) ∧
    (∀ (c : RadioConfig) evs,
      let r' := ({ r with config := c } : Radio).run evs
      r'.subscribers = (r.run evs).subscribers ∧ r'.listeners = (r.run evs).listeners ∧
        r'.pending = (r.run evs).pending ∧ r'.wait = (r.run evs).wait ∧
        r'.answer = (r.run evs).answer) ∧
    (∀ p w a evs,
      let r' := ({ r with pending := p, wait := w, answer := a } : Radio).run evs
      r'.backlog = (r.run evs).backlog ∧ r'.subscribers = (r.run evs).subscribers ∧
        r'.listeners = (r.run evs).listeners ∧ r'.stats = (r.run evs).stats) := by
  obtain rfl := eq_of_open_eq_ok hr
  refine ⟨?_,?_,?_,?_,?_⟩
  · -- subscribers: a connected link is not shut, since shutting disconnects for good
    intro pre post hc
    have hdown := shut_run_down
      (r := { config, registry := reg, backlog := Backlog.new config.backlogCapacity })
      (fun h => by simp at h) pre
    rw [run_append]
    exact run_subscribe _ hc (Bool.eq_false_iff.mpr fun h => by simp [hdown h] at hc) post
  · intro evs
    have hsize : (Backlog.new config.backlogCapacity).size ≤
        (Backlog.new config.backlogCapacity).capacity := by
      simp [Backlog.new,Backlog.size]
    refine ⟨?_,?_,size_run_le hsize evs⟩
    · simpa [Backlog.new] using departuresOf_append_frames
        { config, registry := reg, backlog := Backlog.new config.backlogCapacity } evs
    · simpa using backlogEvictions_run
        { config, registry := reg, backlog := Backlog.new config.backlogCapacity } evs
  · intro pre post
    rw [run_append]
    exact heard_run_addListener (listenersNumbered_run (fun l hl => by simp at hl) pre) post
  · intro c evs
    obtain ⟨b,s,h⟩ := run_withSettings
      { config, registry := reg, backlog := Backlog.new config.backlogCapacity } c
      (Backlog.new config.backlogCapacity) {} evs
    simp [h]
  · intro p w a evs
    obtain ⟨p',w',a',h⟩ := run_withWaits
      { config, registry := reg, backlog := Backlog.new config.backlogCapacity } p w a evs
    simp [h]

/-- A subscriber that drops its receiver after two responses does not get the third. -/
theorem dispatch_delivers_dropped_receiver :
    let config : RadioConfig := { backlogCapacity := 1 }
    let r : Radio := { config, registry := .standard, backlog := Backlog.new config.backlogCapacity }
    let f : Response := .transmitStatus ⟨⟨5⟩,⟨0⟩,0,0,0⟩
    let post : List Event := [.dispatch f,.dispatch f,.unsubscribe 0,.dispatch f]
    Radio.open config .standard = .ok r ∧ (r.run []).isConnected = true ∧
      (r.run ([] ++ .subscribe :: post)).received (r.run []).subscribers.length =
          (post.takeWhile (!·.endsSubscription (r.run []).subscribers.length)).filterMap
            Event.dispatched? ∧
        ((r.run ([] ++ .subscribe :: post)).subscribers[(r.run []).subscribers.length]?.map
            (·.linked)) =
          some !(post.dropWhile (!·.endsSubscription (r.run []).subscribers.length)).any
            Event.touchesSubscribers := by
  intro config r f post
  have hr : Radio.open config .standard = .ok r := rfl
  have hc : (r.run []).isConnected = true := rfl
  exact ⟨hr,hc,(dispatch_delivers hr).1 [] post hc⟩

example :
    let config : RadioConfig := { backlogCapacity := 1 }
    let r : Radio := { config, registry := .standard, backlog := Backlog.new config.backlogCapacity }
    let f : Response := .transmitStatus ⟨⟨5⟩,⟨0⟩,0,0,0⟩
    let g : Response := .transmitStatus ⟨⟨6⟩,⟨0⟩,0,0,0⟩
    let r' := r.run [.subscribe,.dispatch f,.dispatch g,.unsubscribe 0,.dispatch f]
    r'.received 0 = [f,g] ∧ r'.backlog.frames = [f] ∧ r'.stats.backlogEvictions = 2 := by
  decide

end Radio

end RadioLink
