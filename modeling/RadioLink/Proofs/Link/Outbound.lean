import RadioLink.Link.Outbound
import RadioLink.Proofs.Frame.Decode
/-! Frames sent by concurrent callers never interleave on the stream. The invariant `Inv`: the
stream holds, for each caller that took the lock and in that order, what the caller wrote, and
only the holder can be part way through its frame. It needs a stream that never fails for good
and never takes nothing; short writes and retried failures are allowed. -/
namespace RadioLink
namespace Outbound

namespace Phase

def tookLock : Phase → Bool
  | .ready | .queued | .done (.error .notConnected) => false
  | _ => true

def holdsLock : Phase → Bool
  | .writing _ | .flushing | .unlocking _ => true
  | _ => false

def accepted : Phase → Bool
  | .writing _ | .flushing | .unlocking (.ok ()) | .counting | .done (.ok ()) => true
  | _ => false

def failure : Phase → Option Frame.FrameError
  | .unlocking (.error e) | .done (.error (.frame e)) => some e
  | _ => none

def sent : Phase → Bool
  | .done (.ok ()) => true
  | _ => false

def returned : Phase → Bool
  | .done _ => true
  | _ => false

/-- What a caller in this phase has put on the stream, of its frame's wire form `frame`. -/
def written (frame : Bytes) : Phase → Bytes
  | .writing offset => frame.take offset
  | p => if p.accepted then frame else []

theorem tookLock_of_holdsLock {p : Phase} (h : p.holdsLock) : p.tookLock := by
  cases p <;> simp_all [holdsLock, tookLock]

theorem holdsLock_eq_false {p : Phase} (h : p.tookLock = false) : p.holdsLock = false :=
  Bool.eq_false_iff.2 fun hh => by simp [tookLock_of_holdsLock hh] at h

theorem tookLock_of_accepted {p : Phase} (h : p.accepted) : p.tookLock := by
  rcases p with _ | _ | _ | _ | ⟨_ | ⟨⟩⟩ | _ | ⟨_ | ⟨⟩⟩ <;> simp_all [accepted, tookLock]

theorem tookLock_of_failure {p : Phase} {e : Frame.FrameError} (h : p.failure = some e) :
    p.tookLock := by
  unfold failure at h
  split at h <;> simp_all [tookLock]

theorem written_of_returned {p : Phase} (h : p.returned) (frame : Bytes) :
    p.written frame = if p.sent then frame else [] := by
  rcases p with _ | _ | _ | _ | _ | _ | ⟨_ | ⟨⟩⟩ <;> simp_all [returned, written, accepted, sent]

theorem sent_of_holdsLock {p : Phase} (h : p.holdsLock) : p.sent = false := by
  cases p <;> simp_all [holdsLock, sent]

@[simp] theorem afterWrite_holdsLock (bytes : Bytes) (offset : Nat) :
    (afterWrite bytes offset).holdsLock := by
  unfold afterWrite; split <;> rfl

@[simp] theorem afterWrite_accepted (bytes : Bytes) (offset : Nat) :
    (afterWrite bytes offset).accepted := by
  unfold afterWrite; split <;> rfl

@[simp] theorem afterWrite_failure (bytes : Bytes) (offset : Nat) :
    (afterWrite bytes offset).failure = none := by
  unfold afterWrite; split <;> rfl

theorem afterWrite_eq_writing {bytes : Bytes} {offset o : Nat}
    (h : afterWrite bytes offset = .writing o) : o = offset ∧ offset < bytes.length := by
  unfold afterWrite at h
  split at h
  · cases h
  · next hlt => cases h; exact ⟨rfl, by omega⟩

theorem eq_of_returned_of_accepted {p : Phase} (hr : p.returned) (ha : p.accepted) :
    p = .done (.ok ()) := by
  rcases p with _ | _ | _ | _ | _ | _ | ⟨_ | ⟨⟩⟩ <;> simp_all [returned, accepted]

theorem eq_of_returned_of_failure {p : Phase} {e : Frame.FrameError} (hr : p.returned)
    (hf : p.failure = some e) : p = .done (.error (.frame e)) := by
  unfold failure at hf
  split at hf <;> simp_all [returned]

theorem eq_of_returned_of_not_tookLock {p : Phase} (hr : p.returned) (ht : p.tookLock = false) :
    p = .done (.error .notConnected) := by
  rcases p with _ | _ | _ | _ | _ | _ | ⟨e | _⟩
  all_goals simp_all [returned, tookLock]
  cases e <;> simp_all

theorem written_afterWrite (frame : Bytes) (offset : Nat) :
    (afterWrite frame offset).written frame = frame.take offset := by
  unfold afterWrite
  split
  · next h => simp [written, accepted, List.take_of_length_le h]
  · rfl

end Phase

/-- Whether a step's stream call gets through: a write taking a byte, a flush, or a retried failure. -/
def Event.benign {n : Nat} : Event n → Bool
  | .write _ (.took k) => k != 0
  | .write _ (.failed kind) | .flush _ (some kind) => kind.isRetriedOnWrite
  | _ => true

namespace World

variable {n : Nat} {w : World n} {c d : Fin n} {p : Phase}

def sentBy (w : World n) (c : Fin n) : Bytes := (w.phases c).written (w.requests c).toFrame.wire

@[simp] theorem phases_setPhase : (w.setPhase c p).phases d = if d = c then p else w.phases d :=
  rfl

@[simp] theorem requests_setPhase : (w.setPhase c p).requests = w.requests := rfl
@[simp] theorem holder_setPhase : (w.setPhase c p).holder = w.holder := rfl
@[simp] theorem scratch_setPhase : (w.setPhase c p).scratch = w.scratch := rfl
@[simp] theorem wire_setPhase : (w.setPhase c p).wire = w.wire := rfl
@[simp] theorem framesSent_setPhase : (w.setPhase c p).framesSent = w.framesSent := rfl
@[simp] theorem takers_setPhase : (w.setPhase c p).takers = w.takers := rfl
@[simp] theorem encoded_setPhase : (w.setPhase c p).encoded d = w.encoded d := rfl

theorem sentBy_setPhase :
    (w.setPhase c p).sentBy d =
      if d = c then p.written (w.requests c).toFrame.wire else w.sentBy d := by
  by_cases h : d = c
  · subst h; simp [sentBy]
  · simp [sentBy, h]

theorem map_sentBy_setPhase {l : List (Fin n)} (hc : c ∉ l) :
    l.map (w.setPhase c p).sentBy = l.map w.sentBy :=
  List.map_congr_left fun d hd => by
    simp [sentBy_setPhase, show d ≠ c from fun h => hc (h ▸ hd)]

theorem map_sentBy_setPhase_of_written (l : List (Fin n))
    (hp : p.written (w.requests c).toFrame.wire = w.sentBy c) :
    l.map (w.setPhase c p).sentBy = l.map w.sentBy :=
  List.map_congr_left fun d _ => by
    by_cases h : d = c
    · subst h; simp [sentBy_setPhase, hp]
    · simp [sentBy_setPhase, h]

theorem filter_sent_setPhase (l : List (Fin n)) (hp : p.sent = (w.phases c).sent) :
    l.filter (fun d => ((w.setPhase c p).phases d).sent) = l.filter fun d => (w.phases d).sent :=
  List.filter_congr fun d _ => by
    by_cases h : d = c
    · subst h; simp [hp]
    · simp [h]

theorem length_filter_sent_of_mem {l : List (Fin n)} (hl : l.Nodup) (hc : c ∈ l)
    (hs : (w.phases c).sent = false) :
    (l.filter fun d => ((w.setPhase c (.done (.ok ()))).phases d).sent).length =
      (l.filter fun d => (w.phases d).sent).length + 1 := by
  induction l with
  | nil => simp at hc
  | cons d l ih =>
    rw [List.nodup_cons] at hl
    by_cases hd : d = c
    · subst hd
      have hrest : l.filter (fun d' => ((w.setPhase d (.done (.ok ()))).phases d').sent) =
          l.filter fun d' => (w.phases d').sent :=
        List.filter_congr fun d' hd' => by simp [show d' ≠ d from fun h => hl.1 (h ▸ hd')]
      rw [List.filter_cons_of_pos (by simp [Phase.sent]), List.filter_cons_of_neg (by simp [hs]),
        hrest, List.length_cons]
    · have hhead : ((w.setPhase c (.done (.ok ()))).phases d).sent = (w.phases d).sent := by
        simp [hd]
      have hrest := ih hl.2 (by simpa [Ne.symm hd] using hc)
      rw [List.filter_cons, List.filter_cons, hhead]
      by_cases hsd : (w.phases d).sent
      · rw [if_pos hsd, if_pos hsd, List.length_cons, List.length_cons, hrest]
      · rw [if_neg hsd, if_neg hsd, hrest]

theorem flatten_sentBy_of_returned {l : List (Fin n)} (hl : ∀ c ∈ l, (w.phases c).returned) :
    (l.map w.sentBy).flatten =
      ((l.filter fun c => (w.phases c).sent).map fun c => (w.requests c).toFrame.wire).flatten := by
  induction l with
  | nil => rfl
  | cons c l ih =>
    have hc : w.sentBy c = if (w.phases c).sent then (w.requests c).toFrame.wire else [] :=
      Phase.written_of_returned (hl c (by simp)) _
    have hrest := ih fun d hd => hl d (by simp [hd])
    by_cases hs : (w.phases c).sent <;> simp [hs, hc, hrest]

@[simp] theorem requests_step (w : World n) (e : Event n) : (w.step e).requests = w.requests := by
  cases e with
  | check c =>
    show (w.check c).requests = w.requests
    unfold World.check
    split <;> rfl
  | acquire c =>
    show (w.acquire c).requests = w.requests
    unfold World.acquire
    split
    · split <;> rfl
    · rfl
  | write c r =>
    show (w.write c r).requests = w.requests
    unfold World.write
    split
    · rfl
    · rfl
    · split <;> rfl
    · rfl
  | flush c failure =>
    show (w.flush c failure).requests = w.requests
    unfold World.flush
    split
    · rfl
    · split <;> rfl
    · rfl
  | release c =>
    show (w.release c).requests = w.requests
    unfold World.release
    split <;> rfl
  | count c =>
    show (w.count c).requests = w.requests
    unfold World.count
    split <;> rfl
  | setState s => rfl

@[simp] theorem requests_run (w : World n) (evs : List (Event n)) :
    (w.run evs).requests = w.requests := by
  induction evs generalizing w with
  | nil => rfl
  | cons e evs ih => exact (ih (w.step e)).trans (requests_step w e)

theorem encoded_eq_ok {b : Bytes} (h : w.encoded c = .ok b) : b = (w.requests c).toFrame.wire :=
  (Frame.encode_eq_ok_iff.mp h).2

end World

open World

variable {n : Nat} {w : World n} {c : Fin n}

/-- What holds of every world reached through steps whose stream calls get through. -/
structure Inv (w : World n) : Prop where
  nodup : w.takers.Nodup
  mem_takers : ∀ c, c ∈ w.takers ↔ (w.phases c).tookLock
  holder_iff : ∀ c, w.holder = some c ↔ (w.phases c).holdsLock
  last : ∀ c, (w.phases c).holdsLock → ∃ pre, w.takers = pre ++ [c]
  scratch_eq : ∀ c o, w.phases c = .writing o →
    w.scratch = (w.requests c).toFrame.wire ∧ o < w.scratch.length
  accepted : ∀ c, (w.phases c).accepted → w.encoded c = .ok (w.requests c).toFrame.wire
  refused : ∀ c e, (w.phases c).failure = some e → w.encoded c = .error e
  covered : ∀ c, (w.phases c).tookLock → (w.phases c).accepted ∨ (w.phases c).failure.isSome
  wire_eq : w.wire = (w.takers.map w.sentBy).flatten
  sent_eq : w.framesSent = (w.takers.filter fun c => (w.phases c).sent).length

theorem inv_start (requests : Fin n → Request) : Inv (World.start requests) where
  nodup := List.nodup_nil
  mem_takers _ := by simp [World.start, Phase.tookLock]
  holder_iff _ := by simp [World.start, Phase.holdsLock]
  last _ h := by simp [World.start, Phase.holdsLock] at h
  scratch_eq _ _ h := by simp [World.start] at h
  accepted _ h := by simp [World.start, Phase.accepted] at h
  refused _ _ h := by simp [World.start, Phase.failure] at h
  covered _ h := by simp [World.start, Phase.tookLock] at h
  wire_eq := rfl
  sent_eq := rfl

namespace Inv

theorem holdsLock_eq_false (h : Inv w) (hc : w.holder ≠ some c) : (w.phases c).holdsLock = false :=
  Bool.eq_false_iff.2 fun hh => hc ((h.holder_iff c).2 hh)

theorem not_mem_of_last (h : Inv w) {pre : List (Fin n)} (hpre : w.takers = pre ++ [c]) :
    c ∉ pre := by
  have hnd := h.nodup
  rw [hpre, List.nodup_append] at hnd
  exact fun hc => hnd.2.2 c hc c (by simp) rfl

theorem setPhase_outside (h : Inv w) (hc : (w.phases c).tookLock = false) {p : Phase}
    (hp : p.tookLock = false) : Inv (w.setPhase c p) := by
  have hcl := Phase.holdsLock_eq_false hc
  have hpl := Phase.holdsLock_eq_false hp
  have hnot : c ∉ w.takers := by simp [h.mem_takers, hc]
  constructor
  · exact h.nodup
  · intro d
    by_cases hd : d = c
    · subst hd; simp [h.mem_takers, hc, hp]
    · simp [hd, h.mem_takers d]
  · intro d
    by_cases hd : d = c
    · subst hd; simp [h.holder_iff, hcl, hpl]
    · simp [hd, h.holder_iff d]
  · intro d hl
    by_cases hd : d = c
    · subst hd; simp [hpl] at hl
    · simpa [hd] using h.last d (by simpa [hd] using hl)
  · intro d o hw
    by_cases hd : d = c
    · subst hd
      have : p = .writing o := by simpa using hw
      simp [this, Phase.tookLock] at hp
    · simpa [hd] using h.scratch_eq d o (by simpa [hd] using hw)
  · intro d ha
    by_cases hd : d = c
    · subst hd
      have : p.accepted := by simpa using ha
      simp [Phase.tookLock_of_accepted this] at hp
    · simpa [hd] using h.accepted d (by simpa [hd] using ha)
  · intro d e hf
    by_cases hd : d = c
    · subst hd
      have : p.failure = some e := by simpa using hf
      simp [Phase.tookLock_of_failure this] at hp
    · simpa [hd] using h.refused d e (by simpa [hd] using hf)
  · intro d ht
    by_cases hd : d = c
    · subst hd; simp [hp] at ht
    · simpa [hd] using h.covered d (by simpa [hd] using ht)
  · simp [map_sentBy_setPhase hnot, h.wire_eq]
  · rw [framesSent_setPhase, takers_setPhase, h.sent_eq]
    refine congrArg List.length (List.filter_congr fun d hd => ?_)
    simp [show d ≠ c from fun e => hnot (e ▸ hd)]

/-- Caller `c` takes the free lock and moves to phase `p`, having written nothing yet. -/
theorem lock (h : Inv w) (hq : w.phases c = .queued) (hfree : w.holder = none) {p : Phase}
    {s : Bytes} (hp : p.holdsLock) (hwr : p.written (w.requests c).toFrame.wire = [])
    (hps : ∀ o, p = .writing o → s = (w.requests c).toFrame.wire ∧ o < s.length)
    (hpa : p.accepted → w.encoded c = .ok (w.requests c).toFrame.wire)
    (hpf : ∀ e, p.failure = some e → w.encoded c = .error e)
    (hcov : p.accepted ∨ p.failure.isSome) :
    Inv { ({ w with holder := some c, takers := w.takers ++ [c] } : World n).setPhase c p with
      scratch := s } := by
  have hnot : c ∉ w.takers := by simp [h.mem_takers, hq, Phase.tookLock]
  have hidle : ∀ d, (w.phases d).holdsLock = false := fun d => h.holdsLock_eq_false (by simp [hfree])
  constructor
  · show (w.takers ++ [c]).Nodup
    refine List.nodup_append.2 ⟨h.nodup, List.nodup_singleton c, fun a ha b hb => ?_⟩
    rw [List.mem_singleton] at hb
    exact fun hab => hnot (hb ▸ hab ▸ ha)
  · intro d
    by_cases hd : d = c
    · subst hd; simp [Phase.tookLock_of_holdsLock hp]
    · simpa [hd] using h.mem_takers d
  · intro d
    by_cases hd : d = c
    · subst hd; simp [hp]
    · simp [hd, Ne.symm hd, hidle d]
  · intro d hl
    by_cases hd : d = c
    · subst hd; exact ⟨w.takers, rfl⟩
    · simp [hd, hidle d] at hl
  · intro d o hw
    by_cases hd : d = c
    · subst hd; exact hps o (by simpa using hw)
    · have hw' : w.phases d = .writing o := by simpa [hd] using hw
      have := hidle d
      simp [hw', Phase.holdsLock] at this
  · intro d ha
    by_cases hd : d = c
    · subst hd; exact hpa (by simpa using ha)
    · exact h.accepted d (by simpa [hd] using ha)
  · intro d e hf
    by_cases hd : d = c
    · subst hd; exact hpf e (by simpa using hf)
    · exact h.refused d e (by simpa [hd] using hf)
  · intro d ht
    by_cases hd : d = c
    · subst hd; simpa using hcov
    · simpa [hd] using h.covered d (by simpa [hd] using ht)
  · show w.wire = ((w.takers ++ [c]).map
      (({ w with holder := some c, takers := w.takers ++ [c] } : World n).setPhase c p).sentBy).flatten
    have hsb : ({ w with holder := some c, takers := w.takers ++ [c] } : World n).sentBy =
        w.sentBy := rfl
    rw [List.map_append, map_sentBy_setPhase hnot, hsb, List.flatten_append, ← h.wire_eq]
    simp [sentBy_setPhase, hwr]
  · show w.framesSent = ((w.takers ++ [c]).filter fun d =>
      ((({ w with holder := some c, takers := w.takers ++ [c] } : World n).setPhase c p).phases d).sent).length
    have hrest := filter_sent_setPhase (w := { w with holder := some c, takers := w.takers ++ [c] })
      (c := c) w.takers (by rw [Phase.sent_of_holdsLock hp]; simp [hq, Phase.sent])
    rw [List.filter_append, hrest, h.sent_eq]
    simp [Phase.sent_of_holdsLock hp]

theorem setPhase_holding (h : Inv w) (hheld : (w.phases c).holdsLock)
    (hacc : (w.phases c).accepted) {p : Phase} (hp : p.holdsLock) (hpa : p.accepted)
    (hpf : p.failure = none)
    (hpw : ∀ o, p = .writing o → w.scratch = (w.requests c).toFrame.wire ∧ o < w.scratch.length)
    {b : Bytes} (hwr : p.written (w.requests c).toFrame.wire = w.sentBy c ++ b) :
    Inv { w.setPhase c p with wire := w.wire ++ b } := by
  obtain ⟨pre, hpre⟩ := h.last c hheld
  have hnot := h.not_mem_of_last hpre
  constructor
  · exact h.nodup
  · intro d
    by_cases hd : d = c
    · subst hd
      simp [h.mem_takers, Phase.tookLock_of_holdsLock hheld, Phase.tookLock_of_holdsLock hp]
    · simpa [hd] using h.mem_takers d
  · intro d
    by_cases hd : d = c
    · subst hd; simp [(h.holder_iff d).2 hheld, hp]
    · simpa [hd] using h.holder_iff d
  · intro d hl
    by_cases hd : d = c
    · subst hd; exact ⟨pre, hpre⟩
    · simpa [hd] using h.last d (by simpa [hd] using hl)
  · intro d o hw
    by_cases hd : d = c
    · subst hd; exact hpw o (by simpa using hw)
    · simpa [hd] using h.scratch_eq d o (by simpa [hd] using hw)
  · intro d ha
    by_cases hd : d = c
    · subst hd; exact h.accepted d hacc
    · exact h.accepted d (by simpa [hd] using ha)
  · intro d e hf
    by_cases hd : d = c
    · subst hd; simp [hpf] at hf
    · exact h.refused d e (by simpa [hd] using hf)
  · intro d ht
    by_cases hd : d = c
    · subst hd; simp [hpa]
    · simpa [hd] using h.covered d (by simpa [hd] using ht)
  · show w.wire ++ b = (w.takers.map (w.setPhase c p).sentBy).flatten
    rw [h.wire_eq, hpre, List.map_append, List.map_append, map_sentBy_setPhase hnot]
    simp [sentBy_setPhase, hwr]
  · show w.framesSent = (w.takers.filter fun d => ((w.setPhase c p).phases d).sent).length
    rw [filter_sent_setPhase _ (by rw [Phase.sent_of_holdsLock hp, Phase.sent_of_holdsLock hheld]),
      h.sent_eq]

/-- The holder releases the lock and moves to phase `p`, keeping what it wrote. -/
theorem unlock (h : Inv w) (hheld : (w.phases c).holdsLock) {p : Phase}
    (hp : p.holdsLock = false) (ht : p.tookLock)
    (hwr : p.written (w.requests c).toFrame.wire = w.sentBy c) (hs : p.sent = (w.phases c).sent)
    (hpa : p.accepted → (w.phases c).accepted)
    (hpf : ∀ e, p.failure = some e → (w.phases c).failure = some e)
    (hcov : p.accepted ∨ p.failure.isSome) :
    Inv { w.setPhase c p with holder := none } := by
  have hother : ∀ d, d ≠ c → (w.phases d).holdsLock = false := fun d hd =>
    h.holdsLock_eq_false (by simpa [(h.holder_iff c).2 hheld] using Ne.symm hd)
  constructor
  · exact h.nodup
  · intro d
    by_cases hd : d = c
    · subst hd; simp [h.mem_takers, Phase.tookLock_of_holdsLock hheld, ht]
    · simpa [hd] using h.mem_takers d
  · intro d
    by_cases hd : d = c
    · subst hd; simp [hp]
    · simp [hd, hother d hd]
  · intro d hl
    by_cases hd : d = c
    · subst hd; simp [hp] at hl
    · simp [hd, hother d hd] at hl
  · intro d o hw
    by_cases hd : d = c
    · subst hd
      have hw' : p = .writing o := by simpa using hw
      simp [hw', Phase.holdsLock] at hp
    · have hw' : w.phases d = .writing o := by simpa [hd] using hw
      simpa [hw', Phase.holdsLock] using hother d hd
  · intro d ha
    by_cases hd : d = c
    · subst hd; exact h.accepted d (hpa (by simpa using ha))
    · exact h.accepted d (by simpa [hd] using ha)
  · intro d e hf
    by_cases hd : d = c
    · subst hd; exact h.refused d e (hpf e (by simpa using hf))
    · exact h.refused d e (by simpa [hd] using hf)
  · intro d htook
    by_cases hd : d = c
    · subst hd; simpa using hcov
    · simpa [hd] using h.covered d (by simpa [hd] using htook)
  · show w.wire = (w.takers.map (w.setPhase c p).sentBy).flatten
    rw [map_sentBy_setPhase_of_written _ hwr, h.wire_eq]
  · show w.framesSent = (w.takers.filter fun d => ((w.setPhase c p).phases d).sent).length
    rw [filter_sent_setPhase _ hs, h.sent_eq]

theorem counted (h : Inv w) (hc : w.phases c = .counting) :
    Inv { w.setPhase c (.done (.ok ())) with framesSent := w.framesSent + 1 } := by
  have hmem : c ∈ w.takers := (h.mem_takers c).2 (by rw [hc]; rfl)
  constructor
  · exact h.nodup
  · intro d
    by_cases hd : d = c
    · subst hd; simp [hmem, Phase.tookLock]
    · simpa [hd] using h.mem_takers d
  · intro d
    by_cases hd : d = c
    · subst hd; simp [h.holder_iff, hc, Phase.holdsLock]
    · simpa [hd] using h.holder_iff d
  · intro d hl
    by_cases hd : d = c
    · subst hd; simp [Phase.holdsLock] at hl
    · simpa [hd] using h.last d (by simpa [hd] using hl)
  · intro d o hw
    by_cases hd : d = c
    · subst hd; simp at hw
    · simpa [hd] using h.scratch_eq d o (by simpa [hd] using hw)
  · intro d ha
    by_cases hd : d = c
    · subst hd; exact h.accepted d (by rw [hc]; rfl)
    · exact h.accepted d (by simpa [hd] using ha)
  · intro d e hf
    by_cases hd : d = c
    · subst hd; simp [Phase.failure] at hf
    · exact h.refused d e (by simpa [hd] using hf)
  · intro d ht
    by_cases hd : d = c
    · subst hd; simp [Phase.accepted]
    · simpa [hd] using h.covered d (by simpa [hd] using ht)
  · show w.wire = (w.takers.map (w.setPhase c (.done (.ok ()))).sentBy).flatten
    rw [map_sentBy_setPhase_of_written _ (by simp [sentBy, hc, Phase.written, Phase.accepted]),
      h.wire_eq]
  · show w.framesSent + 1 =
      (w.takers.filter fun d => ((w.setPhase c (.done (.ok ()))).phases d).sent).length
    rw [length_filter_sent_of_mem h.nodup hmem (by rw [hc]; rfl), h.sent_eq]

theorem check (h : Inv w) (c : Fin n) : Inv (w.check c) := by
  unfold World.check
  split
  · next hr =>
    have hc : (w.phases c).tookLock = false := by rw [hr]; rfl
    split
    · exact h.setPhase_outside hc rfl
    · exact h.setPhase_outside hc rfl
  · exact h

theorem acquire (h : Inv w) (c : Fin n) : Inv (w.acquire c) := by
  unfold World.acquire
  split
  · next hq hfree =>
    split
    · next e he =>
      exact h.lock (s := w.scratch) hq hfree rfl rfl (by simp) (by simp [Phase.accepted])
        (fun e' hf => by simpa [Phase.failure, he] using hf) (by simp [Phase.failure])
    · next b hb =>
      obtain rfl := encoded_eq_ok hb
      refine h.lock hq hfree (Phase.afterWrite_holdsLock _ _) (by simp [Phase.written_afterWrite])
        ?_ (fun _ => hb) (by simp) (by simp)
      intro o ho
      obtain ⟨rfl, hlt⟩ := Phase.afterWrite_eq_writing ho
      exact ⟨rfl, hlt⟩
  · exact h

theorem write (h : Inv w) (c : Fin n) (r : WriteResult) (hb : (Event.write c r).benign) :
    Inv (w.write c r) := by
  unfold World.write
  split
  · simp [Event.benign] at hb
  · next o k hw =>
    obtain ⟨hs, ho⟩ := h.scratch_eq c o hw
    refine h.setPhase_holding (by rw [hw]; rfl) (by rw [hw]; rfl) (Phase.afterWrite_holdsLock _ _)
      (Phase.afterWrite_accepted _ _) (Phase.afterWrite_failure _ _) ?_ ?_
    · intro o' ho'
      obtain ⟨rfl, hlt⟩ := Phase.afterWrite_eq_writing ho'
      exact ⟨hs, hlt⟩
    · rw [hs, Phase.written_afterWrite, Nat.add_assoc, List.take_add]
      simp [sentBy, hw, Phase.written]
  · next kind hw =>
    have hretry : kind.isRetriedOnWrite = true := by simpa [Event.benign] using hb
    rw [if_pos hretry]
    exact h
  · exact h

theorem flush (h : Inv w) (c : Fin n) (failure : Option Frame.IoKind)
    (hb : (Event.flush c failure).benign) : Inv (w.flush c failure) := by
  unfold World.flush
  split
  · next hf =>
    have := h.setPhase_holding (p := .unlocking (.ok ())) (b := []) (by rw [hf]; rfl)
      (by rw [hf]; rfl) rfl rfl rfl (by simp) (by simp [sentBy, hf, Phase.written, Phase.accepted])
    rwa [List.append_nil] at this
  · next kind hf =>
    have hretry : kind.isRetriedOnWrite = true := by simpa [Event.benign] using hb
    rw [if_pos hretry]
    exact h
  · exact h

theorem release (h : Inv w) (c : Fin n) : Inv (w.release c) := by
  unfold World.release
  split
  · next hu =>
    exact h.unlock (by rw [hu]; rfl) rfl rfl (by simp [sentBy, hu, Phase.written, Phase.accepted])
      (by rw [hu]; rfl) (fun _ => by rw [hu]; rfl) (by simp [Phase.failure]) (by simp [Phase.accepted])
  · next e hu =>
    exact h.unlock (by rw [hu]; rfl) rfl rfl (by simp [sentBy, hu, Phase.written, Phase.accepted])
      (by rw [hu]; rfl) (by simp [Phase.accepted])
      (fun e' hf => by rw [hu]; simpa [Phase.failure] using hf) (by simp [Phase.failure])
  · exact h

theorem count (h : Inv w) (c : Fin n) : Inv (w.count c) := by
  unfold World.count
  split
  · next hc => exact h.counted hc
  · exact h

theorem step (h : Inv w) {e : Event n} (he : e.benign) : Inv (w.step e) := by
  cases e with
  | check c => exact h.check c
  | acquire c => exact h.acquire c
  | write c r => exact h.write c r he
  | flush c failure => exact h.flush c failure he
  | release c => exact h.release c
  | count c => exact h.count c
  | setState s =>
    exact ⟨h.nodup, h.mem_takers, h.holder_iff, h.last, h.scratch_eq, h.accepted, h.refused,
      h.covered, h.wire_eq, h.sent_eq⟩

theorem run (h : Inv w) {evs : List (Event n)} (hb : ∀ e ∈ evs, e.benign) : Inv (w.run evs) := by
  induction evs generalizing w with
  | nil => exact h
  | cons e evs ih => exact ih (h.step (hb e (by simp))) fun e' he' => hb e' (by simp [he'])

end Inv

/-- The stream holds the whole frames of the sends that returned `ok`, one after another. -/
theorem sends_never_interleave (requests : Fin n → Request) (evs : List (Event n))
    {w : World n} (hw : w = (World.start requests).run evs) (hb : ∀ e ∈ evs, e.benign)
    (hdone : ∀ c, (w.phases c).returned) :
    w.wire =
      ((w.takers.filter fun c => (w.phases c).sent).map fun c => (requests c).toFrame.wire).flatten ∧
    w.framesSent = (w.takers.filter fun c => (w.phases c).sent).length ∧
    w.takers.Nodup ∧
    (∀ c, c ∉ w.takers → w.phases c = .done (.error .notConnected)) ∧
    ∀ c ∈ w.takers,
      (w.phases c = .done (.ok ()) ∧ w.encoded c = .ok (requests c).toFrame.wire) ∨
      ∃ e, w.encoded c = .error e ∧ w.phases c = .done (.error (.frame e)) := by
  have h : Inv w := hw ▸ (inv_start requests).run hb
  have hreq : w.requests = requests := by rw [hw, requests_run]; rfl
  refine ⟨?_, h.sent_eq, h.nodup, ?_, ?_⟩
  · rw [h.wire_eq, flatten_sentBy_of_returned fun c _ => hdone c, hreq]
  · intro c hc
    exact Phase.eq_of_returned_of_not_tookLock (hdone c) (by simpa [h.mem_takers] using hc)
  · intro c hc
    rcases h.covered c ((h.mem_takers c).1 hc) with ha | hf
    · exact .inl ⟨Phase.eq_of_returned_of_accepted (hdone c) ha, hreq ▸ h.accepted c ha⟩
    · obtain ⟨e, he⟩ := Option.isSome_iff_exists.1 hf
      exact .inr ⟨e, h.refused c e he, Phase.eq_of_returned_of_failure (hdone c) he⟩

/-- Three callers: the second takes the lock first, so its frame comes before the first's. -/
theorem frames_in_lock_order :
    let requests : Fin 3 → Request := fun c => .at { frameId := ⟨c.val.toUInt8 + 1⟩, command := .hv }
    let evs : List (Event 3) := [.check 0, .check 1, .acquire 1, .acquire 0, .write 1 (.took 2),
      .write 1 (.failed .interrupted), .write 1 (.took 100), .flush 1 (some .wouldBlock),
      .flush 1 none, .release 1, .acquire 0, .count 1, .write 0 (.took 100), .flush 0 none,
      .release 0, .count 0, .setState .closing, .check 2]
    let w := (World.start requests).run evs
    (∀ e ∈ evs, e.benign) ∧ (∀ c, (w.phases c).returned) ∧
      w.wire = (requests 1).toFrame.wire ++ (requests 0).toFrame.wire ∧ w.framesSent = 2 ∧
      w.phases 2 = .done (.error .notConnected) := by
  intro requests evs w
  have hb : ∀ e ∈ evs, e.benign := by decide
  have hdone : ∀ c, (w.phases c).returned := by decide
  obtain ⟨hwire, hsent, -, hout, -⟩ := sends_never_interleave (w := w) requests evs rfl hb hdone
  have hsentBy : w.takers.filter (fun c => (w.phases c).sent) = [1, 0] := by decide
  have htakers : (2 : Fin 3) ∉ w.takers := by decide
  have hwire' : w.wire = (requests 1).toFrame.wire ++ (requests 0).toFrame.wire := by
    rw [hwire, hsentBy]
    simp
  have hsent' : w.framesSent = 2 := by rw [hsent, hsentBy]; rfl
  exact ⟨hb, hdone, hwire', hsent', hout 2 htakers⟩

end Outbound
end RadioLink
