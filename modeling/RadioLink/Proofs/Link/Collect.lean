import RadioLink.Link.Session
/-! Collecting from the backlog: the collector takes responses up to the first its test
accepts, asking the test once about each (`takeUntilM_logged`), and leaves the rest queued.
Main statement: `collect_takes_through_first_stop`. -/
namespace RadioLink
namespace Backlog

variable {stop : Response → Bool}

theorem takeUntil_append_cons {pre post : List Response} {f : Response}
    (hpre : ∀ g ∈ pre, stop g = false) (hf : stop f = true) :
    takeUntil stop (pre ++ f :: post) = (pre ++ [f],post,true) := by
  induction pre with
  | nil => simp [takeUntil,hf]
  | cons g pre ih =>
    have hg : stop g = false := hpre g List.mem_cons_self
    simp [takeUntil,hg,ih fun g' h => hpre g' (List.mem_cons_of_mem _ h)]

theorem takeUntil_of_forall {q : List Response} (h : ∀ g ∈ q, stop g = false) :
    takeUntil stop q = (q,[],false) := by
  induction q with
  | nil => rfl
  | cons g q ih =>
    have hg : stop g = false := h g List.mem_cons_self
    simp [takeUntil,hg,ih fun g' h' => h g' (List.mem_cons_of_mem _ h')]

/-- The loop of `takeUntil` with a test that may act each time it is asked. -/
def takeUntilM {m : Type → Type} [Monad m] (stop : Response → m Bool) :
    List Response → m (List Response × List Response × Bool)
  | [] => pure ([],[],false)
  | f :: rest => do
    if ← stop f then pure ([f],rest,true)
    else
      let (taken,left,hit) ← takeUntilM stop rest
      pure (f :: taken,left,hit)

theorem takeUntilM_pure (stop : Response → Bool) (l : List Response) :
    takeUntilM (m := Id) (fun f => pure (stop f)) l = takeUntil stop l := by
  induction l with
  | nil => rfl
  | cons f rest ih =>
    cases hf : stop f
    · simp only [takeUntilM,takeUntil,hf,ih,Bool.false_eq_true,if_false]
      rfl
    · simp only [takeUntilM,takeUntil,hf,if_true]
      rfl

def logged (stop : Response → Bool) (f : Response) : StateM (List Response) Bool := do
  modify (· ++ [f])
  pure (stop f)

theorem takeUntilM_logged (stop : Response → Bool) (l log : List Response) :
    (takeUntilM (logged stop) l).run log = (takeUntil stop l,log ++ (takeUntil stop l).1) := by
  induction l generalizing log with
  | nil =>
    simp only [takeUntilM,takeUntil,List.append_nil]
    rfl
  | cons f rest ih =>
    cases hf : stop f
    · simp [takeUntilM,takeUntil,logged,hf,ih]
      rfl
    · simp [takeUntilM,takeUntil,logged,hf]
      rfl

end Backlog

namespace Session

theorem collect_nil (s : Session) (delay : Duration) (timeout : Option Duration)
    (stop : Response → Bool) :
    s.collect [] delay timeout stop =
      ((s.radio.backlog.collect stop).1,
        { s with radio := { s.radio with backlog := (s.radio.backlog.collect stop).2.1 } }) := by
  simp only [collect]
  split <;> rfl

/-- Collecting returns the queue up to the first response `stop` accepts, asking once about each. -/
theorem collect_takes_through_first_stop (s : Session) (delay : Duration)
    (timeout : Option Duration) (stop : Response → Bool) :
    (∀ pre f post, s.radio.backlog.frames = pre ++ f :: post → (∀ g ∈ pre, stop g = false) →
      stop f = true →
      s.collect [] delay timeout stop =
        (pre ++ [f],
          { s with radio := { s.radio with backlog := { s.radio.backlog with frames := post } } })) ∧
    ((∀ g ∈ s.radio.backlog.frames, stop g = false) →
      s.radio.backlog.closed = true ∨ timeout.isSome = true →
      s.collect [] delay timeout stop =
        (s.radio.backlog.frames,
          { s with radio := { s.radio with backlog := { s.radio.backlog with frames := [] } } })) ∧
    ∀ log, ((Backlog.takeUntilM (Backlog.logged stop) s.radio.backlog.frames).run log).2 =
      log ++ (s.collect [] delay timeout stop).1 := by
  refine ⟨fun pre f post hq hpre hf => ?_,fun hnone _ => ?_,fun log => ?_⟩
  · rw [collect_nil]
    simp only [Backlog.collect,hq,Backlog.takeUntil_append_cons hpre hf]
  · rw [collect_nil]
    simp only [Backlog.collect,Backlog.takeUntil_of_forall hnone]
  · rw [collect_nil,Backlog.takeUntilM_logged]
    rfl

end Session
end RadioLink
