import Mathlib.Data.List.Induction
import RadioLink.Link.Backlog
/-! The backlog as a bounded queue that evicts its oldest response. Every response pushed leaves
it once, in order, or is still there (`departuresOf_append_frames`), and each caller is told
what left at its operation (`reply_perform`). Main statement: `backlog_bounded_fifo`. -/
namespace RadioLink
namespace Backlog

/-- What callers do to a backlog, each under its lock; a waiting receiver acts as `take`. -/
inductive Op where
  | push (f : Response)
  | take
  | clear
  | close
  deriving DecidableEq, Repr

def Op.pushed? : Op → Option Response
  | .push f => some f
  | _ => none

inductive Reply where
  | evicted (f : Option Response)
  | taken (f : Option Response)
  | dropped (n : Nat)
  | closed
  deriving DecidableEq, Repr

def perform (b : Backlog) : Op → Reply × Backlog
  | .push f => (.evicted (b.push f).1,(b.push f).2)
  | .take => (.taken b.pop.1,b.pop.2)
  | .clear => (.dropped b.clear.1,b.clear.2)
  | .close => (.closed,b.close)

/-- The backlog after the operations, in order. -/
def run (b : Backlog) (ops : List Op) : Backlog := ops.foldl (fun b op => (b.perform op).2) b

/-- A response leaving the backlog, and how it left. -/
inductive Departure where
  | evicted (f : Response)
  | received (f : Response)
  | cleared (f : Response)
  deriving DecidableEq, Repr

def Departure.frame : Departure → Response
  | .evicted f | .received f | .cleared f => f

def Departure.isEviction : Departure → Bool
  | .evicted _ => true
  | _ => false

def departures (b : Backlog) : Op → List Departure
  | .push _ => if b.capacity ≤ b.size then (b.frames.take 1).map .evicted else []
  | .take => (b.frames.take 1).map .received
  | .clear => b.frames.map .cleared
  | .close => []

def departuresOf (b : Backlog) : List Op → List Departure
  | [] => []
  | op :: ops => b.departures op ++ (b.perform op).2.departuresOf ops

def Reply.of : Op → List Departure → Reply
  | .push _, ds => .evicted (ds.head?.map Departure.frame)
  | .take, ds => .taken (ds.head?.map Departure.frame)
  | .clear, ds => .dropped ds.length
  | .close, _ => .closed

variable {b : Backlog}

@[simp] theorem capacity_new (c : Nat) : (new c).capacity = max c 1 := rfl

@[simp] theorem frames_new (c : Nat) : (new c).frames = [] := rfl

theorem pop_fst (b : Backlog) : b.pop.1 = b.frames.head? := by
  unfold pop
  split <;> simp_all

theorem frames_pop (b : Backlog) : b.pop.2.frames = b.frames.tail := by
  unfold pop
  split <;> simp_all

theorem closed_pop (b : Backlog) : b.pop.2.closed = b.closed := by
  unfold pop
  split <;> rfl

theorem frames_push (b : Backlog) (f : Response) :
    (b.push f).2.frames = if b.capacity ≤ b.size then b.frames.tail ++ [f] else b.frames ++ [f] := by
  unfold push size
  split <;> simp_all

@[simp] theorem capacity_push (b : Backlog) (f : Response) : (b.push f).2.capacity = b.capacity := by
  unfold push
  split <;> rfl

theorem frames_ne_nil_of_full (h : b.capacity ≤ b.size) : b.frames ≠ [] := by
  intro hnil
  have := b.capacity_pos
  simp [size,hnil] at h
  omega

theorem takeUntil_suffix (stop : Response → Bool) (l : List Response) :
    (takeUntil stop l).2.1 <:+ l := by
  induction l with
  | nil => exact List.suffix_refl _
  | cons f rest ih =>
    simp only [takeUntil]
    split
    · exact List.suffix_cons f rest
    · exact ih.trans (List.suffix_cons f rest)

@[simp] theorem run_nil (b : Backlog) : b.run [] = b := rfl

@[simp] theorem run_cons (b : Backlog) (op : Op) (ops : List Op) :
    b.run (op :: ops) = (b.perform op).2.run ops :=
  rfl

theorem run_append (b : Backlog) (ops ops' : List Op) : b.run (ops ++ ops') = (b.run ops).run ops' :=
  List.foldl_append

/-! ### One operation -/

@[simp] theorem capacity_perform (b : Backlog) (op : Op) : (b.perform op).2.capacity = b.capacity := by
  cases op with
  | push f => exact capacity_push b f
  | take =>
    simp only [perform,pop]
    split <;> rfl
  | clear => rfl
  | close => rfl

theorem push_fst (b : Backlog) (f : Response) :
    (b.push f).1 = if b.capacity ≤ b.size then b.frames.head? else none := by
  unfold push size
  split <;> simp_all

theorem isSome_head_of_full (h : b.capacity ≤ b.size) : b.frames.head?.isSome := by
  obtain ⟨x,xs,hx⟩ := List.exists_cons_of_ne_nil (frames_ne_nil_of_full h)
  simp [hx]

theorem countP_isEviction_of_pushed {op : Op} (h : op.pushed? = none) :
    (b.departures op).countP Departure.isEviction = 0 := by
  cases op with
  | push f => simp [Op.pushed?] at h
  | take => cases hf : b.frames <;> simp [departures,hf,Departure.isEviction]
  | clear => simp [departures,List.countP_map,Function.comp_def,Departure.isEviction]
  | close => rfl

theorem countP_isEviction_push (b : Backlog) (f : Response) :
    (b.departures (.push f)).countP Departure.isEviction = if (b.push f).1.isSome then 1 else 0 := by
  rw [push_fst]
  by_cases hfull : b.capacity ≤ b.size
  · obtain ⟨x,xs,hx⟩ := List.exists_cons_of_ne_nil (frames_ne_nil_of_full hfull)
    simp [departures,hfull,hx,Departure.isEviction]
  · simp [departures,hfull]

theorem size_perform_le (h : b.size ≤ b.capacity) (op : Op) :
    (b.perform op).2.size ≤ b.capacity := by
  cases op with
  | push f =>
    have hpos := b.capacity_pos
    show (b.push f).2.frames.length ≤ b.capacity
    rw [frames_push]
    by_cases hfull : b.capacity ≤ b.size
    · rw [if_pos hfull,List.length_append,List.length_tail,List.length_singleton]
      simp only [size] at h hfull
      omega
    · rw [if_neg hfull,List.length_append,List.length_singleton]
      simp only [size] at h hfull
      omega
  | take =>
    simp only [perform,size,frames_pop,List.length_tail]
    simp only [size] at h
    omega
  | clear => simp [perform,clear,size]
  | close => exact h

theorem departures_append_frames (b : Backlog) (op : Op) :
    (b.departures op).map Departure.frame ++ (b.perform op).2.frames = b.frames ++ op.pushed?.toList := by
  cases op with
  | push f =>
    simp only [departures,perform,frames_push,Op.pushed?,Option.toList_some]
    by_cases hfull : b.capacity ≤ b.size
    · rw [if_pos hfull,if_pos hfull,← List.append_assoc,List.map_map]
      simp [Function.comp_def,Departure.frame,← List.drop_one,List.take_append_drop]
    · simp [hfull]
  | take =>
    simp only [departures,perform,frames_pop,Op.pushed?,Option.toList_none,List.append_nil,
      List.map_map]
    cases b.frames <;> rfl
  | clear => simp [departures,perform,clear,Op.pushed?,Departure.frame,Function.comp_def]
  | close => simp [departures,perform,close,Op.pushed?]

theorem reply_perform (b : Backlog) (op : Op) : (b.perform op).1 = Reply.of op (b.departures op) := by
  cases op with
  | push f =>
    simp only [perform,departures,Reply.of,push_fst]
    split <;> cases b.frames <;> rfl
  | take =>
    simp only [perform,departures,Reply.of,pop_fst]
    cases b.frames <;> rfl
  | clear => simp [perform,departures,Reply.of,clear]
  | close => rfl

/-! ### Any run of operations -/

@[simp] theorem capacity_run (b : Backlog) (ops : List Op) : (b.run ops).capacity = b.capacity := by
  induction ops generalizing b with
  | nil => rfl
  | cons op ops ih => rw [run_cons,ih,capacity_perform]

theorem size_run_le (h : b.size ≤ b.capacity) (ops : List Op) : (b.run ops).size ≤ b.capacity := by
  induction ops generalizing b with
  | nil => exact h
  | cons op ops ih =>
    rw [run_cons,← capacity_perform b op]
    exact ih (by rw [capacity_perform]; exact size_perform_le h op)

/-- What left the backlog and what it holds are what it held and the responses pushed, in order. -/
theorem departuresOf_append_frames (b : Backlog) (ops : List Op) :
    (b.departuresOf ops).map Departure.frame ++ (b.run ops).frames = b.frames ++ ops.filterMap Op.pushed? := by
  induction ops generalizing b with
  | nil => simp [departuresOf]
  | cons op ops ih =>
    rw [departuresOf,run_cons,List.map_append,List.append_assoc,ih,← List.append_assoc,
      departures_append_frames,List.filterMap_cons]
    cases op.pushed? <;> simp

theorem departuresOf_append (b : Backlog) (ops ops' : List Op) :
    b.departuresOf (ops ++ ops') = b.departuresOf ops ++ (b.run ops).departuresOf ops' := by
  induction ops generalizing b with
  | nil => rfl
  | cons op ops ih => rw [List.cons_append,departuresOf,departuresOf,ih,run_cons,List.append_assoc]

theorem frames_run_pushes (hb : b.frames = []) (fs : List Response) :
    (b.run (fs.map .push)).frames = fs.drop (fs.length - b.capacity) := by
  induction fs using List.reverseRecOn with
  | nil => simpa using hb
  | append_singleton gs f ih =>
    rw [List.map_append,run_append,List.map_singleton,run_cons,run_nil]
    have hpos := b.capacity_pos
    have hsize : (b.run (gs.map .push)).size = min gs.length b.capacity := by
      simp only [size,ih,List.length_drop]
      omega
    simp only [perform,frames_push,capacity_run,hsize,ih,List.length_append,
      List.length_singleton]
    by_cases hfull : b.capacity ≤ gs.length
    · have hk : gs.length - b.capacity + 1 = gs.length + 1 - b.capacity := by omega
      rw [if_pos (by omega),List.tail_drop,List.drop_append_of_le_length (by omega),hk]
    · have h₁ : gs.length - b.capacity = 0 := by omega
      have h₂ : gs.length + 1 - b.capacity = 0 := by omega
      rw [if_neg (by omega),h₁,h₂]
      simp

/-- The backlog is a bounded queue that evicts its oldest response and loses or repeats nothing. -/
theorem backlog_bounded_fifo (c : Nat) :
    (∀ ops : List Op,
      ((new c).run ops).capacity = max c 1 ∧ ((new c).run ops).size ≤ max c 1 ∧
      ((new c).departuresOf ops).map Departure.frame ++ ((new c).run ops).frames =
        ops.filterMap Op.pushed? ∧
      ((new c).run ops).frames <:+ ops.filterMap Op.pushed?) ∧
    (∀ (b : Backlog) (op : Op), (b.perform op).1 = Reply.of op (b.departures op)) ∧
    (∀ (b : Backlog) (f : Response),
      (b.push f).2.frames = (if b.capacity ≤ b.size then b.frames.tail ++ [f] else b.frames ++ [f]) ∧
      (b.push f).1 = (if b.capacity ≤ b.size then b.frames.head? else none) ∧
      ((b.push f).1.isSome ↔ b.capacity ≤ b.size)) ∧
    (∀ b : Backlog, b.pop.1 = b.frames.head? ∧ b.pop.2.frames = b.frames.tail) ∧
    (∀ b : Backlog, b.clear.1 = b.size ∧ b.clear.2.frames = []) ∧
    (∀ b : Backlog, b.close.frames = b.frames ∧ b.close.closed = true) ∧
    ∀ fs : List Response, ((new c).run (fs.map .push)).frames = fs.drop (fs.length - max c 1) := by
  refine ⟨fun ops => ?_,reply_perform,fun b f => ?_,fun b => ⟨pop_fst b,frames_pop b⟩,
    fun b => ⟨rfl,rfl⟩,fun b => ⟨rfl,rfl⟩,frames_run_pushes (b := new c) rfl⟩
  · have hacc := departuresOf_append_frames (new c) ops
    rw [frames_new,List.nil_append] at hacc
    refine ⟨by simp,?_,hacc,⟨_,hacc⟩⟩
    simpa using size_run_le (b := new c) (by simp [size]) ops
  · refine ⟨frames_push b f,push_fst b f,?_⟩
    rw [push_fst]
    by_cases hfull : b.capacity ≤ b.size
    · simp [hfull,isSome_head_of_full hfull]
    · simp [hfull]

end Backlog
end RadioLink
