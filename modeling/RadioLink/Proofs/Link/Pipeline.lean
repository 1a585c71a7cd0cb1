import RadioLink.Proofs.Frame.Reader
import RadioLink.Proofs.Response.Echo
import RadioLink.Link.Radio
/-! The reader thread against the stream read at once. Over a steady schedule the reader does to
the link what feeding it the stream's reads does (`readLoop_eq_afterReads`), and feeding them
dispatches each frame's response in order (`afterReads_eq`); the link stays up until a result
ends the reader (`state_readLoop`). Main statement: `reader_refines_pipeline`. -/
namespace RadioLink

namespace Frame

/-- Whether the reader goes on after a read: after a frame, a timeout or a frame dropped as faulty. -/
def keepsReading : Except FrameError RawFrame → Bool
  | .ok _ => true
  | .error e => e.isTimeout || e.isRecoverable

@[simp] theorem keepsReading_ok (f : RawFrame) : keepsReading (.ok f) = true := rfl

theorem keepsReading_error (e : FrameError) :
    keepsReading (.error e) = (e.isTimeout || e.isRecoverable) :=
  rfl

theorem keepsReading_eq_false_iff (x : Except FrameError RawFrame) :
    keepsReading x = false ↔
      x = .error .closed ∨ (∃ o l, x = .error (.truncated o l)) ∨
        (∃ o, x = .error (.truncatedEscape o)) ∨ ∃ k, x = .error (.stream k) ∧ k.isTimeout = false := by
  cases x with
  | ok f => simp
  | error e => cases e <;> simp [keepsReading_error,FrameError.isTimeout,FrameError.isRecoverable.eq_def]

def isChecksumFault : Except FrameError RawFrame → Bool
  | .error (.checksumMismatch _ _) => true
  | _ => false

theorem keepsReading_eofError (c : Bytes) : keepsReading (.error (eofError c)) = false := by
  unfold eofError
  split
  · rfl
  · split <;> rfl
  · rfl

theorem decided_of_keepsReading {m : Nat} {c : Bytes} (h : keepsReading (nextRead m c).1.1 = true) :
    (decode m c).result ≠ .pending := by
  intro hp
  simp [nextRead_of_pending hp,keepsReading_eofError] at h

theorem readStream_ends (m : Nat) {k : Nat} {c : Bytes} (hk : c.length < k) (base : Nat) :
    ((readStream m k c base).map Prod.fst).all keepsReading = false := by
  induction k generalizing c base with
  | zero => omega
  | succ k ih =>
    rw [readStream_succ,List.map_cons,List.all_cons]
    cases h : keepsReading (nextRead m c).1.1
    · rfl
    · have hlt := nextRead_rest_length_lt (decided_of_keepsReading h)
      rw [Bool.true_and]
      exact ih (by omega) _

theorem length_answered (rs : List (Except FrameError RawFrame × Reader)) :
    (answered rs).length + rs.countP (fun p => timedOut p.1) = rs.length := by
  have hsplit := @List.length_eq_countP_add_countP _ (fun p : Except FrameError RawFrame × Reader =>
    timedOut p.1) rs
  have hkept : (answered rs).length = rs.countP (fun p => !timedOut p.1) := by
    simp [answered,List.countP_eq_length_filter]
  simp only [decide_not,Bool.decide_eq_true] at hsplit
  omega

end Frame

namespace Radio

variable {r : Radio}

/-! ### Counters -/

def countFaults (r : Radio) (d c : Nat) : Radio :=
  { r with stats := { r.stats with decodeErrors := r.stats.decodeErrors + d,
                                   checksumErrors := r.stats.checksumErrors + c } }

@[simp] theorem countFaults_zero (r : Radio) : r.countFaults 0 0 = r := rfl

theorem countFaults_countFaults (r : Radio) (d c d' c' : Nat) :
    (r.countFaults d c).countFaults d' c' = r.countFaults (d + d') (c + c') := by
  simp [countFaults,Nat.add_assoc]

@[simp] theorem countSkipped_zero (r : Radio) : r.countSkipped 0 = r := rfl

theorem countSkipped_countSkipped (r : Radio) (k k' : Nat) :
    (r.countSkipped k).countSkipped k' = r.countSkipped (k + k') := by
  simp [countSkipped,Nat.add_assoc]

theorem countFaults_countSkipped (r : Radio) (d c k : Nat) :
    (r.countSkipped k).countFaults d c = (r.countFaults d c).countSkipped k := rfl

theorem dispatch_countFaults (r : Radio) (d c : Nat) (f : Response) :
    (r.countFaults d c).dispatch f = (r.dispatch f).countFaults d c := by
  unfold dispatch countFaults
  by_cases ha : r.config.accepts f
  · cases hp : (r.backlog.push f).1 <;> simp [ha,hp]
  · simp [ha]

theorem dispatch_countSkipped (r : Radio) (k : Nat) (f : Response) :
    (r.countSkipped k).dispatch f = (r.dispatch f).countSkipped k := by
  unfold dispatch countSkipped
  by_cases ha : r.config.accepts f
  · cases hp : (r.backlog.push f).1 <;> simp [ha,hp]
  · simp [ha]

@[simp] theorem registry_dispatch (r : Radio) (f : Response) : (r.dispatch f).registry = r.registry :=
  rfl

@[simp] theorem registry_countFaults (r : Radio) (d c : Nat) : (r.countFaults d c).registry = r.registry :=
  rfl

@[simp] theorem registry_countSkipped (r : Radio) (k : Nat) : (r.countSkipped k).registry = r.registry :=
  rfl

theorem foldl_dispatch_countFaults (rs : List Response) (r : Radio) (d c : Nat) :
    rs.foldl dispatch (r.countFaults d c) = (rs.foldl dispatch r).countFaults d c := by
  induction rs generalizing r with
  | nil => rfl
  | cons f rs ih => simp only [List.foldl_cons,dispatch_countFaults,ih]

@[simp] theorem registry_foldl_dispatch (rs : List Response) (r : Radio) :
    (rs.foldl dispatch r).registry = r.registry := by
  induction rs generalizing r with
  | nil => rfl
  | cons f rs ih => simp [ih]

theorem release_countSkipped (r : Radio) (k : Nat) :
    (r.countSkipped k).release = r.release.countSkipped k := rfl

/-! ### One read -/

theorem receiveFrame_eq (r : Radio) (f : Frame.RawFrame) :
    r.receiveFrame f = (r.dispatch (Response.ofFrame r.registry f)).countFaults
      (if (Response.ofFrame r.registry f).isUndecoded then 1 else 0) 0 := by
  unfold receiveFrame
  cases hd : Response.decode r.registry f with
  | ok resp => simp [Response.ofFrame,hd,(Response.echoes_of_decode hd).2.2]
  | error e =>
    simp only [Response.ofFrame,hd,Response.undecodedOf,Response.isUndecoded,if_true]
    exact dispatch_countFaults r 1 0 _

theorem afterRead_of_keepsReading (r : Radio) {x : Except Frame.FrameError Frame.RawFrame}
    (hx : Frame.keepsReading x = true) :
    r.afterRead x = some ((((x.toOption.toList.map (Response.ofFrame r.registry)).foldl dispatch r).countFaults
      ((x.toOption.toList.map (Response.ofFrame r.registry)).countP Response.isUndecoded)
      ([x].countP Frame.isChecksumFault))) := by
  cases x with
  | ok f => simp [afterRead,receiveFrame_eq,Except.toOption,Frame.isChecksumFault]
  | error e =>
    cases e with
    | checksumMismatch => rfl
    | emptyFrame => rfl
    | tooLarge => rfl
    | stream k =>
      have hk : k.isTimeout = true := by
        have h : (k.isTimeout || false) = true := hx
        simpa using h
      simp only [afterRead,Frame.FrameError.isTimeout,hk,if_true]
      rfl
    | truncated | truncatedEscape | closed => exact Bool.noConfusion hx

theorem afterRead_eq_none_iff (r : Radio) (x : Except Frame.FrameError Frame.RawFrame) :
    r.afterRead x = none ↔ Frame.keepsReading x = false := by
  cases x with
  | ok f => simp [afterRead,Frame.keepsReading]
  | error e =>
    cases e with
    | stream k =>
      cases hk : k.isTimeout <;>
        simp [afterRead,Frame.keepsReading,Frame.FrameError.isTimeout,
          Frame.FrameError.isRecoverable.eq_def,hk]
    | _ => simp [afterRead,Frame.keepsReading,Frame.FrameError.isTimeout,
        Frame.FrameError.isRecoverable.eq_def]

theorem afterRead_countSkipped (r : Radio) (k : Nat) (x : Except Frame.FrameError Frame.RawFrame) :
    (r.countSkipped k).afterRead x = (r.afterRead x).map (·.countSkipped k) := by
  by_cases hx : Frame.keepsReading x
  · rw [afterRead_of_keepsReading _ hx,afterRead_of_keepsReading _ hx,Option.map_some,
      registry_countSkipped,← countFaults_countSkipped]
    congr 2
    generalize x.toOption.toList.map (Response.ofFrame r.registry) = rs
    induction rs generalizing r with
    | nil => rfl
    | cons f rs ih => simp only [List.foldl_cons,dispatch_countSkipped,ih]
  · have hn := (afterRead_eq_none_iff r x).mpr (by simpa using hx)
    have hn' := (afterRead_eq_none_iff (r.countSkipped k) x).mpr (by simpa using hx)
    rw [hn,hn']
    rfl

/-! ### Results fed in at once -/

/-- The link after the reader handled the results `xs`, up to the first that ends it. -/
def afterReads (r : Radio) : List (Except Frame.FrameError Frame.RawFrame) → Radio
  | [] => r
  | x :: xs =>
    match r.afterRead x with
    | some r => afterReads r xs
    | none => r.release

theorem afterReads_countSkipped (r : Radio) (k : Nat) (xs : List (Except Frame.FrameError Frame.RawFrame)) :
    (r.countSkipped k).afterReads xs = (r.afterReads xs).countSkipped k := by
  induction xs generalizing r with
  | nil => rfl
  | cons x xs ih =>
    simp only [afterReads,afterRead_countSkipped]
    cases r.afterRead x with
    | some r' => exact ih r'
    | none => exact release_countSkipped r k

theorem afterReads_eq (r : Radio) (xs : List (Except Frame.FrameError Frame.RawFrame)) :
    r.afterReads xs =
      let ys := xs.takeWhile Frame.keepsReading
      let rs := (ys.filterMap Except.toOption).map (Response.ofFrame r.registry)
      let link := (rs.foldl dispatch r).countFaults (rs.countP Response.isUndecoded)
        (ys.countP Frame.isChecksumFault)
      if xs.all Frame.keepsReading then link else link.release := by
  induction xs generalizing r with
  | nil => rfl
  | cons x xs ih =>
    by_cases hx : Frame.keepsReading x
    · simp only [afterReads,afterRead_of_keepsReading r hx,ih,List.takeWhile_cons_of_pos hx,
        List.all_cons,hx,Bool.true_and,registry_countFaults,registry_foldl_dispatch,
        foldl_dispatch_countFaults,countFaults_countFaults,← List.foldl_append]
      have hsplit : (x :: xs.takeWhile Frame.keepsReading).filterMap Except.toOption =
          x.toOption.toList ++ (xs.takeWhile Frame.keepsReading).filterMap Except.toOption := by
        cases x <;> rfl
      simp only [hsplit,List.map_append,List.countP_append,List.countP_cons,List.countP_nil]
      split <;> simp [Nat.add_comm]
    · have hn := (afterRead_eq_none_iff r x).mpr (by simpa using hx)
      simp [afterReads,hn,List.takeWhile_cons_of_neg hx,hx]

/-! ### The state and the counters -/

@[simp] theorem state_dispatch (r : Radio) (f : Response) : (r.dispatch f).state = r.state := rfl

@[simp] theorem state_countFaults (r : Radio) (d c : Nat) : (r.countFaults d c).state = r.state :=
  rfl

@[simp] theorem state_countSkipped (r : Radio) (k : Nat) : (r.countSkipped k).state = r.state := rfl

@[simp] theorem state_release (r : Radio) : r.release.state = .disconnected := rfl

@[simp] theorem stats_release (r : Radio) : r.release.stats = r.stats := rfl

@[simp] theorem state_foldl_dispatch (rs : List Response) (r : Radio) :
    (rs.foldl dispatch r).state = r.state := by
  induction rs generalizing r with
  | nil => rfl
  | cons f rs ih => simp [ih]

theorem stats_dispatch (r : Radio) (f : Response) :
    (r.dispatch f).stats =
      { r.stats with
        framesReceived := r.stats.framesReceived + 1,
        backlogEvictions := r.stats.backlogEvictions +
          (if r.config.accepts f && (r.backlog.push f).1.isSome then 1 else 0) } := by
  unfold dispatch
  by_cases ha : r.config.accepts f
  · cases hp : (r.backlog.push f).1 <;> simp [ha,hp]
  · simp [ha]

theorem stats_foldl_dispatch (rs : List Response) (r : Radio) :
    (rs.foldl dispatch r).stats.framesReceived = r.stats.framesReceived + rs.length ∧
      (rs.foldl dispatch r).stats.decodeErrors = r.stats.decodeErrors ∧
      (rs.foldl dispatch r).stats.checksumErrors = r.stats.checksumErrors ∧
      (rs.foldl dispatch r).stats.skippedBytes = r.stats.skippedBytes := by
  induction rs generalizing r with
  | nil => simp
  | cons f rs ih =>
    obtain ⟨h₁,h₂,h₃,h₄⟩ := ih (r.dispatch f)
    simp only [List.foldl_cons,h₁,h₂,h₃,h₄,stats_dispatch,List.length_cons,and_true]
    omega

theorem eq_of_open_eq_ok {config : RadioConfig} {reg : Registry} (h : Radio.open config reg = .ok r) :
    r = { config, registry := reg, backlog := Backlog.new config.backlogCapacity } := by
  unfold Radio.open at h
  cases hv : config.validate with
  | error e => simp [hv,bind,Except.bind] at h
  | ok u =>
    simp [hv,bind,Except.bind,pure,Except.pure] at h
    exact h.symm

/-! ### The reader thread -/

theorem afterRead_of_timedOut (r : Radio) {x : Except Frame.FrameError Frame.RawFrame}
    (hx : Frame.timedOut x = true) : r.afterRead x = some r := by
  cases x with
  | ok f => simp [Frame.timedOut] at hx
  | error e =>
    simp only [Frame.timedOut] at hx
    simp [afterRead,hx]

/-- Over a steady source the reader thread does to the link what feeding it its reads does. -/
theorem readLoop_eq_afterReads (n : Nat) (rd : Frame.Reader) (hs : ∀ d ∈ rd.source, d.Steady)
    (r : Radio) :
    (r.readLoop n rd.skipped rd).1 =
        (r.afterReads ((Frame.answered (Frame.Reader.reads n rd)).map Prod.fst)).countSkipped
          ((r.readLoop n rd.skipped rd).2.skipped - rd.skipped) ∧
      rd.skipped ≤ (r.readLoop n rd.skipped rd).2.skipped := by
  induction n generalizing rd r with
  | zero => simp [readLoop,Frame.answered,afterReads]
  | succ n ih =>
    obtain ⟨hs₁,hstep⟩ := Frame.Reader.readFrame_step hs
    have hle : rd.skipped ≤ rd.readFrame.2.skipped := by
      rcases hstep with ⟨-,hto⟩ | hnext
      · obtain ⟨a,-,-,hsk⟩ := hto.dropsNoise
        omega
      · rw [hnext.skipped_eq]
        omega
    have hmax : max rd.skipped rd.readFrame.2.skipped = rd.readFrame.2.skipped := Nat.max_eq_right hle
    have hreads : Frame.Reader.reads (n + 1) rd = rd.readFrame :: Frame.Reader.reads n rd.readFrame.2 :=
      Frame.Reader.reads_succ n rd
    cases hx : r.afterRead rd.readFrame.1 with
    | none =>
      have hto : Frame.timedOut rd.readFrame.1 = false := by
        cases ht : Frame.timedOut rd.readFrame.1
        · rfl
        · rw [afterRead_of_timedOut r ht] at hx
          cases hx
      have hx₁ : (r.countSkipped (rd.readFrame.2.skipped - rd.skipped)).afterRead rd.readFrame.1 = none := by
        rw [afterRead_countSkipped,hx]
        rfl
      simp only [readLoop,hx₁,hreads,Frame.answered,List.filter_cons,hto,Bool.not_false,if_true,
        List.map_cons,afterReads,hx,release_countSkipped]
      exact ⟨trivial,hle⟩
    | some r₂ =>
      have hx₁ : (r.countSkipped (rd.readFrame.2.skipped - rd.skipped)).afterRead rd.readFrame.1 =
          some (r₂.countSkipped (rd.readFrame.2.skipped - rd.skipped)) := by
        rw [afterRead_countSkipped,hx]
        rfl
      obtain ⟨ih₁,ih₂⟩ := ih rd.readFrame.2 hs₁ (r₂.countSkipped (rd.readFrame.2.skipped - rd.skipped))
      simp only [readLoop,hx₁,hmax]
      refine ⟨?_,by omega⟩
      rw [ih₁,afterReads_countSkipped,countSkipped_countSkipped,hreads]
      -- the noise of this read and of the later ones add up to all the reader dropped
      rw [Nat.add_comm,Nat.sub_add_sub_cancel ih₂ hle]
      cases ht : Frame.timedOut rd.readFrame.1
      · simp [Frame.answered,ht,afterReads,hx]
      · rw [afterRead_of_timedOut r ht,Option.some.injEq] at hx
        subst hx
        simp [Frame.answered,ht]

theorem state_afterRead {x : Except Frame.FrameError Frame.RawFrame} {r' : Radio}
    (h : r.afterRead x = some r') : r'.state = r.state := by
  have hx : Frame.keepsReading x = true := by
    cases hk : Frame.keepsReading x
    · rw [(afterRead_eq_none_iff r x).mpr hk] at h
      cases h
    · rfl
  rw [afterRead_of_keepsReading r hx,Option.some.injEq] at h
  rw [← h]
  simp

theorem state_readLoop (n seen : Nat) (rd : Frame.Reader) (r : Radio) :
    (r.readLoop n seen rd).1.state =
      if ((Frame.Reader.reads n rd).map Prod.fst).all Frame.keepsReading then r.state
      else .disconnected := by
  induction n generalizing seen rd r with
  | zero => rfl
  | succ n ih =>
    rw [Frame.Reader.reads_succ,List.map_cons,List.all_cons]
    cases hx : (r.countSkipped (rd.readFrame.2.skipped - seen)).afterRead rd.readFrame.1 with
    | none =>
      have hk := (afterRead_eq_none_iff _ _).mp hx
      simp [readLoop,hx,hk]
    | some r₂ =>
      have hk : Frame.keepsReading rd.readFrame.1 = true := by
        cases hk : Frame.keepsReading rd.readFrame.1
        · rw [(afterRead_eq_none_iff _ _).mpr hk] at hx
          cases hx
        · rfl
      simp only [readLoop,hx,ih,state_afterRead hx,state_countSkipped,hk,Bool.true_and]

/-! ### The reader thread of a fresh link -/

/-- The reader thread of a fresh link dispatches the responses of the stream read at once, in order,
however the bytes are scheduled, and takes the link down at the first result that ends it. -/
theorem reader_refines_pipeline {config : RadioConfig} {reg : Registry}
    (hr : Radio.open config reg = .ok r) (σ : List Frame.Delivery) (n : Nat) :
    let out := r.readLoop n 0 { source := σ }
    (out.1.state = .connected ↔
        ((Frame.Reader.reads n { source := σ }).map Prod.fst).all Frame.keepsReading) ∧
    ((∀ d ∈ σ, d.Steady) → ∃ k, n ≤ k + σ.countP Frame.Delivery.timesOut ∧
      let xs := (Frame.readStream Frame.maxLength k (σ.flatMap Frame.Delivery.payload) 0).map
        Prod.fst
      let ys := xs.takeWhile Frame.keepsReading
      let rs := (ys.filterMap Except.toOption).map (Response.ofFrame reg)
      let link := ((rs.foldl dispatch r).countFaults (rs.countP Response.isUndecoded)
        (ys.countP Frame.isChecksumFault)).countSkipped out.2.skipped
      out.1 = (if xs.all Frame.keepsReading then link else link.release) ∧
      out.1.stats.framesReceived = rs.length ∧
      out.1.stats.decodeErrors = rs.countP Response.isUndecoded ∧
      out.1.stats.checksumErrors = ys.countP Frame.isChecksumFault ∧
      out.1.stats.skippedBytes = out.2.skipped ∧
      (out.1.state = .connected ↔ xs.all Frame.keepsReading) ∧
      ((σ.flatMap Frame.Delivery.payload).length + 1 + σ.countP Frame.Delivery.timesOut ≤ n →
        out.1.state = .disconnected)) := by
  intro out
  obtain rfl := eq_of_open_eq_ok hr
  let rd : Frame.Reader := { source := σ }
  refine ⟨?_,fun hσ => ?_⟩
  · rw [state_readLoop]
    cases hc : ((Frame.Reader.reads n rd).map Prod.fst).all Frame.keepsReading <;> simp
  obtain ⟨hloop,-⟩ := readLoop_eq_afterReads n rd hσ _
  obtain ⟨hans,hto⟩ := Frame.reads_answered n rd hσ
  replace hto : (Frame.Reader.reads n rd).countP (fun p => Frame.timedOut p.1) ≤
      σ.countP Frame.Delivery.timesOut := hto
  have hlen := Frame.length_answered (Frame.Reader.reads n rd)
  simp only [Frame.Reader.length_reads] at hlen
  refine ⟨(Frame.answered (Frame.Reader.reads n rd)).length,by omega,?_⟩
  intro xs ys rs link
  have hxs : (Frame.answered (Frame.Reader.reads n rd)).map Prod.fst = xs := by
    rw [hans]
    rfl
  have hout : out.1 = if xs.all Frame.keepsReading then link else link.release := by
    rw [hloop,hxs,afterReads_eq,Nat.sub_zero]
    by_cases hc : xs.all Frame.keepsReading = true
    · simp only [if_pos hc]
      rfl
    · simp only [if_neg hc,← release_countSkipped]
      rfl
  have hlink : link.state = .connected ∧ link.stats.framesReceived = rs.length ∧
      link.stats.decodeErrors = rs.countP Response.isUndecoded ∧
      link.stats.checksumErrors = ys.countP Frame.isChecksumFault ∧
      link.stats.skippedBytes = out.2.skipped := by
    obtain ⟨h₁,h₂,h₃,h₄⟩ := stats_foldl_dispatch rs
      { config, registry := reg, backlog := Backlog.new config.backlogCapacity }
    simp [link,countFaults,countSkipped,h₁,h₂,h₃,h₄]
  -- a stream with no more bytes than rounds has ended the reader
  have hend : (σ.flatMap Frame.Delivery.payload).length + 1 + σ.countP Frame.Delivery.timesOut ≤ n →
      xs.all Frame.keepsReading = false := by
    intro hn
    exact Frame.readStream_ends Frame.maxLength (by omega) 0
  refine ⟨hout,?_⟩
  rw [hout]
  by_cases hc : xs.all Frame.keepsReading = true
  · simp only [if_pos hc]
    refine ⟨hlink.2.1,hlink.2.2.1,hlink.2.2.2.1,hlink.2.2.2.2,by simp [hlink.1,hc],?_⟩
    intro hn
    rw [hend hn] at hc
    contradiction
  · simp only [if_neg hc,stats_release,state_release]
    exact ⟨hlink.2.1,hlink.2.2.1,hlink.2.2.2.1,hlink.2.2.2.2,by simp [hc],fun _ => trivial⟩

/-- A fresh link read in four rounds from a schedule that cuts a frame with a timeout in the cut. -/
theorem reader_refines_pipeline_cut_frame :
    let config : RadioConfig := {}
    let r : Radio := { config, registry := .standard, backlog := Backlog.new config.backlogCapacity }
    let σ : List Frame.Delivery :=
      [.bytes [0x00,0x7E,0x00,0x02],.failure .timedOut,.bytes [0x8A,0x02,0x73]]
    Radio.open config .standard = .ok r ∧ (∀ d ∈ σ, d.Steady) ∧
      let out := r.readLoop 4 0 { source := σ }
      (out.1.state = .connected ↔
          ((Frame.Reader.reads 4 { source := σ }).map Prod.fst).all Frame.keepsReading) ∧
      ((∀ d ∈ σ, d.Steady) → ∃ k, 4 ≤ k + σ.countP Frame.Delivery.timesOut ∧
        let xs := (Frame.readStream Frame.maxLength k (σ.flatMap Frame.Delivery.payload) 0).map
          Prod.fst
        let ys := xs.takeWhile Frame.keepsReading
        let rs := (ys.filterMap Except.toOption).map (Response.ofFrame .standard)
        let link := ((rs.foldl dispatch r).countFaults (rs.countP Response.isUndecoded)
          (ys.countP Frame.isChecksumFault)).countSkipped out.2.skipped
        out.1 = (if xs.all Frame.keepsReading then link else link.release) ∧
        out.1.stats.framesReceived = rs.length ∧
        out.1.stats.decodeErrors = rs.countP Response.isUndecoded ∧
        out.1.stats.checksumErrors = ys.countP Frame.isChecksumFault ∧
        out.1.stats.skippedBytes = out.2.skipped ∧
        (out.1.state = .connected ↔ xs.all Frame.keepsReading) ∧
        ((σ.flatMap Frame.Delivery.payload).length + 1 + σ.countP Frame.Delivery.timesOut ≤ 4 →
          out.1.state = .disconnected)) := by
  intro config r σ
  have hr : Radio.open config .standard = .ok r := rfl
  have hσ : ∀ d ∈ σ, d.Steady := by
    simp [σ,Frame.Delivery.Steady,Frame.IoKind.isTimeout]
  exact ⟨hr,hσ,reader_refines_pipeline hr σ 4⟩

end Radio

end RadioLink
