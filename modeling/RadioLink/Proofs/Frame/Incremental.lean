import RadioLink.Proofs.Frame.Stream
import RadioLink.Frame.Incremental
/-! The incremental decoder against the stream read at once. Reads are compared through
`Yields`: the bytes `c` give the results `xs` first and then read on as `c'` does. Each answer
of `next` is such a step (`nextWith_took`), so a decoder handed chunk after chunk stays in step
with the stream that arrived (`Tracks.feedAll`). Main statement: `incremental_refines_reader`. -/
namespace RadioLink
namespace Frame

/-! ### Reading a stream at once, one result after another -/

theorem map_fst_readStream (m n : Nat) (c : Bytes) (base : Nat) :
    (readStream m n c base).map Prod.fst = (readStream m n c 0).map Prod.fst := by
  induction n generalizing c base with
  | zero => rfl
  | succ n ih =>
    rw [readStream_succ,readStream_succ,List.map_cons,List.map_cons,ih _ (base + _),ih _ (0 + _)]

/-- Reading `c` at once gives `xs` first and then reads on as `c'` does, whatever follows `c`. -/
def Yields (m : Nat) (c : Bytes) (xs : List (Except FrameError RawFrame)) (c' : Bytes) : Prop :=
  ∀ t n, (readStream m (xs.length + n) (c ++ t) 0).map Prod.fst =
    xs ++ (readStream m n (c' ++ t) 0).map Prod.fst

namespace Yields

variable {m : Nat} {c c' c'' : Bytes} {xs ys : List (Except FrameError RawFrame)}

theorem refl (m : Nat) (c : Bytes) : Yields m c [] c := by
  intro t n
  simp

theorem trans (h₁ : Yields m c xs c') (h₂ : Yields m c' ys c'') : Yields m c (xs ++ ys) c'' := by
  intro t n
  rw [List.length_append,Nat.add_assoc,h₁ t,h₂ t,List.append_assoc]

theorem append (h : Yields m c xs c') (e : Bytes) : Yields m (c ++ e) xs (c' ++ e) := by
  intro t n
  rw [List.append_assoc,List.append_assoc]
  exact h (e ++ t) n

end Yields

theorem yields_skipToStart (m : Nat) (c : Bytes) : Yields m c [] (skipToStart c).2 := by
  obtain ⟨a,ha,hsplit,-⟩ := skipToStart_split c
  intro t n
  have h : (readStream m n (c ++ t) 0).map Prod.fst =
      (readStream m n ((skipToStart c).2 ++ t) 0).map Prod.fst := by
    calc (readStream m n (c ++ t) 0).map Prod.fst
        = (readStream m n (a ++ ((skipToStart c).2 ++ t)) 0).map Prod.fst := by
          rw [← List.append_assoc,← hsplit]
      _ = (readStream m n ((skipToStart c).2 ++ t) 0).map Prod.fst := by
          rw [readStream_noise_append ha,map_fst_readStream]
  simpa using h

theorem yields_decided {m : Nat} {c : Bytes} (h : (decode m c).result ≠ .pending) :
    Yields m c [(nextRead m c).1.1] (decode m c).rest := by
  intro t n
  rw [List.length_singleton,Nat.add_comm,readStream_succ,nextRead_append h,
    nextRead_rest_of_decided h,List.map_cons,map_fst_readStream]
  rfl

theorem readStream_of_pending {m : Nat} {c : Bytes} (h : (decode m c).result = .pending) (n : Nat) :
    (readStream m (n + 1) c 0).map Prod.fst = .error (eofError c) :: List.replicate n (.error .closed) := by
  rw [readStream_succ,nextRead_of_pending h,readStream_nil]
  simp

/-! ### What one `decode` does -/

theorem decodeAtStart_pending_header {m : Nat} {x hi lo : UInt8} {w : Bytes}
    (h : (decodeAtStart m (x :: hi :: lo :: w)).result = .pending) :
    hi.toNat * 256 + lo.toNat ≠ 0 ∧ hi.toNat * 256 + lo.toNat ≤ m ∧
      takeLogical (hi.toNat * 256 + lo.toNat + 1) w [] = none := by
  simp only [decodeAtStart] at h
  by_cases h0 : hi.toNat * 256 + lo.toNat = 0
  · rw [if_pos h0] at h
    simp at h
  by_cases hm : hi.toNat * 256 + lo.toNat > m
  · rw [if_neg h0,if_pos hm] at h
    simp at h
  rw [if_neg h0,if_neg hm] at h
  refine ⟨h0,by omega,?_⟩
  cases ht : takeLogical (hi.toNat * 256 + lo.toNat + 1) w [] with
  | none => rfl
  | some p =>
    rw [ht] at h
    simp only at h
    split at h <;> simp at h

theorem decodeAtStart_rest_of_pending {m : Nat} {b : Bytes} (h : (decodeAtStart m b).result = .pending) :
    (decodeAtStart m b).rest = b := by
  match b with
  | [] | [_] | [_,_] => rfl
  | s :: hi :: lo :: wire =>
    obtain ⟨h0,hm,ht⟩ := decodeAtStart_pending_header h
    simp only [decodeAtStart]
    rw [if_neg h0,if_neg (by omega),ht]

theorem decode_rest_of_pending {m : Nat} {c : Bytes} (h : (decode m c).result = .pending) :
    (decode m c).rest = (skipToStart c).2 :=
  decodeAtStart_rest_of_pending h

@[simp] theorem decode_skipToStart (m : Nat) (c : Bytes) : decode m (skipToStart c).2 = decode m c := by
  simp only [decode,skipToStart_skipToStart]

theorem decodeAtStart_fault_cases {m : Nat} {b : Bytes} {e : FrameError}
    (h : (decodeAtStart m b).result = .fault e) :
    (∃ ex ac, e = .checksumMismatch ex ac) ∨ e = .emptyFrame ∨ ∃ size, m < size ∧ e = .tooLarge size m := by
  match b with
  | [] | [_] | [_,_] => simp [decodeAtStart] at h
  | s :: hi :: lo :: wire =>
    simp only [decodeAtStart] at h
    by_cases h0 : hi.toNat * 256 + lo.toNat = 0
    · simp only [h0,if_true,Decoded.fault.injEq] at h
      exact .inr (.inl h.symm)
    by_cases hm : hi.toNat * 256 + lo.toNat > m
    · simp only [h0,hm,if_true,if_false,Decoded.fault.injEq] at h
      exact .inr (.inr ⟨_,hm,h.symm⟩)
    rw [if_neg h0,if_neg hm] at h
    cases ht : takeLogical (hi.toNat * 256 + lo.toNat + 1) wire [] with
    | none => simp [ht] at h
    | some p =>
      rw [ht] at h
      simp only at h
      split at h
      · simp at h
      · simp only [Decoded.fault.injEq] at h
        exact .inl ⟨_,_,h.symm⟩

theorem decodeAtStart_fault {m : Nat} {b : Bytes} {e : FrameError}
    (h : (decodeAtStart m b).result = .fault e) : e.isRecoverable := by
  rcases decodeAtStart_fault_cases h with ⟨ex,ac,rfl⟩ | rfl | ⟨size,-,rfl⟩ <;> rfl

theorem decode_fault {m : Nat} {c : Bytes} {e : FrameError} (h : (decode m c).result = .fault e) :
    e.isRecoverable :=
  decodeAtStart_fault h

def isFault : Except FrameError RawFrame → Bool
  | .ok _ => false
  | .error e => e.isRecoverable

/-! ### The decoder in step with the stream -/

namespace Incremental

variable {d d₁ d₂ : Incremental} {xs ys : List (Except FrameError RawFrame)}

/-- The decoder waits for more bytes: no frame is complete and no noise is ahead of a marker. -/
structure Waiting (d : Incremental) : Prop where
  pending : (decode d.maxFrameLen d.buffer).result = .pending
  clean : (skipToStart d.buffer).2 = d.buffer

/-- `d'` is `d` after the results `ys` of reading its buffer at once, its faults counted. -/
structure Took (d : Incremental) (ys : List (Except FrameError RawFrame)) (d' : Incremental) : Prop where
  yields : Yields d.maxFrameLen d.buffer ys d'.buffer
  readable : ∀ y ∈ ys, y.isOk ∨ isFault y
  discarded_eq : d'.discarded = d.discarded + ys.countP isFault
  maxFrameLen_eq : d'.maxFrameLen = d.maxFrameLen

theorem Took.trans (h₁ : Took d xs d₁) (h₂ : Took d₁ ys d₂) : Took d (xs ++ ys) d₂ where
  yields := h₁.yields.trans (h₁.maxFrameLen_eq ▸ h₂.yields)
  readable := by
    intro y hy
    rcases List.mem_append.mp hy with hy | hy
    · exact h₁.readable y hy
    · exact h₂.readable y hy
  discarded_eq := by rw [h₂.discarded_eq,h₁.discarded_eq,List.countP_append,Nat.add_assoc]
  maxFrameLen_eq := h₂.maxFrameLen_eq.trans h₁.maxFrameLen_eq

theorem nextWith_took {fuel : Nat} {d : Incremental} (hfuel : d.buffer.length < fuel) :
    ∃ ys, Took d ys (nextWith fuel d).2 ∧
      ((∃ f, (nextWith fuel d).1 = .ok (some f) ∧ ys.filterMap Except.toOption = [f] ∧
          (nextWith fuel d).2.buffer.length < d.buffer.length) ∨
        ((nextWith fuel d).1 = .ok none ∧ ys.filterMap Except.toOption = [] ∧
          (nextWith fuel d).2.Waiting)) := by
  induction fuel generalizing d with
  | zero => omega
  | succ fuel ih =>
    cases hd : (decode d.maxFrameLen d.buffer).result with
    | pending =>
      have hr : nextWith (fuel + 1) d =
          (.ok none,{ d with buffer := (decode d.maxFrameLen d.buffer).rest }) := by
        simp [nextWith,hd]
      have hrest := decode_rest_of_pending hd
      refine ⟨[],⟨?_,by simp,by simp [hr],by simp [hr]⟩,.inr ⟨by rw [hr],rfl,?_⟩⟩
      · rw [hr]
        simpa [hrest] using yields_skipToStart d.maxFrameLen d.buffer
      · rw [hr]
        refine ⟨?_,?_⟩
        · simpa [hrest] using hd
        · simp [hrest,skipToStart_skipToStart]
    | frame f =>
      have hr : nextWith (fuel + 1) d =
          (.ok (some f),{ d with buffer := (decode d.maxFrameLen d.buffer).rest }) := by
        simp [nextWith,hd]
      have hdec : (decode d.maxFrameLen d.buffer).result ≠ .pending := by
        rw [hd]
        exact Decoded.noConfusion
      have hx : (nextRead d.maxFrameLen d.buffer).1.1 = .ok f := by
        rw [nextRead_of_frame hd]
      refine ⟨[.ok f],⟨?_,by simp [Except.isOk,Except.toBool],by simp [hr,isFault],by simp [hr]⟩,
        .inl ⟨f,by rw [hr],rfl,?_⟩⟩
      · rw [hr,← hx]
        exact yields_decided hdec
      · rw [hr]
        exact decode_rest_length_lt hdec
    | fault e =>
      have hdec : (decode d.maxFrameLen d.buffer).result ≠ .pending := by
        rw [hd]
        exact Decoded.noConfusion
      have hx : (nextRead d.maxFrameLen d.buffer).1.1 = .error e := by
        rw [nextRead_of_fault hd]
      have he := decode_fault hd
      obtain ⟨d₁,hd₁⟩ : ∃ d₁ : Incremental, d₁ =
          { d with buffer := (decode d.maxFrameLen d.buffer).rest, discarded := d.discarded + 1 } :=
        ⟨_,rfl⟩
      have hr : nextWith (fuel + 1) d = nextWith fuel d₁ := by
        simp [nextWith,hd,he,hd₁]
      have hshorter : d₁.buffer.length < d.buffer.length := by
        rw [hd₁]
        exact decode_rest_length_lt hdec
      have h₁ : Took d [.error e] d₁ := by
        refine ⟨?_,by simp [isFault,he],by simp [hd₁,isFault,he],by rw [hd₁]⟩
        rw [← hx,hd₁]
        exact yields_decided hdec
      obtain ⟨ys,hys,hout⟩ := ih (show d₁.buffer.length < fuel by omega)
      rw [hr]
      refine ⟨.error e :: ys,h₁.trans hys,?_⟩
      rcases hout with ⟨f,hf,hfs,hshort⟩ | ⟨hn,hfs,hw⟩
      · exact .inl ⟨f,hf,by rw [List.filterMap_cons_none rfl,hfs],by omega⟩
      · exact .inr ⟨hn,by rw [List.filterMap_cons_none rfl,hfs],hw⟩

theorem next_took (d : Incremental) :
    ∃ ys, Took d ys d.next.2 ∧
      ((∃ f, d.next.1 = .ok (some f) ∧ ys.filterMap Except.toOption = [f] ∧
          d.next.2.buffer.length < d.buffer.length) ∨
        (d.next.1 = .ok none ∧ ys.filterMap Except.toOption = [] ∧ d.next.2.Waiting)) :=
  nextWith_took (Nat.lt_succ_self _)

/-! ### A framed read of a stream cut into chunks -/

def pull : Nat → Incremental → List (Except FrameError (Option RawFrame)) × Incremental
  | 0, d => ([],d)
  | fuel + 1, d =>
    match d.next with
    | (.ok (some f),d') =>
      let (rest,d'') := pull fuel d'
      (.ok (some f) :: rest,d'')
    | (x,d') => ([x],d')

def feed (d : Incremental) (chunk : Bytes) : List (Except FrameError (Option RawFrame)) × Incremental :=
  pull (d.buffer.length + chunk.length + 1) { d with buffer := d.buffer ++ chunk }

/-- The chunks arrive one after another, each fed in turn. -/
def feedAll (d : Incremental) : List Bytes → List (Except FrameError (Option RawFrame)) × Incremental
  | [] => ([],d)
  | c :: cs =>
    let (xs,d₁) := d.feed c
    let (ys,d₂) := d₁.feedAll cs
    (xs ++ ys,d₂)

/-- The input ends: `nextAtEnd` is called until it gives nothing, at most `fuel` times. -/
def finishWith : Nat → Incremental → List (Except FrameError (Option RawFrame)) × Incremental
  | 0, d => ([],d)
  | fuel + 1, d =>
    match d.nextAtEnd with
    | (.ok none,d') => ([.ok none],d')
    | (x,d') =>
      let (rest,d'') := finishWith fuel d'
      (x :: rest,d'')

def finish (d : Incremental) : List (Except FrameError (Option RawFrame)) × Incremental :=
  finishWith (d.buffer.length + 2) d

def frameOf (x : Except FrameError (Option RawFrame)) : Option RawFrame := x.toOption.join

theorem pull_took {fuel : Nat} {d : Incremental} (hfuel : d.buffer.length < fuel) :
    ∃ ys, Took d ys (pull fuel d).2 ∧
      (pull fuel d).1.filterMap frameOf = ys.filterMap Except.toOption ∧
      (∀ x ∈ (pull fuel d).1, x.isOk) ∧ (pull fuel d).2.Waiting := by
  induction fuel generalizing d with
  | zero => omega
  | succ fuel ih =>
    obtain ⟨ys,hys,hout⟩ := next_took d
    rcases hout with ⟨f,hf,hfs,hshort⟩ | ⟨hn,hfs,hw⟩
    · obtain ⟨zs,hzs,hframes,hok,hw⟩ := ih (d := d.next.2) (by omega)
      have hr : pull (fuel + 1) d = (.ok (some f) :: (pull fuel d.next.2).1,(pull fuel d.next.2).2) := by
        rw [pull]
        split <;> simp_all
      rw [hr]
      refine ⟨ys ++ zs,hys.trans hzs,?_,?_,hw⟩
      · rw [List.filterMap_cons_some (by rfl),List.filterMap_append,hfs,hframes]
        rfl
      · intro x hx
        rcases List.mem_cons.mp hx with rfl | hx
        · rfl
        · exact hok x hx
    · have hr : pull (fuel + 1) d = ([.ok none],d.next.2) := by
        rw [pull]
        split <;> simp_all
      rw [hr]
      refine ⟨ys,hys,?_,by simp [Except.isOk,Except.toBool],hw⟩
      rw [hfs]
      rfl

/-- After the bytes `p` and the answers `out`, the decoder handed out the frames of `p` read at once. -/
structure Tracks (m : Nat) (p : Bytes) (xs : List (Except FrameError RawFrame))
    (out : List (Except FrameError (Option RawFrame))) (d : Incremental) : Prop where
  maxFrameLen_eq : d.maxFrameLen = m
  yields : Yields m p xs d.buffer
  readable : ∀ x ∈ xs, x.isOk ∨ isFault x
  discarded_eq : d.discarded = xs.countP isFault
  frames_eq : out.filterMap frameOf = xs.filterMap Except.toOption
  ok : ∀ x ∈ out, x.isOk
  waiting : d.Waiting

theorem tracks_start (m : Nat) : Tracks m [] [] [] { maxFrameLen := m } where
  maxFrameLen_eq := rfl
  yields := Yields.refl m []
  readable := by simp
  discarded_eq := rfl
  frames_eq := rfl
  ok := by simp
  waiting := ⟨rfl,rfl⟩

variable {m : Nat} {p : Bytes} {out : List (Except FrameError (Option RawFrame))}

theorem Tracks.feed (h : Tracks m p xs out d) (c : Bytes) :
    ∃ ys, Tracks m (p ++ c) (xs ++ ys) (out ++ (d.feed c).1) (d.feed c).2 := by
  have hfeed : d.feed c = pull (d.buffer.length + c.length + 1) { d with buffer := d.buffer ++ c } :=
    rfl
  obtain ⟨ys,hys,hframes,hok,hw⟩ :=
    @pull_took (d.buffer.length + c.length + 1) { d with buffer := d.buffer ++ c } (by simp)
  rw [hfeed]
  have hyields : Yields m (d.buffer ++ c) ys
      (pull (d.buffer.length + c.length + 1) { d with buffer := d.buffer ++ c }).2.buffer := by
    simpa [h.maxFrameLen_eq] using hys.yields
  refine ⟨ys,⟨?_,(h.yields.append c).trans hyields,?_,?_,?_,?_,hw⟩⟩
  · rw [hys.maxFrameLen_eq,h.maxFrameLen_eq]
  · intro x hx
    rcases List.mem_append.mp hx with hx | hx
    · exact h.readable x hx
    · exact hys.readable x hx
  · rw [hys.discarded_eq,List.countP_append,h.discarded_eq]
  · rw [List.filterMap_append,List.filterMap_append,h.frames_eq,hframes]
  · intro x hx
    rcases List.mem_append.mp hx with hx | hx
    · exact h.ok x hx
    · exact hok x hx

theorem Tracks.feedAll (h : Tracks m p xs out d) (cs : List Bytes) :
    ∃ ys, Tracks m (p ++ cs.flatten) ys (out ++ (d.feedAll cs).1) (d.feedAll cs).2 := by
  induction cs generalizing p xs out d with
  | nil => exact ⟨xs,by simpa [feedAll] using h⟩
  | cons c cs ih =>
    obtain ⟨ys,h₁⟩ := h.feed c
    obtain ⟨zs,h₂⟩ := ih h₁
    exact ⟨zs,by simpa [feedAll,List.append_assoc] using h₂⟩

/-! ### The end of the input -/

theorem eofError_cases (c : Bytes) :
    eofError c = .closed ∨ (∃ o l, eofError c = .truncated o l) ∨ ∃ o, eofError c = .truncatedEscape o := by
  unfold eofError
  split
  · exact .inl rfl
  · split
    · exact .inr (.inr ⟨_,rfl⟩)
    · exact .inr (.inl ⟨_,_,rfl⟩)
  · exact .inr (.inl ⟨_,_,rfl⟩)

theorem eofError_ne_closed {b : Bytes} (hclean : (skipToStart b).2 = b) (hb : b ≠ []) :
    eofError b ≠ .closed := by
  unfold eofError
  rw [hclean]
  split
  · exact absurd rfl hb
  · split <;> exact FrameError.noConfusion
  · exact FrameError.noConfusion

theorem Waiting.next_eq (h : d.Waiting) : d.next = (.ok none,d) := by
  have hrest := decode_rest_of_pending h.pending
  rw [h.clean] at hrest
  simp [next,nextWith,h.pending,hrest]

theorem Waiting.finish_eq (h : d.Waiting) :
    d.finish = ((if d.buffer = [] then [] else [.error (eofError d.buffer)]) ++ [.ok none],
      { d with buffer := [] }) := by
  by_cases hb : d.buffer = []
  · have hend : d.nextAtEnd = (.ok none,d) := by
      simp [nextAtEnd,h.next_eq,hb]
    have hd : d = { d with buffer := [] } := by
      cases d
      simp_all
    simp only [finish,hb,finishWith,hend,if_true,List.nil_append]
    rw [← hd]
  · have hne := eofError_ne_closed h.clean hb
    have hend : d.nextAtEnd = (.error (eofError d.buffer),{ d with buffer := [] }) := by
      simp only [nextAtEnd,h.next_eq,List.isEmpty_iff,hb,if_false]
    have hempty : ({ d with buffer := [] } : Incremental).nextAtEnd = (.ok none,{ d with buffer := [] }) := by
      rfl
    simp [finish,finishWith,hend,hempty,hb]

end Incremental

open Incremental in
/-- The incremental decoder reads a stream as a reader reads it at once, however the stream is cut:
the same frames in order, its faults discarded, and the same error at the end. -/
theorem incremental_refines_reader (m : Nat) (chunks : List Bytes) :
    (∃ (pre : List (Except FrameError RawFrame)) (e : FrameError),
      (∀ n, (readStream m (pre.length + n + 1) chunks.flatten 0).map Prod.fst =
        pre ++ .error e :: List.replicate n (.error .closed)) ∧
      (∀ x ∈ pre, x.isOk ∨ isFault x) ∧
      (e = .closed ∨ (∃ o l, e = .truncated o l) ∨ ∃ o, e = .truncatedEscape o) ∧
      ((feedAll { maxFrameLen := m } chunks).1.filterMap frameOf = pre.filterMap Except.toOption) ∧
      (∀ x ∈ (feedAll { maxFrameLen := m } chunks).1, x.isOk) ∧
      (feedAll { maxFrameLen := m } chunks).2.finish.2.discarded = pre.countP isFault ∧
      (feedAll { maxFrameLen := m } chunks).2.finish.1 =
        (if e = .closed then [] else [.error e]) ++ [.ok none]) ∧
    ∀ f : RawFrame, encodeFrame f = encode f.kind f.data := by
  refine ⟨?_,fun f => rfl⟩
  obtain ⟨pre,h⟩ := (tracks_start m).feedAll chunks
  simp only [List.nil_append] at h
  refine ⟨pre,eofError (feedAll { maxFrameLen := m } chunks).2.buffer,?_,h.readable,
    eofError_cases _,h.frames_eq,h.ok,by rw [h.waiting.finish_eq,← h.discarded_eq],?_⟩
  · intro n
    have hp : (decode m (feedAll { maxFrameLen := m } chunks).2.buffer).result = .pending := by
      have := h.waiting.pending
      rwa [h.maxFrameLen_eq] at this
    have hy := h.yields [] (n + 1)
    rw [List.append_nil,List.append_nil,readStream_of_pending hp] at hy
    rw [Nat.add_assoc,hy]
  · have hclosed : (feedAll { maxFrameLen := m } chunks).2.buffer = [] ↔
        eofError (feedAll { maxFrameLen := m } chunks).2.buffer = .closed := by
      constructor
      · intro hb
        rw [hb]
        rfl
      · intro he
        by_contra hb
        exact eofError_ne_closed h.waiting.clean hb he
    rw [h.waiting.finish_eq]
    simp only [hclosed]

end Frame
end RadioLink
