import RadioLink.Proofs.Frame.Decode
/-! Reading a stream whose bytes are all there: `nextRead` takes the next frame or fault off it,
or explains the bytes left, and `readStream` repeats it, counting noise. Frames among noise free
of markers are read as exactly those frames (`readStream_noisy`). -/
namespace RadioLink
namespace Frame

/-- One read of a stream whose bytes are all there: a frame, a fault, or the error at its end. -/
def nextRead (m : Nat) (c : Bytes) : (Except FrameError RawFrame × Nat) × Bytes :=
  let step := decode m c
  match step.result with
  | .pending => ((.error (eofError c),(skipToStart c).1),[])
  | .frame f => ((.ok f,(skipToStart c).1),step.rest)
  | .fault e => ((.error e,(skipToStart c).1),step.rest)

/-- The first `n` reads of a stream whose bytes are all there, each with the noise dropped so far. -/
def readStream (m : Nat) : Nat → Bytes → Nat → List (Except FrameError RawFrame × Nat)
  | 0, _, _ => []
  | n + 1, c, base =>
    let ((x,k),c') := nextRead m c
    (x,base + k) :: readStream m n c' (base + k)

@[simp] theorem readStream_zero (m : Nat) (c : Bytes) (base : Nat) : readStream m 0 c base = [] :=
  rfl

theorem readStream_succ (m n : Nat) (c : Bytes) (base : Nat) :
    readStream m (n + 1) c base =
      ((nextRead m c).1.1,base + (nextRead m c).1.2) ::
        readStream m n (nextRead m c).2 (base + (nextRead m c).1.2) :=
  rfl

@[simp] theorem length_readStream (m n : Nat) (c : Bytes) (base : Nat) :
    (readStream m n c base).length = n := by
  induction n generalizing c base with
  | zero => rfl
  | succ n ih => simp [readStream_succ,ih]

theorem nextRead_skipped (m : Nat) (c : Bytes) : (nextRead m c).1.2 = (skipToStart c).1 := by
  simp only [nextRead]
  split <;> rfl

theorem nextRead_of_pending {m : Nat} {c : Bytes} (h : (decode m c).result = .pending) :
    nextRead m c = ((.error (eofError c),(skipToStart c).1),[]) := by
  simp [nextRead,h]

theorem nextRead_of_frame {m : Nat} {c : Bytes} {f : RawFrame} (h : (decode m c).result = .frame f) :
    nextRead m c = ((.ok f,(skipToStart c).1),(decode m c).rest) := by
  simp [nextRead,h]

theorem nextRead_of_fault {m : Nat} {c : Bytes} {e : FrameError} (h : (decode m c).result = .fault e) :
    nextRead m c = ((.error e,(skipToStart c).1),(decode m c).rest) := by
  simp [nextRead,h]

theorem nextRead_rest_of_decided {m : Nat} {c : Bytes} (h : (decode m c).result ≠ .pending) :
    (nextRead m c).2 = (decode m c).rest := by
  simp only [nextRead]
  split
  · contradiction
  · rfl
  · rfl

theorem nextRead_rest_length_lt {m : Nat} {c : Bytes} (h : (decode m c).result ≠ .pending) :
    (nextRead m c).2.length < c.length := by
  rw [nextRead_rest_of_decided h]
  exact decode_rest_length_lt h

theorem nextRead_append {m : Nat} {b : Bytes} (h : (decode m b).result ≠ .pending) (e : Bytes) :
    nextRead m (b ++ e) = ((nextRead m b).1,(nextRead m b).2 ++ e) := by
  have hs := skipToStart_ne_nil_of_decided h
  simp only [nextRead,decode_append h,skipToStart_append hs]
  split
  · contradiction
  · rfl
  · rfl

theorem eofError_noise_append {n : Bytes} (hn : startMarker ∉ n) (b : Bytes) :
    eofError (n ++ b) = eofError b := by
  simp only [eofError,skipToStart_noise_append hn]

theorem eofError_noise {n : Bytes} (hn : startMarker ∉ n) : eofError n = .closed := by
  simpa [eofError] using eofError_noise_append hn []

@[simp] theorem nextRead_nil (m : Nat) : nextRead m [] = ((.error .closed,0),[]) := rfl

theorem readStream_nil (m n base : Nat) :
    readStream m n [] base = List.replicate n (.error .closed,base) := by
  induction n with
  | zero => rfl
  | succ n ih => simp [readStream_succ,ih,List.replicate_succ]

theorem nextRead_noise_append {n : Bytes} (hn : startMarker ∉ n) (m : Nat) (b : Bytes) :
    nextRead m (n ++ b) = (((nextRead m b).1.1,n.length + (nextRead m b).1.2),(nextRead m b).2) := by
  simp only [nextRead,decode_noise_append hn,skipToStart_noise_append hn,eofError_noise_append hn]
  split <;> rfl

theorem readStream_noise_append {n : Bytes} (hn : startMarker ∉ n) (m k : Nat) (b : Bytes)
    (base : Nat) : readStream m k (n ++ b) base = readStream m k b (base + n.length) := by
  cases k with
  | zero => rfl
  | succ k =>
    rw [readStream_succ,readStream_succ,nextRead_noise_append hn,Nat.add_assoc]

theorem readStream_marker_fault {m : Nat} {w s : Bytes} {e : FrameError}
    (h : decode m (startMarker :: w) = ⟨.fault e,s⟩) (k base : Nat) :
    readStream m (k + 1) (startMarker :: w) base = (.error e,base) :: readStream m k s base := by
  have hr : (decode m (startMarker :: w)).result = .fault e := by rw [h]
  rw [readStream_succ,nextRead_of_fault hr,skipToStart_marker,h]
  rfl

theorem nextRead_wire_append {m : Nat} {f : RawFrame} (hf : f.len ≤ maxLength) (hm : f.len ≤ m)
    (rest : Bytes) : nextRead m (f.wire ++ rest) = ((.ok f,0),rest) := by
  have hw : f.wire ++ rest = startMarker :: (f.wire.tail ++ rest) := by
    simp [RawFrame.wire]
  simp only [nextRead,decode_wire_append hf hm]
  rw [hw,skipToStart_marker]

/-- Frames' wire forms, each followed by its noise. -/
def noisyStream (n₀ : Bytes) (segs : List (RawFrame × Bytes)) : Bytes :=
  n₀ ++ segs.flatMap fun p => p.1.wire ++ p.2

theorem nextRead_noise {n : Bytes} (hn : startMarker ∉ n) (m : Nat) :
    nextRead m n = ((.error .closed,n.length),[]) := by
  simpa using nextRead_noise_append hn m []

theorem noisyStream_cons (n₀ : Bytes) (f : RawFrame) (n₁ : Bytes) (segs : List (RawFrame × Bytes)) :
    noisyStream n₀ ((f,n₁) :: segs) = n₀ ++ (f.wire ++ noisyStream n₁ segs) := by
  simp [noisyStream]

theorem readStream_noisy_cons {m : Nat} {n₀ : Bytes} (hn : startMarker ∉ n₀) {f : RawFrame}
    (hf : f.len ≤ maxLength) (hm : f.len ≤ m) (n₁ : Bytes) (segs : List (RawFrame × Bytes))
    (k base : Nat) :
    readStream m (k + 1) (noisyStream n₀ ((f,n₁) :: segs)) base =
      (.ok f,base + n₀.length) :: readStream m k (noisyStream n₁ segs) (base + n₀.length) := by
  rw [readStream_succ,noisyStream_cons,nextRead_noise_append hn,nextRead_wire_append hf hm]
  rfl

/-- Frames among noise free of markers are read one by one, then a closed connection, noise counted. -/
theorem readStream_noisy {m : Nat} (n₀ : Bytes) (segs : List (RawFrame × Bytes))
    (hfit : ∀ p ∈ segs, p.1.len ≤ maxLength ∧ p.1.len ≤ m)
    (hnoise : startMarker ∉ n₀ ∧ ∀ p ∈ segs, startMarker ∉ p.2) (base : Nat) :
    (readStream m (segs.length + 1) (noisyStream n₀ segs) base).map Prod.fst =
        segs.map (fun p => .ok p.1) ++ [.error .closed] ∧
      (readStream m (segs.length + 1) (noisyStream n₀ segs) base).getLast?.map Prod.snd =
        some (base + n₀.length + (segs.map fun p => p.2.length).sum) := by
  induction segs generalizing n₀ base with
  | nil =>
    have hs : noisyStream n₀ [] = n₀ := by simp [noisyStream]
    simp [hs,readStream_succ,nextRead_noise hnoise.1]
  | cons p segs ih =>
    obtain ⟨f,n₁⟩ := p
    have hf := hfit (f,n₁) (List.mem_cons_self ..)
    have ht := ih n₁ (fun q hq => hfit q (List.mem_cons_of_mem _ hq))
      ⟨hnoise.2 (f,n₁) (List.mem_cons_self ..),fun q hq => hnoise.2 q (List.mem_cons_of_mem _ hq)⟩
      (base + n₀.length)
    rw [List.length_cons,readStream_noisy_cons hnoise.1 hf.1 hf.2]
    refine ⟨by simp [ht.1],?_⟩
    have hne : readStream m (segs.length + 1) (noisyStream n₁ segs) (base + n₀.length) ≠ [] := by
      simp [← List.length_pos_iff]
    rw [List.getLast?_cons_of_ne_nil hne,ht.2]
    simp only [List.map_cons,List.sum_cons,Option.some.injEq]
    omega

end Frame
end RadioLink
