import RadioLink.Proofs.Frame.Stream
import RadioLink.Frame.Reader
/-! The reader against the stream read at once. However the source hands out the bytes of a
stream (chunk sizes, retried reads, reads that find nothing ready), one read either times out,
dropping nothing but counted noise ahead of a start marker, or gives the next read of the
stream read at once from the bytes the reader has still to read (`readWith_step`). So the
results of a run, timeouts left out, are the first reads of the stream read at once, with the
same noise counts, whatever the schedule (`reads_kept`). -/
namespace RadioLink
namespace Frame

def Delivery.payload : Delivery → Bytes
  | .bytes bs => bs
  | .failure _ => []

def Delivery.Steady : Delivery → Prop
  | .bytes bs => bs ≠ []
  | .failure k => k.isRetried = true ∨ k.isTimeout = true

def Delivery.timesOut : Delivery → Bool
  | .bytes _ => false
  | .failure k => k.isTimeout

def timedOut : Except FrameError RawFrame → Bool
  | .ok _ => false
  | .error e => e.isTimeout

theorem IoKind.isTimeout_of_isRetried {k : IoKind} (h : k.isRetried = true) : k.isTimeout = false := by
  cases k <;> simp_all [IoKind.isRetried,IoKind.isTimeout]

theorem timedOut_nextRead (m : Nat) (c : Bytes) : timedOut (nextRead m c).1.1 = false := by
  simp only [nextRead]
  split
  · simp only [eofError]
    split
    · rfl
    · split <;> rfl
    · rfl
  · rfl
  · rename_i e he
    simp only [decode,decodeAtStart] at he
    split at he
    · split at he
      · cases he; rfl
      · split at he
        · cases he; rfl
        · split at he
          · cases he
          · split at he
            · cases he
            · cases he; rfl
    · cases he

namespace Reader

def unread (r : Reader) : Bytes := r.pending ++ r.source.flatMap Delivery.payload

def DropsNoise (r r' : Reader) : Prop :=
  ∃ a, startMarker ∉ a ∧ r.unread = a ++ r'.unread ∧ r'.skipped = r.skipped + a.length

/-- `r'` is reached from `r` by steps that report nothing: noise dropped, reads retried or buffered. -/
structure Silent (r r' : Reader) : Prop where
  dropsNoise : DropsNoise r r'
  maxFrameLen_eq : r'.maxFrameLen = r.maxFrameLen
  timeouts_eq : r'.source.countP Delivery.timesOut = r.source.countP Delivery.timesOut

/-- `r'` is `r` after a read that timed out, having dropped only counted noise. -/
structure TimedOut (r r' : Reader) : Prop where
  dropsNoise : DropsNoise r r'
  maxFrameLen_eq : r'.maxFrameLen = r.maxFrameLen
  timeouts_succ : r'.source.countP Delivery.timesOut + 1 = r.source.countP Delivery.timesOut
  clean : (skipToStart r'.pending).1 = 0

/-- `r'` is `r` after a read that gave `x`, the next read of the stream read at once. -/
structure ReadsNext (r : Reader) (x : Except FrameError RawFrame) (r' : Reader) : Prop where
  result_eq : x = (nextRead r.maxFrameLen r.unread).1.1
  skipped_eq : r'.skipped = r.skipped + (nextRead r.maxFrameLen r.unread).1.2
  unread_eq : r'.unread = (nextRead r.maxFrameLen r.unread).2
  maxFrameLen_eq : r'.maxFrameLen = r.maxFrameLen
  timeouts_eq : r'.source.countP Delivery.timesOut = r.source.countP Delivery.timesOut

theorem DropsNoise.trans {r₁ r₂ r₃ : Reader} (h₁ : DropsNoise r₁ r₂) (h₂ : DropsNoise r₂ r₃) :
    DropsNoise r₁ r₃ := by
  obtain ⟨a,ha,hu,hs⟩ := h₁
  obtain ⟨b,hb,hu',hs'⟩ := h₂
  refine ⟨a ++ b,by simp [ha,hb],?_,?_⟩
  · rw [hu,hu',List.append_assoc]
  · rw [hs',hs,List.length_append,Nat.add_assoc]

theorem Silent.trans {r₁ r₂ r₃ : Reader} (h₁ : Silent r₁ r₂) (h₂ : Silent r₂ r₃) : Silent r₁ r₃ :=
  ⟨h₁.dropsNoise.trans h₂.dropsNoise,h₂.maxFrameLen_eq.trans h₁.maxFrameLen_eq,
    h₂.timeouts_eq.trans h₁.timeouts_eq⟩

theorem Silent.timedOut {r r₁ r' : Reader} (h : Silent r r₁) (h' : TimedOut r₁ r') :
    TimedOut r r' :=
  ⟨h.dropsNoise.trans h'.dropsNoise,h'.maxFrameLen_eq.trans h.maxFrameLen_eq,
    h'.timeouts_succ.trans h.timeouts_eq,h'.clean⟩

theorem Silent.readsNext {r r₁ r' : Reader} {x : Except FrameError RawFrame} (h : Silent r r₁)
    (h' : ReadsNext r₁ x r') : ReadsNext r x r' := by
  obtain ⟨⟨a,ha,hu,hs⟩,hm,ht⟩ := h
  have hn := nextRead_noise_append ha r.maxFrameLen r₁.unread
  rw [← hu] at hn
  refine ⟨?_,?_,?_,h'.maxFrameLen_eq.trans hm,h'.timeouts_eq.trans ht⟩
  · rw [h'.result_eq,hm,hn]
  · rw [h'.skipped_eq,hm,hs,hn,Nat.add_assoc]
  · rw [h'.unread_eq,hm,hn]

theorem silent_of_unread_eq {r r' : Reader} (hu : r'.unread = r.unread)
    (hs : r'.skipped = r.skipped) (hm : r'.maxFrameLen = r.maxFrameLen)
    (ht : r'.source.countP Delivery.timesOut = r.source.countP Delivery.timesOut) : Silent r r' :=
  ⟨⟨[],by simp,by simp [hu],by simp [hs]⟩,hm,ht⟩

@[simp] theorem skipNoise_pending (r : Reader) : r.skipNoise.pending = (skipToStart r.pending).2 :=
  rfl

@[simp] theorem skipNoise_skipped (r : Reader) :
    r.skipNoise.skipped = r.skipped + (skipToStart r.pending).1 :=
  rfl

@[simp] theorem skipNoise_source (r : Reader) : r.skipNoise.source = r.source := rfl

@[simp] theorem skipNoise_maxFrameLen (r : Reader) : r.skipNoise.maxFrameLen = r.maxFrameLen := rfl

theorem silent_skipNoise (r : Reader) : Silent r r.skipNoise := by
  obtain ⟨n,hn,hsplit,hlen⟩ := skipToStart_split r.pending
  refine ⟨⟨n,hn,?_,?_⟩,rfl,rfl⟩
  · simp only [unread,skipNoise_pending,skipNoise_source]
    rw [← List.append_assoc,← hsplit]
  · rw [skipNoise_skipped,hlen]

theorem skipNoise_clean (r : Reader) : (skipToStart r.skipNoise.pending).1 = 0 := by
  rw [skipNoise_pending,skipToStart_skipToStart]

theorem readsNext_decided {r : Reader} (hc : (skipToStart r.pending).1 = 0)
    (hd : (decode r.maxFrameLen r.pending).result ≠ .pending) :
    ReadsNext r (nextRead r.maxFrameLen r.pending).1.1
      { r with pending := (decode r.maxFrameLen r.pending).rest } := by
  have hn := nextRead_append hd (r.source.flatMap Delivery.payload)
  refine ⟨?_,?_,?_,rfl,rfl⟩
  · rw [unread,hn]
  · rw [unread,hn,nextRead_skipped,hc]
    rfl
  · show (decode r.maxFrameLen r.pending).rest ++ _ = _
    rw [unread,hn,nextRead_rest_of_decided hd]

theorem readWith_step {fuel : Nat} {r : Reader} (hfuel : r.sourceSize < fuel)
    (hs : ∀ d ∈ r.source, d.Steady) :
    (∀ d ∈ (readWith fuel r).2.source, d.Steady) ∧
      (timedOut (readWith fuel r).1 = true ∧ TimedOut r (readWith fuel r).2 ∨
        ReadsNext r (readWith fuel r).1 (readWith fuel r).2) := by
  induction fuel generalizing r with
  | zero => omega
  | succ fuel ih =>
    have hsil := silent_skipNoise r
    have hclean := skipNoise_clean r
    have hpass : ∀ r₁ : Reader, Silent r.skipNoise r₁ → r₁.sourceSize < fuel →
        (∀ d ∈ r₁.source, d.Steady) →
        (∀ d ∈ (readWith fuel r₁).2.source, d.Steady) ∧
          (timedOut (readWith fuel r₁).1 = true ∧ TimedOut r (readWith fuel r₁).2 ∨
            ReadsNext r (readWith fuel r₁).1 (readWith fuel r₁).2) := by
      intro r₁ h₁ hf₁ hs₁
      obtain ⟨hs',hout⟩ := ih hf₁ hs₁
      refine ⟨hs',hout.imp (fun h => ⟨h.1,(hsil.trans h₁).timedOut h.2⟩)
        (fun h => (hsil.trans h₁).readsNext h)⟩
    rw [readWith]
    split
    · rename_i f hf
      have hd : (decode r.skipNoise.maxFrameLen r.skipNoise.pending).result ≠ .pending := by
        rw [hf]
        nofun
      have hx : (nextRead r.skipNoise.maxFrameLen r.skipNoise.pending).1.1 = .ok f := by
        rw [nextRead_of_frame hf]
      refine ⟨hs,.inr (hsil.readsNext ?_)⟩
      rw [← hx]
      exact readsNext_decided hclean hd
    · rename_i e he
      have hd : (decode r.skipNoise.maxFrameLen r.skipNoise.pending).result ≠ .pending := by
        rw [he]
        nofun
      have hx : (nextRead r.skipNoise.maxFrameLen r.skipNoise.pending).1.1 = .error e := by
        rw [nextRead_of_fault he]
      refine ⟨hs,.inr (hsil.readsNext ?_)⟩
      rw [← hx]
      exact readsNext_decided hclean hd
    · rename_i hp
      split
      · rename_i k rest hsrc
        have hsrc' : r.source = .failure k :: rest := by simpa using hsrc
        have hk : k.isRetried = true ∨ k.isTimeout = true := hs (.failure k) (by simp [hsrc'])
        have hrest : ∀ d ∈ rest, d.Steady := fun d hd => hs d (by simp [hsrc',hd])
        by_cases hr : k.isRetried
        · rw [if_pos hr]
          refine hpass _ (silent_of_unread_eq ?_ rfl rfl ?_) ?_ hrest
          · simp [unread,hsrc',Delivery.payload]
          · simp [hsrc',Delivery.timesOut,IoKind.isTimeout_of_isRetried hr]
          · simp only [sourceSize,hsrc',List.foldr_cons,Delivery.size] at hfuel ⊢
            omega
        · rw [if_neg hr]
          have ht : k.isTimeout = true := hk.resolve_left hr
          refine ⟨hrest,.inl ⟨by simp [timedOut,FrameError.isTimeout,ht],?_⟩⟩
          refine ⟨(hsil.dropsNoise.trans ⟨[],by simp,?_,by simp⟩),rfl,?_,hclean⟩
          · simp [unread,hsrc',Delivery.payload]
          · simp [hsrc',Delivery.timesOut,ht]
      · rename_i hsrc
        have hsrc' : r.source = [] := by simpa using hsrc
        refine ⟨by simp [hsrc'],.inr (hsil.readsNext ?_)⟩
        have hu : r.skipNoise.unread = r.skipNoise.pending := by simp [unread,hsrc']
        refine ⟨?_,?_,?_,rfl,by simp [hsrc']⟩
        · rw [hu,nextRead_of_pending hp]
        · rw [hu,nextRead_of_pending hp,hclean]
          rfl
        · rw [hu,nextRead_of_pending hp]
          simp [unread,hsrc']
      · -- an empty chunk ends the stream early, and a steady source has none
        rename_i rest hsrc
        have hsrc' : r.source = .bytes [] :: rest := by simpa using hsrc
        exact absurd (hs (.bytes []) (by simp [hsrc'])) (by simp [Delivery.Steady])
      · rename_i bs rest hne hsrc
        have hsrc' : r.source = .bytes bs :: rest := by simpa using hsrc
        have hrest : ∀ d ∈ rest, d.Steady := fun d hd => hs d (by simp [hsrc',hd])
        split
        · refine hpass _ (silent_of_unread_eq ?_ rfl rfl ?_) ?_ hrest
          · simp [unread,hsrc',Delivery.payload]
          · simp [hsrc',Delivery.timesOut]
          · simp only [sourceSize,hsrc',List.foldr_cons,Delivery.size] at hfuel ⊢
            omega
        · rename_i hlen
          simp only [readChunk,Nat.not_le] at hlen
          refine hpass _ (silent_of_unread_eq ?_ rfl rfl ?_) ?_ ?_
          · simp only [unread,skipNoise_source,hsrc',List.flatMap_cons,Delivery.payload,
              List.append_assoc]
            rw [← List.append_assoc (List.take readChunk bs),List.take_append_drop]
          · simp [hsrc',Delivery.timesOut]
          · simp only [sourceSize,hsrc',List.foldr_cons,Delivery.size,List.length_drop,
              readChunk] at hfuel ⊢
            omega
          · intro d hd
            simp only [List.mem_cons] at hd
            rcases hd with rfl | hd
            · simp only [Delivery.Steady,ne_eq,List.drop_eq_nil_iff,readChunk]
              omega
            · exact hrest d hd

theorem readFrame_step {r : Reader} (hs : ∀ d ∈ r.source, d.Steady) :
    (∀ d ∈ r.readFrame.2.source, d.Steady) ∧
      (timedOut r.readFrame.1 = true ∧ TimedOut r r.readFrame.2 ∨
        ReadsNext r r.readFrame.1 r.readFrame.2) :=
  readWith_step (Nat.lt_succ_self _) hs

@[simp] theorem reads_zero (r : Reader) : reads 0 r = [] := rfl

theorem reads_succ (n : Nat) (r : Reader) :
    reads (n + 1) r = r.readFrame :: reads n r.readFrame.2 :=
  rfl

@[simp] theorem length_reads (n : Nat) (r : Reader) : (reads n r).length = n := by
  induction n generalizing r with
  | zero => rfl
  | succ n ih => simp [reads_succ,ih]

end Reader

def answered (rs : List (Except FrameError RawFrame × Reader)) :
    List (Except FrameError RawFrame × Nat) :=
  (rs.filter fun p => !timedOut p.1).map fun p => (p.1,p.2.skipped)

open Reader in
theorem reads_answered (n : Nat) (r : Reader) (hs : ∀ d ∈ r.source, d.Steady) :
    answered (reads n r) =
        readStream r.maxFrameLen (answered (reads n r)).length r.unread r.skipped ∧
      (reads n r).countP (fun p => timedOut p.1) ≤ r.source.countP Delivery.timesOut := by
  induction n generalizing r with
  | zero => simp [answered]
  | succ n ih =>
    obtain ⟨hs',hstep⟩ := readFrame_step hs
    obtain ⟨ih₁,ih₂⟩ := ih r.readFrame.2 hs'
    simp only [answered] at ih₁ ⊢
    rw [reads_succ]
    rcases hstep with ⟨ht,hto⟩ | hnext
    · obtain ⟨a,ha,hu,hsk⟩ := hto.dropsNoise
      refine ⟨?_,?_⟩
      · rw [List.filter_cons_of_neg (by simp [ht])]
        rw [hto.maxFrameLen_eq,hsk] at ih₁
        rw [hu,readStream_noise_append ha]
        exact ih₁
      · rw [List.countP_cons_of_pos (by simpa using ht)]
        have := hto.timeouts_succ
        omega
    · have hkeep : timedOut r.readFrame.1 = false := by
        rw [hnext.result_eq]
        exact timedOut_nextRead _ _
      refine ⟨?_,?_⟩
      · rw [List.filter_cons_of_pos (by simp [hkeep]),List.map_cons,List.length_cons,
          readStream_succ]
        rw [hnext.maxFrameLen_eq,hnext.unread_eq,hnext.skipped_eq] at ih₁
        rw [← ih₁,← hnext.result_eq,← hnext.skipped_eq]
      · rw [List.countP_cons_of_neg (by simp [hkeep]),← hnext.timeouts_eq]
        exact ih₂

open Reader in
theorem reads_of_chunks (n m : Nat) {chunks : List Bytes} (hne : ∀ c ∈ chunks, c ≠ []) :
    (reads n { source := chunks.map .bytes, maxFrameLen := m }).map (fun p => (p.1,p.2.skipped)) =
      readStream m n chunks.flatten 0 := by
  have hs : ∀ d ∈ chunks.map Delivery.bytes, d.Steady := by
    simpa [Delivery.Steady] using hne
  obtain ⟨h₁,h₂⟩ := reads_answered n { source := chunks.map .bytes, maxFrameLen := m } hs
  have hnone : (chunks.map Delivery.bytes).countP Delivery.timesOut = 0 := by
    simp [List.countP_eq_zero,Delivery.timesOut]
  have hall : (reads n { source := chunks.map .bytes, maxFrameLen := m }).filter
      (fun p => !timedOut p.1) = reads n { source := chunks.map .bytes, maxFrameLen := m } := by
    rw [List.filter_eq_self]
    intro p hp
    have h0 := List.countP_eq_zero.mp (Nat.le_zero.mp (hnone ▸ h₂)) p hp
    simpa using h0
  have hu : ({ source := chunks.map .bytes, maxFrameLen := m } : Reader).unread = chunks.flatten := by
    simp only [unread,List.nil_append,List.flatMap_map,Delivery.payload,List.flatMap_id']
  simp only [answered,hall,List.length_map,length_reads,hu] at h₁
  exact h₁

open Reader in
/-- Frames make the round trip through the wire, alone and in a stream among noise, however cut. -/
theorem wire_round_trip :
    (∀ (t : UInt8) (d : Bytes), d.length + 1 ≤ maxLength →
      ∃ w, encode t d = .ok w ∧
        w = startMarker :: Bytes.ofNatBE 2 (d.length + 1) ++
          stuff (t :: d ++ [checksum (t :: d)]) ∧
        Bytes.toNatBE (Bytes.ofNatBE 2 (d.length + 1)) = d.length + 1 ∧
        ∀ (m : Nat) (rest : Bytes), d.length + 1 ≤ m → decode m (w ++ rest) = ⟨.frame ⟨t,d⟩,rest⟩) ∧
    (∀ (t : UInt8) (d : Bytes),
      encode t d = .error (.tooLarge (d.length + 1) maxLength) ↔ maxLength < d.length + 1) ∧
    (∀ (m : Nat) (n₀ : Bytes) (segs : List (RawFrame × Bytes)) (chunks : List Bytes),
      (∀ p ∈ segs, p.1.len ≤ maxLength ∧ p.1.len ≤ m) →
      startMarker ∉ n₀ → (∀ p ∈ segs, startMarker ∉ p.2) →
      (∀ c ∈ chunks, c ≠ []) → chunks.flatten = noisyStream n₀ segs →
      (reads (segs.length + 1) { source := chunks.map .bytes, maxFrameLen := m }).map Prod.fst =
          segs.map (fun p => .ok p.1) ++ [.error .closed] ∧
        (reads (segs.length + 1) { source := chunks.map .bytes, maxFrameLen := m }).getLast?.map
          (fun p => p.2.skipped) = some (n₀.length + (segs.map fun p => p.2.length).sum)) := by
  refine ⟨?_,?_,?_⟩
  · intro t d hd
    refine ⟨_,encode_eq_ok hd,RawFrame.wire_eq ⟨t,d⟩,toNatBE_ofNatBE_two hd,?_⟩
    intro m rest hm
    exact decode_wire_append (show RawFrame.len ⟨t,d⟩ ≤ maxLength from hd) hm rest
  · intro t d
    rw [encode_eq_error_iff]
    simp
  · intro m n₀ segs chunks hfit hn₀ hsegs hne hflat
    have hrun := reads_of_chunks (segs.length + 1) m hne
    rw [hflat] at hrun
    obtain ⟨hres,hlast⟩ := readStream_noisy n₀ segs hfit ⟨hn₀,hsegs⟩ 0
    rw [← hrun,List.map_map] at hres
    rw [← hrun,List.getLast?_map,Option.map_map] at hlast
    exact ⟨hres,by simpa using hlast⟩

/-- Two frames among noise in one chunk: both frames, then a closed connection, the noise counted. -/
theorem wire_round_trip_two_frames :
    (Reader.reads 3 { source := [.bytes [0x00,0x55,0x7E,0x00,0x02,0x8A,0x00,0x75,0xAA,0xBB,0xCC,0x7E,
      0x00,0x02,0x8A,0x01,0x74]], maxFrameLen := maxLength }).map Prod.fst =
        [Except.ok ⟨0x8A,[0x00]⟩,.ok ⟨0x8A,[0x01]⟩,.error .closed] ∧
      (Reader.reads 3 { source := [.bytes [0x00,0x55,0x7E,0x00,0x02,0x8A,0x00,0x75,0xAA,0xBB,0xCC,0x7E,
        0x00,0x02,0x8A,0x01,0x74]], maxFrameLen := maxLength }).getLast?.map
          (fun p => p.2.skipped) = some 5 :=
  wire_round_trip.2.2 maxLength [0x00,0x55] [(⟨0x8A,[0x00]⟩,[0xAA,0xBB,0xCC]),(⟨0x8A,[0x01]⟩,[])]
    [[0x00,0x55,0x7E,0x00,0x02,0x8A,0x00,0x75,0xAA,0xBB,0xCC,0x7E,0x00,0x02,0x8A,0x01,0x74]]
    (by decide) (by decide) (by decide) (by decide) (by decide)

open Reader in
/-- A reader gives the same reads however the stream reaches it, its timeouts apart. -/
theorem reads_schedule_invariant (m : Nat) (σ : List Delivery) (hσ : ∀ d ∈ σ, d.Steady)
    (n : Nat) :
    answered (reads n { source := σ, maxFrameLen := m }) =
        readStream m (answered (reads n { source := σ, maxFrameLen := m })).length
          (σ.flatMap Delivery.payload) 0 ∧
      n ≤ (answered (reads n { source := σ, maxFrameLen := m })).length +
        σ.countP Delivery.timesOut ∧
      ∀ r : Reader, (∀ d ∈ r.source, d.Steady) → timedOut r.readFrame.1 = true →
        TimedOut r r.readFrame.2 := by
  obtain ⟨h₁,h₂⟩ := reads_answered n { source := σ, maxFrameLen := m } hσ
  refine ⟨by simpa [unread] using h₁,?_,?_⟩
  · have hsplit := @List.length_eq_countP_add_countP _ (fun p : Except FrameError RawFrame × Reader =>
      timedOut p.1) (reads n { source := σ, maxFrameLen := m })
    simp only [length_reads,decide_not,Bool.decide_eq_true] at hsplit
    have hkept : (answered (reads n { source := σ, maxFrameLen := m })).length =
        (reads n { source := σ, maxFrameLen := m }).countP (fun p => !timedOut p.1) := by
      simp [answered,List.countP_eq_length_filter]
    simp only at h₂
    omega
  · intro r hs ht
    rcases (readFrame_step hs).2 with ⟨_,hto⟩ | hnext
    · exact hto
    · rw [hnext.result_eq,timedOut_nextRead] at ht
      contradiction

/-- A frame cut after its header, with a timeout and an interrupted read in the cut. -/
theorem reads_schedule_invariant_split_frame :
    let σ : List Delivery :=
      [.bytes [0x7E,0x00,0x02],.failure .timedOut,.failure .interrupted,.bytes [0x8A,0x02,0x73]]
    (∀ d ∈ σ, d.Steady) ∧
      answered (Reader.reads 3 { source := σ, maxFrameLen := maxLength }) =
          readStream maxLength (answered (Reader.reads 3 { source := σ, maxFrameLen := maxLength })).length
            (σ.flatMap Delivery.payload) 0 ∧
        3 ≤ (answered (Reader.reads 3 { source := σ, maxFrameLen := maxLength })).length +
          σ.countP Delivery.timesOut ∧
        ∀ r : Reader, (∀ d ∈ r.source, d.Steady) → timedOut r.readFrame.1 = true →
          Reader.TimedOut r r.readFrame.2 := by
  intro σ
  have hσ : ∀ d ∈ σ, d.Steady := by
    simp [σ,Delivery.Steady,IoKind.isRetried,IoKind.isTimeout]
  exact ⟨hσ,reads_schedule_invariant maxLength σ hσ 3⟩

/-- A read that times out can drop a buffered byte of noise, leaving the buffer empty. -/
theorem timeout_drops_buffered_noise :
    let r : Reader := { source := [.bytes [0x7E,0x00,0x02,0x8A,0x02,0x73,0x00],.failure .timedOut] }
    r.readFrame.2.buffered = 1 ∧ timedOut r.readFrame.2.readFrame.1 = true ∧
      r.readFrame.2.readFrame.2.buffered = 0 := by
  decide

end Frame
end RadioLink
