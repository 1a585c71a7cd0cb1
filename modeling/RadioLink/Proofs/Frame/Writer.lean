import RadioLink.Frame.Writer
import RadioLink.Proofs.Frame.Decode
/-! The writer puts each frame on its sink exactly once, whatever the sink takes per call. The
write loop is proved through its invariant `Progress`: the sink has taken a prefix of the
bytes, the rest is still offered, and every script entry used so far let the loop go on. -/
namespace RadioLink
namespace Frame

def WriteOutcome.failure? : WriteOutcome → Option FrameError
  | .accept => none
  | .take n => if n = 0 then some .closed else none
  | .refuse => some .closed
  | .failure k => if k.isRetriedOnWrite then none else some (.stream k)

namespace Sink

variable {s s' s₀ : Sink} {bytes bytes₀ : Bytes} {n c : Nat} {k : IoKind} {e : FrameError}

/-! ### One write call -/

theorem took_eq_ok (h : s.took bytes c = (.ok n, s')) (hn : n ≠ 0) :
    c = n ∧ s' = { s with taken := s.taken ++ bytes.take n, writes := s.writes + 1 } := by
  unfold took at h
  split at h
  · simp only [Prod.mk.injEq, Except.ok.injEq] at h
    omega
  · simp only [Prod.mk.injEq, Except.ok.injEq] at h
    obtain ⟨rfl, rfl⟩ := h
    exact ⟨rfl, rfl⟩

theorem took_eq_ok_zero (h : s.took bytes c = (.ok 0, s')) : c = 0 ∧ s' = s := by
  unfold took at h
  split at h
  · simp only [Prod.mk.injEq] at h
    exact ⟨‹_›, h.2.symm⟩
  · simp only [Prod.mk.injEq, Except.ok.injEq] at h
    omega

@[simp] theorem took_flushScript (s : Sink) (bytes : Bytes) (c : Nat) :
    (s.took bytes c).2.flushScript = s.flushScript := by
  unfold took; split <;> rfl

@[simp] theorem took_flushes (s : Sink) (bytes : Bytes) (c : Nat) :
    (s.took bytes c).2.flushes = s.flushes := by
  unfold took; split <;> rfl

@[simp] theorem write_flushScript (s : Sink) (bytes : Bytes) :
    (s.write bytes).2.flushScript = s.flushScript := by
  cases hs : s.writeScript with
  | nil => simp [write, hs]
  | cons o rest => cases o <;> simp [write, hs]

@[simp] theorem write_flushes (s : Sink) (bytes : Bytes) : (s.write bytes).2.flushes = s.flushes := by
  cases hs : s.writeScript with
  | nil => simp [write, hs]
  | cons o rest => cases o <;> simp [write, hs]

theorem write_flush_eq {r : Except IoKind Nat} (h : s.write bytes = (r, s')) :
    s'.flushScript = s.flushScript ∧ s'.flushes = s.flushes := by
  have hs' : s' = (s.write bytes).2 := by rw [h]
  subst hs'
  exact ⟨write_flushScript s bytes, write_flushes s bytes⟩

theorem write_eq_ok (h : s.write bytes = (.ok n, s')) (hn : n ≠ 0) :
    ∃ used, s.writeScript = used ++ s'.writeScript ∧ (∀ o ∈ used, o.failure? = none) ∧
      s'.taken = s.taken ++ bytes.take n := by
  cases hs : s.writeScript with
  | nil =>
    simp only [write, hs] at h
    obtain ⟨-, rfl⟩ := took_eq_ok h hn
    exact ⟨[], by simp [hs], by simp, rfl⟩
  | cons o rest =>
    cases o with
    | accept =>
      simp only [write, hs] at h
      obtain ⟨-, rfl⟩ := took_eq_ok h hn
      exact ⟨[.accept], rfl, by simp [WriteOutcome.failure?], rfl⟩
    | take m =>
      simp only [write, hs] at h
      obtain ⟨hm, rfl⟩ := took_eq_ok h hn
      have hm0 : m ≠ 0 := by omega
      exact ⟨[.take m], rfl, by simp [WriteOutcome.failure?, hm0], rfl⟩
    | refuse =>
      simp only [write, hs] at h
      exact absurd (took_eq_ok h hn).1.symm hn
    | failure k => simp [write, hs] at h

theorem write_eq_ok_zero (hb : bytes ≠ []) (h : s.write bytes = (.ok 0, s')) :
    ∃ o, s.writeScript = o :: s'.writeScript ∧ o.failure? = some .closed ∧ s'.taken = s.taken := by
  -- the sink's own chunk is never zero on a nonempty offer
  have hchunk : (if s.maxChunk = 0 then bytes.length else min s.maxChunk bytes.length) ≠ 0 := by
    have hlen : bytes.length ≠ 0 := by simpa using hb
    split <;> omega
  cases hs : s.writeScript with
  | nil =>
    simp only [write, hs] at h
    exact absurd (took_eq_ok_zero h).1 hchunk
  | cons o rest =>
    cases o with
    | accept =>
      simp only [write, hs] at h
      exact absurd (took_eq_ok_zero h).1 hchunk
    | take m =>
      simp only [write, hs] at h
      obtain ⟨hm, rfl⟩ := took_eq_ok_zero h
      have hm0 : m = 0 := by
        have hlen : bytes.length ≠ 0 := by simpa using hb
        omega
      exact ⟨.take m, rfl, by simp [WriteOutcome.failure?, hm0], rfl⟩
    | refuse =>
      simp only [write, hs] at h
      obtain ⟨-, rfl⟩ := took_eq_ok_zero h
      exact ⟨.refuse, rfl, rfl, rfl⟩
    | failure k => simp [write, hs] at h

theorem write_eq_error (h : s.write bytes = (.error k, s')) :
    s.writeScript = .failure k :: s'.writeScript ∧ s'.taken = s.taken := by
  have took_ne (t : Sink) (c : Nat) : t.took bytes c ≠ (.error k, s') := by
    unfold took; split <;> simp
  cases hs : s.writeScript with
  | nil =>
    simp only [write, hs] at h
    exact absurd h (took_ne _ _)
  | cons o rest =>
    cases o with
    | failure k' =>
      simp only [write, hs, Prod.mk.injEq, Except.error.injEq] at h
      obtain ⟨rfl, rfl⟩ := h
      exact ⟨rfl, rfl⟩
    | _ =>
      simp only [write, hs] at h
      exact absurd h (took_ne _ _)

/-! ### The write loop -/

/-- The write loop's invariant: the sink took the first `m` bytes, each entry used let it go on. -/
def Progress (s₀ : Sink) (bytes₀ : Bytes) (s : Sink) (bytes : Bytes) : Prop :=
  ∃ used m, s₀.writeScript = used ++ s.writeScript ∧ (∀ o ∈ used, o.failure? = none) ∧
    s.taken = s₀.taken ++ bytes₀.take m ∧ bytes = bytes₀.drop m ∧
    s.flushScript = s₀.flushScript ∧ s.flushes = s₀.flushes

/-- How a write loop ends: all bytes taken, or the error of the first entry that stopped it. -/
def WriteEnd (s₀ : Sink) (bytes₀ : Bytes) : Except FrameError Unit × Sink → Prop
  | (.ok (), s) => ∃ used, s₀.writeScript = used ++ s.writeScript ∧
      (∀ o ∈ used, o.failure? = none) ∧ s.taken = s₀.taken ++ bytes₀ ∧
      s.flushScript = s₀.flushScript ∧ s.flushes = s₀.flushes
  | (.error e, s) => ∃ used o m, s₀.writeScript = used ++ o :: s.writeScript ∧
      (∀ g ∈ used, g.failure? = none) ∧ o.failure? = some e ∧ m < bytes₀.length ∧
      s.taken = s₀.taken ++ bytes₀.take m ∧ s.flushScript = s₀.flushScript ∧ s.flushes = s₀.flushes

theorem Progress.start (s : Sink) (bytes : Bytes) : Progress s bytes s bytes :=
  ⟨[], 0, by simp, by simp, by simp, by simp, rfl, rfl⟩

theorem Progress.took (hp : Progress s₀ bytes₀ s bytes) (h : s.write bytes = (.ok n, s'))
    (hn : n ≠ 0) : Progress s₀ bytes₀ s' (bytes.drop n) := by
  obtain ⟨used, m, hs, hu, ht, rfl, hfs, hfl⟩ := hp
  obtain ⟨used', hs', hu', ht'⟩ := write_eq_ok h hn
  obtain ⟨hfs', hfl'⟩ := write_flush_eq h
  refine ⟨used ++ used', m + n, by simp [hs, hs'], List.forall_mem_append.2 ⟨hu, hu'⟩, ?_,
    by simp [List.drop_drop, Nat.add_comm], by rw [hfs', hfs], by rw [hfl', hfl]⟩
  rw [ht', ht, List.take_add, List.append_assoc]

theorem Progress.retried (hp : Progress s₀ bytes₀ s bytes) (h : s.write bytes = (.error k, s'))
    (hk : k.isRetriedOnWrite) : Progress s₀ bytes₀ s' bytes := by
  obtain ⟨used, m, hs, hu, ht, rfl, hfs, hfl⟩ := hp
  obtain ⟨hs', ht'⟩ := write_eq_error h
  obtain ⟨hfs', hfl'⟩ := write_flush_eq h
  have hretried : ∀ o ∈ [WriteOutcome.failure k], o.failure? = none := by
    simp [WriteOutcome.failure?, hk]
  exact ⟨used ++ [.failure k], m, by simp [hs, hs'], List.forall_mem_append.2 ⟨hu, hretried⟩,
    by rw [ht', ht], rfl, by rw [hfs', hfs], by rw [hfl', hfl]⟩

theorem Progress.finished (hp : Progress s₀ bytes₀ s []) : WriteEnd s₀ bytes₀ (.ok (), s) := by
  obtain ⟨used, m, hs, hu, ht, hd, hfs, hfl⟩ := hp
  have hm : bytes₀.length ≤ m := List.drop_eq_nil_iff.1 hd.symm
  exact ⟨used, hs, hu, by rw [ht, List.take_of_length_le hm], hfs, hfl⟩

theorem Progress.stopped {o : WriteOutcome} {r : Except IoKind Nat} (hp : Progress s₀ bytes₀ s bytes)
    (hb : bytes ≠ []) (h : s.write bytes = (r, s')) (hs : s.writeScript = o :: s'.writeScript)
    (ho : o.failure? = some e) (ht : s'.taken = s.taken) : WriteEnd s₀ bytes₀ (.error e, s') := by
  obtain ⟨used, m, hs₀, hu, ht₀, rfl, hfs₀, hfl₀⟩ := hp
  obtain ⟨hfs, hfl⟩ := write_flush_eq h
  have hm : m < bytes₀.length := by
    by_contra hm
    exact hb (List.drop_eq_nil_iff.2 (by omega))
  exact ⟨used, o, m, by rw [hs₀, hs], hu, ho, hm, by rw [ht, ht₀], by rw [hfs, hfs₀],
    by rw [hfl, hfl₀]⟩

theorem writeAll_end {fuel : Nat} (hp : Progress s₀ bytes₀ s bytes)
    (hf : bytes.length + s.writeScript.length < fuel) : WriteEnd s₀ bytes₀ (writeAll fuel s bytes) := by
  induction fuel generalizing s bytes with
  | zero => omega
  | succ fuel ih =>
    cases bytes with
    | nil => exact hp.finished
    | cons b bs =>
      have hb : b :: bs ≠ [] := List.cons_ne_nil b bs
      rcases hw : s.write (b :: bs) with ⟨r, s'⟩
      cases r with
      | ok n =>
        by_cases hn : n = 0
        · subst hn
          obtain ⟨o, hs, ho, ht⟩ := write_eq_ok_zero hb hw
          simp only [writeAll, hw, if_pos]
          exact hp.stopped hb hw hs ho ht
        · simp only [writeAll, hw, if_neg hn]
          refine ih (hp.took hw hn) ?_
          obtain ⟨used, hs, -⟩ := write_eq_ok hw hn
          have hlen : s'.writeScript.length ≤ s.writeScript.length := by simp [hs]
          simp only [List.length_drop, List.length_cons] at hf ⊢
          omega
      | error k =>
        obtain ⟨hs, ht⟩ := write_eq_error hw
        cases hk : k.isRetriedOnWrite
        · simp only [writeAll, hw, hk]
          exact hp.stopped hb hw hs (by simp [WriteOutcome.failure?, hk]) ht
        · simp only [writeAll, hw, hk, if_true]
          refine ih (hp.retried hw hk) ?_
          simp only [hs, List.length_cons] at hf ⊢
          omega

/-! ### Flushing -/

theorem flushAll_eq (ks : List IoKind) (s : Sink) :
    flushAll ks s = match ks.dropWhile (·.isRetriedOnWrite) with
      | [] => (.ok (), { s with flushScript := [], flushes := s.flushes + 1 })
      | k :: rest => (.error (.stream k), { s with flushScript := rest }) := by
  induction ks with
  | nil => rfl
  | cons k ks ih =>
    by_cases hk : k.isRetriedOnWrite
    · simp [flushAll, hk, ih]
    · simp [flushAll, hk]

/-! ### A whole frame -/

/-- How putting `bytes` on a sink ends: all taken and flushed once, or a write or flush error. -/
def Delivered (s₀ : Sink) (bytes : Bytes) : Except FrameError Unit × Sink → Prop
  | (.ok (), s) => ∃ used, s₀.writeScript = used ++ s.writeScript ∧
      (∀ o ∈ used, o.failure? = none) ∧ (∀ k ∈ s₀.flushScript, k.isRetriedOnWrite) ∧
      s.flushScript = [] ∧ s.taken = s₀.taken ++ bytes ∧ s.flushes = s₀.flushes + 1
  | (.error e, s) => WriteEnd s₀ bytes (.error e, s) ∨
      ∃ used, s₀.writeScript = used ++ s.writeScript ∧ (∀ o ∈ used, o.failure? = none) ∧
        s.taken = s₀.taken ++ bytes ∧ s.flushes = s₀.flushes ∧
        ∃ good k, s₀.flushScript = good ++ k :: s.flushScript ∧ (∀ g ∈ good, g.isRetriedOnWrite) ∧
          k.isRetriedOnWrite = false ∧ e = .stream k

theorem writeFully_delivered (s : Sink) (bytes : Bytes) : Delivered s bytes (s.writeFully bytes) := by
  have hw := writeAll_end (Progress.start s bytes) (Nat.lt_succ_self (bytes.length + s.writeScript.length))
  unfold writeFully
  rcases hr : writeAll (bytes.length + s.writeScript.length + 1) s bytes with ⟨_ | e, s₁⟩
  · rw [hr] at hw
    exact .inl hw
  · rw [hr] at hw
    obtain ⟨used, hs, hu, ht, hfs, hfl⟩ := hw
    simp only
    rw [flushAll_eq]
    split
    next hd =>
      refine ⟨used, hs, hu, ?_, rfl, ht, by simp [hfl]⟩
      rw [← hfs]
      exact List.dropWhile_eq_nil_iff.1 hd
    next k rest hd =>
      have hsplit := (List.takeWhile_append_dropWhile (p := (·.isRetriedOnWrite))
        (l := s₁.flushScript)).symm
      rw [hd] at hsplit
      have hk : k.isRetriedOnWrite = false := by
        have := List.head_dropWhile_not (·.isRetriedOnWrite) (l := s₁.flushScript) (by simp [hd])
        simpa [hd] using this
      refine .inr ⟨used, hs, hu, ht, hfl, _, k, by rw [← hfs]; exact hsplit, ?_, hk, rfl⟩
      intro g hg
      exact List.mem_takeWhile_imp hg

theorem Delivered.exists_failure {r : Except FrameError Unit} (hd : Delivered s₀ bytes (r, s))
    (he : r ≠ .ok ()) :
    (∃ o ∈ s₀.writeScript, o.failure? ≠ none) ∨ ∃ k ∈ s₀.flushScript, k.isRetriedOnWrite = false := by
  cases r with
  | ok u => exact absurd rfl he
  | error e =>
    rcases hd with ⟨used, o, m, hs, -, ho, -⟩ | ⟨-, -, -, -, -, good, k, hfs, -, hk, -⟩
    · exact .inl ⟨o, by simp [hs], by simp [ho]⟩
    · exact .inr ⟨k, by simp [hfs], hk⟩

end Sink

namespace Writer

variable {w : Writer} {t : UInt8} {d bytes : Bytes} {s : Sink} {e : FrameError}

theorem send_of_lt (h : w.maxFrameLen < d.length + 1) :
    w.send t d = (.error (.tooLarge (d.length + 1) w.maxFrameLen), w) := by
  simp [send, h]

theorem send_of_writeFully_ok (h₁ : d.length + 1 ≤ w.maxFrameLen) (h₂ : d.length + 1 ≤ maxLength)
    (h : w.sink.writeFully (RawFrame.wire ⟨t, d⟩) = (.ok (), s)) :
    w.send t d = (.ok (), { w with sink := s, framesWritten := w.framesWritten + 1 }) := by
  simp [send, encode_eq_ok h₂, Nat.not_lt.2 h₁, h]

theorem send_of_writeFully_error (h₁ : d.length + 1 ≤ w.maxFrameLen)
    (h₂ : d.length + 1 ≤ maxLength) (h : w.sink.writeFully (RawFrame.wire ⟨t, d⟩) = (.error e, s)) :
    w.send t d = (.error e, { w with sink := s }) := by
  simp [send, encode_eq_ok h₂, Nat.not_lt.2 h₁, h]

/-- Sending a frame writes it exactly once, or refuses it before any write call. -/
theorem send_writes_frame_once (w : Writer) (t : UInt8) (d : Bytes) :
    (w.maxFrameLen < d.length + 1 →
      w.send t d = (.error (.tooLarge (d.length + 1) w.maxFrameLen), w)) ∧
    (d.length + 1 ≤ w.maxFrameLen → d.length + 1 ≤ maxLength →
      ∃ bytes, encode t d = .ok bytes ∧
        Sink.Delivered w.sink bytes ((w.send t d).1, (w.send t d).2.sink) ∧
        (∀ w', w.send t d = (.ok (), w') → w'.framesWritten = w.framesWritten + 1) ∧
        (∀ e w', w.send t d = (.error e, w') → w'.framesWritten = w.framesWritten) ∧
        ((∀ o ∈ w.sink.writeScript, o.failure? = none) →
          (∀ k ∈ w.sink.flushScript, k.isRetriedOnWrite) → (w.send t d).1 = .ok ())) := by
  refine ⟨send_of_lt, fun h₁ h₂ => ⟨_, encode_eq_ok h₂, ?_⟩⟩
  have hd := Sink.writeFully_delivered w.sink (RawFrame.wire ⟨t, d⟩)
  rcases hr : w.sink.writeFully (RawFrame.wire ⟨t, d⟩) with ⟨_ | e, s⟩
  · rw [hr] at hd
    rw [send_of_writeFully_error h₁ h₂ hr]
    refine ⟨hd, by simp, fun e' w' h => by cases h; rfl, fun hw hf => ?_⟩
    rcases hd.exists_failure (by simp) with ⟨o, ho, hbad⟩ | ⟨k, hk, hbad⟩
    · exact absurd (hw o ho) hbad
    · simp [hf k hk] at hbad
  · rw [hr] at hd
    rw [send_of_writeFully_ok h₁ h₂ hr]
    exact ⟨hd, fun w' h => by cases h; rfl, fun e' w' h => by simp at h, fun _ _ => rfl⟩

/-- A sink that stalls, takes bytes in pieces and interrupts a flush still gets the whole frame. -/
theorem send_writes_frame_once_retried :
    (∀ o ∈ [WriteOutcome.failure .wouldBlock, .take 2, .failure .interrupted], o.failure? = none) ∧
    (∀ k ∈ [IoKind.interrupted], k.isRetriedOnWrite) ∧
    (Writer.send
      { sink := { writeScript := [.failure .wouldBlock, .take 2, .failure .interrupted],
                  flushScript := [.interrupted], maxChunk := 3 } }
      0x08 [0x01, 0x44, 0x30]).1 = .ok () := by
  obtain ⟨-, hfits⟩ := send_writes_frame_once
    { sink := { writeScript := [.failure .wouldBlock, .take 2, .failure .interrupted],
                flushScript := [.interrupted], maxChunk := 3 } }
    0x08 [0x01, 0x44, 0x30]
  obtain ⟨_, -, -, -, -, hok⟩ := hfits (by decide) (by decide)
  exact ⟨by decide, by decide, hok (by decide) (by decide)⟩

end Writer

end Frame
end RadioLink
