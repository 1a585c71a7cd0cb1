import RadioLink.Proofs.Frame.Incremental
/-! Progress of one attempt to read a frame: it waits, having dropped only the noise ahead of a
marker, or takes at least one byte and decides a result that later bytes do not change. So the
decoder's loop over faults ends (`Incremental.nextWith_eq_next`).
Main statement: `decode_progress`. -/
namespace RadioLink
namespace Frame

theorem decode_consumes {m : Nat} {b : Bytes} (h : (decode m b).result ≠ .pending) :
    ∃ p, p ≠ [] ∧ b = p ++ (decode m b).rest := by
  obtain ⟨n,-,hn,-⟩ := skipToStart_split b
  obtain ⟨p,hp,hsplit⟩ := decodeAtStart_consumes h
  refine ⟨n ++ p,by simp [hp],?_⟩
  calc b = n ++ (skipToStart b).2 := hn
    _ = n ++ (p ++ (decode m b).rest) := congrArg (n ++ ·) hsplit
    _ = n ++ p ++ (decode m b).rest := by rw [List.append_assoc]

theorem decode_pending_split {m : Nat} {b : Bytes} (h : (decode m b).result = .pending) :
    ∃ n, startMarker ∉ n ∧ b = n ++ (decode m b).rest ∧
      ((decode m b).rest = [] ∨ (decode m b).rest.head? = some startMarker) := by
  obtain ⟨n,hn,hsplit,-⟩ := skipToStart_split b
  rw [decode_rest_of_pending h]
  refine ⟨n,hn,hsplit,?_⟩
  cases hr : (skipToStart b).2 with
  | nil => exact .inl rfl
  | cons x r => exact .inr (by rw [skipToStart_head hr]; rfl)

theorem decode_append_of_pending {m : Nat} {b : Bytes} (h : (decode m b).result = .pending)
    (x : Bytes) : decode m (b ++ x) = decode m ((decode m b).rest ++ x) := by
  obtain ⟨n,hn,hsplit,-⟩ := decode_pending_split h
  calc decode m (b ++ x) = decode m (n ++ ((decode m b).rest ++ x)) := by
        rw [← List.append_assoc,← hsplit]
    _ = decode m ((decode m b).rest ++ x) := decode_noise_append hn m _

theorem decode_fault_cases {m : Nat} {b : Bytes} {e : FrameError} (h : (decode m b).result = .fault e) :
    (∃ ex ac, e = .checksumMismatch ex ac) ∨ e = .emptyFrame ∨ ∃ size, m < size ∧ e = .tooLarge size m :=
  decodeAtStart_fault_cases h

namespace Incremental

theorem nextWith_fuel_eq {k k' : Nat} {d : Incremental} (hk : d.buffer.length < k)
    (hk' : d.buffer.length < k') : nextWith k d = nextWith k' d := by
  induction k generalizing k' d with
  | zero => omega
  | succ k ih =>
    obtain ⟨k',rfl⟩ : ∃ j, k' = j + 1 := ⟨k' - 1,by omega⟩
    cases hd : (decode d.maxFrameLen d.buffer).result with
    | pending => simp [nextWith,hd]
    | frame f => simp [nextWith,hd]
    | fault e =>
      -- a fault consumes bytes, so what is left fits the fuel both runs have left
      have hdec : (decode d.maxFrameLen d.buffer).result ≠ .pending := by
        rw [hd]
        exact Decoded.noConfusion
      have hlt := decode_rest_length_lt hdec
      by_cases he : e.isRecoverable
      · simp only [nextWith,hd,he,if_true]
        exact ih (by simp only; omega) (by simp only; omega)
      · simp [nextWith,hd,he]

theorem nextWith_eq_next {fuel : Nat} {d : Incremental} (h : d.buffer.length < fuel) :
    nextWith fuel d = d.next :=
  nextWith_fuel_eq h (Nat.lt_succ_self _)

end Incremental

/-- Every attempt to read a frame either waits or takes a nonempty run of bytes and decides it. -/
theorem decode_progress (m : Nat) (b : Bytes) :
    (∃ p, b = p ++ (decode m b).rest ∧
      (((decode m b).result = .pending ∧ startMarker ∉ p ∧
          ((decode m b).rest = [] ∨ (decode m b).rest.head? = some startMarker) ∧
          ∀ x, decode m (b ++ x) = decode m ((decode m b).rest ++ x)) ∨
        (p ≠ [] ∧
          ((∃ f, (decode m b).result = .frame f) ∨
            ∃ e, (decode m b).result = .fault e ∧ e.isRecoverable = true ∧
              ((∃ ex ac, e = .checksumMismatch ex ac) ∨ e = .emptyFrame ∨
                ∃ size, m < size ∧ e = .tooLarge size m)) ∧
          ∀ x, decode m (b ++ x) = ⟨(decode m b).result,(decode m b).rest ++ x⟩))) ∧
    ∀ discarded fuel, b.length < fuel →
      Incremental.nextWith fuel ⟨b,discarded,m⟩ = Incremental.next ⟨b,discarded,m⟩ := by
  refine ⟨?_,fun _ _ h => Incremental.nextWith_eq_next h⟩
  cases hd : (decode m b).result with
  | pending =>
    obtain ⟨n,hn,hsplit,hhead⟩ := decode_pending_split hd
    exact ⟨n,hsplit,.inl ⟨rfl,hn,hhead,decode_append_of_pending hd⟩⟩
  | frame f =>
    have hdec : (decode m b).result ≠ .pending := by
      rw [hd]
      exact Decoded.noConfusion
    obtain ⟨p,hp,hsplit⟩ := decode_consumes hdec
    exact ⟨p,hsplit,.inr ⟨hp,.inl ⟨f,rfl⟩,fun x => by rw [decode_append hdec,hd]⟩⟩
  | fault e =>
    have hdec : (decode m b).result ≠ .pending := by
      rw [hd]
      exact Decoded.noConfusion
    obtain ⟨p,hp,hsplit⟩ := decode_consumes hdec
    exact ⟨p,hsplit,.inr ⟨hp,.inr ⟨e,rfl,decode_fault hd,decode_fault_cases hd⟩,
      fun x => by rw [decode_append hdec,hd]⟩⟩

end Frame
end RadioLink
