import RadioLink.Proofs.Frame.Progress
/-! The error that explains the bytes left when a stream ends. The walk of `eofError` over the
unfinished frame agrees with reading its wire form back (`countLogical_eq`).
Main statement: `eofError_classifies`. -/
namespace RadioLink
namespace Frame

/-! ### The escape walk -/

/-- The walk of `eofError` counts what `unstuffAux` recovers and stops where it fails. -/
theorem countLogical_eq (w acc : Bytes) :
    countLogical w acc.length = match unstuffAux w acc with
      | .ok l => .ok l.length
      | .error e => .error e.offset := by
  fun_induction unstuffAux w acc with
  | case1 acc => simp [countLogical]
  | case2 b acc hb => simp [countLogical,hb]
  | case3 b acc hb c rest ih => simpa [countLogical,hb] using ih
  | case4 b rest acc hb ih =>
    unfold countLogical
    rw [if_neg hb]
    simpa using ih

theorem countLogical_of_unstuff_ok {w l : Bytes} (h : unstuff w = .ok l) :
    countLogical w 0 = .ok l.length := by
  have hw := countLogical_eq w []
  rw [show unstuffAux w [] = .ok l from h] at hw
  exact hw

theorem countLogical_of_unstuff_error {w : Bytes} {e : DanglingEscape} (h : unstuff w = .error e) :
    countLogical w 0 = .error e.offset := by
  have hw := countLogical_eq w []
  rw [show unstuffAux w [] = .error e from h] at hw
  exact hw

theorem unstuffAux_of_takeLogical_none {n : Nat} {w acc : Bytes} (h : takeLogical n w acc = none) :
    (∀ l, unstuffAux w acc = .ok l → l.length < n + acc.length) ∧
      ∀ e, unstuffAux w acc = .error e → e.offset < n + acc.length := by
  fun_induction takeLogical n w acc with
  | case1 => simp at h
  | case2 n acc => simp [unstuffAux]
  | case3 n b acc hb => simp [unstuffAux,hb]
  | case4 n b acc hb c wire ih =>
    obtain ⟨hok,herr⟩ := ih h
    have hstep : unstuffAux (b :: c :: wire) acc = unstuffAux wire (Bytes.flip c :: acc) := by
      simp [unstuffAux,hb]
    rw [hstep]
    simp only [List.length_cons] at hok herr
    exact ⟨fun l hl => by have := hok l hl; omega,fun e he => by have := herr e he; omega⟩
  | case5 n b wire acc hb ih =>
    obtain ⟨hok,herr⟩ := ih h
    have hstep : unstuffAux (b :: wire) acc = unstuffAux wire (b :: acc) := by
      conv => lhs; unfold unstuffAux
      rw [if_neg hb]
    rw [hstep]
    simp only [List.length_cons] at hok herr
    exact ⟨fun l hl => by have := hok l hl; omega,fun e he => by have := herr e he; omega⟩

/-! ### Where the unfinished frame starts -/

theorem eofError_skipToStart (s : Bytes) : eofError (skipToStart s).2 = eofError s := by
  simp only [eofError,skipToStart_skipToStart]

theorem eofError_eq_closed_iff (s : Bytes) : eofError s = .closed ↔ startMarker ∉ s := by
  refine ⟨fun h hm => ?_,eofError_noise⟩
  obtain ⟨n,hn,hsplit,-⟩ := skipToStart_split s
  have hkept : (skipToStart s).2 ≠ [] := by
    intro hnil
    rw [hnil,List.append_nil] at hsplit
    exact hn (hsplit ▸ hm)
  rw [← eofError_skipToStart] at h
  exact Incremental.eofError_ne_closed (skipToStart_skipToStart s ▸ rfl) hkept h

theorem eofError_marker_short {t : Bytes} (h : t.length < 2) :
    eofError (startMarker :: t) = .truncated 0 0 := by
  match t, h with
  | [], _ => simp [eofError]
  | [_], _ => simp [eofError]

theorem eofError_marker_header (hi lo : UInt8) (w : Bytes) :
    eofError (startMarker :: hi :: lo :: w) =
      match unstuff w with
      | .error e => .truncatedEscape e.offset
      | .ok l => .truncated (min l.length (hi.toNat * 256 + lo.toNat)) (hi.toNat * 256 + lo.toNat) := by
  cases h : unstuff w with
  | error e => simp [eofError,countLogical_of_unstuff_error h]
  | ok l => simp [eofError,countLogical_of_unstuff_ok h]

/-! ### What a waiting read keeps -/

theorem eofError_of_pending {m : Nat} {b : Bytes} (h : (decode m b).result = .pending) :
    (eofError (decode m b).rest = .closed ↔ (decode m b).rest = []) ∧
    ∀ hi lo w, (decode m b).rest = startMarker :: hi :: lo :: w →
      (∀ l, unstuff w = .ok l → l.length ≤ hi.toNat * 256 + lo.toNat ∧
        eofError (decode m b).rest = .truncated l.length (hi.toNat * 256 + lo.toNat)) ∧
      ∀ e, unstuff w = .error e → e.offset ≤ hi.toNat * 256 + lo.toNat := by
  have hrest := decode_rest_of_pending h
  refine ⟨⟨fun hc => ?_,fun hnil => by rw [hnil]; rfl⟩,fun hi lo w hw => ?_⟩
  · by_contra hne
    exact Incremental.eofError_ne_closed (by rw [hrest,skipToStart_skipToStart]) hne hc
  · have hp : (decodeAtStart m (startMarker :: hi :: lo :: w)).result = .pending := by
      rw [← hw,hrest]
      exact h
    obtain ⟨-,-,ht⟩ := decodeAtStart_pending_header hp
    obtain ⟨hok,herr⟩ := unstuffAux_of_takeLogical_none ht
    refine ⟨fun l hl => ?_,fun e he => ?_⟩
    · have hlt := hok l hl
      simp only [List.length_nil,Nat.add_zero] at hlt
      refine ⟨by omega,?_⟩
      rw [hw,eofError_marker_header,hl]
      simp only [Nat.min_eq_left (show l.length ≤ hi.toNat * 256 + lo.toNat by omega)]
    · have hlt := herr e he
      simp only [List.length_nil,Nat.add_zero] at hlt
      omega

/-- The error at the end of a stream: a closed connection without a marker, else the frame cut off. -/
theorem eofError_classifies (s : Bytes) :
    (eofError s = .closed ↔ startMarker ∉ s) ∧
    (∀ n t, startMarker ∉ n → s = n ++ t → t.head? = some startMarker →
      (t.length < 3 → eofError s = .truncated 0 0) ∧
      ∀ hi lo w, t = startMarker :: hi :: lo :: w →
        (∀ k, eofError s = .truncatedEscape k ↔ unstuff w = .error ⟨k⟩) ∧
        ∀ l, unstuff w = .ok l →
          eofError s = .truncated (min l.length (hi.toNat * 256 + lo.toNat)) (hi.toNat * 256 + lo.toNat)) ∧
    ∀ m b, (decode m b).result = .pending → (decode m b).rest = s →
      (eofError s = .closed ↔ s = []) ∧
      ∀ hi lo w, s = startMarker :: hi :: lo :: w →
        (∀ l, unstuff w = .ok l → l.length ≤ hi.toNat * 256 + lo.toNat ∧
          eofError s = .truncated l.length (hi.toNat * 256 + lo.toNat)) ∧
        ∀ k, unstuff w = .error ⟨k⟩ → k ≤ hi.toNat * 256 + lo.toNat := by
  refine ⟨eofError_eq_closed_iff s,fun n t hn hs ht => ?_,fun m b h hb => ?_⟩
  · have heq : eofError s = eofError t := by rw [hs,eofError_noise_append hn]
    obtain ⟨t',rfl⟩ : ∃ t', t = startMarker :: t' := by
      cases t with
      | nil => simp at ht
      | cons x t' =>
        simp only [List.head?_cons,Option.some.injEq] at ht
        exact ⟨t',by rw [ht]⟩
    refine ⟨fun hlen => ?_,fun hi lo w hw => ?_⟩
    · rw [heq]
      exact eofError_marker_short (by simp only [List.length_cons] at hlen; omega)
    · rw [heq,hw,eofError_marker_header]
      refine ⟨fun k => ?_,fun l hl => by rw [hl]⟩
      cases hu : unstuff w with
      | error e =>
        obtain ⟨o⟩ := e
        simp [eq_comm]
      | ok l => simp
  · subst hb
    obtain ⟨hc,hh⟩ := eofError_of_pending h
    refine ⟨hc,fun hi lo w hw => ⟨(hh hi lo w hw).1,fun k hk => (hh hi lo w hw).2 ⟨k⟩ hk⟩⟩

end Frame
end RadioLink
