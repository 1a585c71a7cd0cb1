import RadioLink.Proofs.Frame.Reader
/-! Recovery after a bad frame: a failed checksum and a zero length each cost one read. A length
over the limit consumes only its marker; the rest of the frame is then noise unless the length
field holds a marker, where reading starts over (`readStream_tooLarge_marker`). -/
namespace RadioLink
namespace Frame

/-! ### One byte changed on the wire -/

theorem stuff_split {x : Bytes} {i : Nat} (h : i < (stuff x).length) :
    ∃ x₁ a x₂ j, x = x₁ ++ a :: x₂ ∧ j < (stuffByte a).length ∧ i = (stuff x₁).length + j := by
  induction x generalizing i with
  | nil => simp at h
  | cons a x ih =>
    by_cases hi : i < (stuffByte a).length
    · exact ⟨[],a,x,i,rfl,hi,by simp⟩
    · have hrest : i - (stuffByte a).length < (stuff x).length := by
        simp only [stuff_cons,List.length_append] at h
        omega
      obtain ⟨x₁,b,x₂,j,rfl,hj,hij⟩ := ih hrest
      refine ⟨a :: x₁,b,x₂,j,rfl,hj,?_⟩
      simp only [stuff_cons,List.length_append]
      omega

theorem takeLogical_stuffByte_set {a b : UInt8} {j : Nat} (hj : j < (stuffByte a).length)
    (hold : (stuffByte a)[j]? ≠ some escapeByte) (hb : b ≠ escapeByte)
    (hne : (stuffByte a)[j]? ≠ some b) :
    ∃ a', a' ≠ a ∧ ∀ (n : Nat) (w acc : Bytes),
      takeLogical (n + 1) ((stuffByte a).set j b ++ w) acc = takeLogical n w (a' :: acc) := by
  by_cases hs : isSpecial a
  · have hj1 : j = 1 := by
      have hj2 : j < 2 := by simpa [stuffByte,hs] using hj
      cases j with
      | zero => exact absurd (by simp [stuffByte,hs]) hold
      | succ j => omega
    subst hj1
    refine ⟨Bytes.flip b,?_,?_⟩
    · rintro rfl
      simp [stuffByte,hs] at hne
    · intro n w acc
      simp [stuffByte,hs,takeLogical,escapeByte]
  · have hj0 : j = 0 := by simpa [stuffByte,hs] using hj
    subst hj0
    have hesc : (b == escapeByte) = false := beq_false_of_ne hb
    refine ⟨b,?_,?_⟩
    · rintro rfl
      simp [stuffByte,hs] at hne
    · intro n w acc
      simp [stuffByte,hs,takeLogical,hesc]

theorem takeLogical_stuff_set {x : Bytes} {i : Nat} {b : UInt8} (hi : i < (stuff x).length)
    (hold : (stuff x)[i]? ≠ some escapeByte) (hb : b ≠ escapeByte)
    (hne : (stuff x)[i]? ≠ some b) :
    ∃ x₁ a a' x₂, x = x₁ ++ a :: x₂ ∧ a' ≠ a ∧ ∀ w : Bytes,
      takeLogical x.length ((stuff x).set i b ++ w) [] = some (x₁ ++ a' :: x₂,w) := by
  obtain ⟨x₁,a,x₂,j,rfl,hj,rfl⟩ := stuff_split hi
  have hsplit : stuff (x₁ ++ a :: x₂) = stuff x₁ ++ (stuffByte a ++ stuff x₂) := by simp
  have hget : (stuff (x₁ ++ a :: x₂))[(stuff x₁).length + j]? = (stuffByte a)[j]? := by
    rw [hsplit,List.getElem?_append_right (by omega),Nat.add_sub_cancel_left,
      List.getElem?_append_left hj]
  have hset : (stuff (x₁ ++ a :: x₂)).set ((stuff x₁).length + j) b =
      stuff x₁ ++ ((stuffByte a).set j b ++ stuff x₂) := by
    rw [hsplit,List.set_append_right _ _ (by omega),Nat.add_sub_cancel_left,
      List.set_append_left _ _ hj]
  rw [hget] at hold hne
  obtain ⟨a',ha',hread⟩ := takeLogical_stuffByte_set hj hold hb hne
  refine ⟨x₁,a,a',x₂,rfl,ha',fun w => ?_⟩
  have hlen : (x₁ ++ a :: x₂).length = x₁.length + (x₂.length + 1) := by
    simp only [List.length_append,List.length_cons]
  rw [hset,hlen,List.append_assoc,List.append_assoc,takeLogical_stuff_append_add,hread,
    takeLogical_stuff_append]
  simp

/-! ### The checksum catches it -/

theorem byteSum_replace (x₁ x₂ : Bytes) (a a' : UInt8) :
    byteSum (x₁ ++ a' :: x₂) = byteSum (x₁ ++ a :: x₂) - a + a' := by
  simp only [byteSum_append,byteSum_cons]
  grind

theorem verify_iff_byteSum (c : Bytes) (x : UInt8) : verify c x = true ↔ byteSum (c ++ [x]) = 0xFF := by
  simp [verify,byteSum_append]

def OneByteApart (x y : Bytes) : Prop :=
  ∃ x₁ a a' x₂, x = x₁ ++ a :: x₂ ∧ y = x₁ ++ a' :: x₂ ∧ a' ≠ a

/-- The checksum catches any one byte changed among the bytes it covers and itself. -/
theorem verify_eq_false_of_oneByteApart {c c' : Bytes} {x x' : UInt8} (hv : verify c x = true)
    (h : OneByteApart (c ++ [x]) (c' ++ [x'])) : verify c' x' = false := by
  obtain ⟨x₁,a,a',x₂,hx,hx',ha⟩ := h
  rw [verify_iff_byteSum,hx] at hv
  rw [Bool.eq_false_iff]
  intro hv'
  rw [verify_iff_byteSum,hx',byteSum_replace x₁ x₂ a,hv] at hv'
  exact ha (by grind)

theorem decode_wire_set {m : Nat} {f : RawFrame} (hf : f.len ≤ maxLength) (hm : f.len ≤ m)
    {i : Nat} {b : UInt8} (hi : 3 ≤ i) (hlt : i < f.wire.length)
    (hold : f.wire[i]? ≠ some escapeByte) (hb : b ≠ escapeByte) (hne : f.wire[i]? ≠ some b) :
    ∃ c r, unstuff ((f.wire.set i b).drop 3) = .ok (c ++ [r]) ∧ c.length = f.len ∧
      OneByteApart (f.kind :: f.data ++ [f.checksum]) (c ++ [r]) ∧
      ∀ s, decode m (f.wire.set i b ++ s) = ⟨.fault (.checksumMismatch (checksum c) r),s⟩ := by
  obtain ⟨x,hx⟩ : ∃ x, x = f.kind :: f.data ++ [Frame.checksum (f.kind :: f.data)] := ⟨_,rfl⟩
  have hhdr : (startMarker :: Bytes.ofNatBE 2 f.len).length = 3 := by simp [ofNatBE_two]
  have hwire : f.wire = (startMarker :: Bytes.ofNatBE 2 f.len) ++ stuff x := by
    simp [hx,RawFrame.wire_eq]
  have hi' : i - 3 < (stuff x).length := by
    rw [hwire,List.length_append,hhdr] at hlt
    omega
  have hget : f.wire[i]? = (stuff x)[i - 3]? := by
    rw [hwire,List.getElem?_append_right (by omega),hhdr]
  have hset : f.wire.set i b = (startMarker :: Bytes.ofNatBE 2 f.len) ++ (stuff x).set (i - 3) b := by
    rw [hwire,List.set_append_right _ _ (by omega),hhdr]
  rw [hget] at hold hne
  obtain ⟨x₁,a,a',x₂,hsplit,ha',hread⟩ := takeLogical_stuff_set hi' hold hb hne
  have hlen : (x₁ ++ a' :: x₂).length = f.len + 1 := by
    have h : x.length = (x₁ ++ a :: x₂).length := congrArg List.length hsplit
    simp only [hx,List.length_append,List.length_cons,List.length_nil,RawFrame.len] at h ⊢
    omega
  obtain ⟨c,r,hcr⟩ : ∃ c r, x₁ ++ a' :: x₂ = c ++ [r] := by
    rcases List.eq_nil_or_concat (x₁ ++ a' :: x₂) with h | ⟨c,r,h⟩
    · simp at h
    · exact ⟨c,r,by simpa using h⟩
  have hc : c.length = f.len := by
    have h := congrArg List.length hcr
    rw [hlen,List.length_append,List.length_singleton] at h
    omega
  have hapart : OneByteApart (f.kind :: f.data ++ [f.checksum]) (c ++ [r]) := by
    refine ⟨x₁,a,a',x₂,?_,hcr.symm,ha'⟩
    rw [RawFrame.checksum_eq,← hx]
    exact hsplit
  have hbad : verify c r = false := by
    refine verify_eq_false_of_oneByteApart (verify_checksum (f.kind :: f.data)) ?_
    simpa [RawFrame.checksum_eq] using hapart
  refine ⟨c,r,?_,hc,hapart,fun s => ?_⟩
  · have ht := hread []
    rw [List.append_nil,hcr] at ht
    rw [hset,List.drop_left' hhdr]
    exact unstuffAux_of_takeLogical ht
  · have ht := hread s
    have hcne : c ≠ [] := by
      intro h
      simp [h,RawFrame.len] at hc
    have hxlen : x.length = c.length + 1 := by
      simp only [hx,List.length_append,List.length_cons,List.length_nil,hc,RawFrame.len]
    rw [hxlen,hcr] at ht
    rw [hset,List.append_assoc,← hc,decode_length_field hcne (hc ▸ hf) (hc ▸ hm) ht,
      if_neg (by simp [hbad])]

/-! ### Each bad frame costs one read -/

/-- Reading `p` ahead of any stream `s` gives `x`, then the reads of `s`, with `extra` more noise. -/
structure ResumesAfter (m : Nat) (p : Bytes) (x : Except FrameError RawFrame) (extra : Nat) :
    Prop where
  stream : ∀ (s : Bytes) (k base : Nat),
    readStream m (k + 1) (p ++ s) base = (x,base) :: readStream m k s (base + extra)
  reader : ∀ (s : Bytes) (k : Nat) (chunks : List Bytes), (∀ c ∈ chunks, c ≠ []) →
    chunks.flatten = p ++ s →
    (Reader.reads (k + 1) { source := chunks.map .bytes, maxFrameLen := m }).map
        (fun q => (q.1,q.2.skipped)) = (x,0) :: readStream m k s extra

theorem ResumesAfter.of_stream {m : Nat} {p : Bytes} {x : Except FrameError RawFrame}
    {extra : Nat}
    (h : ∀ (s : Bytes) (k base : Nat),
      readStream m (k + 1) (p ++ s) base = (x,base) :: readStream m k s (base + extra)) :
    ResumesAfter m p x extra where
  stream := h
  reader := by
    intro s k chunks hne hflat
    rw [reads_of_chunks (k + 1) m hne,hflat,h s k 0,Nat.zero_add]

theorem ResumesAfter.of_fault {m : Nat} {w : Bytes} {e : FrameError}
    (h : ∀ s, decode m (startMarker :: w ++ s) = ⟨.fault e,s⟩) :
    ResumesAfter m (startMarker :: w) (.error e) 0 :=
  ResumesAfter.of_stream fun s k base => by
    rw [List.cons_append,readStream_marker_fault (by simpa using h s) k base,Nat.add_zero]

theorem readStream_wire_tooLarge {m : Nat} {f : RawFrame} (hf : f.len ≤ maxLength)
    (hm : m < f.len) (s : Bytes) (k base : Nat) :
    readStream m (k + 1) (f.wire ++ s) base =
      (.error (.tooLarge f.len m),base) :: readStream m k (f.wire.tail ++ s) base := by
  have hw : f.wire = startMarker :: f.wire.tail := by simp [RawFrame.wire]
  have hd : decode m (startMarker :: (f.wire.tail ++ s)) =
      ⟨.fault (.tooLarge f.len m),f.wire.tail ++ s⟩ := by
    rw [← List.cons_append,← hw]
    exact decode_wire_tooLarge hf hm s
  rw [hw,List.cons_append,readStream_marker_fault hd,List.tail_cons]

/-- An oversized frame with no marker in its length field costs one read, the rest noise. -/
theorem ResumesAfter.of_tooLarge {m : Nat} {f : RawFrame} (hf : f.len ≤ maxLength)
    (hm : m < f.len) (hfield : startMarker ∉ Bytes.ofNatBE 2 f.len) :
    ResumesAfter m f.wire (.error (.tooLarge f.len m)) (f.wire.length - 1) := by
  -- behind the marker: the length field, then the stuffed part, which hides every marker
  have htail : startMarker ∉ f.wire.tail := by
    simp only [RawFrame.wire,List.cons_append,List.tail_cons,List.mem_append,not_or]
    exact ⟨⟨⟨hfield,marker_not_mem_stuff _⟩,marker_not_mem_stuff _⟩,marker_not_mem_stuff _⟩
  refine ResumesAfter.of_stream fun s k base => ?_
  rw [readStream_wire_tooLarge hf hm,readStream_noise_append htail,List.length_tail]

/-- An oversized frame with a marker in its length field is read again from that marker. -/
theorem readStream_tooLarge_marker {m : Nat} {f : RawFrame} (hf : f.len ≤ maxLength)
    (hm : m < f.len) (hfield : startMarker ∈ Bytes.ofNatBE 2 f.len) (s : Bytes) (k base : Nat) :
    let n := (Bytes.ofNatBE 2 f.len).idxOf startMarker
    (f.wire.drop (n + 1)).head? = some startMarker ∧
      readStream m (k + 1) (f.wire ++ s) base =
        (.error (.tooLarge f.len m),base) :: readStream m k (f.wire.drop (n + 1) ++ s) (base + n) := by
  intro n
  obtain ⟨hi,lo,hfl⟩ : ∃ hi lo, Bytes.ofNatBE 2 f.len = [hi,lo] := ⟨_,_,ofNatBE_two f.len⟩
  have hw : f.wire = startMarker :: hi :: lo :: (stuff [f.kind] ++ stuff f.data ++ stuff [f.checksum]) := by
    simp [RawFrame.wire,hfl]
  rw [readStream_wire_tooLarge hf hm]
  simp only [n,hfl] at hfield ⊢
  rw [hw]
  by_cases hh : hi = startMarker
  · subst hh
    simp
  · have hl : lo = startMarker := by
      simp only [List.mem_cons,List.not_mem_nil,or_false] at hfield
      exact (hfield.resolve_left (Ne.symm hh)).symm
    subst hl
    have hn : startMarker ∉ [hi] := by simpa using Ne.symm hh
    simp [List.idxOf_cons_ne _ hh]
    simpa using readStream_noise_append hn m k
      (startMarker :: (stuff [f.kind] ++ stuff f.data ++ stuff [f.checksum]) ++ s) base

/-- A bad frame costs one read, and the reads after it are those of what follows, however cut. -/
theorem bad_frame_costs_one_read :
    (∀ (m : Nat) (t : UInt8) (d e : Bytes) (i : Nat) (b : UInt8), encode t d = .ok e →
      d.length + 1 ≤ m → 3 ≤ i → i < e.length → e[i]? ≠ some escapeByte → b ≠ escapeByte →
      e[i]? ≠ some b →
      ∃ c r, unstuff ((e.set i b).drop 3) = .ok (c ++ [r]) ∧ c.length = d.length + 1 ∧
        OneByteApart (t :: d ++ [checksum (t :: d)]) (c ++ [r]) ∧
        ResumesAfter m (e.set i b) (.error (.checksumMismatch (checksum c) r)) 0) ∧
    (∀ m : Nat, ResumesAfter m [startMarker,0x00,0x00] (.error .emptyFrame) 0) ∧
    (∀ (m : Nat) (t : UInt8) (d e : Bytes), encode t d = .ok e → m < d.length + 1 →
      startMarker ∉ Bytes.ofNatBE 2 (d.length + 1) →
      ResumesAfter m e (.error (.tooLarge (d.length + 1) m)) (e.length - 1)) := by
  refine ⟨?_,?_,?_⟩
  · intro m t d e i b he hm hi hlt hold hb hne
    obtain ⟨hfit,rfl⟩ := encode_eq_ok_iff.mp he
    obtain ⟨c,r,hun,hc,hapart,hdec⟩ :=
      decode_wire_set (show RawFrame.len ⟨t,d⟩ ≤ maxLength from hfit) hm hi hlt hold hb hne
    refine ⟨c,r,hun,hc,?_,?_⟩
    · simpa [RawFrame.checksum_eq] using hapart
    · have hw : (RawFrame.wire ⟨t,d⟩).set i b = startMarker :: ((RawFrame.wire ⟨t,d⟩).set i b).tail := by
        obtain ⟨j,rfl⟩ : ∃ j, i = j + 1 := ⟨i - 1,by omega⟩
        simp [RawFrame.wire]
      rw [hw]
      refine ResumesAfter.of_fault fun s => ?_
      rw [← hw]
      exact hdec s
  · intro m
    exact ResumesAfter.of_fault (decode_empty_header m)
  · intro m t d e he hm hfield
    obtain ⟨hfit,rfl⟩ := encode_eq_ok_iff.mp he
    exact ResumesAfter.of_tooLarge (show RawFrame.len ⟨t,d⟩ ≤ maxLength from hfit) hm hfield

/-- A changed body byte costs one read; under a limit of one the frame is refused on its length. -/
theorem bad_frame_costs_one_read_changed_body :
    encode 0x8A [0x02] = .ok [0x7E,0x00,0x02,0x8A,0x02,0x73] ∧
      (∃ c r, unstuff (([0x7E,0x00,0x02,0x8A,0x02,0x73] : Bytes).set 4 0x03 |>.drop 3) =
          .ok (c ++ [r]) ∧ c.length = 2 ∧ OneByteApart [0x8A,0x02,checksum [0x8A,0x02]] (c ++ [r]) ∧
        ResumesAfter maxLength (([0x7E,0x00,0x02,0x8A,0x02,0x73] : Bytes).set 4 0x03)
          (.error (.checksumMismatch (checksum c) r)) 0) ∧
      ResumesAfter 1 [0x7E,0x00,0x02,0x8A,0x02,0x73] (.error (.tooLarge 2 1)) 5 :=
  ⟨by decide,
    bad_frame_costs_one_read.1 maxLength 0x8A [0x02] [0x7E,0x00,0x02,0x8A,0x02,0x73] 4 0x03
      (by decide) (by decide) (by decide) (by decide) (by decide) (by decide) (by decide),
    bad_frame_costs_one_read.2.2 1 0x8A [0x02] [0x7E,0x00,0x02,0x8A,0x02,0x73]
      (by decide) (by decide) (by decide)⟩

/-- An oversized frame of length `0x007E` costs more than one read: its length's marker reframes. -/
theorem oversized_length_marker_reframes :
    let e : Bytes := [0x7E,0x00,0x7E] ++ List.replicate 126 0x00 ++ [0xFF]
    encode 0x00 (List.replicate 125 0x00) = .ok e ∧ startMarker ∈ Bytes.ofNatBE 2 126 ∧
      readStream 4 2 e 0 = [(.error (.tooLarge 126 4),0),(.error .emptyFrame,1)] ∧
      ¬ ResumesAfter 4 e (.error (.tooLarge 126 4)) (e.length - 1) := by
  intro e
  have hrun : readStream 4 2 e 0 = [(.error (.tooLarge 126 4),0),(.error .emptyFrame,1)] := by
    decide +kernel
  refine ⟨by decide +kernel,by decide,hrun,fun h => ?_⟩
  -- one read on, the stream left would be used up, but the reader finds an empty frame
  have h₁ := h.stream [] 1 0
  rw [List.append_nil,hrun,readStream_nil] at h₁
  simp at h₁

end Frame
end RadioLink
