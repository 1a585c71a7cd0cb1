import RadioLink.Proofs.Bytes
import RadioLink.Proofs.Response.Echo
/-! Body layouts. A reader `Reads` a layout when it fails at the layout's first fault
(`firstFault`) and otherwise consumes exactly the layout; this is kept by sequencing, choice and
repetition (`Reads.bind`, `Reads.ite`, `Reads.mapM`). -/
namespace RadioLink
namespace FieldReader

/-! ### Layouts -/

/-- One field of a body layout: its name, its width, and the fault of a value it refuses. -/
structure Field where
  what : String
  width : Nat
  refuse : Bytes → Option DecodeError

def Field.plain (what : String) (width : Nat) : Field := ⟨what,width,fun _ => none⟩

@[simp] theorem Field.width_plain (what : String) (n : Nat) : (Field.plain what n).width = n := rfl

def span (fs : List Field) : Nat := (fs.map Field.width).sum

@[simp] theorem span_nil : span [] = 0 := rfl

@[simp] theorem span_cons (f : Field) (fs : List Field) : span (f :: fs) = f.width + span fs := by
  simp [span]

@[simp] theorem span_append (fs gs : List Field) : span (fs ++ gs) = span fs + span gs := by
  simp [span]

@[simp] theorem span_replicate (n : Nat) (f : Field) : span (List.replicate n f) = n * f.width := by
  induction n with
  | zero => simp
  | succ n ih => simp [List.replicate_succ,ih,Nat.succ_mul,Nat.add_comm]

/-- The fault of a body read along a layout: the first field it ends in, else the first refused. -/
def firstFault : List Field → Bytes → Option DecodeError
  | [], _ => none
  | f :: fs, bs =>
    if bs.length < f.width then some (.truncated f.what f.width bs.length)
    else (f.refuse (bs.take f.width)).or (firstFault fs (bs.drop f.width))

@[simp] theorem firstFault_nil (bs : Bytes) : firstFault [] bs = none := rfl

theorem firstFault_append (fs gs : List Field) (bs : Bytes) :
    firstFault (fs ++ gs) bs = (firstFault fs bs).or (firstFault gs (bs.drop (span fs))) := by
  induction fs generalizing bs with
  | nil => simp
  | cons f fs ih =>
    simp only [List.cons_append,firstFault,ih,span_cons,List.drop_drop]
    split
    · rfl
    · rw [Option.or_assoc]

theorem firstFault_cons_eq_none_iff (f : Field) (fs : List Field) (bs : Bytes) :
    firstFault (f :: fs) bs = none ↔
      f.width ≤ bs.length ∧ f.refuse (bs.take f.width) = none ∧
        firstFault fs (bs.drop f.width) = none := by
  simp only [firstFault]
  split
  · simp only [reduceCtorEq,false_iff]
    omega
  · rw [Option.or_eq_none_iff]
    exact ⟨fun h => ⟨by omega,h⟩,fun h => h.2⟩

def firstMissing : List Field → Nat → Option DecodeError
  | [], _ => none
  | f :: fs, n => if n < f.width then some (.truncated f.what f.width n) else firstMissing fs (n - f.width)

theorem firstMissing_eq_none_iff (fs : List Field) (n : Nat) : firstMissing fs n = none ↔ span fs ≤ n := by
  induction fs generalizing n with
  | nil => simp [firstMissing]
  | cons f fs ih =>
    simp only [firstMissing,span_cons]
    split
    · simp only [reduceCtorEq,false_iff]
      omega
    · rw [ih]
      omega

theorem firstMissing_append_of_lt {fs : List Field} (gs : List Field) {n : Nat} (h : n < span fs) :
    firstMissing (fs ++ gs) n = firstMissing fs n := by
  induction fs generalizing n with
  | nil => simp at h
  | cons f fs ih =>
    simp only [List.cons_append,firstMissing]
    split
    · rfl
    · exact ih (by simp at h; omega)

theorem firstFault_take {fs : List Field} {full : Bytes} (h : firstFault fs full = none) (n : Nat) :
    firstFault fs (full.take n) = firstMissing fs (full.take n).length := by
  induction fs generalizing full n with
  | nil => rfl
  | cons f fs ih =>
    obtain ⟨hw,hr,hrest⟩ := (firstFault_cons_eq_none_iff f fs full).mp h
    simp only [firstFault,firstMissing]
    split
    · rfl
    · rename_i hlen
      -- the prefix holds the field whole, so it reads the value the whole body has there
      have hn : f.width ≤ n := by simp at hlen; omega
      have htake : (full.take n).take f.width = full.take f.width := by
        rw [List.take_take,Nat.min_eq_left hn]
      have hdrop : (full.take n).drop f.width = (full.drop f.width).take (n - f.width) := by
        rw [List.drop_take]
      rw [htake,hr,Option.none_or,hdrop,ih hrest]
      congr 1
      simp only [List.length_take,List.length_drop]
      omega

theorem firstFault_of_plain {fs : List Field} (hfs : ∀ f ∈ fs, ∀ v, f.refuse v = none) (bs : Bytes) :
    firstFault fs bs = firstMissing fs bs.length := by
  induction fs generalizing bs with
  | nil => rfl
  | cons f fs ih =>
    simp only [firstFault,firstMissing]
    split
    · rfl
    · rw [hfs f List.mem_cons_self,Option.none_or,
        ih (fun g hg => hfs g (List.mem_cons_of_mem f hg)),List.length_drop]

/-! ### Readers of a layout -/

variable {α β γ : Type}

/-- `x` reads a body along the layout `fs` and yields `v`, or fails with the layout's first fault. -/
def Reads (x : FieldReader α) (fs : Bytes → List Field) (v : Bytes → α) : Prop :=
  ∀ bs, x.run bs = (firstFault (fs bs) bs).elim (.ok (v bs,bs.drop (span (fs bs)))) .error

theorem run_bind (x : FieldReader α) (k : α → FieldReader β) (bs : Bytes) :
    (x >>= k).run bs = (x.run bs).bind fun p => (k p.1).run p.2 := by
  simp only [run,StateT.run,bind,StateT.bind]

theorem Reads.run_bind {x : FieldReader α} {fs : Bytes → List Field} {v : Bytes → α}
    (hx : Reads x fs v) (k : α → FieldReader β) (bs : Bytes) :
    (x >>= k).run bs = (firstFault (fs bs) bs).elim ((k (v bs)).run (bs.drop (span (fs bs)))) .error := by
  rw [FieldReader.run_bind,hx bs]
  cases firstFault (fs bs) bs <;> rfl

theorem run_bind_of_reads {x : FieldReader α} {fs : Bytes → List Field} {v : Bytes → α}
    (h : Reads x fs v) (k : α → FieldReader β) {bs : Bytes} (hf : firstFault (fs bs) bs = none) :
    (x >>= k).run bs = (k (v bs)).run (bs.drop (span (fs bs))) := by
  rw [Reads.run_bind h,hf]
  rfl

theorem Reads.bind {x : FieldReader α} {k : α → FieldReader β} {fs : Bytes → List Field}
    {v : Bytes → α} {gs : α → Bytes → List Field} {w : α → Bytes → β}
    (hx : Reads x fs v) (hk : ∀ a, Reads (k a) (gs a) (w a)) :
    Reads (x >>= k) (fun bs => fs bs ++ gs (v bs) (bs.drop (span (fs bs))))
      (fun bs => w (v bs) (bs.drop (span (fs bs)))) := by
  intro bs
  rw [hx.run_bind,firstFault_append]
  cases firstFault (fs bs) bs with
  | some e => rfl
  | none =>
    simp only [Option.elim_none,Option.none_or,span_append]
    rw [hk (v bs),List.drop_drop]

theorem Reads.pure (a : α) : Reads (Pure.pure a) (fun _ => []) (fun _ => a) := by
  intro bs
  rfl

theorem Reads.congr {x : FieldReader α} {fs fs' : Bytes → List Field} {v v' : Bytes → α}
    (h : Reads x fs v) (hfs : ∀ bs, fs bs = fs' bs)
    (hv : ∀ bs, firstFault (fs bs) bs = none → v bs = v' bs) : Reads x fs' v' := by
  intro bs
  rw [h bs,← hfs bs]
  cases hf : firstFault (fs bs) bs with
  | some e => rfl
  | none => simp [hv bs hf]

theorem Reads.bind_pure {x : FieldReader α} {fs : Bytes → List Field} {v : Bytes → α} (g : α → β)
    (hx : Reads x fs v) : Reads (x >>= fun a => Pure.pure (g a)) fs (fun bs => g (v bs)) :=
  (hx.bind fun a => Reads.pure (g a)).congr (fun _ => List.append_nil _) (fun _ _ => rfl)

theorem Reads.map {x : FieldReader α} {fs : Bytes → List Field} {v : Bytes → α} (g : α → β)
    (hx : Reads x fs v) : Reads (g <$> x) fs (fun bs => g (v bs)) := by
  intro bs
  rw [← bind_pure_comp]
  exact hx.bind_pure g bs

theorem Reads.ite {c : Prop} [Decidable c] {x y : FieldReader α} {fs gs : Bytes → List Field}
    {v w : Bytes → α} (hx : Reads x fs v) (hy : Reads y gs w) :
    Reads (if c then x else y) (fun bs => if c then fs bs else gs bs)
      (fun bs => if c then v bs else w bs) := by
  by_cases h : c
  · simpa [h] using hx
  · simpa [h] using hy

theorem ite_bind_eq {c : Prop} [Decidable c] (x y : FieldReader α) (k : α → FieldReader β) :
    (if c then x >>= k else y >>= k) = (if c then x else y) >>= k := by
  split <;> rfl

theorem Reads.mapM {f : γ → FieldReader β} {fs : List Field} {w : γ → Bytes → β}
    (hf : ∀ c, Reads (f c) (fun _ => fs) (w c)) (cs : List γ) :
    Reads (cs.mapM f) (fun _ => (List.replicate cs.length fs).flatten)
      (fun bs => cs.mapIdx fun i c => w c (bs.drop (i * span fs))) := by
  induction cs with
  | nil => exact Reads.pure []
  | cons c cs ih =>
    rw [List.mapM_cons]
    refine ((hf c).bind fun b => ih.bind fun bs => Reads.pure (b :: bs)).congr
      (fun bs => by simp [List.replicate_succ]) ?_
    intro bs _
    simp [List.mapIdx_cons,List.drop_drop,Nat.add_mul,Nat.add_comm]

/-! ### The primitive fields -/

theorem Reads.take (what : String) (n : Nat) :
    Reads (take what n) (fun _ => [.plain what n]) (·.take n) := by
  intro bs
  by_cases h : bs.length < n
  · simp [FieldReader.take,run,StateT.run,firstFault,Field.plain,h]
  · simp [FieldReader.take,run,StateT.run,firstFault,Field.plain,h]

theorem Reads.byte (what : String) : Reads (byte what) (fun _ => [.plain what 1]) (·.headD 0) := by
  unfold FieldReader.byte
  refine ((Reads.take what 1).bind_pure fun bs => bs.headD 0).congr (fun _ => rfl) fun bs _ => ?_
  cases bs <;> rfl

def Field.code (what : String) (decode : UInt8 → Option β) (fault : UInt8 → DecodeError) : Field :=
  ⟨what,1,fun v => if (decode (v.headD 0)).isSome then none else some (fault (v.headD 0))⟩

@[simp] theorem Field.width_code (what : String) (decode : UInt8 → Option β)
    (fault : UInt8 → DecodeError) : (Field.code what decode fault).width = 1 := rfl

@[simp] theorem Field.refuse_code (what : String) (decode : UInt8 → Option β)
    (fault : UInt8 → DecodeError) (v : Bytes) :
    (Field.code what decode fault).refuse v = none ↔ (decode (v.headD 0)).isSome := by
  cases h : decode (v.headD 0) <;> simp only [Field.code,h] <;> simp

theorem Reads.code [Inhabited β] (what : String) (decode : UInt8 → Option β)
    (fault : UInt8 → DecodeError) {k : UInt8 → FieldReader β}
    (hk : ∀ c, k c = match decode c with
      | some t => Pure.pure t
      | none => throw (fault c)) :
    Reads (FieldReader.byte what >>= k) (fun _ => [Field.code what decode fault])
      (fun bs => (decode (bs.headD 0)).getD default) := by
  intro bs
  match bs with
  | [] => rfl
  | a :: rest =>
    rw [FieldReader.byte,bind_assoc,FieldReader.run_bind]
    cases h : decode a <;>
      simp [FieldReader.take,run,StateT.run,Except.bind,firstFault,Field.code,h,hk] <;> rfl

theorem Reads.code_bind [Inhabited β] (what : String) (decode : UInt8 → Option β)
    (fault : UInt8 → DecodeError) {k : UInt8 → FieldReader γ} {K : β → FieldReader γ}
    {gs : β → Bytes → List Field} {w : β → Bytes → γ}
    (hk : ∀ c, k c = (match decode c with
      | some t => Pure.pure t
      | none => throw (fault c)) >>= K)
    (hK : ∀ t, Reads (K t) (gs t) (w t)) :
    Reads (FieldReader.byte what >>= k)
      (fun bs => Field.code what decode fault :: gs ((decode (bs.headD 0)).getD default) (bs.drop 1))
      (fun bs => w ((decode (bs.headD 0)).getD default) (bs.drop 1)) := by
  have hbind : (FieldReader.byte what >>= k) = (FieldReader.byte what >>= fun c =>
      match decode c with
      | some t => Pure.pure t
      | none => throw (fault c)) >>= K := by
    rw [bind_assoc]
    exact congrArg _ (funext hk)
  rw [hbind]
  exact (Reads.bind (Reads.code what decode fault fun _ => rfl) hK)

theorem Reads.number (what : String) (n : Nat) :
    Reads (number what n) (fun _ => [.plain what n]) (fun bs => Bytes.toNatBE (bs.take n)) :=
  (Reads.take what n).bind_pure Bytes.toNatBE

theorem Reads.word (what : String) :
    Reads (word what) (fun _ => [.plain what 2]) (fun bs => (Bytes.toNatBE (bs.take 2)).toUInt16) :=
  (Reads.number what 2).bind_pure Nat.toUInt16

theorem Reads.quad (what : String) :
    Reads (quad what) (fun _ => [.plain what 4]) (fun bs => (Bytes.toNatBE (bs.take 4)).toUInt32) :=
  (Reads.number what 4).bind_pure Nat.toUInt32

theorem Reads.long (what : String) :
    Reads (long what) (fun _ => [.plain what 8]) (fun bs => (Bytes.toNatBE (bs.take 8)).toUInt64) :=
  (Reads.number what 8).bind_pure Nat.toUInt64

theorem Reads.address64 (what : String) :
    Reads (address64 what) (fun _ => [.plain what 8]) (fun bs => Address64.ofBytes (bs.take 8)) :=
  (Reads.long what).bind_pure Address64.mk

theorem Reads.address16 (what : String) :
    Reads (address16 what) (fun _ => [.plain what 2]) (fun bs => Address16.ofBytes (bs.take 2)) :=
  (Reads.word what).bind_pure Address16.mk

theorem Reads.rest : Reads rest (fun bs => [.plain "rest" bs.length]) id := by
  intro bs
  simp [FieldReader.rest,run,StateT.run,firstFault,Field.plain]

/-- The identifier field: up to and with the first NUL; a body with no NUL is refused whole. -/
def Field.identifier (bs : Bytes) : Field :=
  match bs.idxOf? 0 with
  | some i => .plain "identifier" (i + 1)
  | none => ⟨"identifier",bs.length,fun _ => some .unterminatedIdentifier⟩

theorem Reads.cString :
    Reads cString (fun bs => [Field.identifier bs]) (fun bs => (bs.idxOf? 0).elim bs bs.take) := by
  intro bs
  cases h : bs.idxOf? 0 with
  | none => simp [FieldReader.cString,run,StateT.run,h,firstFault,Field.identifier]
  | some i =>
    have hi := (List.idxOf?_eq_some_iff.mp h).1
    simp [FieldReader.cString,run,StateT.run,h,firstFault,Field.identifier,Field.plain]
    rw [if_neg (by omega)]
    rfl

theorem idxOf?_terminated {s : Bytes} (hs : ∀ x ∈ s, x ≠ 0) (rest : Bytes) :
    (s ++ 0 :: rest).idxOf? 0 = some s.length := by
  rw [List.idxOf?_eq_some_iff]
  refine ⟨by simp,by simp,fun j hj => ?_⟩
  rw [List.getElem_append_left hj]
  exact hs _ (List.getElem_mem hj)

theorem Field.identifier_terminated {s : Bytes} (hs : ∀ x ∈ s, x ≠ 0) (rest : Bytes) :
    Field.identifier (s ++ 0 :: rest) = .plain "identifier" (s.length + 1) := by
  simp [Field.identifier,idxOf?_terminated hs]

theorem Field.identifier_unterminated {bs : Bytes} (h : ∀ x ∈ bs, x ≠ 0) :
    Field.identifier bs = ⟨"identifier",bs.length,fun _ => some .unterminatedIdentifier⟩ := by
  have hnone : bs.idxOf? 0 = none := List.idxOf?_eq_none_iff.mpr fun h0 => h 0 h0 rfl
  simp [Field.identifier,hnone]

/-! ### Readers that look no further than they consume -/

/-- Bytes after what `x` consumes change nothing `x` reads, and are left after it. -/
def Stable (x : FieldReader α) : Prop :=
  ∀ bs t a rest, x.run bs = .ok (a,rest) → x.run (bs ++ t) = .ok (a,rest ++ t)

theorem Stable.bind {x : FieldReader α} {k : α → FieldReader β} (hx : Stable x)
    (hk : ∀ a, Stable (k a)) : Stable (x >>= k) := by
  intro bs t b rest h
  obtain ⟨a,mid,h1,h2⟩ := run_bind_eq_ok h
  rw [FieldReader.run_bind,hx bs t a mid h1]
  exact hk a mid t b rest h2

theorem Stable.pure (a : α) : Stable (Pure.pure a : FieldReader α) := by
  intro bs t b rest h
  have hval : (Except.ok (a,bs) : Except DecodeError (α × Bytes)) = .ok (b,rest) := h
  simp only [Except.ok.injEq,Prod.mk.injEq] at hval
  rw [← hval.1,← hval.2]
  rfl

theorem Stable.throw (e : DecodeError) : Stable (throw e : FieldReader α) := by
  intro bs t b rest h
  cases h

theorem Stable.map {x : FieldReader α} (g : α → β) (hx : Stable x) : Stable (g <$> x) := by
  rw [← bind_pure_comp]
  exact hx.bind fun a => Stable.pure (g a)

theorem Stable.ite {c : Prop} [Decidable c] {x y : FieldReader α} (hx : Stable x) (hy : Stable y) :
    Stable (if c then x else y) := by
  split
  · exact hx
  · exact hy

theorem Stable.mapM {f : γ → FieldReader β} (hf : ∀ c, Stable (f c)) (cs : List γ) :
    Stable (cs.mapM f) := by
  induction cs with
  | nil => exact Stable.pure []
  | cons c cs ih =>
    rw [List.mapM_cons]
    exact (hf c).bind fun b => ih.bind fun bs => Stable.pure (b :: bs)

theorem Stable.take (what : String) (n : Nat) : Stable (take what n) := by
  intro bs t a rest h
  by_cases hl : bs.length < n
  · simp [FieldReader.take,run,StateT.run,hl] at h
  · simp only [FieldReader.take,run,StateT.run,if_neg hl,Except.ok.injEq,Prod.mk.injEq] at h
    obtain ⟨rfl,rfl⟩ := h
    have hl' : ¬(bs ++ t).length < n := by
      simp only [List.length_append]
      omega
    have hn : n ≤ bs.length := by omega
    simp only [FieldReader.take,run,StateT.run,if_neg hl',List.take_append_of_le_length hn,
      List.drop_append_of_le_length hn]

theorem Stable.byte (what : String) : Stable (byte what) :=
  (Stable.take what 1).bind fun bs => Stable.pure (bs.headD 0)

theorem Stable.word (what : String) : Stable (word what) :=
  ((Stable.take what 2).bind fun _ => Stable.pure _).bind fun _ => Stable.pure _

theorem Stable.long (what : String) : Stable (long what) :=
  ((Stable.take what 8).bind fun _ => Stable.pure _).bind fun _ => Stable.pure _

theorem Stable.address64 (what : String) : Stable (address64 what) :=
  (Stable.long what).bind fun _ => Stable.pure _

theorem Stable.address16 (what : String) : Stable (address16 what) :=
  (Stable.word what).bind fun _ => Stable.pure _

end FieldReader
end RadioLink
