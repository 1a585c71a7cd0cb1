import RadioLink.Proofs.Link.Pending
import RadioLink.Link.SyncSend
/-! Correlation of synchronous sends over every interleaving. The invariant `Inv` ties the
table to the callers' channels: every entry is the registration of exactly one caller whose
channel is open, and every open channel's registration is in the table; tokens tell the
registrations apart; an open channel has seen no frame with its identifier since it was
registered, and a filled one holds the first such frame. Every step keeps it (`Inv.step`), so
every run does (`Inv.run`), and the correlation laws follow (`sync_send_correlation`). -/
namespace RadioLink
namespace SyncSend
namespace World

variable {n : Nat} {w : World n}

@[simp] theorem setCaller_self (w : World n) (c : Fin n) (x : Caller) :
    (w.setCaller c x).callers c = x := by
  simp [setCaller]

@[simp] theorem setCaller_ne (w : World n) {c d : Fin n} (x : Caller) (h : d ≠ c) :
    (w.setCaller c x).callers d = w.callers d := by
  simp [setCaller,h]

@[simp] theorem setCaller_pending (w : World n) (c : Fin n) (x : Caller) :
    (w.setCaller c x).pending = w.pending := rfl

@[simp] theorem setCaller_dispatched (w : World n) (c : Fin n) (x : Caller) :
    (w.setCaller c x).dispatched = w.dispatched := rfl

@[simp] theorem setCaller_state (w : World n) (c : Fin n) (x : Caller) :
    (w.setCaller c x).state = w.state := rfl

/-- What every world of a run satisfies. -/
structure Inv (w : World n) : Prop where
  keys_nodup : (w.pending.entries.map (·.id)).Nodup
  entry_live : ∀ g ∈ w.pending.entries,
    ∃ c, (w.callers c).ticket = some g ∧ (w.callers c).slot = .open
  live_entry : ∀ c g, (w.callers c).ticket = some g → (w.callers c).slot = .open →
    g ∈ w.pending.entries
  ticket_id : ∀ c g, (w.callers c).ticket = some g → g.id = (w.callers c).id
  ticket_lt : ∀ c g, (w.callers c).ticket = some g → g.token < w.pending.nextToken
  ticket_inj : ∀ c c' g g', (w.callers c).ticket = some g → (w.callers c').ticket = some g' →
    g.token = g'.token → c = c'
  unused_of_none : ∀ c, (w.callers c).ticket = none → (w.callers c).slot = .unused
  ready_none : ∀ c, (w.callers c).phase = .ready → (w.callers c).ticket = none
  since_le : ∀ c, (w.callers c).since ≤ w.dispatched.length
  open_unanswered : ∀ c, (w.callers c).slot = .open →
    ∀ f ∈ w.dispatched.drop (w.callers c).since, f.frameId? ≠ some (w.callers c).id
  filled_first : ∀ c k f, (w.callers c).slot = .filled k f → w.dispatched[k]? = some f ∧
    (w.dispatched.drop (w.callers c).since).find? (·.frameId? == some (w.callers c).id) = some f
  filled_inj : ∀ c c' k f f', (w.callers c).slot = .filled k f →
    (w.callers c').slot = .filled k f' → c = c'
  ok_filled : ∀ c f, (w.callers c).phase = .leaving (.ok f) ∨ (w.callers c).phase = .done (.ok f) →
    ∃ k, (w.callers c).slot = .filled k f
  done_not_open : ∀ c out, (w.callers c).phase = .done out → (w.callers c).slot ≠ .open

/-! ### A caller replaced -/

section
variable (w : World n) (c : Fin n) {x : Caller}

theorem proj_setCaller {α : Type} (proj : Caller → α) (hx : proj x = proj (w.callers c))
    (d : Fin n) : proj ((w.setCaller c x).callers d) = proj (w.callers d) := by
  by_cases hd : d = c
  · subst hd
    simpa using hx
  · simp [hd]

theorem forall_setCaller (P : Caller → Prop) (hx : P x) (hall : ∀ d, P (w.callers d))
    (d : Fin n) : P ((w.setCaller c x).callers d) := by
  by_cases hd : d = c
  · subst hd
    simpa using hx
  · simpa [hd] using hall d

end

section
variable (w : World n) (c d : Fin n) (p : Phase)

@[simp] theorem ticket_setPhase :
    ((w.setCaller c { w.callers c with phase := p }).callers d).ticket = (w.callers d).ticket :=
  proj_setCaller w c Caller.ticket (by rfl) d

@[simp] theorem slot_setPhase :
    ((w.setCaller c { w.callers c with phase := p }).callers d).slot = (w.callers d).slot :=
  proj_setCaller w c Caller.slot (by rfl) d

@[simp] theorem since_setPhase :
    ((w.setCaller c { w.callers c with phase := p }).callers d).since = (w.callers d).since :=
  proj_setCaller w c Caller.since (by rfl) d

@[simp] theorem id_setPhase :
    ((w.setCaller c { w.callers c with phase := p }).callers d).id = (w.callers d).id :=
  proj_setCaller w c Caller.id (by rfl) d

end

theorem Inv.setPhase (h : Inv w) (c : Fin n) (p : Phase)
    (hready : p = .ready → (w.callers c).ticket = none)
    (hok : ∀ f, p = .leaving (.ok f) ∨ p = .done (.ok f) → ∃ k, (w.callers c).slot = .filled k f)
    (hdone : ∀ out, p = .done out → (w.callers c).slot ≠ .open) :
    Inv (w.setCaller c { w.callers c with phase := p }) where
  keys_nodup := h.keys_nodup
  entry_live g hg := by simpa using h.entry_live g hg
  live_entry d g := by simpa using h.live_entry d g
  ticket_id d g := by simpa using h.ticket_id d g
  ticket_lt d g := by simpa using h.ticket_lt d g
  ticket_inj d d' g g' := by simpa using h.ticket_inj d d' g g'
  unused_of_none d := by simpa using h.unused_of_none d
  ready_none := forall_setCaller w c (fun y => y.phase = .ready → y.ticket = none) hready
    h.ready_none
  since_le d := by simpa using h.since_le d
  open_unanswered d := by simpa using h.open_unanswered d
  filled_first d := by simpa using h.filled_first d
  filled_inj d d' := by simpa using h.filled_inj d d'
  ok_filled d f := forall_setCaller w c
    (fun y => y.phase = .leaving (.ok f) ∨ y.phase = .done (.ok f) → ∃ k, y.slot = .filled k f)
    (hok f) (h.ok_filled · f) d
  done_not_open d out := forall_setCaller w c (fun y => y.phase = .done out → y.slot ≠ .open)
    (hdone out) (h.done_not_open · out) d

/-! ### Registrations and channels -/

theorem Inv.ticket_of_open (h : Inv w) {c : Fin n} (hopen : (w.callers c).slot = .open) :
    ∃ g, (w.callers c).ticket = some g := by
  cases ht : (w.callers c).ticket with
  | none => simp [h.unused_of_none c ht] at hopen
  | some g => exact ⟨g,rfl⟩

theorem Inv.open_of_mem (h : Inv w) {c : Fin n} {g : Guard} (hc : (w.callers c).ticket = some g)
    (hg : g ∈ w.pending.entries) : (w.callers c).slot = .open := by
  obtain ⟨d,hd,hopen⟩ := h.entry_live g hg
  rwa [h.ticket_inj d c g g hd hc rfl] at hopen

theorem Inv.id_ne (h : Inv w) {c d : Fin n} {g e : Guard} (hc : (w.callers c).ticket = some g)
    (hg : g ∈ w.pending.entries) (hd : (w.callers d).ticket = some e)
    (he : e ∈ w.pending.entries) (hdc : d ≠ c) : e.id ≠ g.id := by
  intro hid
  have heq := PendingTable.eq_of_id_eq h.keys_nodup he hg hid
  subst heq
  exact hdc (h.ticket_inj d c e e hd hc rfl)

/-! ### A caller replaced, its registration kept -/

section
variable (h : Inv w) (c : Fin n) {x : Caller}
include h

theorem Inv.ticket_id_setCaller (hid : x.id = (w.callers c).id)
    (ht : x.ticket = (w.callers c).ticket) :
    ∀ d g, ((w.setCaller c x).callers d).ticket = some g → g.id = ((w.setCaller c x).callers d).id := by
  simpa only [proj_setCaller w c Caller.ticket ht,proj_setCaller w c Caller.id hid] using h.ticket_id

theorem Inv.ticket_lt_setCaller (ht : x.ticket = (w.callers c).ticket) :
    ∀ d g, ((w.setCaller c x).callers d).ticket = some g → g.token < w.pending.nextToken := by
  simpa only [proj_setCaller w c Caller.ticket ht] using h.ticket_lt

theorem Inv.ticket_inj_setCaller (ht : x.ticket = (w.callers c).ticket) :
    ∀ d d' g g', ((w.setCaller c x).callers d).ticket = some g →
      ((w.setCaller c x).callers d').ticket = some g' → g.token = g'.token → d = d' := by
  simpa only [proj_setCaller w c Caller.ticket ht] using h.ticket_inj

end

/-! ### A registration removed

When the entries under the identifier of `c`'s registration go, the entries left belong to open
channels of other callers, and every other open channel keeps its entry. -/

section
variable (h : Inv w) {c : Fin n} {g : Guard} (hc : (w.callers c).ticket = some g)
include h hc

theorem Inv.entry_live_removed (x : Caller) :
    ∀ e ∈ w.pending.entries.filter (·.id != g.id),
      ∃ d, ((w.setCaller c x).callers d).ticket = some e ∧
        ((w.setCaller c x).callers d).slot = .open := by
  intro e he
  simp only [List.mem_filter,bne_iff_ne,ne_eq] at he
  obtain ⟨d,hd,hopen⟩ := h.entry_live e he.1
  have hdc : d ≠ c := by
    rintro rfl
    rw [hc,Option.some.injEq] at hd
    exact he.2 (by rw [hd])
  exact ⟨d,by simpa [hdc] using hd,by simpa [hdc] using hopen⟩

theorem Inv.live_entry_removed (hg : g ∈ w.pending.entries) {x : Caller} (hx : x.slot ≠ .open) :
    ∀ d e, ((w.setCaller c x).callers d).ticket = some e →
      ((w.setCaller c x).callers d).slot = .open → e ∈ w.pending.entries.filter (·.id != g.id) := by
  intro d e
  by_cases hdc : d = c
  · subst hdc
    simp [hx]
  · simp only [setCaller_ne _ _ hdc]
    intro hd hopen
    have he := h.live_entry d e hd hopen
    simpa [h.id_ne hc hg hd he hdc] using he

end

/-! ### Registering -/

theorem Inv.registered (h : Inv w) {c : Fin n} (hc : (w.callers c).ticket = none)
    (hfree : w.pending.tokenOf (w.callers c).id = none) :
    Inv { (w.setCaller c ({ w.callers c with
            phase := .registered
            ticket := some (Guard.mk (w.callers c).id w.pending.nextToken)
            slot := .open
            since := w.dispatched.length } : Caller)) with
          pending := ({ entries := w.pending.entries ++ [Guard.mk (w.callers c).id w.pending.nextToken]
                        nextToken := w.pending.nextToken + 1 } : PendingTable) } where
  keys_nodup := PendingTable.nodup_register h.keys_nodup hfree
  entry_live g hg := by
    rcases List.mem_append.mp hg with hg | hg
    · obtain ⟨d,hd,hopen⟩ := h.entry_live g hg
      have hdc : d ≠ c := by
        rintro rfl
        simp [hc] at hd
      exact ⟨d,by simpa [hdc] using hd,by simpa [hdc] using hopen⟩
    · refine ⟨c,?_,by simp⟩
      simpa using (List.mem_singleton.mp hg).symm
  live_entry d g := by
    by_cases hdc : d = c
    · subst hdc
      simp only [setCaller_self,Option.some.injEq]
      rintro rfl -
      simp
    · simp only [setCaller_ne _ _ hdc]
      intro hd hopen
      exact List.mem_append_left _ (h.live_entry d g hd hopen)
  ticket_id d g := by
    by_cases hdc : d = c
    · subst hdc
      simp only [setCaller_self,Option.some.injEq]
      rintro rfl
      rfl
    · simpa [hdc] using h.ticket_id d g
  ticket_lt d g := by
    by_cases hdc : d = c
    · subst hdc
      simp only [setCaller_self,Option.some.injEq]
      rintro rfl
      simp
    · simp only [setCaller_ne _ _ hdc]
      intro hd
      have := h.ticket_lt d g hd
      omega
  ticket_inj d d' g g' := by
    -- the new token is above every token handed out before
    have hfresh : ∀ e g x, e ≠ c → ((w.setCaller c x).callers e).ticket = some g →
        g.token < w.pending.nextToken := by
      intro e g x he hg
      rw [setCaller_ne _ _ he] at hg
      exact h.ticket_lt e g hg
    by_cases hdc : d = c <;> by_cases hdc' : d' = c
    · intro _ _ _
      rw [hdc,hdc']
    · subst hdc
      simp only [setCaller_self,Option.some.injEq]
      rintro rfl hd' htok
      have := hfresh d' g' _ hdc' hd'
      simp at htok
      omega
    · subst hdc'
      simp only [setCaller_self,Option.some.injEq]
      intro hd hd' htok
      subst hd'
      have := hfresh d g _ hdc hd
      simp at htok
      omega
    · simp only [setCaller_ne _ _ hdc,setCaller_ne _ _ hdc']
      exact h.ticket_inj d d' g g'
  unused_of_none := forall_setCaller w c (fun y => y.ticket = none → y.slot = .unused) (by simp)
    h.unused_of_none
  ready_none := forall_setCaller w c (fun y => y.phase = .ready → y.ticket = none) (by simp)
    h.ready_none
  since_le := forall_setCaller w c (fun y => y.since ≤ w.dispatched.length) (by simp) h.since_le
  open_unanswered d := by
    by_cases hdc : d = c
    · subst hdc
      simp
    · simpa [hdc] using h.open_unanswered d
  filled_first d k f := by
    by_cases hdc : d = c
    · subst hdc
      simp
    · simpa [hdc] using h.filled_first d k f
  filled_inj d d' k f f' := by
    by_cases hdc : d = c
    · subst hdc
      simp
    · by_cases hdc' : d' = c
      · subst hdc'
        simp
      · simpa [hdc,hdc'] using h.filled_inj d d' k f f'
  ok_filled d f := forall_setCaller w c
    (fun y => y.phase = .leaving (.ok f) ∨ y.phase = .done (.ok f) → ∃ k, y.slot = .filled k f)
    (by simp) (h.ok_filled · f) d
  done_not_open d out := forall_setCaller w c (fun y => y.phase = .done out → y.slot ≠ .open)
    (by simp) (h.done_not_open · out) d

theorem Inv.register (h : Inv w) (c : Fin n) : Inv (w.register c) := by
  simp only [World.register]
  split
  · rename_i hp
    have hnone := h.ready_none c hp
    have hunused : (w.callers c).slot ≠ .open := by simp [h.unused_of_none c hnone]
    have hrefused : ∀ e, Inv (w.setCaller c { w.callers c with phase := .done (.error e) }) :=
      fun e => h.setPhase c _ (by simp) (by simp) (fun _ _ => hunused)
    split
    · exact hrefused _
    · split
      · exact hrefused _
      · rename_i g p hreg
        obtain ⟨-,hfree,rfl,rfl⟩ := PendingTable.register_eq_ok hreg
        exact h.registered hnone hfree
  · exact h

/-! ### Sending, waiting and returning -/

theorem Inv.send (h : Inv w) (c : Fin n) (failure : Option RadioError) :
    Inv (w.send c failure) := by
  simp only [World.send]
  split
  · rename_i hp
    have hleave : ∀ e, Inv (w.setCaller c { w.callers c with phase := .leaving (.error e) }) :=
      fun e => h.setPhase c _ (by simp) (by simp) (by simp)
    split
    · exact hleave _
    · split
      · exact hleave _
      · exact h.setPhase c _ (by simp) (by simp) (by simp)
  · exact h

theorem Inv.receive (h : Inv w) (c : Fin n) : Inv (w.receive c) := by
  simp only [World.receive]
  split
  · rename_i k f hp hs
    exact h.setPhase c _ (by simp) (by simpa using ⟨k,hs⟩) (by simp)
  · exact h.setPhase c _ (by simp) (by simp) (by simp)
  · exact h

theorem Inv.expire (h : Inv w) (c : Fin n) : Inv (w.expire c) := by
  simp only [World.expire]
  split
  · split
    · exact h
    · exact h.setPhase c _ (by simp) (by simp) (by simp)
  · exact h

theorem Inv.dropped (h : Inv w) {c : Fin n} {g : Guard} {out : Except RadioError Response}
    (hp : (w.callers c).phase = .leaving out) (hc : (w.callers c).ticket = some g)
    (hg : g ∈ w.pending.entries) :
    Inv { (w.setCaller c ({ w.callers c with phase := .done out, slot := .closed } : Caller)) with
          pending := { w.pending with entries := w.pending.entries.filter (·.id != g.id) } } where
  keys_nodup := PendingTable.nodup_filter h.keys_nodup _
  entry_live := h.entry_live_removed hc _
  live_entry := h.live_entry_removed hc hg (by simp)
  ticket_id := h.ticket_id_setCaller c (by rfl) (by rfl)
  ticket_lt := h.ticket_lt_setCaller c (by rfl)
  ticket_inj := h.ticket_inj_setCaller c (by rfl)
  unused_of_none := forall_setCaller w c (fun y => y.ticket = none → y.slot = .unused)
    (by simp [hc]) h.unused_of_none
  ready_none := forall_setCaller w c (fun y => y.phase = .ready → y.ticket = none) (by simp)
    h.ready_none
  since_le := forall_setCaller w c (fun y => y.since ≤ w.dispatched.length) (h.since_le c)
    h.since_le
  open_unanswered d := by
    by_cases hdc : d = c
    · subst hdc
      simp
    · simpa [hdc] using h.open_unanswered d
  filled_first d k f := by
    by_cases hdc : d = c
    · subst hdc
      simp
    · simpa [hdc] using h.filled_first d k f
  filled_inj d d' k f f' := by
    by_cases hdc : d = c
    · subst hdc
      simp
    · by_cases hdc' : d' = c
      · subst hdc'
        simp
      · simpa [hdc,hdc'] using h.filled_inj d d' k f f'
  ok_filled d f := by
    refine forall_setCaller w c
      (fun y => y.phase = .leaving (.ok f) ∨ y.phase = .done (.ok f) → ∃ k, y.slot = .filled k f)
      ?_ (h.ok_filled · f) d
    rintro (hf | hf)
    · simp at hf
    · simp only [Phase.done.injEq] at hf
      subst hf
      obtain ⟨k,hk⟩ := h.ok_filled c f (.inl hp)
      simp [h.open_of_mem hc hg] at hk
  done_not_open d out' := forall_setCaller w c (fun y => y.phase = .done out' → y.slot ≠ .open)
    (by simp) (h.done_not_open · out') d

theorem Inv.returns (h : Inv w) {c : Fin n} {out : Except RadioError Response}
    (hp : (w.callers c).phase = .leaving out) (hnot : (w.callers c).slot ≠ .open) :
    Inv (w.setCaller c { w.callers c with phase := .done out }) := by
  refine h.setPhase c _ (by simp) ?_ (fun _ _ => hnot)
  rintro f (hf | hf)
  · simp at hf
  · simp only [Phase.done.injEq] at hf
    subst hf
    exact h.ok_filled c f (.inl hp)

theorem Inv.leave (h : Inv w) (c : Fin n) : Inv (w.leave c) := by
  simp only [World.leave]
  split
  · rename_i out g hp hc
    by_cases hg : g ∈ w.pending.entries
    · rw [if_pos (PendingTable.tokenOf_of_mem h.keys_nodup hg),
        PendingTable.drop_of_mem h.keys_nodup hg]
      exact h.dropped hp hc hg
    · -- the wait was completed or released already: the entry under its identifier, if any,
      -- is a later wait's and stays
      have htok : w.pending.tokenOf g.id ≠ some g.token :=
        fun ht => hg (PendingTable.mem_of_tokenOf ht)
      rw [if_neg htok,PendingTable.drop_of_not_mem hg]
      exact h.returns hp (fun hopen => hg (h.live_entry c g hc hopen))
  · rename_i out hp hc
    exact h.returns hp (by simp [h.unused_of_none c hc])
  · exact h

/-! ### Dispatching -/

theorem Inv.deliver_eq (h : Inv w) {c₀ : Fin n} {g : Guard} (hc₀ : (w.callers c₀).ticket = some g)
    (k : Nat) (f : Response) :
    (fun d => (w.callers d).deliver g k f) =
      (w.setCaller c₀ { w.callers c₀ with slot := .filled k f }).callers := by
  funext d
  by_cases hd : d = c₀
  · subst hd
    simp [Caller.deliver,hc₀]
  · have hne : (w.callers d).ticket ≠ some g := fun hd' => hd (h.ticket_inj d c₀ g g hd' hc₀ rfl)
    simp [Caller.deliver,hne,hd]

theorem drop_append_dispatched {l : List Response} {since : Nat} (h : since ≤ l.length)
    (f : Response) : (l ++ [f]).drop since = l.drop since ++ [f] :=
  List.drop_append_of_le_length h

/-! ### A frame dispatched

A frame appended to the record leaves every filled channel holding the first frame for it, and
every open channel unanswered unless the frame carries its identifier. -/

section
variable (h : Inv w) {d : Fin n}
include h

theorem Inv.since_le_append (d : Fin n) (f : Response) :
    (w.callers d).since ≤ (w.dispatched ++ [f]).length := by
  have := h.since_le d
  simp only [List.length_append,List.length_singleton]
  omega

theorem Inv.filled_lt {k : Nat} {f : Response} (hfill : (w.callers d).slot = .filled k f) :
    k < w.dispatched.length :=
  (List.getElem?_eq_some_iff.mp (h.filled_first d k f hfill).1).1

theorem Inv.filled_first_append {k : Nat} {f' : Response} (hfill : (w.callers d).slot = .filled k f')
    (f : Response) : (w.dispatched ++ [f])[k]? = some f' ∧
      ((w.dispatched ++ [f]).drop (w.callers d).since).find?
        (·.frameId? == some (w.callers d).id) = some f' := by
  obtain ⟨hk,hfirst⟩ := h.filled_first d k f' hfill
  rw [List.getElem?_append_left (h.filled_lt hfill),drop_append_dispatched (h.since_le d),
    List.find?_append,hfirst]
  exact ⟨hk,rfl⟩

theorem Inv.open_unanswered_append (hopen : (w.callers d).slot = .open) {f : Response}
    (hf : f.frameId? ≠ some (w.callers d).id) :
    ∀ f' ∈ (w.dispatched ++ [f]).drop (w.callers d).since, f'.frameId? ≠ some (w.callers d).id := by
  rw [drop_append_dispatched (h.since_le d)]
  intro f' hf'
  rcases List.mem_append.mp hf' with hf' | hf'
  · exact h.open_unanswered d hopen f' hf'
  · rw [List.mem_singleton.mp hf']
    exact hf

end

theorem Inv.dispatchMiss (h : Inv w) (f : Response)
    (hf : ∀ c, (w.callers c).slot = .open → f.frameId? ≠ some (w.callers c).id) :
    Inv { w with dispatched := w.dispatched ++ [f] } where
  keys_nodup := h.keys_nodup
  entry_live := h.entry_live
  live_entry := h.live_entry
  ticket_id := h.ticket_id
  ticket_lt := h.ticket_lt
  ticket_inj := h.ticket_inj
  unused_of_none := h.unused_of_none
  ready_none := h.ready_none
  since_le d := h.since_le_append d f
  open_unanswered d hopen := h.open_unanswered_append hopen (hf d hopen)
  filled_first _ _ _ hfill := h.filled_first_append hfill f
  filled_inj := h.filled_inj
  ok_filled := h.ok_filled
  done_not_open := h.done_not_open

theorem Inv.dispatchHit (h : Inv w) {c₀ : Fin n} {g : Guard} {f : Response}
    (hc₀ : (w.callers c₀).ticket = some g) (hg : g ∈ w.pending.entries)
    (hf : f.frameId? = some g.id) :
    Inv { (w.setCaller c₀ ({ w.callers c₀ with slot := .filled w.dispatched.length f } : Caller)) with
          dispatched := w.dispatched ++ [f],
          pending := { w.pending with entries := w.pending.entries.filter (·.id != g.id) } } := by
  have hopen₀ : (w.callers c₀).slot = .open := h.open_of_mem hc₀ hg
  have hfirst₀ : (w.dispatched.drop (w.callers c₀).since).find?
      (·.frameId? == some (w.callers c₀).id) = none := by
    rw [List.find?_eq_none]
    intro f' hf'
    simpa using h.open_unanswered c₀ hopen₀ f' hf'
  have hid₀ : g.id = (w.callers c₀).id := h.ticket_id c₀ g hc₀
  exact {
    keys_nodup := PendingTable.nodup_filter h.keys_nodup _
    entry_live := h.entry_live_removed hc₀ _
    live_entry := h.live_entry_removed hc₀ hg (by simp)
    ticket_id := h.ticket_id_setCaller c₀ (by rfl) (by rfl)
    ticket_lt := h.ticket_lt_setCaller c₀ (by rfl)
    ticket_inj := h.ticket_inj_setCaller c₀ (by rfl)
    unused_of_none := forall_setCaller w c₀ (fun y => y.ticket = none → y.slot = .unused)
      (by simp [hc₀]) h.unused_of_none
    ready_none := forall_setCaller w c₀ (fun y => y.phase = .ready → y.ticket = none)
      (h.ready_none c₀) h.ready_none
    since_le := forall_setCaller w c₀ (fun y => y.since ≤ (w.dispatched ++ [f]).length)
      (h.since_le_append c₀ f) (h.since_le_append · f)
    open_unanswered := by
      intro d
      by_cases hdc : d = c₀
      · subst hdc
        simp
      · simp only [setCaller_ne _ _ hdc]
        intro hopen
        refine h.open_unanswered_append hopen ?_
        obtain ⟨e,he⟩ := h.ticket_of_open hopen
        have hne := h.id_ne hc₀ hg he (h.live_entry d e he hopen) hdc
        rw [h.ticket_id d e he] at hne
        simpa [hf] using Ne.symm hne
    filled_first := by
      intro d k f'
      by_cases hdc : d = c₀
      · subst hdc
        simp only [setCaller_self,Slot.filled.injEq]
        rintro ⟨rfl,rfl⟩
        refine ⟨by simp,?_⟩
        rw [drop_append_dispatched (h.since_le d),List.find?_append,hfirst₀]
        simp [hf,hid₀]
      · simp only [setCaller_ne _ _ hdc]
        exact fun hfill => h.filled_first_append hfill f
    filled_inj := by
      intro d d' k f' f''
      by_cases hdc : d = c₀ <;> by_cases hdc' : d' = c₀
      · intro _ _
        rw [hdc,hdc']
      · subst hdc
        simp only [setCaller_self,setCaller_ne _ _ hdc',Slot.filled.injEq]
        rintro ⟨rfl,-⟩ hfill'
        exact absurd (h.filled_lt hfill') (Nat.lt_irrefl _)
      · subst hdc'
        simp only [setCaller_self,setCaller_ne _ _ hdc,Slot.filled.injEq]
        rintro hfill ⟨rfl,-⟩
        exact absurd (h.filled_lt hfill) (Nat.lt_irrefl _)
      · simpa [hdc,hdc'] using h.filled_inj d d' k f' f''
    ok_filled := by
      intro d f'
      refine forall_setCaller w c₀
        (fun y => y.phase = .leaving (.ok f') ∨ y.phase = .done (.ok f') → ∃ k, y.slot = .filled k f')
        ?_ (h.ok_filled · f') d
      intro hp
      obtain ⟨k,hk⟩ := h.ok_filled c₀ f' hp
      simp [hopen₀] at hk
    done_not_open := by
      intro d out
      exact forall_setCaller w c₀ (fun y => y.phase = .done out → y.slot ≠ .open) (by simp)
        (h.done_not_open · out) d }

theorem Inv.dispatch (h : Inv w) (f : Response) : Inv (w.dispatch f) := by
  simp only [World.dispatch]
  split
  · rename_i i hi
    split
    · rename_i g p ht
      obtain ⟨hg,hid,rfl⟩ := PendingTable.take_eq_some ht
      subst hid
      obtain ⟨c₀,hc₀,-⟩ := h.entry_live g hg
      rw [h.deliver_eq hc₀]
      exact h.dispatchHit hc₀ hg hi
    · rename_i p ht
      obtain ⟨-,hnone⟩ := PendingTable.take_eq_none ht
      refine h.dispatchMiss f fun c hopen => ?_
      obtain ⟨e,he⟩ := h.ticket_of_open hopen
      have hne := hnone e (h.live_entry c e he hopen)
      rw [h.ticket_id c e he] at hne
      simpa [hi] using Ne.symm hne
  · rename_i hi
    exact h.dispatchMiss f fun c _ => by simp [hi]

/-! ### Releasing -/

theorem Inv.release_eq (h : Inv w) (d : Fin n) :
    (w.callers d).release w.pending =
      if (w.callers d).slot = .open then { w.callers d with slot := .closed } else w.callers d := by
  cases ht : (w.callers d).ticket with
  | none =>
    simp [Caller.release,ht,h.unused_of_none d ht]
  | some g =>
    by_cases hopen : (w.callers d).slot = .open
    · simp [Caller.release,ht,hopen,h.live_entry d g ht hopen]
    · have hg : g ∉ w.pending.entries := fun hg => hopen (h.open_of_mem ht hg)
      simp [Caller.release,ht,hopen,hg]

theorem Inv.release (h : Inv w) : Inv w.release where
  keys_nodup := by simp [World.release,PendingTable.clear]
  entry_live g hg := by simp [World.release,PendingTable.clear] at hg
  live_entry d g := by
    simp only [World.release,h.release_eq d]
    split <;> simp_all
  ticket_id d g := by
    simp only [World.release,h.release_eq d]
    split <;> exact h.ticket_id d g
  ticket_lt d g := by
    simp only [World.release,h.release_eq d,PendingTable.clear]
    split <;> exact h.ticket_lt d g
  ticket_inj d d' g g' := by
    simp only [World.release,h.release_eq d,h.release_eq d']
    split <;> split <;> exact h.ticket_inj d d' g g'
  unused_of_none d := by
    simp only [World.release,h.release_eq d]
    split
    · rename_i hopen
      intro hd
      simp [h.unused_of_none d hd] at hopen
    · exact h.unused_of_none d
  ready_none d := by
    simp only [World.release,h.release_eq d]
    split <;> exact h.ready_none d
  since_le d := by
    simp only [World.release,h.release_eq d]
    split <;> exact h.since_le d
  open_unanswered d := by
    simp only [World.release,h.release_eq d]
    split
    · simp
    · exact h.open_unanswered d
  filled_first d k f := by
    simp only [World.release,h.release_eq d]
    split
    · simp
    · exact h.filled_first d k f
  filled_inj d d' k f f' := by
    simp only [World.release,h.release_eq d,h.release_eq d']
    split <;> split
    · simp
    · simp
    · simp
    · exact h.filled_inj d d' k f f'
  ok_filled d f := by
    simp only [World.release,h.release_eq d]
    split
    · rename_i hopen
      intro hp
      obtain ⟨k,hk⟩ := h.ok_filled d f hp
      simp [hopen] at hk
    · exact h.ok_filled d f
  done_not_open d out := by
    simp only [World.release,h.release_eq d]
    split
    · simp
    · exact h.done_not_open d out

/-! ### Every run -/

theorem Inv.step (h : Inv w) : ∀ e : Event n, Inv (w.step e)
  | .register c => h.register c
  | .send c failure => h.send c failure
  | .receive c => h.receive c
  | .expire c => h.expire c
  | .leave c => h.leave c
  | .dispatch f => h.dispatch f
  | .setState _ => { h with }
  | .release => h.release

theorem Inv.run (h : Inv w) (evs : List (Event n)) : Inv (w.run evs) := by
  induction evs generalizing w with
  | nil => exact h
  | cons e evs ih => exact ih (h.step e)

theorem inv_start (calls : Fin n → FrameId × Duration) : Inv (start calls) where
  keys_nodup := by simp [start]
  entry_live g hg := by simp [start] at hg
  live_entry d g := by simp [start]
  ticket_id d g := by simp [start]
  ticket_lt d g := by simp [start]
  ticket_inj d d' g g' := by simp [start]
  unused_of_none d _ := rfl
  ready_none d _ := rfl
  since_le d := by simp [start]
  open_unanswered d := by simp [start]
  filled_first d k f := by simp [start]
  filled_inj d d' k f f' := by simp [start]
  ok_filled d f := by simp [start]
  done_not_open d out := by simp [start]

/-! ### What the callers see -/

theorem id_step (w : World n) (c : Fin n) : ∀ e : Event n, ((w.step e).callers c).id = (w.callers c).id
  | .register d => by
    simp only [step,World.register]
    split
    · split
      · exact proj_setCaller _ _ Caller.id (by rfl) _
      · split
        · exact proj_setCaller _ _ Caller.id (by rfl) _
        · exact proj_setCaller _ _ Caller.id (by rfl) _
    · rfl
  | .send d failure => by
    simp only [step,World.send]
    split
    · split
      · exact proj_setCaller _ _ Caller.id (by rfl) _
      · split
        · exact proj_setCaller _ _ Caller.id (by rfl) _
        · exact proj_setCaller _ _ Caller.id (by rfl) _
    · rfl
  | .receive d => by
    simp only [step,World.receive]
    split
    · exact proj_setCaller _ _ Caller.id (by rfl) _
    · exact proj_setCaller _ _ Caller.id (by rfl) _
    · rfl
  | .expire d => by
    simp only [step,World.expire]
    split
    · split
      · rfl
      · exact proj_setCaller _ _ Caller.id (by rfl) _
    · rfl
  | .leave d => by
    simp only [step,World.leave]
    split
    · exact proj_setCaller _ _ Caller.id (by rfl) _
    · exact proj_setCaller _ _ Caller.id (by rfl) _
    · rfl
  | .dispatch f => by
    simp only [step,World.dispatch]
    split
    · split
      · simp only [Caller.deliver]
        split <;> rfl
      · rfl
    · rfl
  | .setState _ => rfl
  | .release => by
    simp only [step,World.release,Caller.release]
    split
    · split <;> rfl
    · rfl

theorem id_run (w : World n) (c : Fin n) (evs : List (Event n)) :
    ((w.run evs).callers c).id = (w.callers c).id := by
  induction evs generalizing w with
  | nil => rfl
  | cons e evs ih => exact (ih (w.step e)).trans (id_step w c e)

theorem Inv.size_eq (h : Inv w) :
    w.pending.size = (Finset.univ.filter fun c => (w.callers c).slot = .open).card := by
  have hnodup : w.pending.entries.Nodup := List.Nodup.of_map _ h.keys_nodup
  -- each open channel is mapped to its registration, one to one and onto the table
  let reg : Fin n → Guard := fun c => (w.callers c).ticket.getD default
  have himage : (Finset.univ.filter fun c => (w.callers c).slot = .open).image reg =
      w.pending.entries.toFinset := by
    ext e
    simp only [Finset.mem_image,Finset.mem_filter,Finset.mem_univ,true_and,List.mem_toFinset]
    constructor
    · rintro ⟨c,hopen,rfl⟩
      obtain ⟨g,hg⟩ := h.ticket_of_open hopen
      simpa [reg,hg] using h.live_entry c g hg hopen
    · intro he
      obtain ⟨c,hc,hopen⟩ := h.entry_live e he
      exact ⟨c,hopen,by simp [reg,hc]⟩
  have hinj : Set.InjOn reg (Finset.univ.filter fun c => (w.callers c).slot = .open) := by
    intro c hc c' hc' heq
    simp only [Finset.coe_filter,Finset.mem_univ,true_and,Set.mem_ofPred_eq] at hc hc'
    obtain ⟨g,hg⟩ := h.ticket_of_open hc
    obtain ⟨g',hg'⟩ := h.ticket_of_open hc'
    simp only [reg,hg,hg',Option.getD_some] at heq
    exact h.ticket_inj c c' g g' hg hg' (by rw [heq])
  calc w.pending.size = w.pending.entries.toFinset.card := (List.toFinset_card_of_nodup hnodup).symm
    _ = ((Finset.univ.filter fun c => (w.callers c).slot = .open).image reg).card := by rw [himage]
    _ = (Finset.univ.filter fun c => (w.callers c).slot = .open).card :=
      Finset.card_image_of_injOn hinj

theorem Inv.mem_leave (h : Inv w) {c : Fin n} {g : Guard} (hc : (w.callers c).ticket = some g)
    {e : Guard} (he : e ∈ w.pending.entries) (hne : e ≠ g) : e ∈ (w.leave c).pending.entries := by
  simp only [World.leave]
  split
  · rename_i out g' hp hc'
    rw [hc,Option.some.injEq] at hc'
    subst hc'
    exact PendingTable.mem_drop_of_mem h.keys_nodup he hne
  · rename_i hc'
    simp [hc] at hc'
  · exact he

/-- Synchronous sends keep their answers apart over any interleaving of callers, reader, shutdown. -/
theorem sync_send_correlation (calls : Fin n → FrameId × Duration) (evs : List (Event n)) :
    let w := (start calls).run evs
    (∀ c f, (w.callers c).phase = .done (.ok f) →
      f.frameId? = some (calls c).1 ∧ ∃ k, (w.callers c).slot = .filled k f ∧
        w.dispatched[k]? = some f ∧
        (w.dispatched.drop (w.callers c).since).find? (·.frameId? == some (calls c).1) = some f) ∧
    (∀ c c' k f f', (w.callers c).slot = .filled k f → (w.callers c').slot = .filled k f' →
      c = c') ∧
    (∀ c g, (w.callers c).ticket = some g →
      (∀ e ∈ w.pending.entries, e ∉ (w.step (.leave c)).pending.entries → e = g) ∧
      ∀ c' g', c' ≠ c → (w.callers c').ticket = some g' → (w.callers c').slot = .open →
        g' ∈ (w.step (.leave c)).pending.entries) ∧
    (∀ c out g, (w.callers c).phase = .done out → (w.callers c).ticket = some g →
      ∀ e ∈ w.pending.entries, e.token ≠ g.token) ∧
    w.pendingRequests = (Finset.univ.filter fun c => (w.callers c).slot = .open).card := by
  intro w
  have h : Inv w := (inv_start calls).run evs
  have hid : ∀ c, (w.callers c).id = (calls c).1 := fun c => id_run (start calls) c evs
  refine ⟨?_,h.filled_inj,?_,?_,h.size_eq⟩
  · intro c f hdone
    obtain ⟨k,hk⟩ := h.ok_filled c f (.inr hdone)
    obtain ⟨hget,hfirst⟩ := h.filled_first c k f hk
    rw [hid c] at hfirst
    have hfid : f.frameId? = some (calls c).1 := by simpa using List.find?_some hfirst
    exact ⟨hfid,k,hk,hget,hfirst⟩
  · intro c g hc
    refine ⟨fun e he hgone => ?_,fun c' g' hc'c hc' hopen => ?_⟩
    · by_contra hne
      exact hgone (h.mem_leave hc he hne)
    · have hne : g' ≠ g := by
        rintro rfl
        exact hc'c (h.ticket_inj c' c g' g' hc' hc rfl)
      exact h.mem_leave hc (h.live_entry c' g' hc' hopen) hne
  · intro c out g hdone hc e he htok
    obtain ⟨d,hd,hopen⟩ := h.entry_live e he
    have hdc : d = c := h.ticket_inj d c e g hd hc htok
    subst hdc
    exact h.done_not_open d out hdone hopen

deriving instance DecidableEq for Phase

/-- Two callers on identifier 5: the first times out, and its drop leaves the second's registration. -/
theorem sync_send_correlation_late_reply :
    let r₁ : Response := .transmitStatus ⟨⟨5⟩,⟨0⟩,0,0,0⟩
    let r₂ : Response := .transmitStatus ⟨⟨5⟩,⟨0⟩,1,0,0⟩
    let calls : Fin 2 → FrameId × Duration := fun _ => (⟨5⟩,Duration.ofMillis 50)
    let evs : List (Event 2) := [.register 0,.send 0 none,.expire 0,.dispatch r₁,.register 1,
      .send 1 none,.leave 0,.dispatch r₂,.receive 1,.leave 1]
    let w := (start calls).run evs
    (w.callers 1).phase = .done (.ok r₂) ∧
      (r₂.frameId? = some (calls 1).1 ∧ ∃ k, (w.callers 1).slot = .filled k r₂ ∧
        w.dispatched[k]? = some r₂ ∧
        (w.dispatched.drop (w.callers 1).since).find? (·.frameId? == some (calls 1).1) = some r₂) := by
  intro r₁ r₂ calls evs
  dsimp only
  have hdone : (((start calls).run evs).callers 1).phase = .done (.ok r₂) := by decide +kernel
  exact ⟨hdone,(sync_send_correlation calls evs).1 1 r₂ hdone⟩

end World
end SyncSend
end RadioLink
