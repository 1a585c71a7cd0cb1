import Mathlib
import RadioLink.SharedAllocator
/-! Frame identifiers from one allocator shared by concurrent callers. An exchange takes effect
only while the allocator holds what its caller read, so the exchanges that took effect hand out
what one caller calling `next` as often gets (`Inv.run`): the cycle 2, 3, …, 255, 2, …
(`take_fresh`). Main statement: `allocation_cycles`. -/
namespace RadioLink

namespace FrameId

theorem toNat_following (v : UInt8) :
    (following v).toNat = if v.toNat < 2 ∨ v.toNat = 255 then 2 else v.toNat + 1 := by
  unfold following
  by_cases h : v < 2 ∨ v = 255
  · have h' : v.toNat < 2 ∨ v.toNat = 255 := by
      rcases h with h | h
      · exact .inl (by simpa [UInt8.lt_iff_toNat_lt] using h)
      · exact .inr (by simp [h])
    rw [if_pos h,if_pos h']
    rfl
  · have h' : ¬(v.toNat < 2 ∨ v.toNat = 255) := by
      intro h''
      apply h
      rcases h'' with h'' | h''
      · exact .inl (by simpa [UInt8.lt_iff_toNat_lt] using h'')
      · exact .inr (UInt8.toNat_inj.mp (by simpa using h''))
    simp only [h,h',if_false]
    simp only [not_or,Nat.not_lt] at h'
    have hlt := v.toNat_lt
    rw [UInt8.toNat_add]
    simp only [UInt8.toNat_one]
    omega

theorem toNat_following_cycle {v : UInt8} {k : Nat} (h : v.toNat = 2 + k % 254) :
    (following v).toNat = 2 + (k + 1) % 254 := by
  rw [toNat_following,h]
  split <;> omega

end FrameId

namespace FrameIdAllocator

theorem take_succ_eq (k : Nat) (a : FrameIdAllocator) :
    take (k + 1) a = ((take k a).1 ++ [(take k a).2.next.1],(take k a).2.next.2) := by
  induction k generalizing a with
  | zero => rfl
  | succ k ih =>
    have h₁ : take (k + 1 + 1) a = (a.next.1 :: (take (k + 1) a.next.2).1,(take (k + 1) a.next.2).2) :=
      rfl
    have h₂ : take (k + 1) a = (a.next.1 :: (take k a.next.2).1,(take k a.next.2).2) := rfl
    rw [h₁,h₂,ih]
    simp

/-- A fresh allocator hands out 2, 3, …, 255, 2, …: the `k`-th identifier is `2 + k % 254`. -/
theorem take_fresh (k : Nat) :
    (take k {}).1.map (·.value.toNat) = (List.range k).map (fun i => 2 + i % 254) ∧
      (take k {}).2.last.toNat = 2 + (k + 253) % 254 := by
  induction k with
  | zero => exact ⟨rfl,rfl⟩
  | succ k ih =>
    -- the identifier handed out is the one after the last, which is also what is then held
    have hnext : (FrameId.following (take k {}).2.last).toNat = 2 + k % 254 := by
      have := FrameId.toNat_following_cycle ih.2
      rwa [show k + 253 + 1 = k + 254 by omega,Nat.add_mod_right] at this
    rw [take_succ_eq]
    refine ⟨?_,?_⟩
    · simp only [List.map_append,ih.1,List.range_succ,List.map_cons,List.map_nil]
      exact congrArg (fun x => _ ++ [x]) hnext
    · show (FrameId.following (take k {}).2.last).toNat = _
      rw [hnext]
      omega

end FrameIdAllocator

namespace SharedAllocator
namespace World

variable {n : Nat} {w : World n}

@[simp] theorem callers_setCaller (w : World n) (c d : Fin n) (p : Phase) :
    (w.setCaller c p).callers d = if d = c then p else w.callers d :=
  rfl

@[simp] theorem alloc_setCaller (w : World n) (c : Fin n) (p : Phase) :
    (w.setCaller c p).alloc = w.alloc :=
  rfl

@[simp] theorem issued_setCaller (w : World n) (c : Fin n) (p : Phase) :
    (w.setCaller c p).issued = w.issued :=
  rfl

theorem run_nil (w : World n) : w.run [] = w := rfl

theorem run_cons (w : World n) (e : Event n) (evs : List (Event n)) :
    w.run (e :: evs) = (w.step e).run evs :=
  rfl

/-- What every run keeps: the exchanges that took effect hand out one caller's cycle, each once. -/
structure Inv (w : World n) : Prop where
  issued_eq : w.issued.map Prod.snd = (FrameIdAllocator.take w.issued.length {}).1
  alloc_eq : w.alloc = (FrameIdAllocator.take w.issued.length {}).2
  done_iff : ∀ c i, w.callers c = .done i ↔ (c,i) ∈ w.issued
  nodup : (w.issued.map Prod.fst).Nodup

theorem inv_start : Inv ({} : World n) where
  issued_eq := rfl
  alloc_eq := rfl
  done_iff := by simp
  nodup := List.nodup_nil

theorem Inv.setCaller (h : Inv w) {c : Fin n} {p : Phase} (hc : ∀ i, w.callers c ≠ .done i)
    (hp : ∀ i, p ≠ .done i) : Inv (w.setCaller c p) where
  issued_eq := h.issued_eq
  alloc_eq := h.alloc_eq
  done_iff := by
    intro d i
    by_cases hd : d = c
    · subst hd
      simp only [callers_setCaller,if_true,issued_setCaller]
      exact ⟨fun hpi => absurd hpi (hp i),fun hi => absurd ((h.done_iff d i).mpr hi) (hc i)⟩
    · simpa [hd] using h.done_iff d i
  nodup := h.nodup

theorem Inv.load (h : Inv w) (c : Fin n) : Inv (w.load c) := by
  unfold World.load
  split
  · rename_i hidle
    exact h.setCaller (fun i => by rw [hidle]; exact Phase.noConfusion)
      (fun i => Phase.noConfusion)
  · exact h

/-- An exchange that takes effect hands out what `next` hands out, keeping the invariant. -/
theorem Inv.exchange (h : Inv w) (c : Fin n) (spurious : Bool) : Inv (w.exchange c spurious) := by
  unfold World.exchange
  split
  · rename_i prev hprev
    have hnot : ∀ i, w.callers c ≠ .done i := fun i => by rw [hprev]; exact Phase.noConfusion
    split
    · rename_i hok
      obtain ⟨hlast,-⟩ := hok
      have hfresh : c ∉ w.issued.map Prod.fst := by
        intro hmem
        obtain ⟨⟨d,i⟩,hi,rfl⟩ := List.mem_map.mp hmem
        exact hnot i ((h.done_iff _ i).mpr hi)
      have hnext : w.alloc.next = (⟨FrameId.following prev⟩,⟨FrameId.following prev⟩) := by
        rw [← hlast]
        rfl
      refine ⟨?_,?_,?_,?_⟩
      · simp only [List.map_append,List.map_cons,List.map_nil,List.length_append,
          List.length_singleton,FrameIdAllocator.take_succ_eq,h.issued_eq,← h.alloc_eq,hnext]
      · simp only [List.length_append,List.length_singleton,FrameIdAllocator.take_succ_eq,
          ← h.alloc_eq,hnext]
      · intro d i
        by_cases hd : d = c
        · subst hd
          have hi : (d,i) ∉ w.issued := fun hi => hnot i ((h.done_iff d i).mpr hi)
          simp [hi,eq_comm]
        · simpa [hd] using h.done_iff d i
      · rw [List.map_append,List.nodup_append]
        refine ⟨h.nodup,List.nodup_singleton c,?_⟩
        intro a ha b hb hab
        simp only [List.map_cons,List.map_nil,List.mem_singleton] at hb
        exact hfresh (hb ▸ hab ▸ ha)
    · exact h.setCaller hnot (fun i => Phase.noConfusion)
  · exact h

theorem Inv.step (h : Inv w) (e : Event n) : Inv (w.step e) := by
  cases e with
  | load c => exact h.load c
  | exchange c spurious => exact h.exchange c spurious

theorem Inv.run (h : Inv w) (evs : List (Event n)) : Inv (w.run evs) := by
  induction evs generalizing w with
  | nil => exact h
  | cons e evs ih => exact ih (h.step e)

end World

open World in
/-- However the callers interleave and their exchanges fail, the identifiers they return, in the
order their exchanges took effect, are `2 + k % 254`, one per caller. -/
theorem allocation_cycles (n : Nat) (evs : List (Event n)) :
    (({} : World n).run evs).issued.map Prod.snd =
        (FrameIdAllocator.take (({} : World n).run evs).issued.length {}).1 ∧
      (({} : World n).run evs).issued.map (·.2.value.toNat) =
        (List.range (({} : World n).run evs).issued.length).map (fun k => 2 + k % 254) ∧
      (∀ c i, (({} : World n).run evs).callers c = .done i ↔ (c,i) ∈ (({} : World n).run evs).issued) ∧
      ((({} : World n).run evs).issued.map Prod.fst).Nodup ∧
      (∀ c i, (({} : World n).run evs).callers c = .done i → i ≠ FrameId.none ∧ i ≠ FrameId.default) ∧
      ∀ j, ((((({} : World n).run evs).issued.map Prod.snd).drop j).take 254).Nodup := by
  have h := inv_start.run (n := n) evs
  generalize ({} : World n).run evs = w at h ⊢
  have hvals : w.issued.map (·.2.value.toNat) = (List.range w.issued.length).map (fun k => 2 + k % 254) := by
    have := (FrameIdAllocator.take_fresh w.issued.length).1
    rw [← h.issued_eq,List.map_map] at this
    exact this
  refine ⟨h.issued_eq,hvals,h.done_iff,h.nodup,?_,?_⟩
  · intro c i hdone
    obtain ⟨k,hk,hki⟩ := List.getElem_of_mem ((h.done_iff c i).mp hdone)
    have hv := congrArg (·[k]?) hvals
    simp only [List.getElem?_map,List.getElem?_eq_getElem hk,hki,Option.map_some,
      List.getElem?_range hk] at hv
    have hv' : i.value.toNat = 2 + k % 254 := Option.some.inj hv
    refine ⟨fun hi => ?_,fun hi => ?_⟩ <;> rw [hi] at hv' <;> simp [FrameId.none,FrameId.default] at hv' <;> omega
  · -- within 254 places, the numbers `2 + k % 254` differ
    intro j
    have hwin : ((List.range w.issued.length).drop j).take 254 =
        List.range' j (min (w.issued.length - j) 254) := by
      rw [List.range_eq_range',List.drop_range']
      by_cases hle : w.issued.length - j ≤ 254
      · rw [List.take_range'_of_length_le hle,min_eq_left hle]
        simp
      · rw [List.take_range'_of_length_ge (by omega),min_eq_right (by omega)]
        simp
    apply List.Nodup.of_map (fun i : FrameId => i.value.toNat)
    rw [List.map_take,List.map_drop,List.map_map]
    change ((((w.issued.map (·.2.value.toNat))).drop j).take 254).Nodup
    rw [hvals,← List.map_drop,← List.map_take,hwin]
    refine (List.nodup_range' ..).map_on ?_
    intro x hx y hy hxy
    simp only [List.mem_range'] at hx hy
    omega

end SharedAllocator
end RadioLink
