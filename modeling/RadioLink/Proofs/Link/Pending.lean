import Mathlib
import RadioLink.Link.Pending
/-! Laws of the table of waits. While the table holds at most one entry per frame identifier,
`tokenOf` gives the token of the entry under an identifier, taking a wait off removes exactly
that entry, and dropping a registration removes nothing but the registration itself
(`mem_drop_of_mem`). -/
namespace RadioLink
namespace PendingTable

section
variable {t : PendingTable}

theorem eq_of_id_eq (h : (t.entries.map (·.id)).Nodup) {g g' : Guard} (hg : g ∈ t.entries)
    (hg' : g' ∈ t.entries) (hid : g.id = g'.id) : g = g' :=
  List.inj_on_of_nodup_map h hg hg' hid

theorem find?_id_of_mem (h : (t.entries.map (·.id)).Nodup) {g : Guard} (hg : g ∈ t.entries) :
    t.entries.find? (·.id == g.id) = some g := by
  cases hf : t.entries.find? (·.id == g.id) with
  | none =>
    rw [List.find?_eq_none] at hf
    exact absurd (by simp) (hf g hg)
  | some g' =>
    have hid : g'.id = g.id := by simpa using List.find?_some hf
    rw [eq_of_id_eq h (List.mem_of_find?_eq_some hf) hg hid]

theorem tokenOf_of_mem (h : (t.entries.map (·.id)).Nodup) {g : Guard} (hg : g ∈ t.entries) :
    t.tokenOf g.id = some g.token := by
  simp [tokenOf,find?_id_of_mem h hg]

theorem mem_of_tokenOf {i : FrameId} {k : Nat} (h : t.tokenOf i = some k) : ⟨i,k⟩ ∈ t.entries := by
  simp only [tokenOf,Option.map_eq_some_iff] at h
  obtain ⟨g,hf,rfl⟩ := h
  have hid : g.id = i := by simpa using List.find?_some hf
  subst hid
  exact List.mem_of_find?_eq_some hf

theorem tokenOf_eq_none {i : FrameId} : t.tokenOf i = none ↔ ∀ g ∈ t.entries, g.id ≠ i := by
  simp [tokenOf]

theorem tokenOf_eq_iff (h : (t.entries.map (·.id)).Nodup) (g : Guard) :
    t.tokenOf g.id = some g.token ↔ g ∈ t.entries :=
  ⟨mem_of_tokenOf,tokenOf_of_mem h⟩

theorem nodup_filter (h : (t.entries.map (·.id)).Nodup) (p : Guard → Bool) :
    ((t.entries.filter p).map (·.id)).Nodup :=
  h.sublist ((List.filter_sublist).map _)

/-! ### The operations -/

theorem register_eq_ok {conn : Bool} {i : FrameId} {g : Guard} {t' : PendingTable}
    (h : t.register conn i = .ok (g,t')) :
    conn = true ∧ t.tokenOf i = none ∧ g = ⟨i,t.nextToken⟩ ∧
      t' = { entries := t.entries ++ [⟨i,t.nextToken⟩], nextToken := t.nextToken + 1 } := by
  simp only [register] at h
  by_cases hc : conn = true
  · by_cases hi : (t.tokenOf i).isSome
    · simp [hc,hi] at h
    · simp only [hc,hi,Bool.not_true,Bool.false_eq_true,if_false,Except.ok.injEq,
        Prod.mk.injEq] at h
      obtain ⟨rfl,rfl⟩ := h
      exact ⟨hc,by simpa using hi,rfl,rfl⟩
  · simp [hc] at h

theorem nodup_register (h : (t.entries.map (·.id)).Nodup) {i : FrameId} (hi : t.tokenOf i = none) :
    ((t.entries ++ [Guard.mk i t.nextToken]).map (·.id)).Nodup := by
  have hfresh := tokenOf_eq_none.mp hi
  rw [List.map_append,List.nodup_append]
  refine ⟨h,by simp,?_⟩
  intro a ha b hb
  simp only [List.map_cons,List.map_nil,List.mem_singleton] at hb
  obtain ⟨g,hg,rfl⟩ := List.mem_map.mp ha
  rw [hb]
  exact hfresh g hg

theorem take_eq_some {i : FrameId} {g : Guard} {p : PendingTable} (h : t.take i = (some g,p)) :
    g ∈ t.entries ∧ g.id = i ∧ p = { t with entries := t.entries.filter (·.id != i) } := by
  simp only [take] at h
  split at h
  · rename_i g' hf
    simp only [Prod.mk.injEq,Option.some.injEq] at h
    obtain ⟨rfl,rfl⟩ := h
    exact ⟨List.mem_of_find?_eq_some hf,by simpa using List.find?_some hf,rfl⟩
  · simp at h

theorem take_eq_none {i : FrameId} {p : PendingTable} (h : t.take i = (none,p)) :
    p = t ∧ ∀ g ∈ t.entries, g.id ≠ i := by
  simp only [take] at h
  split at h
  · simp at h
  · rename_i hf
    simp only [Prod.mk.injEq,true_and] at h
    rw [List.find?_eq_none] at hf
    exact ⟨h.symm,fun g hg => by simpa using hf g hg⟩

theorem drop_register {i : FrameId} (hi : t.tokenOf i = none) :
    ({ entries := t.entries ++ [⟨i,t.nextToken⟩], nextToken := t.nextToken + 1 } : PendingTable).drop
      ⟨i,t.nextToken⟩ = { t with nextToken := t.nextToken + 1 } := by
  have hfresh := tokenOf_eq_none.mp hi
  -- no earlier entry is under `i`, so the new one is the one `tokenOf` finds
  have hfind : (t.entries ++ [Guard.mk i t.nextToken]).find? (·.id == i) = some ⟨i,t.nextToken⟩ := by
    rw [List.find?_append,List.find?_eq_none.mpr (fun g hg => by simpa using hfresh g hg)]
    simp
  have hkeep : t.entries.filter (·.id != i) = t.entries :=
    List.filter_eq_self.mpr fun g hg => by simpa using hfresh g hg
  simp [drop,tokenOf,hfind,hkeep]

theorem drop_of_mem (h : (t.entries.map (·.id)).Nodup) {g : Guard} (hg : g ∈ t.entries) :
    t.drop g = { t with entries := t.entries.filter (·.id != g.id) } := by
  simp [drop,tokenOf_of_mem h hg]

theorem drop_of_not_mem {g : Guard} (hg : g ∉ t.entries) : t.drop g = t := by
  have hk : t.tokenOf g.id ≠ some g.token := fun hk => hg (mem_of_tokenOf hk)
  simp [drop,hk]

theorem mem_of_mem_drop {g e : Guard} (he : e ∈ (t.drop g).entries) : e ∈ t.entries := by
  simp only [drop] at he
  split at he
  · exact List.mem_of_mem_filter he
  · exact he

theorem mem_drop_of_mem (h : (t.entries.map (·.id)).Nodup) {g e : Guard} (he : e ∈ t.entries)
    (hne : e ≠ g) : e ∈ (t.drop g).entries := by
  by_cases hg : g ∈ t.entries
  · rw [drop_of_mem h hg]
    have hid : e.id ≠ g.id := fun hid => hne (eq_of_id_eq h he hg hid)
    simpa [hid] using he
  · rwa [drop_of_not_mem hg]

end

end PendingTable
end RadioLink
