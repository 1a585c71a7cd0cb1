import RadioLink.Proofs.Frame.Wire
/-! Byte stuffing read back. A wire run is read in whole units (`Unstuffs`); reading back fails
exactly on whole units followed by one lone escape (`unstuff_eq_error_iff`).
Main statement: `stuffing_invertible_clean`. -/
namespace RadioLink
namespace Frame

/-- `Unstuffs w x`: the wire run `w`, cut into whole units, stands for the bytes `x`. -/
inductive Unstuffs : Bytes → Bytes → Prop
  | nil : Unstuffs [] []
  | plain {b : UInt8} {w x : Bytes} : b ≠ escapeByte → Unstuffs w x → Unstuffs (b :: w) (b :: x)
  | pair (c : UInt8) {w x : Bytes} : Unstuffs w x → Unstuffs (escapeByte :: c :: w) (Bytes.flip c :: x)

namespace Unstuffs

theorem nil_iff {x : Bytes} : Unstuffs [] x ↔ x = [] := by
  constructor
  · rintro ⟨⟩
    rfl
  · rintro rfl
    exact .nil

theorem plain_iff {b : UInt8} {w x : Bytes} (hb : b ≠ escapeByte) :
    Unstuffs (b :: w) x ↔ ∃ x', x = b :: x' ∧ Unstuffs w x' := by
  constructor
  · rintro (_ | ⟨-,h⟩ | ⟨c,h⟩)
    · exact ⟨_,rfl,h⟩
    · exact absurd rfl hb
  · rintro ⟨x',rfl,h⟩
    exact .plain hb h

theorem pair_iff {c : UInt8} {w x : Bytes} :
    Unstuffs (escapeByte :: c :: w) x ↔ ∃ x', x = Bytes.flip c :: x' ∧ Unstuffs w x' := by
  constructor
  · rintro (_ | ⟨hb,h⟩ | ⟨c,h⟩)
    · exact absurd rfl hb
    · exact ⟨_,rfl,h⟩
  · rintro ⟨x',rfl,h⟩
    exact .pair c h

theorem not_lone_escape {x : Bytes} : ¬ Unstuffs [escapeByte] x := by
  rintro (_ | ⟨hb,-⟩)
  exact hb rfl

theorem exists_plain_append_escape {b : UInt8} {w : Bytes} (hb : b ≠ escapeByte) (Q : Bytes → Prop) :
    (∃ p x, Unstuffs p x ∧ b :: w = p ++ [escapeByte] ∧ Q x) ↔
      ∃ p x, Unstuffs p x ∧ w = p ++ [escapeByte] ∧ Q (b :: x) := by
  constructor
  · rintro ⟨p,x,hp,hw,hq⟩
    cases p with
    | nil =>
      simp only [List.nil_append,List.cons.injEq] at hw
      exact absurd hw.1 hb
    | cons a p =>
      simp only [List.cons_append,List.cons.injEq] at hw
      obtain ⟨rfl,rfl⟩ := hw
      obtain ⟨x',rfl,hp'⟩ := (plain_iff hb).1 hp
      exact ⟨p,x',hp',rfl,hq⟩
  · rintro ⟨p,x,hp,rfl,hq⟩
    exact ⟨b :: p,b :: x,.plain hb hp,rfl,hq⟩

theorem exists_pair_append_escape {c : UInt8} {w : Bytes} (Q : Bytes → Prop) :
    (∃ p x, Unstuffs p x ∧ escapeByte :: c :: w = p ++ [escapeByte] ∧ Q x) ↔
      ∃ p x, Unstuffs p x ∧ w = p ++ [escapeByte] ∧ Q (Bytes.flip c :: x) := by
  constructor
  · rintro ⟨p,x,hp,hw,hq⟩
    match p, hw, hp with
    | [], hw, _ => simp at hw
    | [_], hw, hp =>
      -- the run before the lone escape would be an escape standing alone
      simp only [List.cons_append,List.nil_append,List.cons.injEq] at hw
      obtain ⟨rfl,-,-⟩ := hw
      exact absurd hp Unstuffs.not_lone_escape
    | _ :: _ :: p, hw, hp =>
      simp only [List.cons_append,List.cons.injEq] at hw
      obtain ⟨rfl,rfl,rfl⟩ := hw
      obtain ⟨x',rfl,hp'⟩ := pair_iff.1 hp
      exact ⟨p,x',hp',rfl,hq⟩
  · rintro ⟨p,x,hp,rfl,hq⟩
    exact ⟨escapeByte :: c :: p,Bytes.flip c :: x,.pair c hp,rfl,hq⟩

end Unstuffs

/-! ### Reading back -/

theorem unstuffAux_eq_ok_iff (w acc y : Bytes) :
    unstuffAux w acc = .ok y ↔ ∃ x, Unstuffs w x ∧ y = acc.reverse ++ x := by
  fun_induction unstuffAux w acc with
  | case1 acc => simp [Unstuffs.nil_iff,eq_comm]
  | case2 b acc hb =>
    obtain rfl : b = escapeByte := by simpa using hb
    simp [Unstuffs.not_lone_escape]
  | case3 b acc hb c rest ih =>
    obtain rfl : b = escapeByte := by simpa using hb
    simp only [ih,Unstuffs.pair_iff]
    constructor
    · rintro ⟨x,hx,rfl⟩
      exact ⟨_,⟨x,rfl,hx⟩,by simp⟩
    · rintro ⟨_,⟨x,rfl,hx⟩,rfl⟩
      exact ⟨x,hx,by simp⟩
  | case4 b rest acc hb ih =>
    simp only [ih,Unstuffs.plain_iff (show b ≠ escapeByte by simpa using hb)]
    constructor
    · rintro ⟨x,hx,rfl⟩
      exact ⟨_,⟨x,rfl,hx⟩,by simp⟩
    · rintro ⟨_,⟨x,rfl,hx⟩,rfl⟩
      exact ⟨x,hx,by simp⟩

theorem unstuffAux_eq_error_iff (w acc : Bytes) (e : DanglingEscape) :
    unstuffAux w acc = .error e ↔
      ∃ p x, Unstuffs p x ∧ w = p ++ [escapeByte] ∧ e.offset = acc.length + x.length := by
  fun_induction unstuffAux w acc with
  | case1 acc => simp
  | case2 b acc hb =>
    obtain rfl : b = escapeByte := by simpa using hb
    obtain ⟨o⟩ := e
    simp [Unstuffs.nil_iff,eq_comm]
  | case3 b acc hb c rest ih =>
    obtain rfl : b = escapeByte := by simpa using hb
    rw [ih,Unstuffs.exists_pair_append_escape fun x => e.offset = acc.length + x.length]
    simp only [List.length_cons,Nat.add_assoc,Nat.add_comm 1]
  | case4 b rest acc hb ih =>
    rw [ih,Unstuffs.exists_plain_append_escape (by simpa using hb)
      fun x => e.offset = acc.length + x.length]
    simp only [List.length_cons,Nat.add_assoc,Nat.add_comm 1]

theorem unstuff_eq_ok_iff (w x : Bytes) : unstuff w = .ok x ↔ Unstuffs w x := by
  simp [unstuff,unstuffAux_eq_ok_iff]

theorem unstuff_eq_error_iff (w : Bytes) (e : DanglingEscape) :
    unstuff w = .error e ↔ ∃ p x, Unstuffs p x ∧ w = p ++ [escapeByte] ∧ e.offset = x.length := by
  simp [unstuff,unstuffAux_eq_error_iff]

/-! ### The stuffed form -/

theorem Unstuffs.stuffByte_append (b : UInt8) {w x : Bytes} (h : Unstuffs w x) :
    Unstuffs (stuffByte b ++ w) (b :: x) := by
  cases hb : isSpecial b
  · rw [stuffByte_of_plain hb]
    exact .plain (by simpa using escape_ne_of_not_special hb) h
  · rw [stuffByte_of_special hb]
    simpa using Unstuffs.pair (Bytes.flip b) h

theorem unstuffs_stuff (x : Bytes) : Unstuffs (stuff x) x := by
  induction x with
  | nil => exact .nil
  | cons b x ih =>
    rw [stuff_cons]
    exact ih.stuffByte_append b

theorem unstuff_stuff (x : Bytes) : unstuff (stuff x) = .ok x :=
  (unstuff_eq_ok_iff _ _).2 (unstuffs_stuff x)

theorem stuffByte_eq_append_escape {a : UInt8} {p q : Bytes} (h : stuffByte a = p ++ escapeByte :: q) :
    isSpecial a = true ∧ p = [] ∧ q = [Bytes.flip a] := by
  cases ha : isSpecial a
  · -- a plain byte goes out as itself, so it would be the escape, which is special
    rw [stuffByte_of_plain ha,List.cons_eq_append_iff] at h
    rcases h with ⟨-,h⟩ | ⟨_,-,h⟩
    · simp only [List.cons.injEq] at h
      rw [← h.1] at ha
      exact Bool.noConfusion ha
    · simp at h
  · rw [stuffByte_of_special ha,List.cons_eq_append_iff] at h
    rcases h with ⟨rfl,h⟩ | ⟨p',-,h⟩
    · simp only [List.cons.injEq,true_and] at h
      exact ⟨rfl,rfl,h⟩
    · rw [List.cons_eq_append_iff] at h
      rcases h with ⟨-,h⟩ | ⟨_,-,h⟩
      · simp only [List.cons.injEq] at h
        have hf := isSpecial_flip ha
        rw [← h.1] at hf
        exact Bool.noConfusion hf
      · simp at h

theorem stuff_eq_append_escape {x p q : Bytes} (h : stuff x = p ++ escapeByte :: q) :
    ∃ x₁ b x₂, x = x₁ ++ b :: x₂ ∧ isSpecial b = true ∧ p = stuff x₁ ∧
      q = Bytes.flip b :: stuff x₂ := by
  induction x generalizing p with
  | nil => simp at h
  | cons a x ih =>
    rw [stuff_cons,List.append_eq_append_iff] at h
    rcases h with ⟨a',rfl,h⟩ | ⟨c',hc,h⟩
    · obtain ⟨x₁,b,x₂,rfl,hb,rfl,rfl⟩ := ih h
      exact ⟨a :: x₁,b,x₂,rfl,hb,by rw [stuff_cons],rfl⟩
    · cases c' with
      | nil =>
        have h' : stuff x = [] ++ escapeByte :: q := by
          rw [List.nil_append] at h ⊢
          exact h.symm
        obtain ⟨x₁,b,x₂,rfl,hb,hx₁,rfl⟩ := ih h'
        exact ⟨a :: x₁,b,x₂,rfl,hb,by rw [stuff_cons,← hx₁,List.append_nil,hc,List.append_nil],rfl⟩
      | cons y c' =>
        simp only [List.cons_append,List.cons.injEq] at h
        obtain ⟨rfl,rfl⟩ := h
        obtain ⟨ha,rfl,rfl⟩ := stuffByte_eq_append_escape hc
        exact ⟨[],a,x,rfl,ha,rfl,rfl⟩

/-- Byte stuffing is invertible and clean, and unstuffing fails exactly on a lone final escape. -/
theorem stuffing_invertible_clean :
    (∀ x : Bytes, unstuff (stuff x) = .ok x) ∧
    (∀ x : Bytes, (0x7E : UInt8) ∉ stuff x ∧ (0x11 : UInt8) ∉ stuff x ∧ (0x13 : UInt8) ∉ stuff x ∧
      ∀ p q, stuff x = p ++ 0x7D :: q →
        ∃ x₁ b x₂, x = x₁ ++ b :: x₂ ∧ isSpecial b = true ∧ p = stuff x₁ ∧
          q = (b ^^^ 0x20) :: stuff x₂) ∧
    ∀ (w : Bytes) (e : DanglingEscape),
      unstuff w = .error e ↔ ∃ p x, Unstuffs p x ∧ w = p ++ [0x7D] ∧ e.offset = x.length := by
  refine ⟨unstuff_stuff,fun x => ⟨?_,?_,?_,fun p q h => stuff_eq_append_escape h⟩,
    unstuff_eq_error_iff⟩
  all_goals exact reserved_not_mem_stuff (by decide) (by decide) x

end Frame
end RadioLink
