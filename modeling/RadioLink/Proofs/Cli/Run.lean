import RadioLink.Cli.Execute
/-! Runs of the tool, evaluated. `Run.exec` runs a step from a process to its outcome and the
process it leaves; one equation for bind and one for each primitive step let a proof follow a
program line by line without unfolding the monad. -/
namespace RadioLink
namespace Cli
namespace Run

/-- The outcome of running `x` from the process `p`, and the process it leaves. -/
def exec {α : Type} (x : Run α) (p : Process) : Except Ending α × Process := (x.run.run p).run

theorem exec_bind {α β : Type} (x : Run α) (f : α → Run β) (p : Process) :
    exec (x >>= f) p = match exec x p with
      | (.ok a,p') => exec (f a) p'
      | (.error e,p') => (.error e,p') := by
  simp only [exec,ExceptT.run_bind,StateT.run_bind]
  rcases h : (x.run.run p).run with ⟨r,p'⟩
  cases r <;> simp_all

@[simp] theorem exec_map {α β : Type} (f : α → β) (x : Run α) (p : Process) :
    exec (f <$> x) p = match exec x p with
      | (.ok a,p') => (.ok (f a),p')
      | (.error e,p') => (.error e,p') := by
  rw [← bind_pure_comp,exec_bind]
  rcases exec x p with ⟨_ | _,p'⟩ <;> rfl

@[simp] theorem exec_pure {α : Type} (a : α) (p : Process) : exec (pure a) p = (.ok a,p) := rfl

@[simp] theorem exec_get (p : Process) : exec get p = (.ok p,p) := rfl

@[simp] theorem exec_set (p q : Process) : exec (set q) p = (.ok (),q) := rfl

@[simp] theorem exec_modify (f : Process → Process) (p : Process) : exec (modify f) p = (.ok (),f p) :=
  rfl

@[simp] theorem exec_throw {α : Type} (e : Ending) (p : Process) :
    exec (throw e : Run α) p = (.error e,p) := rfl

@[simp] theorem exec_say (lines : List String) (p : Process) :
    exec (say lines) p = (.ok (),{ p with stdout := p.stdout ++ lines }) := rfl

@[simp] theorem exec_exit {α : Type} (code : Nat) (p : Process) :
    exec (exit code : Run α) p = (.error (.exit code),p) := rfl

@[simp] theorem exec_fail {α : Type} (f : Failure) (p : Process) :
    exec (fail f : Run α) p = (.error (.exit f.code),{ p with stderr := p.stderr ++ ["error: " ++ f.message] }) :=
  rfl

@[simp] theorem exec_orFail {α : Type} (x : Except Failure α) (p : Process) :
    exec (orFail x) p = match x with
      | .ok a => (.ok a,p)
      | .error f => (.error (.exit f.code),{ p with stderr := p.stderr ++ ["error: " ++ f.message] }) := by
  cases x <;> rfl

@[simp] theorem exec_rig (p : Process) :
    exec rig p = match p.rig with
      | some r => (.ok r,p)
      | none => (.error (.exit exitInternal),p) := by
  cases h : p.rig <;> simp [rig,exec_bind,h]

@[simp] theorem exec_setRig (r : Rig) (p : Process) : exec (setRig r) p = (.ok (),{ p with rig := some r }) :=
  rfl

@[simp] theorem exec_sleepUntil (t : Duration) (p : Process) :
    exec (sleepUntil t) p =
      if t.nanos ≥ p.host.limit.nanos then (.error .stopped,{ p with now := p.host.limit })
      else (.ok (),if t.nanos > p.now.nanos then { p with now := t } else p) := by
  by_cases hn : t.nanos ≥ p.host.limit.nanos
  · simp [sleepUntil,exec_bind,hn]
  · by_cases hlt : t.nanos > p.now.nanos <;> simp [sleepUntil,exec_bind,hn,hlt]

theorem exec_sleepUntil_of_lt {t : Duration} {p : Process} (h : t.nanos < p.host.limit.nanos) :
    exec (sleepUntil t) p = (.ok (),{ p with now := ⟨max p.now.nanos t.nanos⟩ }) := by
  have hn : ¬ t.nanos ≥ p.host.limit.nanos := by omega
  by_cases hlt : t.nanos > p.now.nanos
  · simp [hn,hlt,Nat.max_eq_right (Nat.le_of_lt hlt)]
  · have hmax : max p.now.nanos t.nanos = p.now.nanos := by omega
    simp only [exec_sleepUntil,hn,hlt,if_false,hmax]

theorem exec_wakeBy_asleep {p : Process} {r : Rig} (hr : p.rig = some r) (ha : r.awake = false)
    {d : Duration} (hd : r.device.delay.nanos < d.nanos)
    (hl : max p.now.nanos r.device.delay.nanos < p.host.limit.nanos) :
    exec (wakeBy (some d)) p =
      (.ok (),{ p with now := ⟨max p.now.nanos r.device.delay.nanos⟩, rig := some r.wake }) := by
  have hsleep : exec (sleepUntil ⟨max p.now.nanos r.device.delay.nanos⟩) p =
      (.ok (),{ p with now := ⟨max p.now.nanos r.device.delay.nanos⟩ }) := by
    rw [exec_sleepUntil_of_lt hl,Nat.max_eq_right (Nat.le_max_left _ _)]
  simp only [wakeBy,exec_bind,exec_rig,hr,ha,hd,decide_true,Bool.not_false,Bool.and_self,if_true,exec_get,
    hsleep,exec_setRig]

theorem exec_wakeBy_late {p : Process} {r : Rig} (hr : p.rig = some r) {d : Duration}
    (hd : ¬ r.device.delay.nanos < d.nanos) : exec (wakeBy (some d)) p = (.ok (),p) := by
  simp [wakeBy,exec_bind,hr,hd]

/-- The transcript of a program is what its run from a fresh process on the host leaves. -/
theorem transcript_eq (h : Host) (x : Run Unit) :
    transcript h x =
      { ending := match (exec x { host := h }).1 with
          | .ok () => .exit exitSuccess
          | .error e => e,
        stdout := (exec x { host := h }).2.stdout, stderr := (exec x { host := h }).2.stderr,
        deviceSaw := ((exec x { host := h }).2.rig.map (·.saw)).getD [] } := rfl

theorem transcript_congr {h : Host} {x y : Run Unit} (he : exec x { host := h } = exec y { host := h }) :
    transcript h x = transcript h y := by
  rw [transcript_eq,transcript_eq,he]

end Run
end Cli
end RadioLink
