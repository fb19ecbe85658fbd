import EspFirewall.General.StepSystem

/-!
# The last write

A cell of a program's state, a setting or a flag, keeps its value until an input writes to it.  So
after a run it holds what was written to it last, and nothing else about the run matters: not the
inputs that write to other cells, and not their order.

* `LastWrite.writes` — what the inputs of a run write to a cell, in order.  What an input writes
  may depend on the state it finds.
* `LastWrite.value` — the last of these, or what the cell held before.
* `LastWrite.view_run` — a cell that every step leaves alone or writes as it should holds the last
  write after every run.
-/

set_option autoImplicit false

namespace LastWrite

universe u v w

variable {σ : Type u} {ι : Type v} {ω : Type w}

/-- What the inputs of a run write to a cell. -/
def writes (step : σ → ι → σ) (write : σ → ι → Option ω) (s : σ) (is : List ι) : List ω :=
  StepSystem.outputs step (fun s i => (write s i).toList) s is

/-- What a cell holds after some writes. -/
def value (v : ω) (ws : List ω) : ω := ws.getLast?.getD v

theorem value_append (v : ω) (a b : List ω) : value v (a ++ b) = value (value v a) b := by
  rw [value, value, value, List.getLast?_append]
  cases b.getLast? <;> rfl

/-- One write, or none. -/
theorem value_toList (v : ω) (w : Option ω) : value v w.toList = w.getD v := by
  cases w <;> rfl

/-- The last write behind one more input. -/
theorem value_writes_concat {step : σ → ι → σ} {write : σ → ι → Option ω} (v : ω) (s : σ)
    (is : List ι) (i : ι) : value v (writes step write s (is ++ [i])) =
      (write (StepSystem.run step s is) i).getD (value v (writes step write s is)) := by
  rw [writes, StepSystem.outputs_append, value_append, StepSystem.outputs, StepSystem.outputs,
    List.append_nil, value_toList]
  rfl

/-- The same for inputs that write the same in every state. -/
theorem value_filterMap_concat {write : ι → Option ω} (v : ω) (is : List ι) (i : ι) :
    value v ((is ++ [i]).filterMap write) = (write i).getD (value v (is.filterMap write)) := by
  have hone : [i].filterMap write = (write i).toList := by
    rw [List.filterMap_cons]
    cases write i <;> rfl
  rw [List.filterMap_append, value_append, hone, value_toList]

/-- A cell that no input writes to. -/
theorem writes_eq_nil {step : σ → ι → σ} {write : σ → ι → Option ω} (h : ∀ s i, write s i = none)
    (s : σ) (is : List ι) : writes step write s is = [] := by
  induction is generalizing s with
  | nil => rfl
  | cons i is ih =>
    rw [writes, StepSystem.outputs, h]
    exact ih (step s i)

section

variable {step : σ → ι → σ} {write : σ → ι → Option ω} (view : σ → ω)

/-- **The cell holds the last write.**  `Legal` is what the environment promises about the inputs,
and `Inv` what has to be known about a state for a step to write as it should. -/
theorem view_run {Inv : σ → Prop} {Legal : σ → ι → Prop}
    (hinv : ∀ s i, Legal s i → Inv s → Inv (step s i))
    (hview : ∀ s i, Legal s i → Inv s → view (step s i) = (write s i).getD (view s))
    {s : σ} {is : List ι} (hlegal : StepSystem.EveryStep step Legal s is) (hs : Inv s) :
    view (StepSystem.run step s is) = value (view s) (writes step write s is) := by
  induction is generalizing s with
  | nil => rfl
  | cons i is ih =>
    rw [writes, StepSystem.outputs, value_append, value_toList, ← hview s i hlegal.1 hs]
    exact ih hlegal.2 (hinv s i hlegal.1 hs)

/-- `view_run` for a step that writes as it should in every state. -/
theorem view_run' (hview : ∀ s i, view (step s i) = (write s i).getD (view s)) (s : σ)
    (is : List ι) : view (StepSystem.run step s is) = value (view s) (writes step write s is) :=
  view_run view (fun _ _ (_ : True) (_ : True) => trivial) (fun s i _ _ => hview s i)
    (.of_forall fun _ _ => trivial) trivial

/-- `view_run` for inputs that write the same in every state, and with nothing promised. -/
theorem view_run_filterMap {Inv : σ → Prop} {write : ι → Option ω}
    (hinv : ∀ s i, Inv s → Inv (step s i))
    (hview : ∀ s i, Inv s → view (step s i) = (write i).getD (view s))
    {s : σ} (is : List ι) (hs : Inv s) :
    view (StepSystem.run step s is) = value (view s) (is.filterMap write) := by
  have hwrites : writes step (fun _ => write) s is = is.filterMap write :=
    StepSystem.outputs_eq_filterMap write s is
  rw [← hwrites]
  exact view_run view (fun s i (_ : True) => hinv s i) (fun s i _ => hview s i)
    (.of_forall fun _ _ => trivial) hs

end

end LastWrite
