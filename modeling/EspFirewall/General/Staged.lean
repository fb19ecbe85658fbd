import Mathlib.Tactic.Common

/-!
# Stores with staged writes

A store of settings in flash is written through a *handle*: writes are staged, a commit makes the
staged writes durable, and whatever has not been committed when the handle is closed is lost.
Each call may fail, and a call that fails does nothing.

The store itself is any type `σ` at all — a map from keys to values, or a record with a field for
each key — and a write is a function `σ → σ`.
-/

set_option autoImplicit false

namespace Staged

universe u

variable {σ : Type u}

/-- An open handle on a store. -/
structure Handle (σ : Type u) where
  /-- What a reboot would find. -/
  durable : σ
  /-- The store with the writes made through this handle. -/
  staged : σ

namespace Handle

/-- A handle just opened. -/
def fresh (s : σ) : Handle σ := ⟨s, s⟩

/-- Stage the write `f`; `ok` says whether the call succeeds. -/
def set (ok : Bool) (f : σ → σ) (h : Handle σ) : Handle σ :=
  if ok then { h with staged := f h.staged } else h

/-- Make the staged writes durable; `ok` says whether the call succeeds. -/
def commit (ok : Bool) (h : Handle σ) : Handle σ :=
  if ok then { h with durable := h.staged } else h

/-- Close the handle and keep what is durable. -/
def close (h : Handle σ) : σ := h.durable

@[simp] theorem fresh_durable (s : σ) : (fresh s).durable = s := rfl

@[simp] theorem fresh_staged (s : σ) : (fresh s).staged = s := rfl

@[simp] theorem set_durable (ok : Bool) (f : σ → σ) (h : Handle σ) :
    (h.set ok f).durable = h.durable := by cases ok <;> rfl

@[simp] theorem set_staged (ok : Bool) (f : σ → σ) (h : Handle σ) :
    (h.set ok f).staged = if ok then f h.staged else h.staged := by cases ok <;> rfl

@[simp] theorem commit_durable (ok : Bool) (h : Handle σ) :
    (h.commit ok).durable = if ok then h.staged else h.durable := by cases ok <;> rfl

@[simp] theorem close_eq (h : Handle σ) : h.close = h.durable := rfl

end Handle

end Staged
