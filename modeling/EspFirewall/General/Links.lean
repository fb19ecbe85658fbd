import Mathlib.Data.Finset.Card
import Mathlib.Logic.Relation

/-!
# Chains of links

`f : α → Option α` says where the link at a point leads, if there is a link there.  Following links
either comes to a point without one or goes round in a circle, when only finitely many points are
linked to: `card_ahead_lt` says that each link followed leaves fewer of them ahead, unless it leads
into a circle.
-/

set_option autoImplicit false

namespace Links

universe u

variable {α : Type u} (f : α → Option α)

/-- Following one or more links from `a` leads to `b`. -/
def Leads : α → α → Prop := Relation.TransGen fun a b => f a = some b

/-- Following the links from `a` leads back to `a`. -/
def OnCycle (a : α) : Prop := Leads f a a

variable {f}

/-- The link at a point of a circle leads to a point of the circle. -/
theorem OnCycle.next {a : α} (h : OnCycle f a) : ∃ b, f a = some b ∧ OnCycle f b := by
  obtain ⟨b, hab, hba⟩ := Relation.TransGen.head'_iff.1 h
  exact ⟨b, hab, .tail' hba hab⟩

/-- A link that leads to itself. -/
theorem OnCycle.of_self {a : α} (h : f a = some a) : OnCycle f a := .single h

open Classical in
variable (f) in
/-- The points of `t` that lie ahead of `a`. -/
noncomputable def ahead (t : Finset α) (a : α) : Finset α := t.filter (Leads f a)

theorem mem_ahead {t : Finset α} {a b : α} : b ∈ ahead f t a ↔ b ∈ t ∧ Leads f a b := by
  classical
  exact Finset.mem_filter

/-- **Every link followed leaves fewer points ahead**, unless it leads into a circle. -/
theorem card_ahead_lt {t : Finset α} (ht : ∀ a b, f a = some b → b ∈ t) {a b : α}
    (hlink : f a = some b) (hcycle : ¬ OnCycle f b) :
    (ahead f t b).card < (ahead f t a).card := by
  have hsub : ahead f t b ⊆ ahead f t a := by
    intro c hc
    rw [mem_ahead] at hc ⊢
    exact ⟨hc.1, .head hlink hc.2⟩
  have hmem : b ∈ ahead f t a := mem_ahead.2 ⟨ht a b hlink, .single hlink⟩
  have hnot : b ∉ ahead f t b := fun hb => hcycle (mem_ahead.1 hb).2
  exact Finset.card_lt_card ((Finset.ssubset_iff_of_subset hsub).2 ⟨b, hmem, hnot⟩)

end Links
