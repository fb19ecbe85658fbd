import EspFirewall.Portmap

/-!
# Port mapping changes that fail (`add_portmap`, `del_portmap`)

A change of a port mapping is made in three places: in `portmap_tab`, in the blob in NVS and in the
stack.  The table is changed first, and stays changed when NVS cannot be opened; what
`nvs_set_blob` and `nvs_commit` return is not looked at.  `allOrNothing_iff` says exactly when a
change is made everywhere, and reported, or nowhere.
-/

set_option autoImplicit false

namespace EspFirewall

variable {n : ℕ}

/-- A change of the port mappings. -/
inductive PortmapChange
  | add (proto : UInt8) (mport : UInt16) (daddr : UInt32) (dport : UInt16)
  | del (proto : UInt8) (mport : UInt16)

namespace PortmapChange

/-- Make the change. -/
def exec (out : PortmapSave) (s : Portmap n) : PortmapChange → PortmapErr × Portmap n
  | .add proto mport daddr dport => addPortmap out proto mport daddr dport s
  | .del proto mport => delPortmap out proto mport s

/-- The table shows the change: the mapping is in it, or there is none for the key. -/
def ShownBy (tab : Fin n → PortmapEntry) : PortmapChange → Prop
  | .add proto mport daddr dport => ∃ i, tab i = ⟨daddr, mport, dport, proto, true⟩
  | .del proto mport => KeyedTable.Free entryView tab (proto, mport)

/-- The blob shows the change; one that was never committed has no mappings. -/
def ShownByBlob (nvs : Option (Fin n → PortmapEntry)) (c : PortmapChange) : Prop :=
  match nvs with
  | some tab => c.ShownBy tab
  | none => ∃ proto mport, c = .del proto mport

/-- The stack shows the change. -/
def ShownByNat (nat : NatMap) : PortmapChange → Prop
  | .add proto mport daddr dport => nat (proto, mport) = some (daddr, dport)
  | .del proto mport => nat (proto, mport) = none

/-- The change is present in the table, in the committed blob and in the stack. -/
def Present (s : Portmap n) (c : PortmapChange) : Prop :=
  c.ShownBy s.tab ∧ c.ShownByBlob s.nvs ∧ c.ShownByNat s.nat

/-- The change deletes a key that is not in the table. -/
def DeletesAbsent (s : Portmap n) : PortmapChange → Prop
  | .add _ _ _ _ => False
  | .del proto mport => KeyedTable.Free entryView s.tab (proto, mport)

end PortmapChange

/-- The table, the committed blob and the stack are as they were. -/
def SameCopies (s s' : Portmap n) : Prop := s'.tab = s.tab ∧ s'.nvs = s.nvs ∧ s'.nat = s.nat

/-- The change is reported and present everywhere, or an error is reported and nothing has changed;
nothing changes either when an absent key is deleted. -/
def AllOrNothing (out : PortmapSave) (s : Portmap n) (c : PortmapChange) : Prop :=
  ((c.exec out s).1 = .ok ∧
    (c.Present (c.exec out s).2 ∨ c.DeletesAbsent s ∧ SameCopies s (c.exec out s).2)) ∨
  ((c.exec out s).1 ≠ .ok ∧ SameCopies s (c.exec out s).2)

/-- NVS will show the change: the table can be written and committed, or the blob shows the change
already. -/
def BlobWillShow (out : PortmapSave) (s : Portmap n) (c : PortmapChange) : Prop :=
  (out.wrote = true ∧ out.committed = true) ∨ c.ShownByBlob s.nvs

/-- What a change needs: NVS can be opened and will show it, unless there is nothing to do, because
the table is full or the key is not in it.  A key that is deleted must not be in the table twice. -/
def Achievable (out : PortmapSave) (s : Portmap n) (c : PortmapChange) : Prop :=
  match c with
  | .add _ _ _ _ => (∀ i, (s.tab i).valid = true) ∨ (out.opened = true ∧ BlobWillShow out s c)
  | .del proto mport => KeyedTable.Free entryView s.tab (proto, mport) ∨
      (out.opened = true ∧ BlobWillShow out s c ∧
        ∀ i j, (s.tab i).maps proto mport = true → (s.tab j).maps proto mport = true → i = j)

theorem savePortmapTab_eq (out : PortmapSave) (tab : Fin n → PortmapEntry)
    (nvs : Option (Fin n → PortmapEntry)) :
    savePortmapTab out tab nvs =
      if out.wrote = true ∧ out.committed = true then some tab else nvs := by
  obtain ⟨opened, wrote, committed⟩ := out
  cases wrote <;> cases committed <;> rfl

/-- The blob after a save shows the change if the table does and it was written, or if it did
before. -/
theorem shownByBlob_save {out : PortmapSave} {s : Portmap n} {tab : Fin n → PortmapEntry}
    {c : PortmapChange} (h : c.ShownBy tab) :
    c.ShownByBlob (savePortmapTab out tab s.nvs) ↔ BlobWillShow out s c := by
  rw [savePortmapTab_eq, BlobWillShow]
  split
  · next hok => exact iff_of_true h (.inl hok)
  · next hok => rw [or_iff_right hok]

theorem free_iff_maps {tab : Fin n → PortmapEntry} {proto : UInt8} {mport : UInt16} :
    KeyedTable.Free entryView tab (proto, mport) ↔
      ∀ i, (tab i).maps proto mport = false := by
  refine forall_congr' fun i => ?_
  rw [← Bool.not_eq_true, maps_iff, not_and]
  rfl

/-- Without the entry the key is free, if the entry was the only one. -/
theorem free_clear_iff {tab : Fin n → PortmapEntry} {proto : UInt8} {mport : UInt16} {i : Fin n}
    (hi : (tab i).maps proto mport = true) :
    KeyedTable.Free entryView (Function.update tab i { tab i with valid := false })
        (proto, mport) ↔
      ∀ j k, (tab j).maps proto mport = true → (tab k).maps proto mport = true → j = k := by
  rw [free_iff_maps]
  have hclear : ({ tab i with valid := false } : PortmapEntry).maps proto mport = false := rfl
  constructor
  · intro hfree
    have honly : ∀ j, (tab j).maps proto mport = true → j = i := by
      intro j hj
      by_contra hji
      have hnot := hfree j
      rw [Function.update_of_ne hji, hj] at hnot
      exact Bool.false_ne_true hnot.symm
    exact fun j k hj hk => (honly j hj).trans (honly k hk).symm
  · intro hunique j
    by_cases hji : j = i
    · rw [hji, Function.update_self]
      exact hclear
    · rw [Function.update_of_ne hji, ← Bool.not_eq_true]
      exact fun hj => hji (hunique j i hj hi)

/-- An entry whose flag changes is another entry. -/
theorem update_valid_ne {tab : Fin n → PortmapEntry} {i : Fin n} {e : PortmapEntry}
    (h : e.valid ≠ (tab i).valid) : Function.update tab i e ≠ tab := by
  intro heq
  have hi := congrFun heq i
  rw [Function.update_self] at hi
  exact h (congrArg PortmapEntry.valid hi)

/-- A change that was made in the table, but not in NVS for want of a handle, is neither. -/
theorem not_allOrNothing_of_closed {out : PortmapSave} {s s' : Portmap n} {c : PortmapChange}
    (hexec : c.exec out s = (.nvs, s')) (htab : s'.tab ≠ s.tab) : ¬ AllOrNothing out s c := by
  rw [AllOrNothing, hexec]
  rintro (⟨hok, -⟩ | ⟨-, hsame⟩)
  · exact PortmapErr.noConfusion hok
  · exact htab hsame.1

/-- A change that is reported is all or nothing if it is present, provided that the table has
changed. -/
theorem allOrNothing_iff_present {out : PortmapSave} {s s' : Portmap n} {c : PortmapChange}
    (hexec : c.exec out s = (.ok, s')) (htab : s'.tab ≠ s.tab) :
    AllOrNothing out s c ↔ c.Present s' := by
  rw [AllOrNothing, hexec]
  constructor
  · rintro (⟨-, hpresent | ⟨-, hsame⟩⟩ | ⟨hok, -⟩)
    · exact hpresent
    · exact absurd hsame.1 htab
    · exact absurd rfl hok
  · exact fun hpresent => .inl ⟨rfl, .inl hpresent⟩

/-- When `add_portmap` is all or nothing. -/
theorem add_allOrNothing_iff (out : PortmapSave) (s : Portmap n) (proto : UInt8) (mport : UInt16)
    (daddr : UInt32) (dport : UInt16) :
    AllOrNothing out s (.add proto mport daddr dport) ↔
      Achievable out s (.add proto mport daddr dport) := by
  have hexec : PortmapChange.exec out s (.add proto mport daddr dport) =
    addPortmap out proto mport daddr dport s := rfl
  rw [addPortmap] at hexec
  rcases hfirst : Slots.first (fun e : PortmapEntry => !e.valid) s.tab with _ | i
  · -- the table is full
    rw [hfirst] at hexec
    have hfull : ∀ i, (s.tab i).valid = true := fun i => by
      rw [← Bool.not_eq_false']
      exact Slots.first_eq_none_iff.1 hfirst i
    refine iff_of_true (.inr ?_) (.inl hfull)
    rw [hexec]
    exact ⟨PortmapErr.noConfusion, rfl, rfl, rfl⟩
  rw [hfirst] at hexec
  dsimp only at hexec
  have hi : (s.tab i).valid = false := Slots.eq_false_of_first hfirst
  have hnotFull : ¬ ∀ i, (s.tab i).valid = true := fun hall =>
    Bool.false_ne_true (hi.symm.trans (hall i))
  have htab : Function.update s.tab i ⟨daddr, mport, dport, proto, true⟩ ≠ s.tab :=
    update_valid_ne (by rw [hi]; exact Bool.false_ne_true.symm)
  rw [Achievable, or_iff_right hnotFull]
  split at hexec
  · next hopened =>
    have hshown : PortmapChange.ShownBy (Function.update s.tab i ⟨daddr, mport, dport, proto, true⟩)
      (.add proto mport daddr dport) := ⟨i, Function.update_self ..⟩
    rw [allOrNothing_iff_present hexec htab, and_iff_right hopened, PortmapChange.Present,
      and_iff_right hshown]
    dsimp only
    rw [shownByBlob_save hshown]
    exact and_iff_left (Function.update_self ..)
  · next hclosed =>
    exact iff_of_false (not_allOrNothing_of_closed hexec htab) fun h => hclosed h.1

/-- When `del_portmap` is all or nothing. -/
theorem del_allOrNothing_iff (out : PortmapSave) (s : Portmap n) (proto : UInt8) (mport : UInt16) :
    AllOrNothing out s (.del proto mport) ↔ Achievable out s (.del proto mport) := by
  have hexec : PortmapChange.exec out s (.del proto mport) = delPortmap out proto mport s := rfl
  rw [delPortmap] at hexec
  rcases hfirst : Slots.first (PortmapEntry.maps proto mport) s.tab with _ | i
  · -- the key is not in the table
    rw [hfirst] at hexec
    have hfree := free_iff_maps.2 (Slots.first_eq_none_iff.1 hfirst)
    refine iff_of_true (.inl ?_) (.inl hfree)
    rw [hexec]
    exact ⟨rfl, .inr ⟨hfree, rfl, rfl, rfl⟩⟩
  rw [hfirst] at hexec
  dsimp only at hexec
  have hi := (Slots.first_eq_some_iff.1 hfirst).1
  have hvalid : (s.tab i).valid = true := (maps_iff.1 hi).1
  have hnotFree : ¬ KeyedTable.Free entryView s.tab (proto, mport) := fun hfree =>
    hfree i hvalid (maps_iff.1 hi).2
  have htab : Function.update s.tab i { s.tab i with valid := false } ≠ s.tab :=
    update_valid_ne (by rw [hvalid]; exact Bool.false_ne_true)
  rw [Achievable, or_iff_right hnotFree]
  split at hexec
  · next hopened =>
    rw [allOrNothing_iff_present hexec htab, and_iff_right hopened]
    constructor
    · rintro ⟨hshown, hblob, -⟩
      exact ⟨(shownByBlob_save hshown).1 hblob, (free_clear_iff hi).1 hshown⟩
    · rintro ⟨hblob, hunique⟩
      have hshown : PortmapChange.ShownBy (Function.update s.tab i { s.tab i with valid := false })
        (.del proto mport) := (free_clear_iff hi).2 hunique
      exact ⟨hshown, (shownByBlob_save hshown).2 hblob, Function.update_self ..⟩
  · next hclosed =>
    exact iff_of_false (not_allOrNothing_of_closed hexec htab) fun h => hclosed h.1

/-- **When a change of a port mapping is all or nothing**, for every table, every change and whatever
the NVS calls return. -/
theorem allOrNothing_iff (out : PortmapSave) (s : Portmap n) (c : PortmapChange) :
    AllOrNothing out s c ↔ Achievable out s c := by
  rcases c with ⟨proto, mport, daddr, dport⟩ | ⟨proto, mport⟩
  · exact add_allOrNothing_iff out s proto mport daddr dport
  · exact del_allOrNothing_iff out s proto mport

/-- A mapping is added while NVS cannot be opened: an error is returned, and the mapping is in the
table. -/
theorem change_half_made : ¬ ∀ (n : ℕ) (out : PortmapSave) (s : Portmap n) (c : PortmapChange),
    AllOrNothing out s c := by
  intro h
  have hadd := (add_allOrNothing_iff _ _ _ _ _ _).1
    (h 1 ⟨false, true, true⟩ (.unused 0 []) (.add 6 8080 0x0204A8C0 80))
  rcases hadd with hfull | ⟨hopened, -⟩
  · exact Bool.false_ne_true (hfull 0)
  · exact Bool.false_ne_true hopened

end EspFirewall
