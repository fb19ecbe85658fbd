import EspFirewall.General.Slots
import EspFirewall.General.Staged
import EspFirewall.General.StepSystem
import EspFirewall.LogBuffer

/-!
# The domain filter (`domain_filter.c`)

The blocked domains sit in `MAX_BLOCKED_DOMAINS` slots, of which the ones below
`blocked_domain_count` are in use.  A domain that is removed keeps its slot, with the flag `active`
cleared, and a domain that is added again gets its old slot back.

The table is written to NVS as it stands, in one blob, and read back by `init_domain_filter`, which
recomputes the count from the last active slot.

A call logs the domain before it writes the table, with the domain as the format.  For which domains
`add_log_line` returns from that is said in `network_text_logged_iff`; here it is taken to return,
and the log call is recorded.

`DomainFilter.step` is one call from outside, a reboot included, with every NVS call succeeding.
-/

set_option autoImplicit false

namespace EspFirewall

open CLang

/-- `MAX_BLOCKED_DOMAINS`. -/
abbrev MAX_BLOCKED_DOMAINS : ℕ := 50

/-- `MAX_DOMAIN_LENGTH`. -/
abbrev MAX_DOMAIN_LENGTH : ℕ := 128

instance : NeZero MAX_DOMAIN_LENGTH := ⟨by decide⟩

/-! ## The table -/

/-- `blocked_domain_t`. -/
structure BlockedDomain where
  domain : CharBuf MAX_DOMAIN_LENGTH
  active : Bool
deriving DecidableEq

/-- A slot after `memset`. -/
def BlockedDomain.zero : BlockedDomain := ⟨.zero, false⟩

/-- The test of the loop of `init_domain_filter`. -/
def BlockedDomain.counted (e : BlockedDomain) : Bool :=
  e.active && decide (0 < e.domain.str.strlen)

/-- The slots of `blocked_domains`. -/
abbrev BlockedDomains := Fin MAX_BLOCKED_DOMAINS → BlockedDomain

/-- `blocked_domains` with `blocked_domain_count`. -/
structure DomainTable where
  /-- `blocked_domains`. -/
  slots : BlockedDomains
  /-- `blocked_domain_count`. -/
  count : ℕ
  /-- The loops bounded by the count stay inside the array. -/
  count_le : count ≤ MAX_BLOCKED_DOMAINS

namespace DomainTable

/-- Both zeroed. -/
def zero : DomainTable := ⟨fun _ => .zero, 0, Nat.zero_le _⟩

/-- Set the flag of slot `i`. -/
def setActive (t : DomainTable) (i : Fin MAX_BLOCKED_DOMAINS) (active : Bool) : DomainTable :=
  { t with slots := Function.update t.slots i { t.slots i with active := active } }

/-- Fill the slot at the count, and count it. -/
def append (t : DomainTable) (h : t.count < MAX_BLOCKED_DOMAINS) (e : BlockedDomain) :
    DomainTable :=
  ⟨Function.update t.slots ⟨t.count, h⟩ e, t.count + 1, h⟩

/-- The table of a blob, with the count that `init_domain_filter` computes for it. -/
def load (slots : BlockedDomains) : DomainTable :=
  ⟨slots, Slots.scanUp BlockedDomain.counted slots, by
    rw [Slots.scanUp_eq_highWater]; exact Slots.highWater_le _ _⟩

@[simp] theorem setActive_slots (t : DomainTable) (i : Fin MAX_BLOCKED_DOMAINS) (active : Bool) :
    (t.setActive i active).slots =
      Function.update t.slots i { t.slots i with active := active } := rfl

@[simp] theorem setActive_count (t : DomainTable) (i : Fin MAX_BLOCKED_DOMAINS)
    (active : Bool) : (t.setActive i active).count = t.count := rfl

@[simp] theorem append_slots (t : DomainTable) (h : t.count < MAX_BLOCKED_DOMAINS)
    (e : BlockedDomain) : (t.append h e).slots = Function.update t.slots ⟨t.count, h⟩ e := rfl

@[simp] theorem append_count (t : DomainTable) (h : t.count < MAX_BLOCKED_DOMAINS)
    (e : BlockedDomain) : (t.append h e).count = t.count + 1 := rfl

theorem append_slots_last (t : DomainTable) (h : t.count < MAX_BLOCKED_DOMAINS)
    (e : BlockedDomain) : (t.append h e).slots ⟨t.count, h⟩ = e := Function.update_self ..

theorem append_slots_of_ne {t : DomainTable} (h : t.count < MAX_BLOCKED_DOMAINS)
    (e : BlockedDomain) {i : Fin MAX_BLOCKED_DOMAINS} (hi : i.val ≠ t.count) :
    (t.append h e).slots i = t.slots i := by
  refine Function.update_of_ne ?_ ..
  rintro rfl
  exact hi rfl

/-- An entry in use keeps its slot. -/
theorem append_slots_of_lt {t : DomainTable} (h : t.count < MAX_BLOCKED_DOMAINS)
    (e : BlockedDomain) {i : Fin MAX_BLOCKED_DOMAINS} (hi : i.val < t.count) :
    (t.append h e).slots i = t.slots i := append_slots_of_ne h e (Nat.ne_of_lt hi)

@[simp] theorem load_slots (slots : BlockedDomains) : (load slots).slots = slots := rfl

theorem load_count (slots : BlockedDomains) :
    (load slots).count = Slots.highWater BlockedDomain.counted slots :=
  Slots.scanUp_eq_highWater _ _

end DomainTable

/-- The globals of `domain_filter.c`, the blob in NVS if one was ever committed, and the log calls
made so far. -/
structure DomainFilter where
  table : DomainTable
  /-- `blocked_domains` in NVS. -/
  nvs : Option BlockedDomains
  /-- The log calls made so far. -/
  logs : List LogCall

/-- What the NVS calls of one save return. -/
structure DomainSave where
  opened : Bool
  wrote : Bool
  committed : Bool

/-- Every call succeeds. -/
def DomainSave.ok : DomainSave := ⟨true, true, true⟩

/-- What the NVS calls of `init_domain_filter` return, apart from the read of a key that was never
written, which fails in any case. -/
structure DomainLoad where
  opened : Bool
  read : Bool

/-- Every call succeeds. -/
def DomainLoad.ok : DomainLoad := ⟨true, true⟩

/-- `add_log_line`, twice. -/
def DomainFilter.log (calls : List LogCall) (s : DomainFilter) : DomainFilter :=
  { s with logs := s.logs ++ calls }

/-- The block of `add_blocked_domain` and `remove_blocked_domain` that writes the table to NVS. -/
def saveBlockedDomains (out : DomainSave) (s : DomainFilter) : DomainFilter :=
  if out.opened then
    let h := Staged.Handle.fresh s.nvs
    let h := h.set out.wrote fun _ => some s.table.slots
    let h := if out.wrote then h.commit out.committed else h
    { s with nvs := h.close }
  else s

/-! ## Changing the table -/

/-- The test of the loops of `add_blocked_domain` and `remove_blocked_domain`. -/
def BlockedDomain.named (domain : CString) (e : BlockedDomain) : Bool :=
  strcaseEq e.domain.str domain

/-- `add_blocked_domain`. -/
def addBlockedDomain (out : DomainSave) (domain : Option CString) (s : DomainFilter) :
    Bool × DomainFilter :=
  match domain with
  | none => (false, s)
  | some domain =>
    if domain.strlen = 0 ∨ MAX_DOMAIN_LENGTH ≤ domain.strlen then (false, s)
    else match Slots.firstBelow s.table.count (BlockedDomain.named domain) s.table.slots with
      | some i => (true, { s with table := s.table.setActive i true })
      | none =>
        if h : s.table.count < MAX_BLOCKED_DOMAINS then
          (true, saveBlockedDomains out
            (({ s with table := s.table.append h ⟨.strncpy domain, true⟩ } : DomainFilter).log
              [.fmt "Blocked domain added:" [], .text domain]))
        else (false, s)

/-- `remove_blocked_domain`. -/
def removeBlockedDomain (out : DomainSave) (domain : Option CString) (s : DomainFilter) :
    Bool × DomainFilter :=
  match domain with
  | none => (false, s)
  | some domain =>
    if domain.strlen = 0 then (false, s)
    else match Slots.firstBelow s.table.count (BlockedDomain.named domain) s.table.slots with
      | some i =>
        (true, saveBlockedDomains out
          (({ s with table := s.table.setActive i false } : DomainFilter).log
            [.fmt "Blocked domain removed:" [], .text domain]))
      | none => (false, s)

/-- `init_domain_filter`. -/
def initDomainFilter (out : DomainLoad) (s : DomainFilter) : DomainFilter :=
  { s with
    table := match out.opened && out.read, s.nvs with
      | true, some slots => .load slots
      | _, _ => .zero }

/-- Power on: `init_domain_filter` over what NVS holds. -/
def bootDomainFilter (out : DomainLoad) (nvs : Option BlockedDomains) : DomainFilter :=
  initDomainFilter out ⟨.zero, nvs, []⟩

/-! ## Deciding a query -/

/-- `domain_matches`: the two strings are copied into arrays of `MAX_DOMAIN_LENGTH` bytes and put
into lower case, and then compared in three ways. -/
def domainMatches (query pattern : CString) : Bool :=
  let q := lower (query.take (MAX_DOMAIN_LENGTH - 1)).bytes
  let p := lower (pattern.take (MAX_DOMAIN_LENGTH - 1)).bytes
  let suffix := p.drop 2
  q == p ||
  -- the pattern starts with "*."
  (p.take 2 == [42, 46] &&
    (decide (suffix.length ≤ q.length) && (q.drop (q.length - suffix.length) == suffix &&
      (q.length == suffix.length || q[q.length - suffix.length - 1]? == some 46)))) ||
  (decide (p.length < q.length) && (q.drop (q.length - p.length) == p &&
    q[q.length - p.length - 1]? == some 46))

/-- The test of the loop of `is_domain_blocked`. -/
def BlockedDomain.blocks (domain : CString) (e : BlockedDomain) : Bool :=
  e.active && domainMatches domain e.domain.str

/-- `is_domain_blocked`. -/
def isDomainBlocked (t : DomainTable) (domain : Option CString) : Bool :=
  match domain with
  | none => false
  | some domain =>
    if domain.strlen = 0 then false
    else (Slots.firstBelow t.count (BlockedDomain.blocks domain) t.slots).isSome

/-- `get_blocked_domains_count`. -/
def getBlockedDomainsCount (t : DomainTable) : ℕ :=
  (List.finRange MAX_BLOCKED_DOMAINS).countP fun i =>
    decide (i.val < t.count) && (t.slots i).active

/-! ## Runs -/

/-- A call of the domain filter from outside. -/
inductive DomainOp
  | add (domain : Option CString)
  | remove (domain : Option CString)
  | reboot

namespace DomainFilter

/-- What a reboot leads to. -/
def reboot (s : DomainFilter) : DomainFilter := bootDomainFilter .ok s.nvs

/-- One call, with every NVS call succeeding. -/
def step (s : DomainFilter) : DomainOp → DomainFilter
  | .add domain => (addBlockedDomain .ok domain s).2
  | .remove domain => (removeBlockedDomain .ok domain s).2
  | .reboot => s.reboot

/-- The first boot of a device: nothing in NVS yet. -/
def firstBoot : DomainFilter := bootDomainFilter .ok none

end DomainFilter

end EspFirewall
