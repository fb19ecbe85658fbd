import Mathlib.Data.List.Nodup
import EspFirewall.General.FirstMatch
import EspFirewall.LogBuffer

/-!
# The device list (`esp32_nat_router.c`, `http_server.c`)

Every station that has been admitted once gets an entry in `device_list`, with a status that
`/update_mac` changes.  Whoever looks a MAC up takes the first entry that has it, and treats one
without an entry as pending.  Behind the change `/update_mac` logs the text of the MAC, as a format;
the log call is recorded, and taken to return.
-/

set_option autoImplicit false

namespace EspFirewall

open CLang

/-- `MAX_DEVICES`. -/
abbrev MAX_DEVICES : ℕ := 20

/-- A MAC address. -/
abbrev Mac := Vector UInt8 6

/-- `mac_status_t`. -/
inductive MacStatus
  | pending
  | allowed
  | blocked
deriving DecidableEq

/-- `device_t`. -/
structure Device where
  mac : Mac
  status : MacStatus
deriving DecidableEq

/-- `device_list` with `device_count`: the entries in use, in order. -/
structure DeviceTable where
  /-- The entries below `device_count`. -/
  devices : List Device
  /-- They fit in the array. -/
  length_le : devices.length ≤ MAX_DEVICES

/-- The list after a reset. -/
def DeviceTable.empty : DeviceTable := ⟨[], Nat.zero_le _⟩

/-- The loop by which a MAC is looked up: the first entry that has it. -/
def DeviceTable.find (mac : Mac) (t : DeviceTable) : Option Device :=
  t.devices.find? (·.mac == mac)

/-- The status of a MAC: that of its first entry, or pending. -/
def DeviceTable.statusOf (mac : Mac) (t : DeviceTable) : MacStatus :=
  match t.find mac with
  | some d => d.status
  | none => .pending

/-- `mac_exists`. -/
def macExists (mac : Mac) (t : DeviceTable) : Bool := (t.find mac).isSome

/-- `add_device`. -/
def addDevice (mac : Mac) (t : DeviceTable) : DeviceTable :=
  if h : t.devices.length < MAX_DEVICES ∧ macExists mac t = false then
    ⟨t.devices ++ [⟨mac, .pending⟩], by rw [List.length_append]; exact h.1⟩
  else t

/-- Set the status of the first entry that has a MAC. -/
def DeviceTable.setStatus (mac : Mac) (status : MacStatus) (t : DeviceTable) : DeviceTable :=
  ⟨t.devices.modify (t.devices.findIdx (·.mac == mac)) fun d => { d with status := status }, by
    rw [List.length_modify]; exact t.length_le⟩

/-- The loop of `update_mac_handler`, once the request is parsed: the text of the MAC, the octets
that `sscanf` has read from it, and the text of the status.  It returns whether the MAC was found,
the list, and the log calls. -/
def updateMac (mac : Mac) (macStr statusStr : CString) (t : DeviceTable) :
    Bool × DeviceTable × List LogCall :=
  if macExists mac t then
    if statusStr = .lit "ALLOWED" then
      (true, t.setStatus mac .allowed, [.fmt "MAC allowed:" [], .text macStr])
    else if statusStr = .lit "BLOCKED" then
      (true, t.setStatus mac .blocked, [.fmt "MAC blocked:" [], .text macStr])
    else (true, t, [])
  else (false, t, [])

/-- `sprintf(mac_str, "%02X:%02X:%02X:%02X:%02X:%02X", …)`. -/
def macText (mac : Mac) : CString :=
  .ofMem ((format (ascii "%02X:%02X:%02X:%02X:%02X:%02X")
    (mac.toList.map fun b => .int b.toNat)).getD [])

example : macText #v[0x8C, 0x1D, 0x96, 0x5F, 0x7D, 0xA5] = .lit "8C:1D:96:5F:7D:A5" := by decide

/-- The address of a station, for the examples. -/
def stationMac : Mac := #v[2, 0, 0, 0, 0, 1]

/-- That of another one. -/
def otherMac : Mac := #v[2, 0, 0, 0, 0, 2]

/-- In a list without duplicates a MAC has the status of its entry. -/
theorem statusOf_of_mem {t : DeviceTable} {d : Device} (hd : d ∈ t.devices)
    (hnodup : (t.devices.map Device.mac).Nodup) : t.statusOf d.mac = d.status := by
  rcases hfind : t.find d.mac with _ | e
  · rw [DeviceTable.find, List.find?_eq_none] at hfind
    exact absurd (beq_self_eq_true d.mac) (hfind d hd)
  · have hmac : e.mac = d.mac := by simpa using List.find?_some hfind
    have hmem : e ∈ t.devices := List.mem_of_find?_eq_some hfind
    rw [DeviceTable.statusOf, hfind]
    exact congrArg Device.status (List.inj_on_of_nodup_map hnodup hmem hd hmac)

/-! ## Looking a MAC up in a changed list -/

theorem macExists_iff {mac : Mac} {t : DeviceTable} :
    macExists mac t = true ↔ mac ∈ t.devices.map Device.mac := by
  simp [macExists, DeviceTable.find]

theorem macExists_of_statusOf {mac : Mac} {t : DeviceTable} (h : t.statusOf mac ≠ .pending) :
    macExists mac t = true := by
  rw [DeviceTable.statusOf] at h
  rw [macExists]
  split at h
  · next hfind => rw [hfind]; rfl
  · exact absurd rfl h

namespace DeviceTable

/-- A change of status changes no MAC. -/
theorem setStatus_macs (mac : Mac) (status : MacStatus) (t : DeviceTable) :
    (t.setStatus mac status).devices.map Device.mac = t.devices.map Device.mac :=
  FirstMatch.map_modify_of_eq (f := fun d : Device => { d with status := status }) (fun _ => rfl) ..

theorem statusOf_setStatus_self {mac : Mac} {t : DeviceTable} (h : macExists mac t = true)
    (status : MacStatus) : (t.setStatus mac status).statusOf mac = status := by
  have hfind : (t.setStatus mac status).find mac =
      (t.find mac).map fun d => { d with status := status } :=
    FirstMatch.find?_modify_self (p := fun d : Device => d.mac == mac)
      (f := fun d : Device => { d with status := status }) (fun _ h => h) _
  obtain ⟨d, hd⟩ := Option.isSome_iff_exists.1 h
  rw [statusOf, hfind, hd]
  rfl

/-- Other MACs keep their status. -/
theorem statusOf_setStatus_of_ne {mac mac' : Mac} (h : mac' ≠ mac) (status : MacStatus)
    (t : DeviceTable) : (t.setStatus mac status).statusOf mac' = t.statusOf mac' := by
  have hother : ∀ d : Device, (d.mac == mac) = true → (d.mac == mac') = false := by
    intro d hd
    rw [beq_eq_false_iff_ne, ne_eq, beq_iff_eq.1 hd]
    exact h.symm
  have hfind : (t.setStatus mac status).find mac' = t.find mac' :=
    FirstMatch.find?_modify_of_disjoint (f := fun d : Device => { d with status := status })
      hother hother _
  rw [statusOf, hfind, statusOf]

end DeviceTable

/-- **A new entry is pending**, which is what its MAC was without one. -/
theorem statusOf_addDevice (mac mac' : Mac) (t : DeviceTable) :
    (addDevice mac t).statusOf mac' = t.statusOf mac' := by
  rw [addDevice]
  split
  · rw [DeviceTable.statusOf, DeviceTable.statusOf, DeviceTable.find, DeviceTable.find,
      List.find?_append]
    cases t.devices.find? (fun d => d.mac == mac') with
    | some d => rfl
    | none =>
      rw [Option.none_or, List.find?_singleton]
      split
      · next hsome =>
        split at hsome
        · rw [← Option.some.inj hsome]
        · exact nomatch hsome
      · rfl
  · rfl

/-- The MACs after `add_device`: it appends one that is new while there is room. -/
theorem addDevice_macs (mac : Mac) (t : DeviceTable) :
    (addDevice mac t).devices.map Device.mac =
      if t.devices.length < MAX_DEVICES ∧ macExists mac t = false then
        t.devices.map Device.mac ++ [mac] else t.devices.map Device.mac := by
  rw [addDevice]
  split
  · rw [List.map_append]
    rfl
  · rfl

theorem nodup_addDevice {mac : Mac} {t : DeviceTable} (h : (t.devices.map Device.mac).Nodup) :
    ((addDevice mac t).devices.map Device.mac).Nodup := by
  rw [addDevice_macs]
  split
  · next hnew =>
    have hnotin : mac ∉ t.devices.map Device.mac := by
      rw [← macExists_iff, hnew.2]
      exact Bool.false_ne_true
    exact List.nodup_append_comm.1 (List.nodup_cons.2 ⟨hnotin, h⟩)
  · exact h

/-- What `/update_mac` does to the list: it leaves it alone or sets a status. -/
theorem updateMac_devices (mac : Mac) (macStr statusStr : CString) (t : DeviceTable) :
    (updateMac mac macStr statusStr t).2.1 =
      if macExists mac t = true ∧ statusStr = .lit "ALLOWED" then t.setStatus mac .allowed
      else if macExists mac t = true ∧ statusStr = .lit "BLOCKED" then t.setStatus mac .blocked
      else t := by
  rw [updateMac]
  by_cases hexists : macExists mac t = true
  · simp only [hexists, true_and, if_true]
    split
    · rfl
    · split <;> rfl
  · rw [if_neg hexists, if_neg (fun h => hexists h.1), if_neg (fun h => hexists h.1)]

end EspFirewall
