import EspFirewall.Blocking
import EspFirewall.General.HexOctets
import EspFirewall.PostHandlers

/-!
# Changing the status of a device (`get_devices_handler`, `update_mac_handler`)

The dashboard gets the list of devices with their addresses as text, and posts one of these texts
with a new status.  `update_mac_handler` converts the text with `sscanf` and looks six octets up,
without asking how many of them `sscanf` has converted.

* `macRefused_iff` — which requests are refused.  Of a text with fewer than six octets the rest of
  the address is what was on the stack, and if that completes the address of a device, its status
  is changed.
* `updateMac_listed` — a text that the list shows selects the entry it is shown for, and no other.
-/

set_option autoImplicit false

namespace EspFirewall

open CLang CJson

variable {Num : Type}

/-! ## The list of the dashboard -/

/-- The text of a status. -/
def MacStatus.text : MacStatus → CString
  | .pending => .lit "PENDING"
  | .allowed => .lit "ALLOWED"
  | .blocked => .lit "BLOCKED"

/-- `get_devices_handler`: the items of the array that it sends. -/
def getDevicesHandler (t : DeviceTable) : List (Item Num) :=
  t.devices.map fun d =>
    .object [(.lit "mac", .string (macText d.mac)), (.lit "status", .string d.status.text)]

/-! ## Reading an address -/

/-- The octets of a text are read back from it. -/
theorem scanOctets_octetsText (bs : List UInt8) : scanOctets bs.length (octetsText bs) = bs := by
  induction bs using octetsText.induct with
  | case1 => rfl
  | case2 b =>
    have hscan := scanHhX_hexOctet b noDigit_nil
    rw [List.append_nil] at hscan
    rw [octetsText, List.length_singleton, scanOctets, hscan]
  | case3 b bs hne ih =>
    have hcolon : NoDigit (58 :: octetsText bs) := by
      intro c hc
      cases hc
      decide
    rw [octetsText, List.length_cons, scanOctets, scanHhX_hexOctet b hcolon]
    · exact congrArg (b :: ·) ih
    · exact hne

theorem scanOctets_length_le (n : ℕ) (bs : Bytes) : (scanOctets n bs).length ≤ n := by
  induction n generalizing bs with
  | zero => exact Nat.le_refl 0
  | succ n ih =>
    rw [scanOctets]
    split
    · exact Nat.succ_le_succ (ih _)
    · exact Nat.succ_le_succ (Nat.zero_le n)
    · exact Nat.zero_le _

theorem macText_bytes (mac : Mac) : (macText mac).bytes = octetsText mac.toList := by
  have hfmt : ascii "%02X:%02X:%02X:%02X:%02X:%02X" = octetsFormat mac.toList.length := by
    rw [Vector.length_toList]
    decide
  rw [macText, hfmt, format_octetsFormat, Option.getD_some, CString.ofMem_bytes]
  exact octetsText_nulFree _

theorem scanOctets_macText (mac : Mac) : scanOctets 6 (macText mac).bytes = mac.toList := by
  have h := scanOctets_octetsText mac.toList
  rwa [Vector.length_toList, ← macText_bytes] at h

/-- The address begins with the octets that were converted, and goes on as the stack does. -/
def Completes (octets : List UInt8) (junk mac : Mac) : Prop :=
  octets <+: mac.toList ∧ mac.toList.drop octets.length = junk.toList.drop octets.length

instance (octets : List UInt8) (junk mac : Mac) : Decidable (Completes octets junk mac) :=
  inferInstanceAs (Decidable (_ ∧ _))

/-- The converted octets, and behind them what was on the stack. -/
theorem sscanfMac_toList (macStr : CString) (junk : Mac) :
    (sscanfMac macStr junk).toList = scanOctets 6 macStr.bytes ++
      junk.toList.drop (scanOctets 6 macStr.bytes).length := by
  have hle := scanOctets_length_le 6 macStr.bytes
  refine List.ext_getElem ?_ fun i hi _ => ?_
  · rw [List.length_append, List.length_drop, Vector.length_toList, Vector.length_toList]
    omega
  · rw [Vector.length_toList] at hi
    have hget : (sscanfMac macStr junk)[i] = (scanOctets 6 macStr.bytes)[i]?.getD junk[i] :=
      Vector.getElem_ofFn hi
    rw [Vector.getElem_toList, hget]
    by_cases hscan : i < (scanOctets 6 macStr.bytes).length
    · rw [List.getElem?_eq_getElem hscan, Option.getD_some, List.getElem_append_left hscan]
    · rw [List.getElem?_eq_none (Nat.le_of_not_lt hscan), Option.getD_none,
        List.getElem_append_right (Nat.le_of_not_lt hscan), List.getElem_drop,
        Vector.getElem_toList]
      congr 1
      omega

/-- What `update_mac_handler` looks up. -/
theorem sscanfMac_eq_iff {macStr : CString} {junk mac : Mac} :
    sscanfMac macStr junk = mac ↔ Completes (scanOctets 6 macStr.bytes) junk mac := by
  rw [← Vector.toList_inj, sscanfMac_toList, Completes]
  constructor
  · intro h
    rw [← h, List.drop_left]
    exact ⟨List.prefix_append .., rfl⟩
  · rintro ⟨⟨rest, hrest⟩, hdrop⟩
    rw [← hrest, List.drop_left] at hdrop
    rw [← hdrop, hrest]

/-- **The address that is printed is read back**, whatever was on the stack. -/
theorem sscanfMac_macText (mac junk : Mac) : sscanfMac (macText mac) junk = mac := by
  rw [sscanfMac_eq_iff, scanOctets_macText, Completes, Vector.length_toList]
  refine ⟨List.prefix_refl _, ?_⟩
  rw [List.drop_of_length_le (Vector.length_toList ..).le,
    List.drop_of_length_le (Vector.length_toList ..).le]

/-! ## Requests -/

/-- The request carries an object whose `mac` is the string. -/
structure CarriesMac (lib : Library Num) (body : Option Bytes) (bytes : Bytes) (json : Item Num)
    (macStr : CString) : Prop where
  /-- It is received in these bytes. -/
  recv : httpdReqRecv 128 body = some bytes
  /-- They are the text of the object. -/
  parse : lib.parse (.ofMem bytes) = some json
  /-- It has the member. -/
  mac : json.getObjectItem "mac" = some (.string macStr)

/-- `JSON.stringify({ mac: mac, status: status })`, of two texts without anything to escape. -/
def macRequest (macStr statusStr : CString) : Bytes :=
  ascii "\x7b\"mac\":\"" ++ macStr.bytes ++ ascii "\",\"status\":\"" ++ statusStr.bytes ++
    ascii "\"\x7d"

/-- The object that it is the text of. -/
def macRequestObject (macStr statusStr : CString) : Item Num :=
  .object [(.lit "mac", .string macStr), (.lit "status", .string statusStr)]

theorem macRequestObject_status (macStr statusStr : CString) :
    (macRequestObject macStr statusStr : Item Num).getObjectItem "status" =
      some (.string statusStr) := by
  rw [macRequestObject, Item.getObjectItem_skip (by decide)]
  exact Item.getObjectItem_head ..

/-- A library that parses this text. -/
def macRequestLibrary (macStr statusStr : CString) : Library ℕ :=
  .ofText .ofNat (macRequest macStr statusStr) (macRequestObject macStr statusStr)

theorem macRequestLibrary_carriesMac {macStr statusStr : CString}
    (hlen : (macRequest macStr statusStr).length ≤ 128) :
    CarriesMac (macRequestLibrary macStr statusStr) (some (macRequest macStr statusStr))
      (macRequest macStr statusStr) (macRequestObject macStr statusStr) macStr where
  recv := httpdReqRecv_of_length_le nofun hlen
  parse := by
    have hnul : 0 ∉ macRequest macStr statusStr := by
      simp only [macRequest, List.mem_append, not_or]
      exact ⟨⟨⟨⟨by decide, macStr.nulFree⟩, by decide⟩, statusStr.nulFree⟩, by decide⟩
    refine Library.ofText_parse ?_ _
    rw [CString.ofMem_bytes hnul]
  mac := Item.getObjectItem_head ..

/-- An address and a status make 46 bytes. -/
theorem macRequest_length (mac : Mac) (status : MacStatus) :
    (macRequest (macText mac) status.text).length = 46 := by
  have hstatus : status.text.bytes.length = 7 := by cases status <;> decide
  simp only [macRequest, List.length_append, hstatus, macText_bytes, octetsText_length,
    Vector.length_toList]
  decide

/-! ## The handler -/

section

variable {lib : Library Num} {env : PostOutcome} {body : Option Bytes} {bytes : Bytes}
  {json statusItem : Item Num} {macStr : CString}

theorem updateMacHandler_noStatus (h : CarriesMac lib body bytes json macStr)
    (hroom : bytes.length < 128) (hstatus : json.getObjectItem "status" = none)
    (t : RouterTables) :
    updateMacHandler lib env body t = .ok (.err .badRequest "Missing parameters", t) := by
  rw [updateMacHandler, withJson_of_parse h.recv hroom h.parse, h.mac, hstatus]

theorem updateMacHandler_unknown (h : CarriesMac lib body bytes json macStr)
    (hroom : bytes.length < 128) (hstatus : json.getObjectItem "status" = some statusItem)
    {t : RouterTables} (hunknown : macExists (sscanfMac macStr env.junk) t.devices = false) :
    updateMacHandler lib env body t =
      .ok ({ HttpReply.err .notFound "MAC not found" with espOk := true }, t) := by
  rw [updateMacHandler, withJson_of_parse h.recv hroom h.parse, h.mac, hstatus]
  exact if_neg (Bool.eq_false_iff.1 hunknown)

theorem updateMacHandler_found (h : CarriesMac lib body bytes json macStr)
    (hroom : bytes.length < 128) (hstatus : json.getObjectItem "status" = some statusItem)
    {t : RouterTables} (hfound : macExists (sscanfMac macStr env.junk) t.devices = true) :
    updateMacHandler lib env body t = (nonNull statusItem.valuestring).map fun statusStr =>
      let r := updateMac (sscanfMac macStr env.junk) macStr statusStr t.devices
      (.sendOk, { t with devices := r.2.1, logs := t.logs ++ r.2.2 }) := by
  rw [updateMacHandler, withJson_of_parse h.recv hroom h.parse, h.mac, hstatus]
  refine (if_pos hfound).trans ?_
  cases nonNull statusItem.valuestring <;> rfl

end

/-- **The request is refused**: it is answered with an error, and changes no status. -/
def MacRefused (lib : Library Num) (env : PostOutcome) (body : Option Bytes) (t : RouterTables) :
    Prop :=
  ∃ reply t', updateMacHandler lib env body t = .ok (reply, t') ∧ reply.status ≠ .ok ∧
    t'.devices = t.devices

theorem macExists_sscanfMac_iff {macStr : CString} {junk : Mac} {t : DeviceTable} :
    macExists (sscanfMac macStr junk) t = true ↔
      ∃ d ∈ t.devices, Completes (scanOctets 6 macStr.bytes) junk d.mac := by
  rw [macExists_iff, List.mem_map]
  exact exists_congr fun d => and_congr_right fun _ => eq_comm.trans sscanfMac_eq_iff

/-- **Which requests are refused.**  One whose `mac` is a string, and that leaves room for the
terminator, is refused if it has no `status`, or if there is no device whose address begins with the
octets that `sscanf` converts and goes on as the stack does. -/
theorem macRefused_iff {lib : Library Num} {body : Option Bytes} {bytes : Bytes} {json : Item Num}
    {macStr : CString} (h : CarriesMac lib body bytes json macStr) (env : PostOutcome)
    (t : RouterTables) :
    MacRefused lib env body t ↔ bytes.length < 128 ∧ (json.getObjectItem "status" = none ∨
      ∀ d ∈ t.devices.devices, ¬ Completes (scanOctets 6 macStr.bytes) env.junk d.mac) := by
  by_cases hroom : bytes.length < 128
  swap
  · refine iff_of_false ?_ fun hrefused => hroom hrefused.1
    rintro ⟨reply, t', heq, -⟩
    rw [updateMacHandler, withJson_of_full h.recv (Nat.le_of_not_lt hroom)] at heq
    exact absurd heq nofun
  rw [and_iff_right hroom]
  cases hstatus : json.getObjectItem "status" with
  | none =>
    exact iff_of_true ⟨_, _, updateMacHandler_noStatus h hroom hstatus t, nofun, rfl⟩ (.inl rfl)
  | some statusItem =>
    rw [or_iff_right nofun]
    cases hfound : macExists (sscanfMac macStr env.junk) t.devices with
    | false =>
      have hnone := mt macExists_sscanfMac_iff.2 (Bool.eq_false_iff.1 hfound)
      rw [not_exists] at hnone
      exact iff_of_true ⟨_, _, updateMacHandler_unknown h hroom hstatus hfound, nofun, rfl⟩
        fun d hd hc => hnone d ⟨hd, hc⟩
    | true =>
      obtain ⟨d, hd, hc⟩ := macExists_sscanfMac_iff.1 hfound
      refine iff_of_false ?_ fun hall => hall d hd hc
      rintro ⟨reply, t', heq, hreply, -⟩
      rw [updateMacHandler_found h hroom hstatus hfound] at heq
      cases hs : nonNull statusItem.valuestring with
      | error fault =>
        rw [hs] at heq
        exact absurd heq nofun
      | ok statusStr =>
        rw [hs] at heq
        obtain ⟨rfl, -⟩ := Prod.mk.inj (Except.ok.inj heq)
        exact hreply rfl

/-- The tables with one device. -/
def oneStation : RouterTables :=
  { RouterTables.firstBoot with devices := addDevice stationMac .empty }

/-- An address is posted that ends behind the second octet. -/
theorem macRefused_partial :
    MacRefused (macRequestLibrary (.lit "02:00") (.lit "BLOCKED"))
      ⟨.ok, .ok, #v[0, 0, 0, 0, 0, 0]⟩ (some (macRequest (.lit "02:00") (.lit "BLOCKED")))
      oneStation :=
  (macRefused_iff (macRequestLibrary_carriesMac (by decide)) _ _).2 ⟨by decide, .inr (by decide)⟩

/-- Nothing is converted of an empty text, and the address of the device is on the stack. -/
theorem mac_from_stack : ¬ ∀ (lib : Library ℕ) (env : PostOutcome) (body : Option Bytes)
    (bytes : Bytes) (json : Item ℕ) (macStr : CString) (t : RouterTables),
    CarriesMac lib body bytes json macStr → (scanOctets 6 macStr.bytes).length < 6 →
      MacRefused lib env body t := by
  intro hall
  have hcarries := @macRequestLibrary_carriesMac .empty (.lit "BLOCKED") (by decide)
  obtain ⟨reply, t', heq, hreply, -⟩ :=
    hall _ ⟨.ok, .ok, stationMac⟩ _ _ _ _ oneStation hcarries (by decide)
  rw [updateMacHandler_found hcarries (by decide) (macRequestObject_status ..) (by decide)] at heq
  obtain ⟨rfl, -⟩ := Prod.mk.inj (Except.ok.inj heq)
  exact hreply rfl

/-! ## A listed device -/

/-- In a list without duplicates, an `/update_mac` for the address of an entry sets the status of
that entry. -/
theorem updateMac_entry {t : DeviceTable} (hnodup : (t.devices.map Device.mac).Nodup) {i : ℕ}
    {d : Device} (hi : t.devices[i]? = some d) (macStr : CString) {status : MacStatus}
    (hstatus : status = .allowed ∨ status = .blocked) :
    (updateMac d.mac macStr status.text t).2.1.devices =
      t.devices.modify i fun d => { d with status := status } := by
  have hexists : macExists d.mac t = true :=
    macExists_iff.2 (List.mem_map_of_mem (List.mem_of_getElem? hi))
  have hset : (t.setStatus d.mac status).devices =
      t.devices.modify i fun d => { d with status := status } := by
    have hidx : t.devices.findIdx (fun x => x.mac == d.mac) = i :=
      FirstMatch.findIdx_of_nodup hnodup hi
    exact congrArg (fun k => t.devices.modify k fun d => { d with status := status }) hidx
  rw [updateMac_devices, ← hset]
  rcases hstatus with rfl | rfl
  · rw [if_pos ⟨hexists, rfl⟩]
  · rw [if_neg (fun h => absurd h.2 (by decide)), if_pos ⟨hexists, rfl⟩]

/-- **A text that the list shows selects the entry it is shown for**: in every list that the device
can get to, posting the text of entry `i` with one of the two statuses sets the status of that
entry and of no other, and is answered with `OK`. -/
theorem updateMac_listed {s : ApState} (hs : StepSystem.Reachable ApState.handle (· = .boot) s)
    {t : RouterTables} (ht : t.devices = s.devices) {i : ℕ} (hi : i < t.devices.devices.length) :
    ∃ macStr, (getDevicesHandler t.devices : List (Item Num))[i]?.bind (·.getObjectItem "mac") =
        some (.string macStr) ∧
      ∀ (lib : Library Num) (env : PostOutcome) (body : Option Bytes) (bytes : Bytes)
        (json : Item Num) (status : MacStatus), CarriesMac lib body bytes json macStr →
        bytes.length < 128 → status = .allowed ∨ status = .blocked →
        json.getObjectItem "status" = some (.string status.text) →
        ∃ t', updateMacHandler lib env body t = .ok (.sendOk, t') ∧
          t'.devices.devices =
            t.devices.devices.modify i fun d => { d with status := status } := by
  have hnodup : (t.devices.devices.map Device.mac).Nodup := by
    rw [ht]
    refine hs.invariant ?_ ApState.handle_nodup
    rintro s rfl
    exact List.nodup_nil
  have hget : t.devices.devices[i]? = some t.devices.devices[i] := List.getElem?_eq_getElem hi
  generalize t.devices.devices[i] = d at hget
  refine ⟨macText d.mac, ?_, ?_⟩
  · rw [getDevicesHandler, List.getElem?_map, hget]
    exact Item.getObjectItem_head "mac" _ [(.lit "status", .string d.status.text)]
  · intro lib env body bytes json status hcarries hroom hallowed hstatus
    have hmac := sscanfMac_macText d.mac env.junk
    have hfound : macExists (sscanfMac (macText d.mac) env.junk) t.devices = true := by
      rw [hmac]
      exact macExists_iff.2 (List.mem_map_of_mem (List.mem_of_getElem? hget))
    refine ⟨_, updateMacHandler_found hcarries hroom hstatus hfound, ?_⟩
    rw [hmac]
    exact updateMac_entry hnodup hget _ hallowed

/-- The tables with two. -/
def twoStations : RouterTables :=
  { oneStation with devices := addDevice otherMac oneStation.devices }

/-- Two stations have connected, and the dashboard allows the first of them. -/
theorem updateMac_listed_station : ∃ t',
    updateMacHandler (macRequestLibrary (macText stationMac) (.lit "ALLOWED"))
      ⟨.ok, .ok, stationMac⟩ (some (macRequest (macText stationMac) (.lit "ALLOWED"))) twoStations =
        .ok (.sendOk, t') ∧
    t'.devices.devices = [⟨stationMac, .allowed⟩, ⟨otherMac, .pending⟩] := by
  have hboot : StepSystem.Reachable ApState.handle (· = .boot) .boot := .init rfl
  have htwo := (hboot.step (.event (.connect stationMac 1 true))).step
    (.event (.connect otherMac 2 true))
  obtain ⟨macStr, hshown, hall⟩ := @updateMac_listed ℕ _ htwo twoStations rfl 0 (by decide)
  obtain rfl : macText stationMac = macStr := Item.string.inj (Option.some.inj hshown)
  have hlen : (macRequest (macText stationMac) (.lit "ALLOWED")).length = 46 :=
    macRequest_length stationMac .allowed
  exact hall _ _ _ _ _ .allowed (macRequestLibrary_carriesMac (hlen.trans_le (by decide)))
    (hlen.trans_lt (by decide)) (.inl rfl) (macRequestObject_status ..)

end EspFirewall
