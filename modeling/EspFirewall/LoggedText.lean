import EspFirewall.Devices
import EspFirewall.Dns.Filtering

/-!
# Text from the network in the log

`add_log_line` takes a format, and four of its callers pass it a text that comes from the network:
the DNS server the name of a blocked query, the domain filter a domain that is added or removed,
and the handler of `/update_mac` the text of a MAC address.  Such a text is logged as it is only if
it prints itself (`PrintsItself`), and nothing makes sure that it does.

The log calls of each caller are computed first; `network_text_logged_iff` then says, for each of
the four, what its text has to be like.
-/

set_option autoImplicit false

namespace EspFirewall

open CLang

/-! ## What is logged -/

/-- Every text that one of the calls passes as its format is logged as data. -/
def TextsLogged (log : LogBuffer) (calls : List LogCall) : Prop :=
  ∀ d, LogCall.text d ∈ calls → LoggedAsData log d

theorem textsLogged_singleton (log : LogBuffer) (d : CString) :
    TextsLogged log [.text d] ↔ PrintsItself (LOG_LINE_MAX_LEN - 1) d.bytes := by
  rw [← loggedAsData_iff log]
  refine ⟨fun h => h d List.mem_cons_self, fun h e he => ?_⟩
  obtain rfl : e = d := congrArg LogCall.format (List.mem_singleton.1 he)
  exact h

/-- A fixed line in front makes no difference. -/
theorem textsLogged_line (log : LogBuffer) {line : String}
    (hline : PrintsItself (LOG_LINE_MAX_LEN - 1) (CString.lit line).bytes) (d : CString) :
    TextsLogged log [.fmt line [], .text d] ↔ PrintsItself (LOG_LINE_MAX_LEN - 1) d.bytes := by
  rw [← textsLogged_singleton log]
  refine ⟨fun h e he => h e (List.mem_cons_of_mem _ he), fun h e he => ?_⟩
  rcases List.mem_cons.1 he with hfmt | htext
  · obtain rfl : e = .lit line := congrArg LogCall.format hfmt
    exact (loggedAsData_iff log _).2 hline
  · exact h e htext

/-! ## The callers -/

theorem queryLogs_cases (t : DomainTable) {domain : CString}
    (hlen : domain.strlen < DNS_DOMAIN_SIZE) : queryLogs t domain = [] ∨
      queryLogs t domain = [.text ((CString.lit "BLOCKED: ").append domain)] := by
  have hmessage := blockedMessage_eq domain
  rw [queryLogs]
  split
  · rw [hmessage]
    dsimp only
    rw [blockedMessage_str hlen hmessage]
    exact .inr rfl
  · exact .inl rfl

/-- What a round of the DNS server logs. -/
theorem dnsIterationLogs_cases {t : DomainTable} {old : Mem} {data : Bytes} {logs : List LogCall}
    (h : DnsIterationLogs t old data logs) :
    logs = [] ∨ ∃ o domain,
      ParsesName (old.write (data.take DNS_MAX_PACKET_SIZE)) DNS_HEADER_SIZE DNS_DOMAIN_SIZE
        (some (o, domain)) ∧
      logs = [.text ((CString.lit "BLOCKED: ").append domain)] := by
  rcases h.cases with hnone | ⟨o, domain, -, -, hparse, -, hlogs⟩
  · exact .inl hnone
  · rcases queryLogs_cases t (hparse.strlen_lt (by decide)) with hcase | hcase
    · exact .inl (hlogs.trans hcase)
    · exact .inr ⟨o, domain, hparse, hlogs.trans hcase⟩

theorem answerQuery_logs {t : DomainTable} {net : NetOutcome} {query : Bytes} {client : SockAddr}
    {domain : CString} {out : IterOutcome}
    (h : answerQuery t net query client domain = some out) : out.logs = queryLogs t domain := by
  rw [answerQuery] at h
  rw [queryLogs]
  by_cases hblocked : isDomainBlocked t (some domain) = true
  · rw [if_pos hblocked, blockedMessage_eq] at h ⊢
    dsimp only at h ⊢
    split at h
    · split at h
      · cases h
        rfl
      · cases h
    · cases h
  · rw [if_neg hblocked] at h ⊢
    split at h
    · split at h <;> (cases h; rfl)
    · cases h
      rfl

/-- A round that has an outcome has made these calls. -/
theorem DnsIteration.logs {t : DomainTable} {net : NetOutcome} {old : Mem} {data : Bytes}
    {client : SockAddr} {out : IterOutcome} (h : DnsIteration t net old data client (some out)) :
    DnsIterationLogs t old data out.logs :=
  DnsRound.imp h (fun hskip => congrArg IterOutcome.logs (Option.some.inj hskip))
    fun _ hout => answerQuery_logs hout.symm

@[simp] theorem saveBlockedDomains_logs (out : DomainSave) (s : DomainFilter) :
    (saveBlockedDomains out s).logs = s.logs := by
  rw [saveBlockedDomains]
  split <;> rfl

theorem addBlockedDomain_logs (out : DomainSave) (domain : CString) (s : DomainFilter) :
    (addBlockedDomain out (some domain) s).2.logs = s.logs ∨
      (addBlockedDomain out (some domain) s).2.logs =
        s.logs ++ [.fmt "Blocked domain added:" [], .text domain] := by
  rw [addBlockedDomain]
  split
  · exact .inl rfl
  split
  · exact .inl rfl
  split
  · exact .inr (saveBlockedDomains_logs ..)
  · exact .inl rfl

theorem removeBlockedDomain_logs (out : DomainSave) (domain : CString) (s : DomainFilter) :
    (removeBlockedDomain out (some domain) s).2.logs = s.logs ∨
      (removeBlockedDomain out (some domain) s).2.logs =
        s.logs ++ [.fmt "Blocked domain removed:" [], .text domain] := by
  rw [removeBlockedDomain]
  split
  · exact .inl rfl
  split
  · exact .inr (saveBlockedDomains_logs ..)
  · exact .inl rfl

theorem updateMac_logs (mac : Mac) (macStr statusStr : CString) (t : DeviceTable) :
    (updateMac mac macStr statusStr t).2.2 = [] ∨
      (updateMac mac macStr statusStr t).2.2 = [.fmt "MAC allowed:" [], .text macStr] ∨
      (updateMac mac macStr statusStr t).2.2 = [.fmt "MAC blocked:" [], .text macStr] := by
  rw [updateMac]
  split
  · split
    · exact .inr (.inl rfl)
    split
    · exact .inr (.inr rfl)
    · exact .inl rfl
  · exact .inl rfl

/-! ## Whether it is logged as data -/

/-- **When text from the network is logged as data.**  Whenever one of the four callers logs a
text, it is logged as data exactly when it prints itself: the name of a blocked query with its
prefix, the domain that was added, the domain that was removed, the text of the MAC.  For the
queries this goes beyond the rounds that have an outcome. -/
theorem network_text_logged_iff (log : LogBuffer) :
    (∀ t net old data client out, DnsIteration t net old data client (some out) →
      DnsIterationLogs t old data out.logs) ∧
    (∀ t old data logs, DnsIterationLogs t old data logs → logs ≠ [] → ∃ o domain,
        ParsesName (old.write (data.take DNS_MAX_PACKET_SIZE)) DNS_HEADER_SIZE DNS_DOMAIN_SIZE
          (some (o, domain)) ∧
        (TextsLogged log logs ↔
          PrintsItself (LOG_LINE_MAX_LEN - 1) (ascii "BLOCKED: " ++ domain.bytes))) ∧
    (∀ out domain (s : DomainFilter) calls,
      (addBlockedDomain out (some domain) s).2.logs = s.logs ++ calls → calls ≠ [] →
        (TextsLogged log calls ↔ PrintsItself (LOG_LINE_MAX_LEN - 1) domain.bytes)) ∧
    (∀ out domain (s : DomainFilter) calls,
      (removeBlockedDomain out (some domain) s).2.logs = s.logs ++ calls → calls ≠ [] →
        (TextsLogged log calls ↔ PrintsItself (LOG_LINE_MAX_LEN - 1) domain.bytes)) ∧
    (∀ mac macStr statusStr t, (updateMac mac macStr statusStr t).2.2 ≠ [] →
      (TextsLogged log (updateMac mac macStr statusStr t).2.2 ↔
        PrintsItself (LOG_LINE_MAX_LEN - 1) macStr.bytes)) := by
  refine ⟨fun _ _ _ _ _ _ => DnsIteration.logs, ?_, ?_, ?_, ?_⟩
  · intro t old data logs hround hne
    obtain hnone | ⟨o, domain, hparse, hlogs⟩ := dnsIterationLogs_cases hround
    · exact absurd hnone hne
    · refine ⟨o, domain, hparse, ?_⟩
      rw [hlogs, textsLogged_singleton]
      exact Iff.rfl
  · intro out domain s calls hcalls hne
    rcases addBlockedDomain_logs out domain s with hsame | hlogs
    · exact absurd (List.self_eq_append_right.1 (hsame.symm.trans hcalls)) hne
    · obtain rfl := List.append_cancel_left (hlogs.symm.trans hcalls)
      exact textsLogged_line log (by decide) domain
  · intro out domain s calls hcalls hne
    rcases removeBlockedDomain_logs out domain s with hsame | hlogs
    · exact absurd (List.self_eq_append_right.1 (hsame.symm.trans hcalls)) hne
    · obtain rfl := List.append_cancel_left (hlogs.symm.trans hcalls)
      exact textsLogged_line log (by decide) domain
  · intro mac macStr statusStr t hne
    rcases updateMac_logs mac macStr statusStr t with hnone | hlogs | hlogs
    · exact absurd hnone hne
    · rw [hlogs]
      exact textsLogged_line log (by decide) macStr
    · rw [hlogs]
      exact textsLogged_line log (by decide) macStr

/-- Adding `ads.com`, for example, is logged as it should be. -/
theorem network_text_logged_add :
    TextsLogged .empty [.fmt "Blocked domain added:" [], .text (.lit "ads.com")] :=
  ((network_text_logged_iff .empty).2.2.1 .ok (.lit "ads.com") .firstBoot
    [.fmt "Blocked domain added:" [], .text (.lit "ads.com")] (by decide +kernel)
    (List.cons_ne_nil _ _)).2 (by decide)

/-- The labels of the name `%s.ads.com`. -/
def formatLabels : List Bytes := [ascii "%s", ascii "ads", ascii "com"]

theorem nameQuery_format : NameQuery (addressQuery formatLabels) formatLabels :=
  nameQuery_addressQuery (by decide) (by decide) (by decide)

/-- A query for that name is not: the log call consumes an argument that was not passed. -/
theorem query_text_not_logged : ¬ ∀ log t old data logs,
    DnsIterationLogs t old data logs → TextsLogged log logs := by
  intro h
  have hlogs : queryLogs adsTable nameQuery_format.name =
      [.text (.lit "BLOCKED: %s.ads.com")] := by
    decide +kernel
  have hround : DnsIterationLogs adsTable (fun _ => 0) (addressQuery formatLabels) _ :=
    (dnsRound_query nameQuery_format).2 hlogs.symm
  have hlogged := h .empty adsTable (fun _ => 0) _ _ hround
  rw [textsLogged_singleton] at hlogged
  exact absurd hlogged (by decide)

end EspFirewall
