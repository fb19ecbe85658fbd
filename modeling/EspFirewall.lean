import EspFirewall.General.StepSystem
import EspFirewall.General.LastWrite
import EspFirewall.General.Transitions
import EspFirewall.General.Loop
import EspFirewall.General.Links
import EspFirewall.General.Slots
import EspFirewall.General.CountedArray
import EspFirewall.General.FirstMatch
import EspFirewall.General.KeyedTable
import EspFirewall.General.Listing
import EspFirewall.General.FirstSeen
import EspFirewall.General.BitMask
import EspFirewall.General.SetHistory
import EspFirewall.General.Staged
import EspFirewall.General.HandleStore
import EspFirewall.General.RingBuffer
import EspFirewall.General.CString
import EspFirewall.General.Strtol
import EspFirewall.General.Decimal
import EspFirewall.General.Printf
import EspFirewall.General.FormCoding
import EspFirewall.General.HexOctets
import EspFirewall.General.CharRef
import EspFirewall.General.Html
import EspFirewall.General.HtmlTemplate
import EspFirewall.General.Json
import EspFirewall.General.DnsMessage
import EspFirewall.LogBuffer
import EspFirewall.LogView
import EspFirewall.ServiceFilter.Defs
import EspFirewall.ServiceFilter.Lookup
import EspFirewall.ServiceFilter.Reachable
import EspFirewall.ServiceFilter.Scan
import EspFirewall.ServiceFilter.Rules
import EspFirewall.ServiceFilter.Persist
import EspFirewall.ServiceFilter.Flags
import EspFirewall.ServiceFilter.Listed
import EspFirewall.Devices
import EspFirewall.Packet
import EspFirewall.PacketReads
import EspFirewall.Fragments
import EspFirewall.Stations
import EspFirewall.StationArray
import EspFirewall.Blocking
import EspFirewall.DomainFilter.Defs
import EspFirewall.DomainFilter.Match
import EspFirewall.DomainFilter.Persist
import EspFirewall.DomainFilter.BlockedSet
import EspFirewall.DomainFilter.Capacity
import EspFirewall.DomainFilter.Listed
import EspFirewall.Dns.Name
import EspFirewall.Dns.Server
import EspFirewall.Dns.NameWalk
import EspFirewall.Dns.NameStores
import EspFirewall.Dns.NameDecoding
import EspFirewall.Dns.Filtering
import EspFirewall.Dns.BlockedResponse
import EspFirewall.Dns.Forwarding
import EspFirewall.LoggedText
import EspFirewall.Portmap
import EspFirewall.PortmapChanges
import EspFirewall.Settings
import EspFirewall.StringDecoding
import EspFirewall.NvsCommands
import EspFirewall.NvsConsole
import EspFirewall.NvsNumbers
import EspFirewall.NvsHandles
import EspFirewall.WebForm
import EspFirewall.EnterpriseForm
import EspFirewall.ConfigPage
import EspFirewall.EscapeBuffer
import EspFirewall.PostHandlers
import EspFirewall.DeviceUpdates
import EspFirewall.PostSafety
import EspFirewall.PostRefusals
import EspFirewall.BodyChunks
import EspFirewall.DomainRemoval
import EspFirewall.RequestNumbers
import EspFirewall.PacketStream
import EspFirewall.WebViews
import EspFirewall.Backup
import EspFirewall.WifiSetup
import EspFirewall.DeviceHistory
import EspFirewall.Uplink
import EspFirewall.Dns.Service
import EspFirewall.NvsCopy
import EspFirewall.Resubmission
import EspFirewall.RequestCalls
import EspFirewall.Router
import EspFirewall.RouterDecisions
