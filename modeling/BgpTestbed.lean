import BgpTestbed.Main
import BgpTestbed.Proofs.DriveRuns
import BgpTestbed.Proofs.CompleteExport
import BgpTestbed.Proofs.BalancedTopology
import BgpTestbed.Proofs.InterfacePeers
import BgpTestbed.Proofs.Numbering
import BgpTestbed.Proofs.RefusedHosts
import BgpTestbed.Proofs.TolerantReading
import BgpTestbed.Proofs.TruncatedNetworks
import BgpTestbed.Proofs.UnambiguousConfiguration
import BgpTestbed.Proofs.RepeatedSynthesis
import BgpTestbed.Proofs.SessionOrder
import BgpTestbed.Proofs.TestbedIds
import BgpTestbed.Proofs.Templates
import BgpTestbed.Proofs.Files.Resolution
import BgpTestbed.Proofs.ConfigurationPlaces
import BgpTestbed.Proofs.ConfigurationSections
import BgpTestbed.Proofs.HostAddresses
import BgpTestbed.Proofs.ExhaustedIds
import BgpTestbed.Proofs.OpenConfigurations
import BgpTestbed.Proofs.OpenTopologies
import BgpTestbed.Proofs.NormalForms
import BgpTestbed.Proofs.FirstPolicies
import BgpTestbed.Proofs.RenderedSettings
