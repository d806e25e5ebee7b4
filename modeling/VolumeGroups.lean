import VolumeGroups.Api
import VolumeGroups.DriverClient.Document
import VolumeGroups.Health
import VolumeGroups.Json.Pointer
import VolumeGroups.Json.Writer
import VolumeGroups.Main
import VolumeGroups.Pass
import VolumeGroups.Proofs.Duet.Joining
import VolumeGroups.Proofs.Duet.Releasing
import VolumeGroups.Proofs.Handles.Deletion
import VolumeGroups.Proofs.Handles.Dismissal
import VolumeGroups.Proofs.Membership.Exclusivity
import VolumeGroups.Proofs.Membership.Intake
import VolumeGroups.Proofs.Membership.Ownership
import VolumeGroups.Proofs.Membership.Protection
import VolumeGroups.Proofs.Recovery.Confluence
import VolumeGroups.Proofs.Recovery.Convergence
import VolumeGroups.Proofs.Recovery.Finalization
import VolumeGroups.Proofs.Recovery.Repetition
import VolumeGroups.Rehearsal
import VolumeGroups.Rehearsal.Report
import VolumeGroups.Text.Hex
import VolumeGroups.Watch
import VolumeGroups.Proofs.Records.Copies
import VolumeGroups.Proofs.Records.Upkeep
import VolumeGroups.Proofs.Records.Upkept
import VolumeGroups.Proofs.Records.Acknowledgement
import VolumeGroups.Proofs.Records.Correspondence
import VolumeGroups.Proofs.Records.Ownership
import VolumeGroups.Proofs.Heralds.Enlisting
import VolumeGroups.Proofs.Secrecy.Concealment
import VolumeGroups.Proofs.Reports.Surfacing
import VolumeGroups.Proofs.Reports.Readiness
import VolumeGroups.Proofs.Wire.Exchange
import VolumeGroups.Proofs.Membership.Snapshot
import VolumeGroups.Proofs.Manifest.RoundTrip
import VolumeGroups.Proofs.Membership.Waking
import VolumeGroups.Proofs.Reports.Requeues
import VolumeGroups.Proofs.Reports.BestEffort
import VolumeGroups.Proofs.Refusals.Indifference
import VolumeGroups.Proofs.Provision.Arrival
