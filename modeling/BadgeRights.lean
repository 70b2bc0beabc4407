import BadgeRights.Update.Approvals
import BadgeRights.Update.Timeline
import BadgeRights.Update.BadgeMetadata
import BadgeRights.Update.Permissions
import BadgeRights.Codec.Permission
import BadgeRights.Codec.Values
import BadgeRights.Codec.Verdict
import BadgeRights.Settings.File
import BadgeRights.Proofs.Cut
import BadgeRights.Proofs.Region
import BadgeRights.Proofs.Tiling
import BadgeRights.Proofs.Coverage
import BadgeRights.Proofs.Checked
import BadgeRights.Proofs.Difference
import BadgeRights.Proofs.Terms
import BadgeRights.Proofs.Approval
import BadgeRights.Proofs.Stacking
import BadgeRights.Proofs.Permanence
import BadgeRights.Proofs.Lock
import BadgeRights.Proofs.Declared
import BadgeRights.Proofs.Inhabited
import BadgeRights.Proofs.Timeline
import BadgeRights.Proofs.BadgeMetadata
import BadgeRights.Proofs.TimelineLock
import BadgeRights.Proofs.Reserved
import BadgeRights.Proofs.Stable
import BadgeRights.Proofs.Pinning
import BadgeRights.Proofs.ApprovalUpdate
import BadgeRights.Proofs.Strengthening
import BadgeRights.Proofs.PermissionUpdate
import BadgeRights.Proofs.Composition
import BadgeRights.Proofs.Denotation
import BadgeRights.Proofs.Mirroring
import BadgeRights.Proofs.Partition
import BadgeRights.Proofs.SpanAlgebra
import BadgeRights.Proofs.Fixpoint
import BadgeRights.Proofs.Documents
import BadgeRights.Proofs.SpanOrder
import BadgeRights.Proofs.TimelineWindows
import BadgeRights.Proofs.Polarity
import BadgeRights.Proofs.ListStore
import BadgeRights.Proofs.Description
import BadgeRights.Proofs.Insertions
import BadgeRights.Proofs.Overriding
import BadgeRights.Proofs.Loading
import BadgeRights.Proofs.Itemised
import BadgeRights.Proofs.Blame
import BadgeRights.Proofs.Refusals
