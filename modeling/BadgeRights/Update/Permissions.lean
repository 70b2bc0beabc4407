import BadgeRights.Update.Coverage

set_option autoImplicit false

namespace BadgeRights.Update

variable {P : Type} [Permission P]

def flattenPermissions (kind : PermissionKind) (resolve : Resolver) (permissions : List P) :
    Checked (List Detail) := do
  let declarations ← Permission.declare kind resolve permissions
  return flatten declarations

/-- The first region that loses times, be it that no detail covers it any more or that one with
fewer times does. -/
def firstLoss? (d : Difference) : Option Region :=
  match d.firstOnly.find? fun e => !e.windows.isNone with
  | some dropped => some dropped.region
  | none =>
      (d.overlaps.find? fun o => !o.first.windows.keptIn o.second.windows).map Overlap.region

def permission (kind : PermissionKind) (old new : List P) (resolve : Resolver) :
    Checked Verdict := do
  let old ← (flattenPermissions kind resolve old).mapError Fault.inOld
  let new ← (flattenPermissions kind resolve new).mapError Fault.inNew
  match firstLoss? (Difference.between old new) with
  | some r => return .denied ⟨.permission kind, .permanentTimesRemoved, r⟩
  | none => return .permitted

def userApprovalPermission {direction : Direction} (user : String)
    (old new : List (UserApprovalPermission direction)) (resolve : Resolver) : Checked Verdict :=
  permission direction.permissionKind (old.map (UserApprovalPermission.pin user))
    (new.map (UserApprovalPermission.pin user)) resolve

def untilDenied : List (Unit → Checked Verdict) → Checked Verdict
  | [] => .ok .permitted
  | check :: rest => do
      match ← check () with
      | .permitted => untilDenied rest
      | .denied d => return .denied d

def collectionPermissions (old new : CollectionPermissions) (resolve : Resolver) :
    Checked Verdict :=
  untilDenied [
    fun _ => permission .deleteCollection old.deleteCollection new.deleteCollection resolve,
    fun _ => permission .archiveCollection old.archiveCollection new.archiveCollection resolve,
    fun _ => permission .updateOffChainBalancesMetadata old.updateOffChainBalancesMetadata
      new.updateOffChainBalancesMetadata resolve,
    fun _ => permission .updateStandards old.updateStandards new.updateStandards resolve,
    fun _ => permission .updateCustomData old.updateCustomData new.updateCustomData resolve,
    fun _ => permission .updateManager old.updateManager new.updateManager resolve,
    fun _ => permission .updateCollectionMetadata old.updateCollectionMetadata
      new.updateCollectionMetadata resolve,
    fun _ => permission .updateBadgeMetadata old.updateBadgeMetadata new.updateBadgeMetadata
      resolve,
    fun _ => permission .updateCollectionApprovals old.updateCollectionApprovals
      new.updateCollectionApprovals resolve]

def userPermissions (user : String) (old new : UserPermissions) (resolve : Resolver) :
    Checked Verdict :=
  untilDenied [
    fun _ => userApprovalPermission user old.updateIncomingApprovals
      new.updateIncomingApprovals resolve,
    fun _ => userApprovalPermission user old.updateOutgoingApprovals
      new.updateOutgoingApprovals resolve]

end BadgeRights.Update
