import BadgeRights.Verdict
import BadgeRights.Difference
import BadgeRights.Permission
import BadgeRights.Settings

set_option autoImplicit false

namespace BadgeRights.Update

def firstForbidden? (changed forbidden : List Region) : Option Region :=
  changed.findSome? fun r => forbidden.findSome? fun f => (r.cut f).shared

def firstUncovered? (changed permitted : List Region) : Option Region :=
  changed.findSome? fun r => (r.uncovered permitted).head?

def forbiddenRegions (now : Nat) (details : List Detail) : List Region :=
  (details.filter fun d => d.windows.forbids now).map Detail.region

def permittedRegions (now : Nat) (details : List Detail) : List Region :=
  (details.filter fun d => d.windows.permits now && !d.windows.forbids now).map Detail.region

def judge (field : UpdateField) (changed : List Region) (details : List Detail) (stance : Stance) :
    Verdict :=
  match firstForbidden? changed (forbiddenRegions stance.now details) with
  | some r => .denied ⟨field, .forbidden, r⟩
  | none =>
      match stance.unhandled with
      | .neutral => .permitted
      | .requirePermitted =>
          match firstUncovered? changed (permittedRegions stance.now details) with
          | some r => .denied ⟨field, .notPermitted, r⟩
          | none => .permitted

def checkRegions (field : UpdateField) (changed : List Region)
    (declarations : List Declaration) (stance : Stance) : Verdict :=
  judge field changed (flatten declarations) stance

def checkAction (field : UpdateField) (permissions : List ActionPermission) (stance : Stance) :
    Checked Verdict := do
  let declarations ← Permission.toDeclarations Resolver.reserved permissions
  return checkRegions field [Region.universal] declarations stance

end BadgeRights.Update
