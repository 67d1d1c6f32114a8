/-
This file says what the field table of an Ingress does: rules are added for the hosts that have
none, and the certificates are replaced unless they are the desired ones. Other rules and the rest
of the specification stay.
-/

import GatewayOperator.Proofs.Fields.Merge

namespace GatewayOperator
namespace Ingress

/-- The specification, an absent one being empty. -/
def specOrEmpty (ingress : Ingress) : IngressSpec := ingress.spec.getD {}

theorem bind_spec {Value : Type} (ingress : Ingress) (field : IngressSpec → Option Value)
    (absent : field {} = none) : ingress.spec.bind field = field ingress.specOrEmpty := by
  unfold specOrEmpty
  cases ingress.spec with
  | none => exact absent.symm
  | some spec => rfl

/-- An Ingress with its managed fields merged. -/
def merged (existing desired : Ingress) : Ingress :=
  { existing with
    spec := some
      { existing.specOrEmpty with
        rules := (appendMissingRules existing.specOrEmpty.rules
          (desired.spec.bind (·.rules))).value
        tls := (replaceCollection existing.specOrEmpty.tls (desired.spec.bind (·.tls))).value } }

/-- The table merges the routes and the certificates, each on its own. -/
theorem reconcileFields_object (existing desired : Ingress) :
    (reconcileFields desired rules existing).object = merged existing desired := rfl

/-- The managed fields of an Ingress are as desired: there is a rule for every desired host, and
the certificates are the desired ones up to their order. -/
structure Settled (desired ingress : Ingress) : Prop where
  routes : ∀ rule ∈ (desired.spec.bind (·.rules)).getD [],
    HasRoute ((ingress.spec.bind (·.rules)).getD []) rule.host
  certificates : ((ingress.spec.bind (·.tls)).getD []).Perm
    ((desired.spec.bind (·.tls)).getD [])

/-- Only the specification counts. -/
theorem Settled.of_spec {desired first second : Ingress} (settled : Settled desired first)
    (same : second.spec = first.spec) : Settled desired second where
  routes := same ▸ settled.routes
  certificates := same ▸ settled.certificates

/-- The table reports no change exactly on the Ingresses that are as desired. -/
theorem reconcileFields_changed_eq_nil_iff_settled (existing desired : Ingress) :
    (reconcileFields desired rules existing).changed = [] ↔ Settled desired existing := by
  have routes : (∀ rule ∈ (desired.spec.bind (·.rules)).getD [],
      HasRoute ((existing.spec.bind (·.rules)).getD []) rule.host) ↔
        (appendMissingRules existing.specOrEmpty.rules
          (desired.spec.bind (·.rules))).changed = false := by
    rw [bind_spec existing _ rfl, appendMissingRules_changed_eq_false_iff]
  have certificates : ((existing.spec.bind (·.tls)).getD []).Perm
      ((desired.spec.bind (·.tls)).getD []) ↔
        (replaceCollection existing.specOrEmpty.tls (desired.spec.bind (·.tls))).changed =
          false := by
    rw [bind_spec existing _ rfl, replaceCollection_changed, Bool.not_eq_false',
      sameCollection_iff_perm]
  have reports : mergeReports desired rules existing =
      [(routesRule.field, (appendMissingRules existing.specOrEmpty.rules
        (desired.spec.bind (·.rules))).changed),
      (certificatesRule.field, (replaceCollection existing.specOrEmpty.tls
        (desired.spec.bind (·.tls))).changed)] := rfl
  rw [reconcileFields_changed_eq_nil_iff, reports, List.forall_mem_cons,
    List.forall_mem_singleton, ← routes, ← certificates]
  exact ⟨fun ⟨hosts, tls⟩ => ⟨hosts, tls⟩, fun settled => ⟨settled.routes, settled.certificates⟩⟩

/-- The result of the table is as desired, whatever the Ingress was before. -/
theorem settled_reconcileFields (existing desired : Ingress) :
    Settled desired (reconcileFields desired rules existing).object where
  routes _ member := hasRoute_appendMissingRules _ _ member
  certificates :=
    (sameCollection_iff_perm _ _).mp (sameCollection_replaceCollection _ _)

/-- An Ingress is as desired by itself. -/
theorem settled_self (desired : Ingress) : Settled desired desired where
  routes rule member := ⟨rule, member, rfl⟩
  certificates := List.Perm.refl _

end Ingress
end GatewayOperator
