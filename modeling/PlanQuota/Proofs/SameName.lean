import PlanQuota.Memory
import PlanQuota.Proofs.Lookup
import PlanQuota.Proofs.Operations

/-!
Plans of one name in one service. The assignment is looked up by name and identifier, the plan that
can be ordered by its name alone. So the plan that decides between an amount and a flag is always
the first of its name: it is the plan that was asked for if and only if no other plan of the name
stands before that one, and else the quota is the right one only if both plans are limited alike or
there is no amount to lose.
-/
namespace PlanQuota

/-- A derived quota looks at nothing of a plan but whether it is unlimited, and only if there is an
amount. -/
theorem Quota.derive_eq_derive_iff {p q : EntitledPlan} {d : Desired} :
    derive p d = derive q d ↔ d.amount = none ∨ p.unlimited = q.unlimited := by
  cases ha : d.amount with
  | none => simp [derive, ha]
  | some n =>
    simp only [derive, ha, isBounded, Option.isSome_some, Bool.and_true, reduceCtorEq, false_or]
    cases p.unlimited <;> cases q.unlimited <;> simp

namespace Engine

variable {σ : Type} {remote : Remote σ} {s : σ} {d : Desired} {i : String}
  {established : Option Quota} {catalog : Catalog} {service : EntitledService} {p : EntitledPlan}
  {o : Observation}

/-- An observation of an entitlement with an identifier: its plan is the first of the name, its
assignment is one of the plan with name and identifier. The two are the same plan if and only if
the plan asked for is the first of its name. -/
theorem classified_plan_is_first_of_name (hi : d.planIdentifier = some i)
    (hread : (remote.read d.entity d.service s).result = .ok catalog)
    (hs : IsFirst catalog.entitled (·.name = d.service) service)
    (hp : IsFirst service.plans (fun q => q.name = d.plan ∧ q.identifier = some i) p)
    (h : (observe remote d established s).result = .ok o) :
    IsFirst service.plans (·.name = d.plan) o.state.plan ∧
      catalog.Shows d.service d.plan (some i) d.entity (.ok o.state.assignment) ∧
      (o.state.plan.identifier = some i ↔ IsFirst service.plans (·.name = d.plan) p) ∧
      (established = none → o.required = Quota.derive o.state.plan d ∧
        (o.required = Quota.derive p d ↔
          d.amount = none ∨ o.state.plan.unlimited = p.unlimited)) := by
  obtain ⟨c, hc, hinspect⟩ := (observe_eq_ok_iff remote d s).mp h
  obtain rfl : catalog = c := Except.ok.inj (hread.symm.trans hc)
  obtain ⟨plan, assignment, hplan, hassignment, rfl⟩ := (inspect_eq_ok_iff d).mp hinspect
  obtain ⟨service', hs', hfirst⟩ := Catalog.entitledPlan_eq_ok_iff.mp hplan
  obtain rfl := hs.unique hs'
  rw [hi] at hassignment
  refine ⟨hfirst, hassignment ▸ Catalog.shows_assignment .., ⟨fun hid => ?_, fun hfirst' => ?_⟩, ?_⟩
  · -- a first plan of the name that has the identifier is also the first with both
    have hboth : IsFirst service.plans (fun q => q.name = d.plan ∧ q.identifier = some i) plan := by
      obtain ⟨n, hn, hname, hleast⟩ := hfirst
      exact ⟨n, hn, ⟨hname, hid⟩, fun j hj q hq hq' => hleast j hj q hq hq'.1⟩
    exact hp.unique hboth ▸ hfirst
  · exact hfirst.unique hfirst' ▸ hp.holds.2
  · rintro rfl
    exact ⟨rfl, Quota.derive_eq_derive_iff⟩

end Engine

namespace Memory

def unlimitedTrial : EntitledPlan := ⟨"trial", none, some "a", none, true, none⟩

def limitedTrial : EntitledPlan := ⟨"trial", none, some "b", none, false, none⟩

def onePiece : Assignment :=
  ⟨"sub-1", none, none, none, some (Binary64.ofInt 1), none, none, none⟩

/-- A service with two plans of one name, of the second of which an account holds one piece. -/
def twoTrials : Catalog where
  entitled := [⟨"db", none, [unlimitedTrial, limitedTrial]⟩]
  assigned := [⟨"db", none, [⟨"trial", some "b", [onePiece]⟩]⟩]

/-- Three pieces of the limited plan are asked for. It is the unlimited one that is classified, so
the amount is dropped, and the assignment of one piece counts as up to date. -/
theorem amount_dropped_for_limited_trial :
    let d : Desired := ⟨"db", "trial", some "b", "sub-1", some 3⟩
    let service : EntitledService := ⟨"db", none, [unlimitedTrial, limitedTrial]⟩
    let o : Observation := ⟨⟨unlimitedTrial, some onePiece⟩, .enabled true⟩
    (remote.read d.entity d.service (new twoTrials)).result = .ok twoTrials ∧
    IsFirst twoTrials.entitled (·.name = d.service) service ∧
    IsFirst service.plans (fun q => q.name = d.plan ∧ q.identifier = some "b") limitedTrial ∧
    (Engine.observe remote d none (new twoTrials)).result = .ok o ∧
    o.mutation = .none ∧ Quota.derive limitedTrial d = .numeric 3 ∧
    IsFirst service.plans (·.name = d.plan) o.state.plan ∧
    twoTrials.Shows d.service d.plan (some "b") d.entity (.ok o.state.assignment) ∧
    (o.state.plan.identifier = some "b" ↔
      IsFirst service.plans (·.name = d.plan) limitedTrial) ∧
    o.required = Quota.derive o.state.plan d ∧
    (o.required = Quota.derive limitedTrial d ↔
      d.amount = none ∨ o.state.plan.unlimited = limitedTrial.unlimited) := by
  intro d service o
  have hread : (remote.read d.entity d.service (new twoTrials)).result = .ok twoTrials := rfl
  have hs : IsFirst twoTrials.entitled (·.name = d.service) service :=
    (find?_eq_some_iff_isFirst (fun _ => decide_eq_true_iff)).mp rfl
  have hp : IsFirst service.plans (fun q => q.name = d.plan ∧ q.identifier = some "b")
      limitedTrial :=
    (find?_eq_some_iff_isFirst (fun _ => decide_eq_true_iff)).mp (by decide)
  have ho : (Engine.observe remote d none (new twoTrials)).result = .ok o := rfl
  obtain ⟨hfirst, hshown, hidentifier, hquota⟩ :=
    Engine.classified_plan_is_first_of_name rfl hread hs hp ho
  obtain ⟨hderived, hsame⟩ := hquota rfl
  exact ⟨hread, hs, hp, ho, by decide, by decide, hfirst, hshown, hidentifier, hderived, hsame⟩

end Memory
end PlanQuota
