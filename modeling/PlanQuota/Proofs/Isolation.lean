import Mathlib.Logic.Relation
import PlanQuota.Memory
import PlanQuota.Proofs.Secrecy

/-!
What an observation depends on. A catalog is restricted to what is asked for: the services of the
name, their plans of the name and identifier, the entity's assignments. Nothing else in it has a
part in what an observation finds, how it fails and what it logs, nor in anything that is done upon
it: a caller that looks for one entitlement sees no difference between sides that differ elsewhere.
-/
namespace PlanQuota

def EntitledService.restrict (s : EntitledService) (d : Desired) : EntitledService :=
  { s with plans := s.plans.filter (·.name = d.plan) }

def AssignedPlan.restrict (p : AssignedPlan) (d : Desired) : AssignedPlan :=
  { p with assignments := p.assignments.filter (·.entity = d.entity) }

def AssignedService.restrict (s : AssignedService) (d : Desired) : AssignedService :=
  { s with
    plans := (s.plans.filter (·.isNamed d.plan d.planIdentifier)).map (·.restrict d) }

def Catalog.restrict (c : Catalog) (d : Desired) : Catalog :=
  ⟨(c.entitled.filter (·.name = d.service)).map (·.restrict d),
    (c.assigned.filter (·.name = d.service)).map (·.restrict d)⟩

/-- The first that passes is still the first among those that pass. -/
theorem find?_map_filter {α : Type} {p : α → Bool} {f : α → α} (hf : ∀ x, p (f x) = p x)
    (xs : List α) : ((xs.filter p).map f).find? p = (xs.find? p).map f := by
  have hkept : (fun x => decide (p x = true ∧ (p ∘ f) x = true)) = p := by
    funext x
    simp [hf x]
  rw [List.find?_map, List.find?_filter, hkept]

namespace AssignedPlan

variable (p : AssignedPlan) (d : Desired)

theorem isNamed_restrict (name : String) (identifier : Option String) :
    (p.restrict d).isNamed name identifier = p.isNamed name identifier := rfl

theorem assignmentOf_restrict : (p.restrict d).assignmentOf d.entity = p.assignmentOf d.entity := by
  simp only [assignmentOf, restrict, List.filter_filter, Bool.and_self]

end AssignedPlan

namespace Catalog

variable (c : Catalog) (d : Desired)

/-- A service that is left without plans is still there: it is its plan that is not found. -/
theorem entitledPlan_restrict :
    (c.restrict d).entitledPlan d.service d.plan = c.entitledPlan d.service d.plan := by
  have hservice := find?_map_filter (p := (·.name = d.service)) (f := (·.restrict d))
    (fun _ => rfl) c.entitled
  simp only [entitledPlan, restrict, hservice]
  cases c.entitled.find? (·.name = d.service) with
  | none => rfl
  | some s => simp [EntitledService.restrict, List.find?_filter]

theorem assignedPlan_restrict :
    (c.restrict d).assignedPlan d.service d.plan d.planIdentifier =
      (c.assignedPlan d.service d.plan d.planIdentifier).map (·.restrict d) := by
  have hservice := find?_map_filter (p := (·.name = d.service)) (f := (·.restrict d))
    (fun _ => rfl) c.assigned
  simp only [assignedPlan, restrict, hservice]
  cases c.assigned.find? (·.name = d.service) with
  | none => rfl
  | some s =>
    have hplan := find?_map_filter (p := (·.isNamed d.plan d.planIdentifier))
      (f := (·.restrict d)) (fun p => p.isNamed_restrict d _ _) s.plans
    simp only [Option.map_some, AssignedService.restrict, hplan]
    cases s.plans.find? (·.isNamed d.plan d.planIdentifier) with
    | none => rfl
    | some p => rfl

theorem assignment_restrict :
    (c.restrict d).assignment d.service d.plan d.planIdentifier d.entity =
      c.assignment d.service d.plan d.planIdentifier d.entity := by
  simp only [assignment, assignedPlan_restrict]
  cases c.assignedPlan d.service d.plan d.planIdentifier with
  | error absence => rfl
  | ok p => exact p.assignmentOf_restrict d

theorem inspect_restrict (established : Option Quota) :
    Engine.inspect (c.restrict d) d established = Engine.inspect c d established := by
  simp only [Engine.inspect, entitledPlan_restrict, assignment_restrict]

theorem inspectLog_restrict (established : Option Quota) :
    Engine.inspectLog (c.restrict d) d established = Engine.inspectLog c d established := by
  simp only [Engine.inspectLog, entitledPlan_restrict, assignedPlan_restrict, inspect_restrict]
  cases c.assignedPlan d.service d.plan d.planIdentifier with
  | error absence => rfl
  | ok p => rfl

end Catalog

/-- Some elements in the place of others, none of which is asked for. -/
inductive Replaced {α : Type} (asked : α → Bool) : List α → List α → Prop
  | intro (before old new after : List α) (hold : ∀ x ∈ old, asked x = false)
      (hnew : ∀ x ∈ new, asked x = false) :
      Replaced asked (before ++ old ++ after) (before ++ new ++ after)

theorem Replaced.filter_eq {α : Type} {asked : α → Bool} {xs ys : List α}
    (h : Replaced asked xs ys) : xs.filter asked = ys.filter asked := by
  cases h with
  | intro before old new after hold hnew =>
    have hold' : old.filter asked = [] := by simpa using hold
    have hnew' : new.filter asked = [] := by simpa using hnew
    simp only [List.filter_append, hold', hnew']

namespace AssignedService

/-- Other plans are replaced, or other entities' assignments of one plan. -/
inductive Edit (d : Desired) : AssignedService → AssignedService → Prop
  | plans (s : AssignedService) {plans : List AssignedPlan}
      (h : Replaced (·.isNamed d.plan d.planIdentifier) s.plans plans) : Edit d s { s with plans }
  | assignments (name : String) (displayName : Option String) (before after : List AssignedPlan)
      (p : AssignedPlan) {assignments : List Assignment}
      (h : Replaced (·.entity = d.entity) p.assignments assignments) :
      Edit d ⟨name, displayName, before ++ p :: after⟩
        ⟨name, displayName, before ++ { p with assignments } :: after⟩

variable {d : Desired} {s s' : AssignedService}

theorem Edit.name_eq (h : Edit d s s') : s.name = s'.name := by
  cases h with
  | plans => rfl
  | assignments => rfl

theorem Edit.restrict_eq (h : Edit d s s') : s.restrict d = s'.restrict d := by
  cases h with
  | plans s h => simp only [restrict, h.filter_eq]
  | assignments name displayName before after p h =>
    -- What a plan goes by does not depend on its assignments: it is kept in both or in neither.
    have hplan : ∀ assignments : List Assignment,
        AssignedPlan.isNamed { p with assignments } d.plan d.planIdentifier =
          p.isNamed d.plan d.planIdentifier := fun _ => rfl
    simp only [restrict, List.filter_append, List.filter_cons, hplan]
    split
    · simp only [List.map_append, List.map_cons, AssignedPlan.restrict, h.filter_eq]
    · rfl

end AssignedService

namespace Catalog

/-- A change in a catalog that leaves alone what is asked for. Something is added where nothing is
replaced, and removed where nothing takes its place. -/
inductive Edit (d : Desired) : Catalog → Catalog → Prop
  | entitledServices {entitled entitled' : List EntitledService} (assigned : List AssignedService)
      (h : Replaced (·.name = d.service) entitled entitled') :
      Edit d ⟨entitled, assigned⟩ ⟨entitled', assigned⟩
  | entitledPlans (before after : List EntitledService) (s : EntitledService)
      {plans : List EntitledPlan} (assigned : List AssignedService)
      (h : Replaced (·.name = d.plan) s.plans plans) :
      Edit d ⟨before ++ s :: after, assigned⟩ ⟨before ++ { s with plans } :: after, assigned⟩
  | assignedServices {assigned assigned' : List AssignedService} (entitled : List EntitledService)
      (h : Replaced (·.name = d.service) assigned assigned') :
      Edit d ⟨entitled, assigned⟩ ⟨entitled, assigned'⟩
  | assignedService (before after : List AssignedService) {s s' : AssignedService}
      (entitled : List EntitledService) (h : AssignedService.Edit d s s') :
      Edit d ⟨entitled, before ++ s :: after⟩ ⟨entitled, before ++ s' :: after⟩

variable {d : Desired} {c c' : Catalog}

theorem Edit.restrict_eq (h : Edit d c c') : c.restrict d = c'.restrict d := by
  cases h with
  | entitledServices assigned h => simp only [restrict, h.filter_eq]
  | entitledPlans before after s assigned h =>
    simp only [restrict, List.filter_append, List.filter_cons]
    split
    · simp only [List.map_append, List.map_cons, EntitledService.restrict, h.filter_eq]
    · rfl
  | assignedServices entitled h => simp only [restrict, h.filter_eq]
  | assignedService before after entitled h =>
    simp only [restrict, List.filter_append, List.filter_cons, h.name_eq]
    split
    · simp only [List.map_append, List.map_cons, h.restrict_eq]
    · rfl

/-- However many changes there are. -/
theorem restrict_eq_of_edits (h : Relation.ReflTransGen (Edit d) c c') :
    c.restrict d = c'.restrict d := by
  induction h with
  | refl => rfl
  | tail _ hedit ih => exact ih.trans hedit.restrict_eq

end Catalog

/-- What one who looks for `d` alone gets to know of a remote side. -/
def Remote.about {σ : Type} (remote : Remote σ) (d : Desired) : Remote σ where
  read entity service s :=
    if entity = d.entity ∧ service = d.service then
      let answer := remote.read entity service s
      ⟨answer.result.map (·.restrict d), answer.log, answer.state⟩
    else ⟨.ok .empty, [], s⟩
  set := remote.set

/-- An operation that looks for `d` if it looks for anything; the amount it asks for is no part of
the search. -/
def Operation.LooksFor (d : Desired) : Operation → Prop
  | .observe desired _ => ∃ amount, desired = { d with amount }
  | .fetch _ _ => False
  | .create _ _ | .update _ _ | .delete _ _ _ | .send _ => True

section About

variable {σ : Type} (remote : Remote σ) (d : Desired)

theorem Engine.observe_about (established : Option Quota) (s : σ) :
    observe (remote.about d) d established s = observe remote d established s := by
  simp only [observe, Remote.about, and_self, if_true]
  cases (remote.read d.entity d.service s).result with
  | error failure => rfl
  | ok catalog => simp only [Except.map, Catalog.inspect_restrict, Catalog.inspectLog_restrict]

theorem Operation.run_about {op : Operation} (h : op.LooksFor d) (s : σ) :
    op.run (remote.about d) s = op.run remote s := by
  cases op with
  | observe desired established =>
    obtain ⟨amount, rfl⟩ := h
    exact congrArg (Outcome.map _) (Engine.observe_about remote { d with amount } established s)
  | fetch entity service => cases h
  | create desired q => rfl
  | update desired q => rfl
  | delete desired observed siblings => rfl
  | send request => rfl

end About

/-- Two memories with the same faults and, as far as `d` goes, the same catalog. -/
structure Memory.SameFor (d : Desired) (m m' : Memory) : Prop where
  catalog : m.catalog.restrict d = m'.catalog.restrict d
  readFault : m.readFault = m'.readFault
  setFault : m.setFault = m'.setFault

theorem Memory.alike_about (d : Desired) :
    Remote.Alike (SameFor d) (remote.about d) (remote.about d) where
  read m m' h entity service := by
    simp only [Remote.about, remote]
    split
    · refine ⟨?_, rfl, h⟩
      rw [h.readFault]
      cases m'.readFault with
      | none => exact congrArg Except.ok h.catalog
      | some failure => rfl
    · exact ⟨rfl, rfl, h⟩
  set m m' h request := by
    refine ⟨?_, rfl, h⟩
    simp only [Remote.about, remote, h.setFault]

/-- Catalogs that differ only in what is not asked for give the same observation or failure. So do
sides that answer with such catalogs, however often they are asked and whatever is set in between:
whoever looks for `d` alone sees the same, and so sets the same. -/
theorem Engine.observes_nothing_else (d : Desired) {σ τ : Type} (a : Remote σ) (b : Remote τ) :
    (∀ (established : Option Quota) (s : σ) (t : τ) (c c' : Catalog),
      (a.read d.entity d.service s).result = .ok c →
      (b.read d.entity d.service t).result = .ok c' →
      c' = c.restrict d ∨ c.restrict d = c'.restrict d ∨
        Relation.ReflTransGen (Catalog.Edit d) c c' →
      (observe a d established s).result = (observe b d established t).result) ∧
    (∀ (Rel : σ → τ → Prop) (s : σ) (t : τ), Remote.Alike Rel (a.about d) (b.about d) → Rel s t →
      ∀ caller : List Session.Account → Option Operation,
        (∀ seen op, caller seen = some op → op.LooksFor d) → ∀ n seen,
          (Session.converse a caller n s seen).2 = (Session.converse b caller n t seen).2) := by
  refine ⟨?_, ?_⟩
  · intro established s t c c' ha hb hcatalogs
    have hinspect : inspect c d established = inspect c' d established := by
      obtain rfl | hrestrict | hedits := hcatalogs
      · exact (c.inspect_restrict d established).symm
      · rw [← c.inspect_restrict, ← c'.inspect_restrict, hrestrict]
      · rw [← c.inspect_restrict, ← c'.inspect_restrict, Catalog.restrict_eq_of_edits hedits]
    rw [observe_result, observe_result, ha, hb]
    exact hinspect
  · intro Rel s t halike hst caller hcaller n seen
    refine (Session.converse_of_matches (fun seen op hop s t hst => ?_) n hst seen).1
    have hlooks := hcaller seen op hop
    have hrun := halike.run hst op
    rwa [Operation.run_about a d hlooks, Operation.run_about b d hlooks] at hrun

/-- A service before the one that is asked for, a plan beside its plan and a record beside that of
the entity: the same is observed, and the same quota is set upon it. -/
theorem Engine.observes_nothing_else_at_hana :
    let d : Desired := ⟨"hana", "cloud", none, "sub-1", none⟩
    let held := fun entity : String =>
      Assignment.mk entity none none none none none (some false) none
    let cloud : EntitledPlan := ⟨"cloud", none, none, none, true, none⟩
    let free : EntitledPlan := ⟨"free", none, none, none, true, none⟩
    let c : Catalog := ⟨[⟨"hana", none, [cloud]⟩],
      [⟨"hana", none, [⟨"cloud", none, [held "sub-1"]⟩]⟩]⟩
    let c' : Catalog := ⟨[⟨"redis", none, [cloud]⟩, ⟨"hana", none, [free, cloud]⟩],
      [⟨"hana", none, [⟨"cloud", none, [held "sub-2", held "sub-1"]⟩]⟩]⟩
    let caller : List Session.Account → Option Operation
      | [] => some (.observe d none)
      | [⟨.ok (.observed o), _, _⟩] =>
        if o.mutation = .none then none else some (.update d o.required)
      | _ => none
    Relation.ReflTransGen (Catalog.Edit d) c c' ∧
      (observe Memory.remote d none (Memory.new c)).result =
        (observe Memory.remote d none (Memory.new c')).result ∧
      (Session.converse Memory.remote caller 2 (Memory.new c) []).2 =
        (Session.converse Memory.remote caller 2 (Memory.new c') []).2 ∧
      (Session.converse Memory.remote caller 2 (Memory.new c') []).2.flatMap (·.calls) =
        [.read "sub-1" "hana", .set (SetRequest.ofQuota d (.enabled true))] := by
  intro d held cloud free c c' caller
  have hedits : Relation.ReflTransGen (Catalog.Edit d) c c' := by
    refine .head (.entitledServices _ (.intro [] [] [⟨"redis", none, [cloud]⟩] _ ?_ ?_)) ?_
    · simp
    · simp [d]
    refine .head (.entitledPlans [_] [] _ _ (.intro [] [] [free] [cloud] ?_ ?_)) ?_
    · simp
    · simp [d, free]
    refine .single (.assignedService [] [] _ (.assignments _ _ [] [] _ (.intro [] [] [held "sub-2"]
      [held "sub-1"] ?_ ?_)))
    · simp
    · simp [d, held]
  have hcaller : ∀ seen op, caller seen = some op → op.LooksFor d := by
    intro seen op hop
    unfold caller at hop
    split at hop
    · cases hop
      exact ⟨none, rfl⟩
    · split at hop
      · cases hop
      · cases hop
        trivial
    · cases hop
  obtain ⟨hobserve, hsession⟩ := observes_nothing_else d Memory.remote Memory.remote
  exact ⟨hedits, hobserve none _ _ c c' rfl rfl (.inr (.inr hedits)),
    hsession (Memory.SameFor d) (Memory.new c) (Memory.new c') (Memory.alike_about d)
      ⟨Catalog.restrict_eq_of_edits hedits, rfl, rfl⟩ caller hcaller 2 [], by decide⟩

end PlanQuota
