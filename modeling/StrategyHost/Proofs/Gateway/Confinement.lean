import StrategyHost.Proofs.Gateway.Issue
import StrategyHost.Proofs.Gateway.Trust
import StrategyHost.Proofs.Invocation.Events

/-! # What a handle can do

Whatever a gateway hands out is confined to the ceiling of its risk level (`Handle.Confined`). That holds in every scene that its
requests can bring about, also where the parts of one come in between those of others (`Reached`). -/

namespace StrategyHost

/-- A handle grants what its strategy asks for under the ceiling of its risk level, and its invocations do not go beyond that. -/
structure Handle.Confined (config : Config) (h : Handle) : Prop where
  accepted : h.verdict.isRejected = false
  granted : ∀ c, h.grant.allows c = true ↔ c ∈ h.runnable.requested ∧ c ∈ config.grants.ceiling h.verdict.riskLevel
  budgets : h.grant.budgets = config.limits.budgetsFor h.verdict.riskLevel
  covers : ∀ course pace actor data set, (h.invokeAlong course pace actor data).1 = .ok set → h.grant.Covers set

theorem GrantPolicy.allows_grant (p : GrantPolicy) (identity : String) (version : Nat) (risk : RiskLevel)
    (requested : Capabilities) (budgets : Budgets) (c : Capability) :
    (p.grant identity version risk requested budgets).allows c = true ↔ c ∈ requested ∧ c ∈ p.ceiling risk := by
  simp [grant, Grant.allows, Capabilities.inter]

theorem Handle.Issued.confined {config : Config} {h : Handle} (issued : h.Issued config) : h.Confined config := by
  obtain ⟨number, d, l, accepted⟩ := issued
  exact ⟨accepted, GrantPolicy.allows_grant _ _ _ _ _ _, rfl, fun _ _ _ _ _ given => Handle.covers_invokeAlong _ _ _ _ _ given⟩

/-! ### Reachable scenes -/

/-- What may happen to a gateway: a request, or a part of one. -/
inductive Move where
  | lookup (d : Descriptor)
  | look (key : CacheKey)
  | load (d : Descriptor) (snapshot? : Option Snapshot)
  | keep (t : Ticket) (restored : Bool) (h : Handle)
  | fail (t : Ticket)
  | release (t : Ticket)
  | create (d : Descriptor)
  | createMany (d : Descriptor) (n : Nat)
  | race (d : Descriptor) (disturbance : Disturbance)
  | createFromStore (tier : Tier) (identity : String) (version : Nat)
  | invalidate (identity : String) (version : Nat)
  | shutdown

def handleIn (result : Except LoadError Handle) : List Handle := result.toOption.toList

namespace Move

def act : Move → Act (List Handle)
  | lookup d => do
    match ← Act.lookup d with
    | .hit h => return [h]
    | _ => return []
  | look key => do
    let _ ← Act.readShared key
    return []
  | load d snapshot? => return handleIn (← Act.loadFrom d snapshot?)
  | keep t restored h => do
    Act.keep t restored h
    return []
  | fail t => do
    let _ ← Act.stepCache fun c => c.finish t .failed
    return []
  | release t => do
    Act.modifyCache fun c => c.release t
    return []
  | create d => return handleIn (← Act.create d)
  | createMany d n => return (← Act.createMany d n).flatMap handleIn
  | race d disturbance => return handleIn (← Act.race d disturbance).result
  | createFromStore tier identity version => return handleIn (← Act.createFromStore tier identity version)
  | invalidate identity version => do
    let _ ← Act.invalidate identity version
    return []
  | shutdown => do
    Act.shutdown
    return []

/-- A load keeps only a handle that was given before. -/
def IsReady (held : List Handle) : Move → Prop
  | keep _ _ h => h ∈ held
  | _ => True

end Move

/-- The scenes of a gateway, with the handles that it has given so far. Others may change what they share with it at any time. -/
inductive Reached (cfg : Config) : Scene → List Handle → Prop
  | start (world : Surroundings) : Reached cfg ⟨.new cfg, world, []⟩ []
  | elsewhere {s : Scene} {held : List Handle} (world : Surroundings) (events : List Audit.Event) (reached : Reached cfg s held) :
    Reached cfg { s with world, events } held
  | move {s : Scene} {held : List Handle} (m : Move) (ready : m.IsReady held) (reached : Reached cfg s held) :
    Reached cfg (m.act.run s).2 (held ++ (m.act.run s).1)

section Reached
variable {cfg : Config} {s : Scene} {held : List Handle} {d : Descriptor}
open Act Act.Upholds

theorem issued_handleIn {result : Except LoadError Handle} (issued : GivesIssued cfg result) :
    ∀ h ∈ handleIn result, h.Issued cfg := by
  cases result with
  | error e => exact List.forall_mem_nil _
  | ok h => exact List.forall_mem_singleton.2 (issued h rfl)

theorem Move.upholds_act {m : Move} (issued : ∀ h ∈ held, h.Issued cfg) (ready : m.IsReady held) :
    Upholds cfg m.act fun given => ∀ h ∈ given, h.Issued cfg := by
  have nothing : ∀ h ∈ ([] : List Handle), h.Issued cfg := List.forall_mem_nil _
  cases m with
  | lookup d =>
    refine bind (upholds_lookup d) fun l hit => ?_
    split
    · exact pure (List.forall_mem_singleton.2 (hit _ rfl))
    · exact pure nothing
  | look key => exact bind (upholds_readShared key) fun _ _ => pure nothing
  | load d snapshot? => exact bind (upholds_loadFrom d snapshot?) fun _ given => pure (issued_handleIn given)
  | keep t restored h => exact bind (upholds_keep t restored (issued h ready)) fun _ _ => pure nothing
  | fail t => exact bind (upholds_fail t) fun _ _ => pure nothing
  | release t => exact bind (upholds_release t) fun _ _ => pure nothing
  | create d => exact bind (upholds_create d) fun _ given => pure (issued_handleIn given)
  | createMany d n =>
    refine bind (upholds_createMany d n) fun results given => pure fun h hh => ?_
    obtain ⟨result, mem, hh⟩ := List.mem_flatMap.1 hh
    exact issued_handleIn (given result mem) h hh
  | race d disturbance => exact bind (upholds_race d disturbance) fun _ given => pure (issued_handleIn given)
  | createFromStore tier identity version =>
    exact bind (upholds_createFromStore tier identity version) fun _ given => pure (issued_handleIn given)
  | invalidate identity version => exact bind (upholds_invalidate identity version) fun _ _ => pure nothing
  | shutdown => exact bind upholds_shutdown fun _ _ => pure nothing

theorem Reached.issued (reached : Reached cfg s held) : s.Under cfg ∧ ∀ h ∈ held, h.Issued cfg := by
  induction reached with
  | start world => exact ⟨⟨rfl, rfl, List.forall_mem_nil _⟩, List.forall_mem_nil _⟩
  | elsewhere world events _ ih => exact ⟨⟨ih.1.config, ih.1.registry, ih.1.cache⟩, ih.2⟩
  | move m ready _ ih =>
    obtain ⟨under, given⟩ := Move.upholds_act ih.2 ready _ ih.1
    exact ⟨under, List.forall_mem_append.2 ⟨ih.2, given⟩⟩

/-- Every handle that a gateway has given, and every one that it creates next, is confined. -/
theorem Act.create_confined (reached : Reached cfg s held) :
    (∀ h ∈ held, h.Confined cfg) ∧ ∀ d h, ((create d).run s).1 = .ok h → h.Confined cfg :=
  ⟨fun h hh => (reached.issued.2 h hh).confined, fun d h created => ((upholds_create d s reached.issued.1).2 h created).confined⟩

/-- A gateway that withholds signals is asked for a strategy twice, and hands it out from its cache, confined. -/
theorem Act.create_confined_cached :
    let config : Config := { Config.standard with grants := ⟨[.log], [], [], []⟩ }
    let d : Descriptor := ⟨"momentum", 1, .predefined, "system"⟩
    let s : Scene := ((Move.create d).act.run ⟨.new config, ⟨none, none, 0⟩, []⟩).2
    (∃ held, Reached config s held) ∧ ((create d).run s).2.gateway.cache.hits = 1 ∧
      ∃ h, ((create d).run s).1 = .ok h ∧ h.grant.allows .emitSignal = false ∧ h.Confined config := by
  intro config d s
  have reached : Reached config s _ := .move (.create d) trivial (.start _)
  obtain ⟨h, created⟩ := exists_of_isOk (by decide +kernel : ((create d).run s).1.isOk = true)
  have confined := (create_confined reached).2 d h created
  have withheld : (((create d).run s).1.toOption.all fun h => h.grant.allows .emitSignal = false) = true := by decide +kernel
  rw [created] at withheld
  exact ⟨⟨_, reached⟩, by decide +kernel, h, created, of_decide_eq_true withheld, confined⟩

end Reached

end StrategyHost
