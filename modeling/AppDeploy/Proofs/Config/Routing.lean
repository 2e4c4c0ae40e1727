import AppDeploy.Proofs.Config.Machines

/-!
# Where services route to

A service routes to the process groups that it lists, or else to the default group. Those that are
listed are there in every config that machines take. The default group is not, in a config that
declares groups of other names: nothing looks at the groups of a service that lists none
(`routes_exist_iff`).
-/

namespace AppDeploy

/-- The process groups that a service routes to. -/
def ServiceConfig.routes (s : ServiceConfig) : List String :=
  if s.processes = [] then [AppConfig.defaultProcessGroup] else s.processes

namespace AppConfig

variable {c : AppConfig} {s : ServiceConfig}

theorem default_mem_processGroups :
    defaultProcessGroup ∈ c.processGroups ↔
      c.processes.isEmpty = true ∨ defaultProcessGroup ∈ c.processes.keys := by
  rw [processGroups]
  split
  · next h => exact iff_of_true (List.mem_singleton_self _) (.inl h)
  · next h => rw [or_iff_right h]

theorem listed_mem_processGroups (h : c.ensureMachines = .ok ()) (hs : s ∈ c.services)
    {group : String} (hgroup : group ∈ s.processes) : group ∈ c.processGroups :=
  mem_processGroups.2 ((ensureMachines_eq_ok_iff.1 h).serviceGroups s hs group hgroup)

/-- In a config that machines take, the groups that a service routes to are all there exactly if it
lists some, or the default group is there: no group is declared at all, or one of that name. -/
theorem routes_exist_iff (h : c.ensureMachines = .ok ()) (hs : s ∈ c.services) :
    (∀ group ∈ s.routes, group ∈ c.processGroups) ↔
      s.processes ≠ [] ∨ c.processes.isEmpty = true ∨ defaultProcessGroup ∈ c.processes.keys := by
  rw [ServiceConfig.routes]
  split
  · next hnone =>
    rw [or_iff_right (not_not_intro hnone), ← default_mem_processGroups, List.forall_mem_singleton]
  · next hsome =>
    exact iff_of_true (fun group hgroup => listed_mem_processGroups h hs hgroup) (.inl hsome)

namespace Example

/-- A service that lists no groups. -/
def unlistedService : ServiceConfig where
  internalPort := 8080

/-- A config that declares a group, and has a service that lists none. -/
def unroutedConfig : AppConfig where
  processes := .ofList [("web", "bin/server")]
  services := [unlistedService]

theorem ensureMachines_unroutedConfig : unroutedConfig.ensureMachines = .ok () := by
  decide +kernel

end Example

theorem example_routes :
    Example.unroutedConfig.ensureMachines = .ok () ∧
      Example.unlistedService ∈ Example.unroutedConfig.services ∧
      ((∀ group ∈ Example.unlistedService.routes, group ∈ Example.unroutedConfig.processGroups) ↔
        Example.unlistedService.processes ≠ [] ∨ Example.unroutedConfig.processes.isEmpty = true ∨
          defaultProcessGroup ∈ Example.unroutedConfig.processes.keys) :=
  ⟨Example.ensureMachines_unroutedConfig, List.mem_singleton_self _,
    routes_exist_iff Example.ensureMachines_unroutedConfig (List.mem_singleton_self _)⟩

/-- A service of a config that machines take can route to a group that is not there. -/
theorem route_may_lead_nowhere :
    ¬∀ c : AppConfig, c.ensureMachines = .ok () → ∀ s ∈ c.services, ∀ group ∈ s.routes,
      group ∈ c.processGroups := by
  intro hall
  have hmem := hall _ Example.ensureMachines_unroutedConfig _ (List.mem_singleton_self _)
    defaultProcessGroup (List.mem_singleton_self _)
  exact absurd hmem (by decide +kernel)

end AppConfig

end AppDeploy
