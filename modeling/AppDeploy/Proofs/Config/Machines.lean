import AppDeploy.Config.Machines
import AppDeploy.Proofs.Config.Settled
import AppDeploy.Proofs.Config.Validity

/-!
# What keeps a config off machines

`Expressible` says what a config has to be like for machines, rule by rule, and `Flawed` which
single places of it break a rule. What is told about a config are its flaws, every one of them,
none twice, and in order (`machineProblems_eq`); so a config is taken exactly if it is expressible.
Only the processes, services and checks of a config are looked at.
-/

namespace AppDeploy.AppConfig

variable {c : AppConfig} {name : String}

/-! ## The rules -/

/-- The characters of the names of process groups. -/
def GroupChar (ch : Char) : Prop :=
  RegionChar ch ∨ ch = '-' ∨ ch = '_'

def GroupName (name : String) : Prop :=
  name ≠ "" ∧ ∀ ch ∈ name.toList, GroupChar ch

/-- The process groups that there are: those that are declared, or a single one named `app` if none
is. -/
inductive HasGroup (c : AppConfig) : String → Prop where
  | declared {name command : String} (h : c.processes.get? name = some command) : HasGroup c name
  | implicit (h : ∀ name, c.processes.get? name = none) : HasGroup c "app"

/-- A config that machines can run. -/
structure Expressible (c : AppConfig) : Prop where
  processes : ∀ name command, c.processes.get? name = some command →
    GroupName name ∧ ∃ ch ∈ command.toList, Text.isBlank ch = false
  services : ∀ service ∈ c.services, service.internalPort ≠ 0
  checks : ∀ name check, c.checks.get? name = some check →
    check.port ≠ none ∧ (check.kind = .http → ∃ path, check.path = some path ∧ path ≠ "")
  serviceGroups : ∀ service ∈ c.services, ∀ group ∈ service.processes, HasGroup c group
  checkGroups : ∀ name check, c.checks.get? name = some check →
    ∀ group ∈ check.processes, HasGroup c group

/-! ## Flaws -/

/-- The parts of a config that are looked at. -/
inductive Place where
  | process (group : String)
  | service (index : Nat)
  | check (name : String)
deriving DecidableEq, Repr

/-- Something that is wrong with a part of a config. A group that is not there is referred to at a
position of a list. -/
inductive Flaw where
  | groupName (group : String)
  | command (group : String)
  | servicePort (index : Nat)
  | serviceGroup (index position : Nat) (group : String)
  | checkPort (name : String)
  | checkPath (name : String)
  | checkGroup (name : String) (position : Nat) (group : String)
deriving DecidableEq, Repr

/-- Something is wrong with a config. -/
inductive Flawed (c : AppConfig) : Flaw → Prop where
  | groupName {group command : String} (h : c.processes.get? group = some command)
      (hbad : ¬GroupName group) : Flawed c (.groupName group)
  | command {group command : String} (h : c.processes.get? group = some command)
      (hbad : ∀ ch ∈ command.toList, Text.isBlank ch = true) : Flawed c (.command group)
  | servicePort {index : Nat} {service : ServiceConfig} (h : c.services[index]? = some service)
      (hbad : service.internalPort = 0) : Flawed c (.servicePort index)
  | serviceGroup {index position : Nat} {service : ServiceConfig} {group : String}
      (h : c.services[index]? = some service) (hgroup : service.processes[position]? = some group)
      (hbad : ¬HasGroup c group) : Flawed c (.serviceGroup index position group)
  | checkPort {name : String} {check : CheckConfig} (h : c.checks.get? name = some check)
      (hbad : check.port = none) : Flawed c (.checkPort name)
  | checkPath {name : String} {check : CheckConfig} (h : c.checks.get? name = some check)
      (hkind : check.kind = .http) (hbad : check.path = none ∨ check.path = some "") :
      Flawed c (.checkPath name)
  | checkGroup {name group : String} {position : Nat} {check : CheckConfig}
      (h : c.checks.get? name = some check) (hgroup : check.processes[position]? = some group)
      (hbad : ¬HasGroup c group) : Flawed c (.checkGroup name position group)

namespace Flaw

/-- How a flaw is told. -/
def text : Flaw → String
  | .groupName group =>
    s!"process group '{group}' may only contain lowercase letters, digits, '-' and '_'"
  | .command group => s!"process group '{group}' has an empty command"
  | .servicePort index => s!"services[{index}] needs an internal_port"
  | .serviceGroup index _ group =>
    s!"services[{index}] references unknown process group '{group}'"
  | .checkPort name => s!"check '{name}' needs a port"
  | .checkPath name => s!"http check '{name}' needs a path"
  | .checkGroup name _ group => s!"check '{name}' references unknown process group '{group}'"

def place : Flaw → Place
  | .groupName group | .command group => .process group
  | .servicePort index | .serviceGroup index _ _ => .service index
  | .checkPort name | .checkPath name | .checkGroup name _ _ => .check name

/-- The turn of a flaw among those of one place. -/
def rank : Flaw → Nat
  | .groupName _ | .servicePort _ | .checkPort _ => 0
  | .command _ | .checkPath _ => 1
  | .serviceGroup _ position _ => position + 1
  | .checkGroup _ position _ => position + 2

end Flaw

/-- The order in which the parts of a config are looked at: processes before services before
checks. -/
inductive Place.Precedes : Place → Place → Prop where
  | process {a b : String} (h : a < b) : Precedes (.process a) (.process b)
  | service {i j : Nat} (h : i < j) : Precedes (.service i) (.service j)
  | check {a b : String} (h : a < b) : Precedes (.check a) (.check b)
  | processService (a : String) (i : Nat) : Precedes (.process a) (.service i)
  | processCheck (a b : String) : Precedes (.process a) (.check b)
  | serviceCheck (i : Nat) (b : String) : Precedes (.service i) (.check b)

def Flaw.Precedes (f g : Flaw) : Prop :=
  f.place.Precedes g.place ∨ f.place = g.place ∧ f.rank < g.rank

theorem Place.Precedes.irrefl (p : Place) : ¬p.Precedes p := by
  intro h
  cases h with
  | process h => exact String.lt_irrefl _ h
  | service h => exact Nat.lt_irrefl _ h
  | check h => exact String.lt_irrefl _ h

theorem Flaw.Precedes.ne {f g : Flaw} (h : f.Precedes g) : f ≠ g := by
  rintro rfl
  rcases h with h | ⟨-, h⟩
  · exact Place.Precedes.irrefl _ h
  · exact Nat.lt_irrefl _ h

/-! ## The flaws of a config, in order -/

/-- The references to groups that are not there, as flaws. -/
def strayFlaws (groups references : List String) (flaw : Nat → String → Flaw) : List Flaw :=
  (references.zipIdx.filter fun (group, _) => !groups.contains group).map fun (group, position) =>
    flaw position group

def processFlaws (group command : String) : List Flaw :=
  (if isGroupName group then [] else [.groupName group]) ++
  (if Text.isAllBlank command then [.command group] else [])

def serviceFlaws (groups : List String) (index : Nat) (service : ServiceConfig) : List Flaw :=
  (if service.internalPort = 0 then [.servicePort index] else []) ++
  strayFlaws groups service.processes (.serviceGroup index)

def checkFlaws (groups : List String) (name : String) (check : CheckConfig) : List Flaw :=
  (if check.port.isNone then [.checkPort name] else []) ++
  (if check.kind = .http && (present check.path).isNone then [.checkPath name] else []) ++
  strayFlaws groups check.processes (.checkGroup name)

def machineFlaws (c : AppConfig) : List Flaw :=
  (c.processes.entries.flatMap fun (name, command) => processFlaws name command) ++
  (c.services.zipIdx.flatMap fun (service, index) => serviceFlaws c.processGroups index service) ++
  (c.checks.entries.flatMap fun (name, check) => checkFlaws c.processGroups name check)

/-! ### They are what is told -/

theorem map_strayFlaws {groups references : List String} {flaw : Nat → String → Flaw}
    (told : String → String) (h : ∀ position group, (flaw position group).text = told group) :
    (strayFlaws groups references flaw).map Flaw.text =
      (unknownGroups groups references).map told := by
  have hfilter : unknownGroups groups references =
      (references.zipIdx.filter fun (group, _) => !groups.contains group).map Prod.fst := by
    rw [unknownGroups]
    conv_lhs => rw [← List.zipIdx_map_fst 0 references, List.filter_map]
    rfl
  rw [strayFlaws, hfilter, List.map_map, List.map_map]
  exact List.map_congr_left fun ⟨group, position⟩ _ => h position group

theorem map_processFlaws (group command : String) :
    (processFlaws group command).map Flaw.text = processProblems group command := by
  rw [processFlaws, processProblems, List.map_append, apply_ite (List.map Flaw.text),
    apply_ite (List.map Flaw.text)]
  rfl

theorem map_serviceFlaws (groups : List String) (index : Nat) (service : ServiceConfig) :
    (serviceFlaws groups index service).map Flaw.text = serviceProblems groups index service := by
  rw [serviceFlaws, serviceProblems, List.map_append, apply_ite (List.map Flaw.text)]
  exact congrArg _ (map_strayFlaws _ fun _ _ => rfl)

theorem map_checkFlaws (groups : List String) (name : String) (check : CheckConfig) :
    (checkFlaws groups name check).map Flaw.text = checkProblems groups name check := by
  rw [checkFlaws, checkProblems, List.map_append, List.map_append, apply_ite (List.map Flaw.text),
    apply_ite (List.map Flaw.text)]
  exact congrArg _ (map_strayFlaws _ fun _ _ => rfl)

theorem machineProblems_eq (c : AppConfig) : c.machineProblems = c.machineFlaws.map Flaw.text := by
  simp only [machineProblems, machineFlaws, List.map_append, List.map_flatMap, map_processFlaws,
    map_serviceFlaws, map_checkFlaws]

/-! ### Each is a flaw, and none is missing -/

theorem isGroupName_iff : isGroupName name = true ↔ GroupName name := by
  have hchar : ∀ ch : Char,
      (ch.isLower || ch.isDigit || decide (ch = '-') || decide (ch = '_')) = true ↔
        GroupChar ch := by
    intro ch
    rw [GroupChar, ← isRegionChar_iff]
    simp only [Bool.or_eq_true, decide_eq_true_eq, or_assoc]
  simp only [isGroupName, Bool.and_eq_true, List.all_eq_true, hchar, GroupName]
  simp

theorem mem_processGroups : name ∈ c.processGroups ↔ HasGroup c name := by
  rw [processGroups, Table.isEmpty]
  cases hentries : c.processes.entries with
  | nil =>
    have hnone : ∀ key, c.processes.get? key = none := fun key => by rw [Table.get?, hentries]; rfl
    rw [if_pos List.isEmpty_nil, List.mem_singleton]
    constructor
    · rintro rfl
      exact .implicit hnone
    · intro h
      cases h with
      | declared h => cases (hnone _).symm.trans h
      | implicit => rfl
  | cons entry rest =>
    have hsome : c.processes.get? entry.1 = some entry.2 := by
      rw [← Table.mem_entries_iff, hentries]
      exact List.mem_cons_self
    rw [if_neg (by simp), Table.mem_keys_iff, Option.ne_none_iff_exists']
    constructor
    · rintro ⟨command, h⟩
      exact .declared h
    · intro h
      cases h with
      | declared h => exact ⟨_, h⟩
      | implicit h => cases (h _).symm.trans hsome

theorem mem_strayFlaws {references : List String} {flaw : Nat → String → Flaw} {f : Flaw} :
    f ∈ strayFlaws c.processGroups references flaw ↔
      ∃ position group, references[position]? = some group ∧ ¬HasGroup c group ∧
        f = flaw position group := by
  have hstray : ∀ group, (!c.processGroups.contains group) = true ↔ ¬HasGroup c group := by
    intro group
    rw [← mem_processGroups, Bool.not_eq_true', ← Bool.not_eq_true, List.contains_iff_mem]
  simp only [strayFlaws, List.mem_map, List.mem_filter, Prod.exists,
    List.mk_mem_zipIdx_iff_getElem?, hstray]
  constructor
  · rintro ⟨group, position, ⟨hgroup, hbad⟩, rfl⟩
    exact ⟨position, group, hgroup, hbad, rfl⟩
  · rintro ⟨position, group, hgroup, hbad, rfl⟩
    exact ⟨group, position, ⟨hgroup, hbad⟩, rfl⟩

theorem mem_processFlaws {group command : String} {f : Flaw} :
    f ∈ processFlaws group command ↔ ¬GroupName group ∧ f = .groupName group ∨
      (∀ ch ∈ command.toList, Text.isBlank ch = true) ∧ f = .command group := by
  rw [processFlaws, List.mem_append, List.mem_ite_nil_left, List.mem_ite_nil_right,
    List.mem_singleton, List.mem_singleton, isGroupName_iff, Text.isAllBlank, List.all_eq_true]

theorem mem_serviceFlaws {index : Nat} {service : ServiceConfig} {f : Flaw} :
    f ∈ serviceFlaws c.processGroups index service ↔
      service.internalPort = 0 ∧ f = .servicePort index ∨
      ∃ position group, service.processes[position]? = some group ∧ ¬HasGroup c group ∧
        f = .serviceGroup index position group := by
  rw [serviceFlaws, List.mem_append, List.mem_ite_nil_right, List.mem_singleton, mem_strayFlaws]

theorem mem_checkFlaws {check : CheckConfig} {f : Flaw} :
    f ∈ checkFlaws c.processGroups name check ↔
      (check.port = none ∧ f = .checkPort name ∨
        (check.kind = .http ∧ (check.path = none ∨ check.path = some "")) ∧ f = .checkPath name) ∨
      ∃ position group, check.processes[position]? = some group ∧ ¬HasGroup c group ∧
        f = .checkGroup name position group := by
  rw [checkFlaws, List.mem_append, List.mem_append, List.mem_ite_nil_right, List.mem_ite_nil_right,
    List.mem_singleton, List.mem_singleton, mem_strayFlaws, Bool.and_eq_true, decide_eq_true_eq,
    Option.isNone_iff_eq_none, Option.isNone_iff_eq_none, present_eq_none]

theorem mem_machineFlaws {f : Flaw} : f ∈ c.machineFlaws ↔ Flawed c f := by
  simp only [machineFlaws, List.mem_append, List.mem_flatMap, Prod.exists, Table.mem_entries_iff,
    List.mk_mem_zipIdx_iff_getElem?, mem_processFlaws, mem_serviceFlaws, mem_checkFlaws]
  constructor
  · rintro ((⟨group, command, h, ⟨hbad, rfl⟩ | ⟨hbad, rfl⟩⟩ |
      ⟨service, index, h, ⟨hbad, rfl⟩ | ⟨position, group, hgroup, hbad, rfl⟩⟩) |
      ⟨name, check, h, (⟨hbad, rfl⟩ | ⟨⟨hkind, hbad⟩, rfl⟩) | ⟨position, group, hgroup, hbad, rfl⟩⟩)
    · exact .groupName h hbad
    · exact .command h hbad
    · exact .servicePort h hbad
    · exact .serviceGroup h hgroup hbad
    · exact .checkPort h hbad
    · exact .checkPath h hkind hbad
    · exact .checkGroup h hgroup hbad
  · intro hflawed
    cases hflawed with
    | groupName h hbad => exact .inl (.inl ⟨_, _, h, .inl ⟨hbad, rfl⟩⟩)
    | command h hbad => exact .inl (.inl ⟨_, _, h, .inr ⟨hbad, rfl⟩⟩)
    | servicePort h hbad => exact .inl (.inr ⟨_, _, h, .inl ⟨hbad, rfl⟩⟩)
    | serviceGroup h hgroup hbad =>
      exact .inl (.inr ⟨_, _, h, .inr ⟨_, _, hgroup, hbad, rfl⟩⟩)
    | checkPort h hbad => exact .inr ⟨_, _, h, .inl (.inl ⟨hbad, rfl⟩)⟩
    | checkPath h hkind hbad => exact .inr ⟨_, _, h, .inl (.inr ⟨⟨hkind, hbad⟩, rfl⟩)⟩
    | checkGroup h hgroup hbad => exact .inr ⟨_, _, h, .inr ⟨_, _, hgroup, hbad, rfl⟩⟩

/-! ### They are in order -/

theorem pairwise_zipIdx {α : Type} (items : List α) :
    items.zipIdx.Pairwise fun a b => a.2 < b.2 := by
  rw [← List.pairwise_map, List.zipIdx_map_snd]
  exact List.pairwise_lt_range'

theorem pairwise_strayFlaws (groups references : List String) {flaw : Nat → String → Flaw}
    (h : ∀ i j group other, i < j → (flaw i group).Precedes (flaw j other)) :
    (strayFlaws groups references flaw).Pairwise Flaw.Precedes := by
  refine List.pairwise_map.2 (List.Pairwise.filter _ ?_)
  exact (pairwise_zipIdx references).imp fun hlt => h _ _ _ _ hlt

theorem pairwise_processFlaws (group command : String) :
    (processFlaws group command).Pairwise Flaw.Precedes := by
  have hprecedes : (Flaw.groupName group).Precedes (.command group) := .inr ⟨rfl, Nat.zero_lt_one⟩
  rw [processFlaws]
  split <;> split <;> simp [hprecedes]

theorem pairwise_serviceFlaws (index : Nat) (service : ServiceConfig) :
    (serviceFlaws c.processGroups index service).Pairwise Flaw.Precedes := by
  refine List.pairwise_append.2 ⟨?_, pairwise_strayFlaws _ _ ?_, ?_⟩
  · split <;> simp
  · exact fun i j group other hlt => .inr ⟨rfl, Nat.succ_lt_succ hlt⟩
  · intro f hf g hg
    rw [List.mem_ite_nil_right, List.mem_singleton] at hf
    obtain ⟨-, rfl⟩ := hf
    obtain ⟨position, group, -, -, rfl⟩ := mem_strayFlaws.1 hg
    exact .inr ⟨rfl, Nat.succ_pos position⟩

theorem pairwise_checkFlaws (name : String) (check : CheckConfig) :
    (checkFlaws c.processGroups name check).Pairwise Flaw.Precedes := by
  have hprecedes : (Flaw.checkPort name).Precedes (.checkPath name) := .inr ⟨rfl, Nat.zero_lt_one⟩
  refine List.pairwise_append.2 ⟨?_, pairwise_strayFlaws _ _ ?_, ?_⟩
  · split <;> split <;> simp [hprecedes]
  · exact fun i j group other hlt => .inr ⟨rfl, Nat.add_lt_add_right hlt 2⟩
  · intro f hf g hg
    obtain ⟨position, group, -, -, rfl⟩ := mem_strayFlaws.1 hg
    rw [List.mem_append, List.mem_ite_nil_right, List.mem_ite_nil_right, List.mem_singleton,
      List.mem_singleton] at hf
    obtain ⟨-, rfl⟩ | ⟨-, rfl⟩ := hf
    · exact .inr ⟨rfl, Nat.succ_pos _⟩
    · exact .inr ⟨rfl, Nat.succ_lt_succ (Nat.succ_pos position)⟩

/-- The flaws of places that are in order are in order. -/
theorem pairwise_flatMap {α : Type} {parts : List α} {flaws : α → List Flaw} {place : α → Place}
    (hparts : parts.Pairwise fun a b => (place a).Precedes (place b))
    (hplace : ∀ a, ∀ f ∈ flaws a, f.place = place a)
    (hflaws : ∀ a, (flaws a).Pairwise Flaw.Precedes) :
    (parts.flatMap flaws).Pairwise Flaw.Precedes := by
  refine List.pairwise_flatMap.2 ⟨fun a _ => hflaws a, ?_⟩
  refine hparts.imp fun {a b} hprecedes f hf g hg => ?_
  rw [Flaw.Precedes, hplace a f hf, hplace b g hg]
  exact .inl hprecedes

theorem place_of_processFlaws {group command : String} {f : Flaw}
    (h : f ∈ processFlaws group command) : f.place = .process group := by
  obtain ⟨-, rfl⟩ | ⟨-, rfl⟩ := mem_processFlaws.1 h <;> rfl

theorem place_of_serviceFlaws {index : Nat} {service : ServiceConfig} {f : Flaw}
    (h : f ∈ serviceFlaws c.processGroups index service) : f.place = .service index := by
  obtain ⟨-, rfl⟩ | ⟨position, group, -, -, rfl⟩ := mem_serviceFlaws.1 h <;> rfl

theorem place_of_checkFlaws {check : CheckConfig} {f : Flaw}
    (h : f ∈ checkFlaws c.processGroups name check) : f.place = .check name := by
  obtain (⟨-, rfl⟩ | ⟨-, rfl⟩) | ⟨position, group, -, -, rfl⟩ := mem_checkFlaws.1 h <;> rfl

theorem pairwise_machineFlaws (c : AppConfig) : c.machineFlaws.Pairwise Flaw.Precedes := by
  refine List.pairwise_append.2 ⟨List.pairwise_append.2 ⟨?_, ?_, ?_⟩, ?_, ?_⟩
  · exact pairwise_flatMap (c.processes.sorted.imp .process) (fun _ _ => place_of_processFlaws)
      fun _ => pairwise_processFlaws _ _
  · exact pairwise_flatMap ((pairwise_zipIdx c.services).imp .service)
      (fun _ _ => place_of_serviceFlaws) fun _ => pairwise_serviceFlaws _ _
  · intro f hf g hg
    obtain ⟨_, -, hf⟩ := List.mem_flatMap.1 hf
    obtain ⟨_, -, hg⟩ := List.mem_flatMap.1 hg
    rw [Flaw.Precedes, place_of_processFlaws hf, place_of_serviceFlaws hg]
    exact .inl (.processService _ _)
  · exact pairwise_flatMap (c.checks.sorted.imp .check) (fun _ _ => place_of_checkFlaws)
      fun _ => pairwise_checkFlaws _ _
  · intro f hf g hg
    obtain ⟨_, -, hg⟩ := List.mem_flatMap.1 hg
    rw [Flaw.Precedes, place_of_checkFlaws hg]
    rcases List.mem_append.1 hf with hf | hf
    · obtain ⟨_, -, hf⟩ := List.mem_flatMap.1 hf
      rw [place_of_processFlaws hf]
      exact .inl (.processCheck _ _)
    · obtain ⟨_, -, hf⟩ := List.mem_flatMap.1 hf
      rw [place_of_serviceFlaws hf]
      exact .inl (.serviceCheck _ _)

/-! ## What is taken -/

theorem isEmpty_machineProblems : c.machineProblems.isEmpty = true ↔ c.machineFlaws = [] := by
  rw [machineProblems_eq, List.isEmpty_iff, List.map_eq_nil_iff]

theorem ensureMachines_eq_ok : c.ensureMachines = .ok () ↔ c.machineFlaws = [] := by
  rw [ensureMachines, ← isEmpty_machineProblems]
  split
  · next h => exact iff_of_true rfl h
  · next h => exact iff_of_false nofun h

theorem ensureMachines_eq_error {e : ConfigError} :
    c.ensureMachines = .error e ↔ c.machineFlaws ≠ [] ∧
      e = .machinesIncompatible (c.machineFlaws.map Flaw.text) := by
  rw [ensureMachines, Ne, ← isEmpty_machineProblems]
  split
  · next h => exact iff_of_false nofun fun hne => hne.1 h
  · next h => rw [Except.error.injEq, eq_comm, and_iff_right h, machineProblems_eq]

theorem Expressible.not_flawed (h : Expressible c) (f : Flaw) : ¬Flawed c f := by
  intro hflawed
  cases hflawed with
  | groupName hgroup hbad => exact hbad (h.processes _ _ hgroup).1
  | command hgroup hbad =>
    obtain ⟨ch, hch, hblank⟩ := (h.processes _ _ hgroup).2
    cases hblank.symm.trans (hbad ch hch)
  | servicePort hservice hbad => exact h.services _ (List.mem_of_getElem? hservice) hbad
  | serviceGroup hservice hgroup hbad =>
    exact hbad (h.serviceGroups _ (List.mem_of_getElem? hservice) _ (List.mem_of_getElem? hgroup))
  | checkPort hcheck hbad => exact (h.checks _ _ hcheck).1 hbad
  | checkPath hcheck hkind hbad =>
    obtain ⟨path, hpath, hne⟩ := (h.checks _ _ hcheck).2 hkind
    rw [hpath] at hbad
    rcases hbad with hbad | hbad
    · cases hbad
    · exact hne (Option.some.inj hbad)
  | checkGroup hcheck hgroup hbad =>
    exact hbad (h.checkGroups _ _ hcheck _ (List.mem_of_getElem? hgroup))

theorem expressible_of_not_flawed (h : ∀ f, ¬Flawed c f) : Expressible c where
  processes name command hgroup := by
    refine ⟨Classical.not_not.1 fun hbad => h _ (.groupName hgroup hbad), ?_⟩
    refine Classical.byContradiction fun hnone => h _ (.command hgroup fun ch hch => ?_)
    exact Classical.byContradiction fun hblank => hnone ⟨ch, hch, Bool.not_eq_true _ ▸ hblank⟩
  services service hservice hbad := by
    obtain ⟨index, hindex⟩ := List.mem_iff_getElem?.1 hservice
    exact h _ (.servicePort hindex hbad)
  checks name check hcheck := by
    refine ⟨fun hbad => h _ (.checkPort hcheck hbad), fun hkind => ?_⟩
    cases hpath : check.path with
    | none => exact absurd (.checkPath hcheck hkind (.inl hpath)) (h _)
    | some path =>
      refine ⟨path, rfl, ?_⟩
      rintro rfl
      exact h _ (.checkPath hcheck hkind (.inr hpath))
  serviceGroups service hservice group hgroup := by
    obtain ⟨index, hindex⟩ := List.mem_iff_getElem?.1 hservice
    obtain ⟨position, hposition⟩ := List.mem_iff_getElem?.1 hgroup
    exact Classical.not_not.1 fun hbad => h _ (.serviceGroup hindex hposition hbad)
  checkGroups name check hcheck group hgroup := by
    obtain ⟨position, hposition⟩ := List.mem_iff_getElem?.1 hgroup
    exact Classical.not_not.1 fun hbad => h _ (.checkGroup hcheck hposition hbad)

theorem ensureMachines_eq_ok_iff : c.ensureMachines = .ok () ↔ Expressible c := by
  rw [ensureMachines_eq_ok, List.eq_nil_iff_forall_not_mem]
  simp only [mem_machineFlaws]
  exact ⟨expressible_of_not_flawed, Expressible.not_flawed⟩

/-! ## What does not matter -/

theorem ensureMachines_of_withOptions {o : DeployOptions} {d : AppConfig}
    (h : c.withOptions o = .ok d) : d.ensureMachines = c.ensureMachines := by
  obtain ⟨vars, -, rfl⟩ := withOptions_eq_ok.1 h
  rfl

/-- Machines take a config exactly if it is expressible. Otherwise all of its flaws are told, once
each and in order, with semicolons between them. It depends on nothing but the processes, services
and checks of the config, so that neither the wishes of a deploy nor telling the primary region
makes a difference. -/
theorem ensureMachines_exact (c : AppConfig) :
    (c.ensureMachines = .ok () ↔ Expressible c) ∧
      (∃ flaws : List Flaw, (∀ f, f ∈ flaws ↔ Flawed c f) ∧ flaws.Nodup ∧
        flaws.Pairwise Flaw.Precedes ∧
        (∀ e, c.ensureMachines = .error e ↔
          flaws ≠ [] ∧ e = .machinesIncompatible (flaws.map Flaw.text)) ∧
        (ConfigError.machinesIncompatible (flaws.map Flaw.text)).message =
          "config is not compatible with machines: " ++ "; ".intercalate (flaws.map Flaw.text)) ∧
      c.ensureMachines = ensureMachines
        { processes := c.processes, services := c.services, checks := c.checks } ∧
      (∀ o, (c.withOptions o).map (·.ensureMachines) =
        (c.withOptions o).map fun _ => c.ensureMachines) ∧
      c.tellPrimaryRegion.ensureMachines = c.ensureMachines := by
  refine ⟨ensureMachines_eq_ok_iff, ⟨c.machineFlaws, fun f => mem_machineFlaws, ?_,
    pairwise_machineFlaws c, fun e => ensureMachines_eq_error, ?_⟩,
    rfl, fun o => ?_, ensureMachines_tellPrimaryRegion c⟩
  · exact (pairwise_machineFlaws c).imp Flaw.Precedes.ne
  · rfl
  · cases h : c.withOptions o with
    | error e => rfl
    | ok d => exact congrArg Except.ok (ensureMachines_of_withOptions h)

namespace Example

/-- A config with several flaws, two of them alike. -/
def flawedConfig : AppConfig where
  processes := .ofList [("Web", " "), ("jobs", "bin/jobs")]
  services := [⟨0, "tcp", ["app", "jobs", "app"], []⟩]
  checks := .ofList [("alive", { kind := .http, path := some "" })]

example :
    flawedConfig.ensureMachines = .error (.machinesIncompatible [
      "process group 'Web' may only contain lowercase letters, digits, '-' and '_'",
      "process group 'Web' has an empty command",
      "services[0] needs an internal_port",
      "services[0] references unknown process group 'app'",
      "services[0] references unknown process group 'app'",
      "check 'alive' needs a port",
      "http check 'alive' needs a path"]) := by
  decide +kernel

end Example

end AppDeploy.AppConfig
