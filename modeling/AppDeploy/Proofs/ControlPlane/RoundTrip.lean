import AppDeploy.ControlPlane.Record
import AppDeploy.Proofs.Config.RoundTrip
import AppDeploy.Proofs.Time.Timestamp

/-!
# Records survive the wire

Every record that goes to the control plane or comes from it is read as it was written: nothing
is lost where a field is left out, is empty, or has another name on the wire. A config that comes
back from the control plane is the one that was sent, without what is only local.
-/

namespace AppDeploy

open Record

/-! ## Single values -/

theorem Timestamp.reads_text {t : Timestamp} (h : t.Valid) :
    Reads Timestamp.read (.str t.text) t :=
  reads_parsedText (by rw [Timestamp.ofText_text h]; rfl)

theorem Ident.reads_toJson {kind : Ident.Kind} (id : Ident kind) : Reads Ident.read id.toJson id :=
  fun _ => rfl

theorem Platform.reads_marker (p : Option Platform) :
    Reads Platform.readMarker (.ofOption Platform.toJson p) p := by
  intro path
  cases p with
  | none => rfl
  | some p => cases p <;> rfl

/-! ## Records -/

theorem Organization.reads_toJson (o : Organization) : Reads Organization.read o.toJson o :=
  reads_record (Fields.Finds.map _ (Fields.finds_required (by simp) (reads_text o.slug)))

theorem AppSummary.reads_toJson (s : AppSummary) : Reads AppSummary.read s.toJson s := by
  refine reads_record (Fields.Finds.map _ ?name |>.seq ?organization |>.seq ?platform
    |>.seq ?deployed)
  case name => exact Fields.finds_required (by simp) s.name.reads_text
  case organization => exact Fields.finds_required (by simp) s.organization.reads_toJson
  case platform => exact finds_always (by simp) (Platform.reads_marker s.platform)
  case deployed => exact finds_always (by simp) (reads_flag s.deployed)

theorem OrgSettings.reads_toJson (s : OrgSettings) : Reads OrgSettings.read s.toJson s :=
  reads_record (Fields.Finds.map _ (finds_always (by simp) (reads_flag s.machinesDefaultOn)))

/-- Versions are kept in 32 bits, and a release was created at a point in time. -/
structure Release.Fits (r : Release) : Prop where
  version : r.version < 4294967296
  createdAt : ∀ t ∈ r.createdAt, t.Valid

theorem Release.reads_toJson {r : Release} (h : r.Fits) : Reads Release.read r.toJson r := by
  refine reads_record (Fields.Finds.map _ ?id |>.seq ?version |>.seq ?strategy |>.seq ?evaluation
    |>.seq ?status |>.seq ?createdAt)
  case id => exact Fields.finds_required (by simp) r.id.reads_toJson
  case version =>
    exact Fields.finds_required (by simp) (reads_natural (Nat.pow 2 32) h.version)
  case strategy => exact finds_always (by simp) (reads_text r.deploymentStrategy)
  case evaluation => exact Fields.finds_required (by simp) r.evaluationId.reads_toJson
  case status => exact finds_always (by simp) (reads_text r.status)
  case createdAt =>
    exact finds_always (by simp) (reads_ofOption (fun t => .str t.text) fun t ht =>
      ⟨nofun, Timestamp.reads_text (h.createdAt t ht)⟩)

theorem ReleaseCommand.reads_toJson (c : ReleaseCommand) :
    Reads ReleaseCommand.read c.toJson c := by
  refine reads_record (Fields.Finds.map _ ?id |>.seq ?command |>.seq ?status)
  case id => exact Fields.finds_required (by simp) c.id.reads_toJson
  case command => exact Fields.finds_required (by simp) (reads_text c.command)
  case status => exact finds_always (by simp) (reads_text c.status)

theorem StatusReport.reads_toJson (r : StatusReport) : Reads StatusReport.read r.toJson r := by
  refine reads_record (Fields.Finds.map _ ?status |>.seq ?message)
  case status => exact Fields.finds_required (by simp) (reads_text r.status)
  case message =>
    exact finds_always (by simp) (reads_ofOption .str fun s _ => ⟨nofun, reads_text s⟩)

/-- Sizes are kept in 64 bits. -/
def DeploymentImage.Fits (i : DeploymentImage) : Prop :=
  i.size < 18446744073709551616

theorem DeploymentImage.reads_toJson {i : DeploymentImage} (h : i.Fits) :
    Reads DeploymentImage.read i.toJson i := by
  refine reads_record (Fields.Finds.map _ ?tag |>.seq ?id |>.seq ?digest |>.seq ?size
    |>.seq ?labels)
  case tag => exact Fields.finds_required (by simp) (reads_text i.tag)
  case id | digest => exact finds_optionalText (by simp)
  case size => exact Fields.finds_required (by simp) (reads_natural (Nat.pow 2 64) h)
  case labels => exact finds_textTable (by simp)

/-! ## All of them -/

/-- Every record is read from what it is written as: a config but for the file it came from,
which is never written, and the records of the control plane as they are. The definition that
the control plane keeps of a config is read as that config without its name, its build section
and its file. -/
theorem records_survive_the_wire :
    (∀ c : AppConfig, c.Fits →
      Json.decodeValue AppConfig.read c.toJson = .ok { c with path := "" }) ∧
    (∀ s : AppSummary, Json.decodeValue AppSummary.read s.toJson = .ok s) ∧
    (∀ r : Release, r.Fits → Json.decodeValue Release.read r.toJson = .ok r) ∧
    (∀ c : ReleaseCommand, Json.decodeValue ReleaseCommand.read c.toJson = .ok c) ∧
    (∀ r : StatusReport, Json.decodeValue StatusReport.read r.toJson = .ok r) ∧
    (∀ s : OrgSettings, Json.decodeValue OrgSettings.read s.toJson = .ok s) ∧
    (∀ i : DeploymentImage, i.Fits → Json.decodeValue DeploymentImage.read i.toJson = .ok i) ∧
    (∀ c : AppConfig, c.Fits → Json.decodeValue AppConfig.read c.definition =
      .ok { c with app := none, build := none, path := "" }) :=
  ⟨fun _ h => (AppConfig.reads_toJson h).decodeValue, fun s => s.reads_toJson.decodeValue,
    fun _ h => (Release.reads_toJson h).decodeValue, fun c => c.reads_toJson.decodeValue,
    fun r => r.reads_toJson.decodeValue, fun s => s.reads_toJson.decodeValue,
    fun _ h => (DeploymentImage.reads_toJson h).decodeValue,
    fun _ h => (AppConfig.reads_definition h).decodeValue⟩

namespace Example

/-- A config with sections that are there and empty, a text that is there and empty, a span with
nanoseconds, and a setting that is itself a list. -/
def wireConfig : AppConfig where
  app := some ⟨"web", rfl⟩
  primaryRegion := "ams"
  env := .ofList [("PRIMARY_REGION", ""), ("LOG", "debug")]
  build := some {
    image := some ""
    settings := .ofList
      [("layers", .arr [.nat 1, .null, .obj [("a", .bool true), ("b", .nat 0)]])] }
  platform := some .releases
  deploy := some {}
  services := [{ internalPort := 8080, ports := [{ port := 443, handlers := ["tls"] }] }]
  checks := .ofList [("alive", { kind := .http, interval := some ⟨90000000001⟩ })]
  path := "/srv/app.yaml"

theorem fits_wireConfig : wireConfig.Fits where
  build := by
    rintro _ ⟨⟩
    refine ⟨fun entry hentry => ?_⟩
    obtain rfl := List.mem_singleton.1 hentry
    refine .arr fun item hitem => ?_
    simp only [List.mem_cons, List.not_mem_nil, or_false] at hitem
    obtain rfl | rfl | rfl := hitem
    · exact .num _
    · exact .null
    · refine .obj (by decide) fun field hfield => ?_
      simp only [List.mem_cons, List.not_mem_nil, or_false] at hfield
      obtain rfl | rfl := hfield
      · exact .bool true
      · exact .num _
  services := by
    intro s hs
    obtain rfl := List.mem_singleton.1 hs
    exact ⟨by decide, fun p hp => by obtain rfl := List.mem_singleton.1 hp; decide⟩
  checks := by
    intro entry hentry
    obtain rfl := List.mem_singleton.1 hentry
    exact ⟨nofun, by rintro _ ⟨⟩; decide, nofun⟩

/-- A release from the leap second at the end of 2016. -/
def wireRelease : Release where
  id := ⟨"rel_1"⟩
  version := 4294967295
  deploymentStrategy := ""
  evaluationId := ⟨"ev_1"⟩
  status := "pending"
  createdAt := some ⟨17166, 86399, 1500000000⟩

theorem fits_wireRelease : wireRelease.Fits where
  version := by decide
  createdAt := by rintro _ ⟨⟩; exact ⟨by decide, by decide, by decide⟩

theorem examples_survive_the_wire :
    (wireConfig.Fits ∧ wireRelease.Fits) ∧
      Json.decodeValue AppConfig.read wireConfig.toJson = .ok { wireConfig with path := "" } ∧
      Json.decodeValue AppConfig.read wireConfig.definition =
        .ok { wireConfig with app := none, build := none, path := "" } ∧
      Json.decodeValue Release.read wireRelease.toJson = .ok wireRelease := by
  obtain ⟨hconfig, -, hrelease, -, -, -, -, hdefinition⟩ := records_survive_the_wire
  exact ⟨⟨fits_wireConfig, fits_wireRelease⟩, hconfig wireConfig fits_wireConfig,
    hdefinition wireConfig fits_wireConfig, hrelease wireRelease fits_wireRelease⟩

end Example

end AppDeploy
