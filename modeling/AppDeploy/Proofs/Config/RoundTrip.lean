import AppDeploy.Config.Encode
import AppDeploy.Proofs.AppName
import AppDeploy.Proofs.Record.Reading
import AppDeploy.Proofs.Time.Span

/-!
# App configs that are written can be read

What is absent or empty is left out when a config is written, and reading puts it back: each
section is found field by field in the object that was written (`AppConfig.reads_toJson`). The
definition of an app is read as the config without what is only local
(`AppConfig.reads_definition`).
-/

namespace AppDeploy

open Json (Document)
open Record

/-! ## What is written under a name -/

/-- The value under which a list is written, unless it is empty. -/
def listed? {α : Type} (encode : α → Json) (items : List α) : Option Json :=
  if items.isEmpty then none else some (.arr (items.map encode))

/-- The value under which a table is written, unless it is empty. -/
def tabled? {α : Type} (encode : α → Json) (t : Table α) : Option Json :=
  if t.isEmpty then none else some (.ofTable (t.map encode))

section Written

variable {α : Type}

@[simp] theorem textField_eq (name : String) (value : Option String) :
    textField name value = Json.optional name (value.map .str) := rfl

@[simp] theorem listField_eq (name : String) (encode : α → Json) (items : List α) :
    listField name encode items = Json.optional name (listed? encode items) := by
  rw [listField, listed?]
  split <;> rfl

@[simp] theorem tableField_eq (name : String) (encode : α → Json) (t : Table α) :
    tableField name encode t = Json.optional name (tabled? encode t) := by
  rw [tableField, tabled?]
  split <;> rfl

@[simp] theorem get?_ofList_append (first second : List (String × α)) (name : String) :
    (Table.ofList (first ++ second)).get? name =
      ((Table.ofList second).get? name).or ((Table.ofList first).get? name) := by
  simp only [Table.get?_ofList, List.reverse_append, Table.lookup_append]

@[simp] theorem get?_ofList_cons (entry : String × α) (rest : List (String × α)) (name : String) :
    (Table.ofList (entry :: rest)).get? name =
      ((Table.ofList rest).get? name).or (if name = entry.1 then some entry.2 else none) := by
  simp only [Table.get?_ofList, List.reverse_cons, Table.lookup_append, Table.lookup_cons]
  rfl

@[simp] theorem get?_ofList_nil (name : String) :
    (Table.ofList ([] : List (String × α))).get? name = none := rfl

@[simp] theorem get?_ofList_optional (name : String) (value : Option Json) (key : String) :
    (Table.ofList (Json.optional name value)).get? key = if key = name then value else none := by
  cases value <;> simp [Json.optional]

end Written

/-! ## Fields that may be left out -/

section Fields

variable {α : Type} {read : Reader Document α} {t : Table Json} {name : String}

/-- A field that may be left out, and never is. -/
theorem finds_always {v : Json} {absent a : α} (hget : t.get? name = some v)
    (hread : Reads read v a) : (Fields.default name read absent).Finds t a :=
  Fields.finds_default hget (fun _ hv => Option.some.inj hv ▸ hread) nofun

theorem finds_option (encode : α → Json) {x : Option α} (hget : t.get? name = x.map encode)
    (hread : ∀ a ∈ x, encode a ≠ .null ∧ Reads read (encode a) a) :
    (Fields.default name (option read) none).Finds t x := by
  refine Fields.finds_default hget ?_ ?_
  · intro v hv
    obtain ⟨a, ha, rfl⟩ := Option.map_eq_some_iff.1 hv
    cases ha
    exact reads_option_some (hread a rfl).1 (hread a rfl).2
  · intro hnone
    exact (Option.map_eq_none_iff.1 hnone).symm

theorem finds_optionalText {x : Option String} (hget : t.get? name = x.map .str) :
    (optionalText name).Finds t x :=
  finds_option .str hget fun s _ => ⟨nofun, reads_text s⟩

/-- A field that is left out when its value is the one to take then. -/
theorem finds_unless {omitted : Bool} {v : Json} {absent a : α}
    (hget : t.get? name = if omitted then none else some v) (hread : Reads read v a)
    (habsent : omitted = true → absent = a) : (Fields.default name read absent).Finds t a := by
  cases omitted with
  | false => exact finds_always hget hread
  | true => exact Fields.finds_default (v := none) hget nofun fun _ => habsent rfl

theorem finds_list (encode : α → Json) {items : List α} (hget : t.get? name = listed? encode items)
    (hread : ∀ a ∈ items, Reads read (encode a) a) :
    (Fields.default name (list read) []).Finds t items :=
  finds_unless hget (reads_list hread) fun hempty => (List.isEmpty_iff.1 hempty).symm

theorem finds_texts {items : List String} (hget : t.get? name = listed? .str items) :
    (texts name).Finds t items :=
  finds_list .str hget fun s _ => reads_text s

theorem finds_table (encode : α → Json) {values : Table α}
    (hget : t.get? name = tabled? encode values)
    (hread : ∀ entry ∈ values.entries, Reads read (encode entry.2) entry.2) :
    (Fields.default name (table read) .empty).Finds t values :=
  finds_unless hget (reads_table hread) fun hempty =>
    Table.ext_entries (List.isEmpty_iff.1 hempty).symm

theorem finds_textTable {values : Table String} (hget : t.get? name = tabled? .str values) :
    (textTable name).Finds t values :=
  finds_table .str hget fun entry _ => reads_text entry.2

end Fields

/-! ## Names and spans -/

theorem AppName.ofText_text (a : AppName) : ofText a.text = .ok a :=
  ofText_eq_ok.2 rfl

theorem AppName.reads_text (a : AppName) : Reads AppName.read (.str a.text) a := by
  intro path
  have htext : Record.text path (Document.ofJson (.str a.text)) = .ok a.text := rfl
  simp only [AppName.read, htext, bind, Except.bind, a.ofText_text]
  rfl

theorem Platform.reads_toJson (p : Platform) : Reads Platform.read p.toJson p := by
  cases p <;> exact reads_choice rfl

theorem Span.reads_text {d : Span} (h : d.Fits) : Reads Span.read (.str d.text) d :=
  reads_parsedText (by rw [Span.ofText_text h]; rfl)

theorem CheckKind.reads_name (k : CheckKind) : Reads CheckKind.read (.str k.name) k := by
  cases k <;> exact reads_choice rfl

/-! ## Sections -/

/-- The values of a build section's settings are JSON values. -/
structure BuildConfig.Fits (b : BuildConfig) : Prop where
  settings : ∀ entry ∈ b.settings.entries, entry.2.Canonical

theorem BuildConfig.reads_toJson {b : BuildConfig} (h : b.Fits) :
    Reads BuildConfig.read b.toJson b := by
  refine reads_record (Fields.Finds.map _ ?image |>.seq ?builder |>.seq ?buildpacks
    |>.seq ?builtin |>.seq ?settings |>.seq ?args |>.seq ?dockerfile |>.seq ?ignorefile
    |>.seq ?target)
  case image | builder | builtin | dockerfile | ignorefile | target =>
    exact finds_optionalText (by simp)
  case buildpacks => exact finds_texts (by simp)
  case settings =>
    exact finds_table id (by simp) fun entry hentry =>
      reads_value (h.settings entry hentry)
  case args => exact finds_textTable (by simp)

theorem DeployConfig.reads_toJson (d : DeployConfig) : Reads DeployConfig.read d.toJson d := by
  refine reads_record (Fields.Finds.map _ ?strategy |>.seq ?command)
  all_goals exact finds_optionalText (by simp)

/-- Ports are kept in 16 bits. -/
theorem reads_port {port : Nat} (h : port < 65536) : Reads word16 (.nat port) port :=
  reads_natural (Nat.pow 2 16) h

theorem ServicePort.reads_toJson {p : ServicePort} (h : p.port < 65536) :
    Reads ServicePort.read p.toJson p := by
  refine reads_record (Fields.Finds.map _ ?port |>.seq ?handlers)
  case port => exact Fields.finds_required (by simp) (reads_port h)
  case handlers => exact finds_texts (by simp)

structure ServiceConfig.Fits (s : ServiceConfig) : Prop where
  internalPort : s.internalPort < 65536
  ports : ∀ p ∈ s.ports, p.port < 65536

theorem ServiceConfig.reads_toJson {s : ServiceConfig} (h : s.Fits) :
    Reads ServiceConfig.read s.toJson s := by
  refine reads_record (Fields.Finds.map _ ?port |>.seq ?protocol |>.seq ?processes |>.seq ?ports)
  case port => exact Fields.finds_required (by simp) (reads_port h.internalPort)
  case protocol => exact finds_always (by simp) (reads_text s.protocol)
  case processes => exact finds_texts (by simp)
  case ports =>
    exact finds_list ServicePort.toJson (by simp) fun p hp =>
      ServicePort.reads_toJson (h.ports p hp)

structure CheckConfig.Fits (c : CheckConfig) : Prop where
  port : ∀ port ∈ c.port, port < 65536
  interval : ∀ d ∈ c.interval, d.Fits
  timeout : ∀ d ∈ c.timeout, d.Fits

theorem CheckConfig.reads_toJson {c : CheckConfig} (h : c.Fits) :
    Reads CheckConfig.read c.toJson c := by
  refine reads_record (Fields.Finds.map _ ?kind |>.seq ?port |>.seq ?path |>.seq ?interval
    |>.seq ?timeout |>.seq ?processes)
  case kind => exact Fields.finds_required (by simp) c.kind.reads_name
  case port =>
    exact finds_option .nat (by simp) fun port hport => ⟨nofun, reads_port (h.port port hport)⟩
  case path => exact finds_optionalText (by simp)
  case interval =>
    exact finds_option (fun d => .str d.text) (by simp [Function.comp_def]) fun d hd =>
      ⟨nofun, Span.reads_text (h.interval d hd)⟩
  case timeout =>
    exact finds_option (fun d => .str d.text) (by simp [Function.comp_def]) fun d hd =>
      ⟨nofun, Span.reads_text (h.timeout d hd)⟩
  case processes => exact finds_texts (by simp)

/-! ## The config -/

namespace AppConfig

/-- Every number of a config, every span in it and every setting is one that can be written. -/
structure Fits (c : AppConfig) : Prop where
  build : ∀ b ∈ c.build, b.Fits
  services : ∀ s ∈ c.services, s.Fits
  checks : ∀ entry ∈ c.checks.entries, entry.2.Fits

/-- The primary region, unless there is none. -/
def writtenRegion? (c : AppConfig) : Option Json :=
  if c.primaryRegion.isEmpty then none else some (.str c.primaryRegion)

@[simp] theorem definitionFields_eq (c : AppConfig) :
    c.definitionFields =
      Json.optional "primary_region" c.writtenRegion? ++ ([("env", .ofTexts c.env)] ++
      (Json.optional "platform" (c.platform.map Platform.toJson) ++
      (Json.optional "deploy" (c.deploy.map DeployConfig.toJson) ++
      (Json.optional "processes" (tabled? .str c.processes) ++
      (Json.optional "services" (listed? ServiceConfig.toJson c.services) ++
      Json.optional "checks" (tabled? CheckConfig.toJson c.checks)))))) := by
  rw [definitionFields, writtenRegion?]
  split <;> simp [Json.optional]

/-- A config is read as it was, but for the file it came from, which is not written. -/
theorem reads_toJson {c : AppConfig} (h : c.Fits) :
    Reads AppConfig.read c.toJson { c with path := "" } := by
  refine reads_record (Fields.Finds.map _ ?app |>.seq ?region |>.seq ?env |>.seq ?build
    |>.seq ?platform |>.seq ?deploy |>.seq ?processes |>.seq ?services |>.seq ?checks
    |>.seq (Fields.finds_pure ""))
  case app =>
    exact finds_option (fun a => .str a.text) (by simp [Function.comp_def]) fun a _ =>
      ⟨nofun, a.reads_text⟩
  case region =>
    exact finds_unless (by simp [writtenRegion?]) (reads_text c.primaryRegion) fun hempty =>
      (String.isEmpty_iff.1 hempty).symm
  case env =>
    exact finds_always (by simp [Json.ofTexts]) (reads_table fun entry _ => reads_text entry.2)
  case build =>
    exact finds_option BuildConfig.toJson (by simp) fun b hb =>
      ⟨nofun, BuildConfig.reads_toJson (h.build b hb)⟩
  case platform =>
    exact finds_option Platform.toJson (by simp) fun p _ => ⟨nofun, p.reads_toJson⟩
  case deploy =>
    exact finds_option DeployConfig.toJson (by simp) fun d _ => ⟨nofun, d.reads_toJson⟩
  case processes => exact finds_textTable (by simp)
  case services =>
    exact finds_list ServiceConfig.toJson (by simp) fun s hs =>
      ServiceConfig.reads_toJson (h.services s hs)
  case checks =>
    exact finds_table CheckConfig.toJson (by simp) fun entry hentry =>
      CheckConfig.reads_toJson (h.checks entry hentry)

/-- What the control plane keeps of a config: nothing that is only local. -/
def stored (c : AppConfig) : AppConfig :=
  { c with app := none, build := none, path := "" }

/-- The definition of an app is read as the config that the control plane keeps. -/
theorem reads_definition {c : AppConfig} (h : c.Fits) :
    Reads AppConfig.read c.definition c.stored := by
  have hfits : c.stored.Fits := ⟨nofun, h.services, h.checks⟩
  have hwritten : c.stored.toJson = c.definition := rfl
  exact hwritten ▸ reads_toJson hfits

end AppConfig

end AppDeploy
