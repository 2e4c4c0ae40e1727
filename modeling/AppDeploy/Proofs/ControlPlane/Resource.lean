import AppDeploy.ControlPlane.Resource
import AppDeploy.Proofs.AppName
import AppDeploy.Proofs.FilePath
import AppDeploy.Proofs.Text.Percent

/-!
# What paths of resources tell

A path is made of segments, and no slash is in them: what the control plane is asked for by name is
encoded (`noSlash_of_segments`). So the segments can be read off the path, and the resource off the
segments (`path_determines_resource`), whatever text the names of organizations, releases and the
like are.
-/

namespace AppDeploy

theorem Ident.text_inj {kind : Ident.Kind} {a b : Ident kind} : a.text = b.text ↔ a = b := by
  cases a
  cases b
  simp

namespace Resource

open Text.Percent (encode encode_inj)

variable {a b : Resource}

/-- The segments of the path of a resource. -/
def segments : Resource → List String
  | .app a => ["v1", "apps", encode a.text]
  | .config a => ["v1", "apps", encode a.text, "config"]
  | .organization slug => ["v1", "orgs", encode slug, "settings"]
  | .releases a => ["v1", "apps", encode a.text, "releases"]
  | .release a id => ["v1", "apps", encode a.text, "releases", encode id.text]
  | .releaseCommand a id => ["v1", "apps", encode a.text, "release_commands", encode id.text]
  | .evaluation a id => ["v1", "apps", encode a.text, "evaluations", encode id.text]
  | .rollouts a => ["v1", "apps", encode a.text, "rollouts"]
  | .rollout a id => ["v1", "apps", encode a.text, "rollouts", encode id.text]

theorem path_eq (r : Resource) : r.path = FilePath.textOf r.segments := by
  apply String.toList_injective
  cases r <;> simp [path, appPath, segments, FilePath.textOf]

theorem noSlash_encode (s : String) : '/' ∉ (encode s).toList := by
  intro h
  rcases Text.Percent.mem_encode h with hplain | hpercent
  · revert hplain
    decide
  · revert hpercent
    decide

theorem noSlash_of_segments (r : Resource) : ∀ s ∈ r.segments, '/' ∉ s.toList := by
  cases r <;> simp [segments, noSlash_encode]

theorem segments_ne_nil (r : Resource) : r.segments ≠ [] := by
  cases r <;> exact List.cons_ne_nil _ _

/-- Names of resources stand at places of their own, and between them there are other words for
each kind of resource. -/
theorem segments_inj : a.segments = b.segments ↔ a = b := by
  cases a <;> cases b <;> simp [segments, encode_inj, AppName.text_inj, Ident.text_inj]

/-- Equal paths are paths of one resource: of the same kind, with the same names. -/
theorem path_determines_resource : a.path = b.path ↔ a = b := by
  constructor
  · intro h
    rw [path_eq, path_eq] at h
    have hpieces := FilePath.pieces_textOf a.noSlash_of_segments a.segments_ne_nil
    rw [h, FilePath.pieces_textOf b.noSlash_of_segments b.segments_ne_nil] at hpieces
    have hsegments : b.segments.map String.toList = a.segments.map String.toList :=
      List.tail_eq_of_cons_eq hpieces
    rw [List.map_inj_right fun _ _ => String.toList_inj.1] at hsegments
    exact segments_inj.1 hsegments.symm
  · exact congrArg path

end Resource

end AppDeploy
