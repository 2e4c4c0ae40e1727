import AppDeploy.AppName
import AppDeploy.Time.Timestamp

/-! The tags of the images that are built here. -/
namespace AppDeploy.ImageTag

/-- The label of an image that was given none: the time it was made. -/
def labelAt (t : Timestamp) : String :=
  let (year, month, day) := Timestamp.dateOfDay t.day
  "deployment-" ++ Timestamp.yearText year ++ Timestamp.padded 2 month ++
    Timestamp.padded 2 day ++ Timestamp.padded 2 (t.second / 3600) ++
    Timestamp.padded 2 (t.second / 60 % 60) ++ Timestamp.padded 2 (t.second % 60)

/-- The tag of an app's image in a registry. -/
def text (registry : String) (app : AppName) (label : String) : String :=
  s!"{registry}/{app.text}:{label}"

end AppDeploy.ImageTag
