import AppDeploy.AppName

/-!
# Reading app names

A text is read as an app name if nothing is wrong with its characters, and the name has that text.
-/

namespace AppDeploy.AppName

variable {text : String} {app : AppName} {e : Error}

theorem ofText_eq_ok : ofText text = .ok app ↔ app.text = text := by
  rw [ofText]
  split
  · next h =>
    constructor
    · intro hok
      cases hok
      rfl
    · rintro rfl
      rfl
  · next found h =>
    constructor
    · intro hok
      cases hok
    · rintro rfl
      cases app.sound.symm.trans h

theorem ofText_eq_error : ofText text = .error e ↔ charsError? text.toList = some e := by
  rw [ofText]
  split
  · next h => simp [h]
  · next found h => simp [h]

theorem text_inj {a b : AppName} : a.text = b.text ↔ a = b :=
  ⟨ext_text, congrArg text⟩

theorem text_ne_empty (app : AppName) : app.text ≠ "" := by
  intro h
  have hsound := app.sound
  rw [h] at hsound
  cases hsound

end AppDeploy.AppName
