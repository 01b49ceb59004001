import ThemeForge.Command.Run
import ThemeForge.Proofs.World.Configuration
import ThemeForge.Proofs.World.Creation

/-!
# How commands end

A command ends with the first failure of its steps: one that is handled becomes a line for the user
and the exit code 1, any other ends the program. Every command takes the settings first.

* `Run.result_withStore`: a run with a store of its own;
* `Command.ended`, `Command.result_handle_error`: the end of a command that fails;
* `Command.result_run_of_settings_error`, `Command.result_newTheme`: the end of a command, by what
  its steps do.
-/

namespace ThemeForge

namespace Run

variable {α : Type}

/-- The store in use is put back. -/
theorem result_withStore (s : TemplateStore) (act : Run α) (w : World) :
    result (withStore s act) w = ((result act { w with store := s }).1,
      { (result act { w with store := s }).2 with store := w.store }) := by
  unfold withStore
  rw [result_bind_ok (result_get w), result_bind_ok (result_setStore s w),
    result_bind_ok (result_outcome act _), result_bind_ok (result_setStore _ _),
    result_ofExcept, Except.mapError_id]

end Run

namespace Command

open Run

variable [Terminal]

/-- The line for the user about a failure. -/
def failureLine (f : Failure) : Text :=
  Terminal.layout .errors (Text.concat [failureWord f, f.message])

/-- How a command ends with a failure. -/
def ended (f : Failure) (w : World) : Except Failure Nat × World :=
  if f.IsHandled then (.ok 1, { w with console := w.console.report (failureLine f) })
  else (.error f, w)

theorem files_ended (f : Failure) (w : World) : (ended f w).2.files = w.files := by
  unfold ended
  split <;> rfl

theorem ended_fst_ne_zero (f : Failure) (w : World) : (ended f w).1 ≠ .ok 0 := by
  unfold ended
  split <;> simp

theorem ended_fst (f : Failure) (w : World) :
    (ended f w).1 = .ok 1 ∨ ((ended f w).1 = .error f ∧ ¬ f.IsHandled) := by
  unfold ended
  split
  · exact .inl rfl
  · rename_i h
    exact .inr ⟨rfl, h⟩

theorem ended_congr (f : Failure) {w w' : World} (hfiles : w'.files = w.files)
    (hconsole : w'.console = w.console) :
    (ended f w').1 = (ended f w).1 ∧ (ended f w').2.files = (ended f w).2.files ∧
      (ended f w').2.console = (ended f w).2.console := by
  unfold ended
  split
  · exact ⟨rfl, hfiles, by rw [hconsole]⟩
  · exact ⟨rfl, hfiles, hconsole⟩

theorem result_handle_ok {act : Run Nat} {w w' : World} {code : Nat}
    (h : result act w = (.ok code, w')) : result (handle act) w = (.ok code, w') := by
  unfold handle
  rw [result_bind_ok (result_outcome act w), h]
  rfl

theorem result_handle_error {act : Run Nat} {w w' : World} {f : Failure}
    (h : result act w = (.error f, w')) : result (handle act) w = ended f w' := by
  unfold handle ended
  rw [result_bind_ok (result_outcome act w), h]
  simp only
  split
  · rfl
  · rfl

variable [Template.Engine] [Configuration.Format]

/-- Whatever the command, it ends if the settings cannot be taken. -/
theorem result_run_of_settings_error {w w' : World} {f : Failure}
    (h : result settings w = (.error f, w')) (c : Command) (diskFull : Bool) :
    result (c.run diskFull) w = ended f w' := by
  cases c with
  | newTheme directory name dark => exact result_handle_error (result_bind_error h _)
  | preview name dark => exact result_handle_error (result_bind_error h _)
  | listTemplates => exact result_handle_error (result_bind_error h _)

/-- The line for the user about a new file. -/
def createdLine (path : FilePath) : Text :=
  Terminal.layout .output (Text.concat ["✅ Created theme file: ", path.text])

/-- The line for a user who has cancelled. -/
def cancelledLine : Text := Terminal.layout .errors "Cancelled."

/-- Once the settings are taken, performing the action decides. -/
theorem result_newTheme {w w₁ w₂ : World} {s : Settings}
    (hsettings : result settings w = (.ok s, w₁)) (directory : Text) (name : Option Text)
    (dark : Option Bool) (diskFull : Bool) {o : Except Failure (Option FilePath)}
    (hact : result ((ThemeAction.ofSettings s false).perform
      (provider name (dark.getD s.themes.dark)) directory diskFull)
        { w₁ with store := .new s.templates.directory } = (o, w₂)) :
    result ((newTheme directory name dark).run diskFull) w = match o with
      | .ok (some path) => (.ok 0, { w₂ with
          store := w₁.store, console := w₂.console.print (createdLine path) })
      | .ok none => (.ok 1, { w₂ with
          store := w₁.store, console := w₂.console.report cancelledLine })
      | .error f => ended f { w₂ with store := w₁.store } := by
  have hstore := result_withStore (.new s.templates.directory)
    ((ThemeAction.ofSettings s false).perform (provider name (dark.getD s.themes.dark)) directory
      diskFull) w₁
  rw [hact] at hstore
  rcases o with f | _ | path
  · refine result_handle_error ?_
    unfold runNewTheme
    rw [result_bind_ok hsettings]
    exact result_bind_error hstore _
  · refine result_handle_ok ?_
    unfold runNewTheme
    rw [result_bind_ok hsettings, result_bind_ok hstore]
    rfl
  · refine result_handle_ok ?_
    unfold runNewTheme
    rw [result_bind_ok hsettings, result_bind_ok hstore]
    rfl

end Command

end ThemeForge
