import ThemeForge.Theme.Action

/-!
# What runs do

* `Run.result`: the outcome of a run in a world, and the world it leaves;
* `Run.result_bind`, `Run.result_tryCatch`: one run after the other, or after a failure;
* `Run.result_note`, `Run.result_ofExcept`, `Run.result_outcome`: the building blocks.
-/

namespace ThemeForge.Run

variable {α β : Type}

/-- The outcome of a run that starts in a world, and the world it leaves. -/
def result (act : Run α) (w : World) : Except Failure α × World := act.run.run w

@[simp] theorem result_pure (a : α) (w : World) : result (pure a) w = (.ok a, w) := rfl

@[simp] theorem result_throw (f : Failure) (w : World) :
    result (throw f : Run α) w = (.error f, w) := rfl

@[simp] theorem result_get (w : World) : result get w = (.ok w, w) := rfl

@[simp] theorem result_set (w w' : World) : result (set w') w = (.ok (), w') := rfl

@[simp] theorem result_modify (f : World → World) (w : World) :
    result (modify f) w = (.ok (), f w) := rfl

theorem result_bind (act : Run α) (f : α → Run β) (w : World) :
    result (act >>= f) w = match result act w with
      | (.ok a, w') => result (f a) w'
      | (.error e, w') => (.error e, w') := by
  change (ExceptT.bind act f) w = _
  simp only [ExceptT.bind, ExceptT.mk, bind, StateT.bind, result, ExceptT.run, StateT.run]
  rcases act w with ⟨a | a, w'⟩ <;> rfl

theorem result_bind_ok {act : Run α} {w w' : World} {a : α} (h : result act w = (.ok a, w'))
    (f : α → Run β) : result (act >>= f) w = result (f a) w' := by
  rw [result_bind, h]

theorem result_bind_error {act : Run α} {w w' : World} {e : Failure}
    (h : result act w = (.error e, w')) (f : α → Run β) :
    result (act >>= f) w = (.error e, w') := by
  rw [result_bind, h]

@[simp] theorem result_note (level : Int) (logger message : Text) (extra : Option Value)
    (w : World) : result (note level logger message extra) w =
      (.ok (), { w with log := w.log ++ [{ level, logger, message, extra }] }) := rfl

@[simp] theorem result_setFiles (fs : FileSystem) (w : World) :
    result (setFiles fs) w = (.ok (), { w with files := fs }) := rfl

@[simp] theorem result_setStore (s : TemplateStore) (w : World) :
    result (setStore s) w = (.ok (), { w with store := s }) := rfl

theorem result_ofExcept {ε : Type} (failure : ε → Failure) (x : Except ε α) (w : World) :
    result (ofExcept failure x) w = (x.mapError failure, w) := by
  cases x <;> rfl

theorem result_map (f : α → β) (act : Run α) (w : World) :
    result (f <$> act) w = ((result act w).1.map f, (result act w).2) := by
  change result (act >>= fun a => pure (f a)) w = _
  rw [result_bind]
  rcases result act w with ⟨e | a, w'⟩ <;> rfl

/-- A failure is handled in the world that it leaves. -/
theorem result_tryCatch (act : Run α) (handle : Failure → Run α) (w : World) :
    result (tryCatch act handle) w = match result act w with
      | (.ok a, w') => (.ok a, w')
      | (.error e, w') => result (handle e) w' := by
  change (ExceptT.tryCatch act handle) w = _
  simp only [ExceptT.tryCatch, ExceptT.mk, bind, StateT.bind, result, ExceptT.run, StateT.run]
  rcases act w with ⟨a | a, w'⟩ <;> rfl

theorem result_outcome (act : Run α) (w : World) :
    result (outcome act) w = (.ok (result act w).1, (result act w).2) := by
  rfl

end ThemeForge.Run
