import ThemeForge.Proofs.Template.Store
import ThemeForge.Proofs.World.Run

/-!
# What runs are made of

Runs change the world by few kinds of steps. A relation between worlds that covers those steps holds
between the world in which a run starts and the one that it leaves, so that what a run keeps is
proved by looking at steps alone.

* `Run.IsCovered`: runs whose worlds are related;
* `World.CoversLooking`: relations that cover the use of templates, and records about it;
  `Run.isCovered_generate`, `Run.isCovered_template`, `Run.isCovered_draft`: the steps before a file
  is written;
* `World.CoversTalking`, `Run.isCovered_request`: relations that cover a dialogue as well;
* `World.CoversWriting`: relations that cover the creation of files.
-/

namespace ThemeForge

variable [Template.Engine]

/-! ## Steps -/

namespace World

/-- A relation that covers what is done to look at templates: nothing, one run after the other, a
record of at least the level of details, and what the store keeps of the templates it has found. -/
structure CoversLooking (R : World → World → Prop) : Prop where
  refl (w : World) : R w w
  trans {w w' w'' : World} : R w w' → R w' w'' → R w w''
  note (w : World) {record : LogRecord} : LogLevel.debug ≤ record.level →
    R w { w with log := w.log ++ [record] }
  find (w : World) (n : Text) : R w { w with store := (w.store.get? w.files n).1 }
  expand (w : World) (t : Template) (values : TemplateValues) :
    R w { w with store := (w.store.expand? w.files t values).1 }

/-- A relation that also covers a dialogue with the user: the console changes, and so does the
configuration that is kept; and a run may have a store of its own. -/
structure CoversTalking (R : World → World → Prop) : Prop extends CoversLooking R where
  talk (w : World) (c : Console) : R w { w with console := c }
  load (w : World) (m : Option Value.Mapping) : R w { w with configuration := m }
  restore {w w' : World} {s : TemplateStore} : R { w with store := s } w' →
    R w { w' with store := w.store }

/-- A relation that also covers the creation of files, which are registered. -/
structure CoversWriting (R : World → World → Prop) : Prop extends CoversLooking R where
  write (w : World) (fs : FileSystem) : R w { w with files := fs }
  register (w : World) (paths : List FilePath) : R w { w with registered := paths }

end World

namespace Run

variable {α β : Type} {R : World → World → Prop}

/-! ## What single runs do -/

theorem result_template (n : Text) (w : World) : result (template n) w =
    ((w.store.get? w.files n).2.mapError (storeFailure n),
      { w with
        store := (w.store.get? w.files n).1
        log := w.log ++ [{
          level := LogLevel.debug, logger := Logger.store,
          message := Text.concat ["Resolving template: ", n] }] }) := by
  unfold template
  rw [result_bind_ok (result_note _ _ _ _ w)]
  rcases h : w.store.get? w.files n with ⟨store, _ | _⟩ <;> simp [result_bind, h] <;> rfl

/-- What a template gives. -/
def rendered? (library : Template.Library) (t : Template) (values : TemplateValues) :
    Except Failure Text :=
  if values.any (fun e => e.1 == ownName) then .error (.unhandled .ownName)
  else ((t.expand? library values).1.mapError (expansionFailure t)).map withLineEnd

theorem result_render (t : Template) (values : TemplateValues) (w : World) :
    result (render t values) w = (rendered? (w.store.library w.files) t values,
      if values.any (fun e => e.1 == ownName) then w
      else { w with store := (w.store.expand? w.files t values).1 }) := by
  unfold render rendered?
  by_cases hown : values.any (fun e => e.1 == ownName) = true
  · simp only [if_pos hown]
    rfl
  · simp only [if_neg hown]
    rcases h : t.expand? (w.store.library w.files) values with ⟨_ | _, used⟩ <;>
      simp [result_bind, TemplateStore.expand?, h] <;> rfl

/-! ## Runs -/

/-- Whatever the outcome, the world before the run and the world after it are related. -/
def IsCovered (R : World → World → Prop) (act : Run α) : Prop := ∀ w, R w (result act w).2

section Looking

variable (h : World.CoversLooking R)
include h

theorem isCovered_ofExcept {ε : Type} (failure : ε → Failure) (x : Except ε α) :
    IsCovered R (ofExcept failure x) := by
  intro w
  rw [result_ofExcept]
  exact h.refl w

theorem isCovered_note {level : Int} (hlevel : LogLevel.debug ≤ level) (logger message : Text)
    (extra : Option Value) : IsCovered R (note level logger message extra) :=
  fun w => h.note w hlevel

theorem isCovered_bind {act : Run α} {f : α → Run β} (hact : IsCovered R act)
    (hf : ∀ a, IsCovered R (f a)) : IsCovered R (act >>= f) := by
  intro w
  rw [result_bind]
  have hfirst := hact w
  rcases hr : result act w with ⟨e | a, w'⟩
  · rw [hr] at hfirst
    exact hfirst
  · rw [hr] at hfirst
    exact h.trans hfirst (hf a w')

theorem isCovered_generate (d : ThemeDefaults) (r : ThemeRequest) :
    IsCovered R (generate d r) := by
  unfold generate
  rcases d.generate? r with (v | f) | g
  · exact isCovered_bind h (isCovered_note h (by decide) _ _ _) fun _ => isCovered_ofExcept h _ _
  · exact isCovered_ofExcept h _ _
  · exact isCovered_bind h (isCovered_note h (by decide) _ _ _) fun _ => isCovered_ofExcept h _ _

theorem isCovered_template (n : Text) : IsCovered R (template n) := by
  intro w
  rw [result_template]
  exact h.trans (h.find w n) (h.note _ (Int.le_refl _))

theorem isCovered_render (t : Template) (values : TemplateValues) :
    IsCovered R (render t values) := by
  intro w
  rw [result_render]
  split
  · exact h.refl w
  · exact h.expand w t values

theorem isCovered_draft (t : Template) (fileName : Text) (values : TemplateValues) :
    IsCovered R (draft t fileName values) := by
  have hrest : IsCovered R (render t values >>= fun text =>
      ofExcept (fun f => .rendering (.encoding t.name f)) text.encode?) :=
    isCovered_bind h (isCovered_render h t values) fun _ => isCovered_ofExcept h _ _
  unfold draft
  cases FilePath.isBareName fileName with
  | false => exact h.refl
  | true => exact hrest

end Looking

section Talking

variable (h : World.CoversTalking R)
include h

theorem isCovered_askForTheme (d : ThemeDefaults) (fallback : Bool) :
    IsCovered R (askForTheme d fallback) := by
  intro w
  unfold askForTheme
  rw [result_bind_ok (result_get w)]
  rcases Prompt.ask d fallback w.console with ⟨c, _ | r⟩
  · exact h.trans (h.talk w c) (h.note _ (by decide))
  · exact h.talk w c

theorem isCovered_request (a : ThemeAction) (p : Provider) : IsCovered R (a.request p) := by
  cases p with
  | given r => exact h.refl
  | cancelled => exact h.refl
  | prompt fallback => exact isCovered_askForTheme h _ _

end Talking

end Run

end ThemeForge
