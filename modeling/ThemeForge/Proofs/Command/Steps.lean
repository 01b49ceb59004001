import ThemeForge.Proofs.Command.Outcome

/-!
# What commands are made of

The steps of all commands, for relations between worlds that cover them: previews and listings are
dialogues, and the creation of a theme writes a file as well.

* `Run.isCovered_settings`, `Run.IsCovered.withStore`, `Run.isCovered_handle`: what commands share;
* `Command.isCovered_preview`, `Command.isCovered_listTemplates`: commands that only look;
* `ThemeAction.isCovered_perform`: creating a theme;
* `Command.isCovered_run`: every command.
-/

namespace ThemeForge

open Run World

variable [Template.Engine] {α : Type} {R : World → World → Prop}

/-! ## Commands that only look -/

namespace Run

section Talking

variable (h : CoversTalking R)
include h

theorem isCovered_report (t : Text) : IsCovered R (report t) := fun w => h.talk w _

theorem isCovered_print (t : Text) : IsCovered R (print t) := fun w => h.talk w _

theorem isCovered_settings [Configuration.Format] : IsCovered R settings := by
  intro w
  obtain ⟨o, c, hsettings, -⟩ := exists_result_settings w
  rw [hsettings]
  exact h.load w c

theorem isCovered_withStore {act : Run α} (hact : IsCovered R act) (s : TemplateStore) :
    IsCovered R (withStore s act) := by
  intro w
  rw [result_withStore]
  exact h.restore (hact { w with store := s })

theorem isCovered_handle [Terminal] {act : Run Nat} (hact : IsCovered R act) :
    IsCovered R (Command.handle act) := by
  intro w
  have hfirst := hact w
  rcases hr : result act w with ⟨f | code, w'⟩
  · rw [hr] at hfirst
    rw [Command.result_handle_error hr]
    unfold Command.ended
    split
    · exact h.trans hfirst (h.talk w' _)
    · exact hfirst
  · rw [hr] at hfirst
    rwa [Command.result_handle_ok hr]

end Talking

theorem isCovered_content (h : CoversLooking R) (n : Text) (values : TemplateValues) :
    IsCovered R (do render (← template n) values) :=
  isCovered_bind h (isCovered_template h n) fun t => isCovered_render h t values

end Run

namespace Command

variable [Configuration.Format] [Terminal] (h : CoversTalking R)
include h

theorem isCovered_preview (name : Text) (dark : Option Bool) :
    IsCovered R (runPreview name dark) := by
  have hlooking := h.toCoversLooking
  refine isCovered_bind hlooking (isCovered_settings h) fun s => ?_
  refine isCovered_bind hlooking (isCovered_generate hlooking _ _) fun g => ?_
  refine isCovered_bind hlooking
    (isCovered_withStore h (isCovered_content hlooking _ _) _) fun content => ?_
  refine isCovered_bind hlooking (isCovered_report h _) fun _ => ?_
  exact isCovered_bind hlooking (isCovered_print h _) fun _ => h.refl

theorem isCovered_listTemplates : IsCovered R runListTemplates := by
  have hlooking := h.toCoversLooking
  refine isCovered_bind hlooking (isCovered_settings h) fun s => ?_
  refine isCovered_bind hlooking h.refl fun w => ?_
  exact isCovered_bind hlooking (isCovered_print h _) fun _ => h.refl

end Command

/-! ## Creating a theme -/

namespace ThemeAction

variable (h : CoversWriting R)
include h

theorem isCovered_create (a : ThemeAction) (r : ThemeRequest) (directory : Text)
    (diskFull : Bool) : IsCovered R (a.create r directory diskFull) := by
  have hlooking := h.toCoversLooking
  refine isCovered_bind hlooking (isCovered_generate hlooking _ _) fun g => ?_
  refine isCovered_bind hlooking (isCovered_template hlooking _) fun t => ?_
  refine isCovered_bind hlooking (isCovered_draft hlooking _ _ _) fun bytes => ?_
  refine isCovered_bind hlooking (fun w => ?_) fun _ => ?_
  · obtain ⟨o, fs, hplace, -⟩ := result_place (.ofText directory) g.fileName bytes diskFull w
    rw [hplace]
    exact h.write w fs
  · exact isCovered_bind hlooking (isCovered_note hlooking (by decide) _ _ _) fun _ => h.refl

theorem isCovered_register (a : ThemeAction) (path : FilePath) :
    IsCovered R (a.register path) := by
  have hnote := isCovered_note h.toCoversLooking (Int.le_refl LogLevel.debug)
  refine isCovered_bind h.toCoversLooking (fun w => h.register w _) fun _ => ?_
  cases a.hasRegistry with
  | false => exact hnote _ _ _
  | true => exact h.refl

/-- Performing the action, wherever its request comes from. -/
theorem isCovered_perform (a : ThemeAction) {p : Provider} (hrequest : IsCovered R (a.request p))
    (directory : Text) (diskFull : Bool) : IsCovered R (a.perform p directory diskFull) := by
  have hlooking := h.toCoversLooking
  refine isCovered_bind hlooking hrequest fun request => ?_
  cases request with
  | none =>
    exact isCovered_bind hlooking (isCovered_note hlooking (by decide) _ _ _) fun _ => h.refl
  | some r =>
    refine isCovered_bind hlooking (isCovered_create h a r directory diskFull) fun path => ?_
    exact isCovered_bind hlooking (isCovered_register h a path) fun _ => h.refl

end ThemeAction

namespace Command

variable [Configuration.Format] [Terminal] (h : CoversTalking R) (hwriting : CoversWriting R)
include h hwriting

theorem isCovered_newTheme (directory : Text) (name : Option Text) (dark : Option Bool)
    (diskFull : Bool) : IsCovered R (runNewTheme directory name dark diskFull) := by
  have hlooking := h.toCoversLooking
  refine isCovered_bind hlooking (isCovered_settings h) fun s => ?_
  refine isCovered_bind hlooking (isCovered_withStore h
    (ThemeAction.isCovered_perform hwriting _ (isCovered_request h _ _) _ _) _) fun path => ?_
  cases path with
  | none => exact isCovered_bind hlooking (isCovered_report h _) fun _ => h.refl
  | some path => exact isCovered_bind hlooking (isCovered_print h _) fun _ => h.refl

/-- **A relation that covers all kinds of steps covers every command.** -/
theorem isCovered_run (c : Command) (diskFull : Bool) : IsCovered R (c.run diskFull) := by
  cases c with
  | newTheme directory name dark =>
    exact isCovered_handle h (isCovered_newTheme h hwriting directory name dark diskFull)
  | preview name dark => exact isCovered_handle h (isCovered_preview h name dark)
  | listTemplates => exact isCovered_handle h (isCovered_listTemplates h)

end Command

end ThemeForge
