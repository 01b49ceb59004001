import ThemeForge.Proofs.Theme.Plan

/-!
# Answers at the prompt

Two questions are asked over the same input, each until a line answers it. A line is read at most
once, and what follows the last answer is left for whoever reads next.

* `Text.IsLines`, `Text.IsLines.isPrefix`: a text as lines, in at most one way;
* `Console.Says`, `Console.yesNo?_eq_some_iff`: the lines that answer a question;
* `Prompt.Asked`, `Prompt.asked_of_eq`: a question that is asked until a line answers it;
* `Prompt.Dialogue`: how the two questions can go; `Prompt.Dialogue.eq_none_iff`: when the input
  ends too soon;
* `ThemeAction.perform_prompt_ne_rejected`: no name that was accepted is refused later;
* **`prompt_dialogue`**: asking for a theme, for all inputs.
-/

namespace ThemeForge

/-! ## Lines -/

namespace Text

/-- A text consists of lines and of what follows them. Each line has an end, but the text may end
with its last line. -/
inductive IsLines : Text → List Text → Text → Prop
  | nil (t : Text) : IsLines t [] t
  | cons {line t rest : Text} {lines : List Text} (hline : Code.ofChar '\n' ∉ line)
      (h : IsLines t lines rest) : IsLines (line ++ Code.ofChar '\n' :: t) (line :: lines) rest
  | last {line : Text} (hline : Code.ofChar '\n' ∉ line) (hne : line ≠ []) : IsLines line [line] []

end Text

open Text

namespace Console

variable {t line rest : Text} {lines : List Text}

theorem splitLine?_eq_none_iff : splitLine? t = none ↔ t = [] := by
  unfold splitLine?
  split <;> simp [*]

theorem splitLine?_line (hline : Code.ofChar '\n' ∉ line) (t : Text) :
    splitLine? (line ++ Code.ofChar '\n' :: t) = some (line, t) := by
  have hall : ∀ c ∈ line, (c != Code.ofChar '\n') = true := fun c hc =>
    bne_iff_ne.mpr (ne_of_mem_of_not_mem hc hline)
  unfold splitLine?
  rw [if_neg (by simp), List.takeWhile_append_of_pos hall, List.dropWhile_append_of_pos hall]
  simp

theorem splitLine?_last (hline : Code.ofChar '\n' ∉ line) (hne : line ≠ []) :
    splitLine? line = some (line, []) := by
  have hall : ∀ c ∈ line, (c != Code.ofChar '\n') = true := fun c hc =>
    bne_iff_ne.mpr (ne_of_mem_of_not_mem hc hline)
  unfold splitLine?
  rw [if_neg hne, List.takeWhile_eq_self_iff.mpr hall, List.dropWhile_eq_nil_iff.mpr hall]
  rfl

/-- A line that is read is one with an end, or the text ends with it. -/
theorem splitLine?_cases (h : splitLine? t = some (line, rest)) : Code.ofChar '\n' ∉ line ∧
    (t = line ++ Code.ofChar '\n' :: rest ∨ (t = line ∧ line ≠ [] ∧ rest = [])) := by
  unfold splitLine? at h
  split at h
  · exact nomatch h
  rename_i hne
  cases h
  refine ⟨fun hmem => by simpa using List.mem_takeWhile_imp hmem, ?_⟩
  have ht := List.takeWhile_append_dropWhile (p := (· != Code.ofChar '\n')) (l := t)
  cases hrest : t.dropWhile (· != Code.ofChar '\n') with
  | nil =>
    rw [hrest, List.append_nil] at ht
    exact .inr ⟨ht.symm, ht.symm ▸ hne, rfl⟩
  | cons c rest =>
    have hc : (c != Code.ofChar '\n') = false := by
      have := List.head?_dropWhile_not (· != Code.ofChar '\n') t
      simpa [hrest] using this
    rw [hrest, bne_eq_false_iff_eq.mp hc] at ht
    exact .inl ht.symm

end Console

namespace Text.IsLines

variable {t line rest rest' : Text} {lines lines' : List Text}

theorem of_splitLine? (h : Console.splitLine? t = some (line, rest'))
    (hlines : IsLines rest' lines rest) : IsLines t (line :: lines) rest := by
  obtain ⟨hline, rfl | ⟨rfl, hne, rfl⟩⟩ := Console.splitLine?_cases h
  · exact .cons hline hlines
  · generalize hnil : ([] : Text) = u at hlines
    cases hlines with
    | nil => exact hnil ▸ .last hline hne
    | cons _ _ => simp at hnil
    | last _ hne' => exact absurd hnil.symm hne'

theorem splitLine? (h : IsLines t (line :: lines) rest) :
    ∃ t', Console.splitLine? t = some (line, t') ∧ IsLines t' lines rest := by
  cases h with
  | cons hline h => exact ⟨_, Console.splitLine?_line hline _, h⟩
  | last hline hne => exact ⟨[], Console.splitLine?_last hline hne, .nil []⟩

theorem append {lines' : List Text} (h : IsLines t lines rest') (h' : IsLines rest' lines' rest) :
    IsLines t (lines ++ lines') rest := by
  induction lines generalizing t with
  | nil =>
    cases h with
    | nil => exact h'
  | cons line lines ih =>
    obtain ⟨u, hu, h⟩ := h.splitLine?
    exact of_splitLine? hu (ih h)

/-- Lines that are read from a text are the first of all its lines. -/
theorem isPrefix (h : IsLines t lines []) (h' : IsLines t lines' rest) : lines' <+: lines := by
  induction lines' generalizing t lines with
  | nil => exact List.nil_prefix
  | cons line' lines' ih =>
    obtain ⟨u, hu, h'⟩ := h'.splitLine?
    cases lines with
    | nil =>
      cases h with
      | nil => exact nomatch hu
    | cons line lines =>
      obtain ⟨v, hv, h⟩ := h.splitLine?
      cases hu.symm.trans hv
      exact List.cons_prefix_cons.mpr ⟨rfl, ih h h'⟩

end Text.IsLines

/-! ## Lines that answer a question -/

/-- What a line says, in any case and with blanks around it: yes, or no, or nothing, which stands
for the default. -/
inductive Console.Says (fallback : Bool) (line : Text) : Bool → Prop
  | yes (h : line.lower.trim = "y" ∨ line.lower.trim = "yes") : Says fallback line true
  | no (h : line.lower.trim = "n" ∨ line.lower.trim = "no") : Says fallback line false
  | nothing (h : line.lower.trim = []) : Says fallback line fallback

theorem Console.yesNo?_eq_some_iff {fallback b : Bool} {line : Text} :
    yesNo? fallback line = some b ↔ Says fallback line b := by
  unfold yesNo?
  simp only
  constructor
  · intro h
    split at h
    · cases h
      exact .yes ‹_›
    · split at h
      · cases h
        exact .no ‹_›
      · split at h
        · cases h
          exact .nothing ‹_›
        · exact nomatch h
  · rintro (h | h | h)
    · rw [if_pos h]
    · rw [if_neg (by rcases h with h | h <;> rw [h] <;> decide), if_pos h]
    · rw [h]
      rfl

namespace Prompt

open Console

/-! ## One question -/

section Asked

variable {α : Type} (question : Text) (answer? : Text → Option α) (complaint : Text → Text)

/-- What is printed until a line answers a question: the question, and before that the question and
a complaint for every line that does not. -/
def transcript (refused : List Text) : Text :=
  refused.flatMap (fun line => question ++ complaint line) ++ question

/-- A question is asked until a line answers it or the input ends. -/
inductive Asked (c : Console) : Console → Option α → Prop
  | unanswered {refused : List Text} (hlines : IsLines c.input refused [])
      (hrefused : ∀ line ∈ refused, answer? line = none) :
      Asked c { c with input := [], output := c.output ++ transcript question complaint refused }
        none
  | answered {refused : List Text} {line rest : Text} {a : α}
      (hlines : IsLines c.input (refused ++ [line]) rest)
      (hrefused : ∀ line ∈ refused, answer? line = none) (ha : answer? line = some a) :
      Asked c { c with input := rest, output := c.output ++ transcript question complaint refused }
        (some a)

variable {question answer? complaint}

theorem Asked.ended {c : Console} (h : c.input = []) :
    Asked question answer? complaint c (c.print question) none := by
  have hlines : IsLines c.input [] [] := h ▸ .nil []
  have hasked : Asked question answer? complaint c _ none :=
    .unanswered hlines fun _ hmem => nomatch hmem
  rwa [← h] at hasked

theorem Asked.first {c : Console} {line rest : Text} {a : α}
    (hline : splitLine? c.input = some (line, rest)) (ha : answer? line = some a) :
    Asked question answer? complaint c { c.print question with input := rest } (some a) := by
  have hlines : IsLines c.input ([] ++ [line]) rest := .of_splitLine? hline (.nil rest)
  have hasked : Asked question answer? complaint c _ (some a) :=
    .answered hlines (fun _ hmem => nomatch hmem) ha
  exact hasked

theorem Asked.again {c c' : Console} {line rest : Text} {a : Option α}
    (hline : splitLine? c.input = some (line, rest)) (hrefused : answer? line = none)
    (h : Asked question answer? complaint
      { c with input := rest, output := c.output ++ question ++ complaint line } c' a) :
    Asked question answer? complaint c c' a := by
  have houtput (refused : List Text) : c.output ++ question ++ complaint line ++
      transcript question complaint refused =
        c.output ++ transcript question complaint (line :: refused) := by
    simp [transcript]
  cases h with
  | unanswered hlines hall =>
    simp only [houtput]
    exact .unanswered (.of_splitLine? hline hlines) (List.forall_mem_cons.mpr ⟨hrefused, hall⟩)
  | answered hlines hall ha =>
    simp only [houtput]
    exact .answered (.of_splitLine? hline hlines) (List.forall_mem_cons.mpr ⟨hrefused, hall⟩) ha

/-- A loop that prints the question, reads a line, and begins again with a complaint if the line
is no answer. It has as many rounds as it needs if these outnumber the code points to read. -/
theorem asked_of_eq {ask : Nat → Console → Console × Option α}
    (hask : ∀ n c, ask (n + 1) c = match (c.print question).readLine? with
      | none => (c.print question, none)
      | some (line, c) => match answer? line with
        | some a => (c, some a)
        | none => ask n (c.print (complaint line)))
    (n : Nat) (c : Console) (hn : c.input.length < n) :
    Asked question answer? complaint c (ask n c).1 (ask n c).2 := by
  induction n generalizing c with
  | zero => exact absurd hn (Nat.not_lt_zero _)
  | succ n ih =>
    rw [hask]
    rcases hline : splitLine? c.input with _ | ⟨line, rest⟩
    · have hread : (c.print question).readLine? = none := by simp [readLine?, print, hline]
      rw [hread]
      exact .ended (splitLine?_eq_none_iff.mp hline)
    · have hread : (c.print question).readLine? =
          some (line, { c.print question with input := rest }) := by
        simp [readLine?, print, hline]
      have hshorter := splitLine?_length hline
      rw [hread]
      cases ha : answer? line with
      | some a => simpa only [ha] using .first hline ha
      | none => simpa only [ha] using .again hline ha (ih _ (Nat.lt_of_lt_of_le hshorter
          (Nat.le_of_lt_succ hn)))

end Asked

/-! ## Both questions -/

/-- The name that a line gives, if it is accepted. -/
def name? (d : ThemeDefaults) (line : Text) : Option Text :=
  if (d.judge line).isOk then some line else none

theorem name?_eq_some_iff {d : ThemeDefaults} {line name : Text} :
    name? d line = some name ↔ (d.judge line).isOk = true ∧ line = name := by
  unfold name?
  split <;> simp [*]

theorem name?_eq_none_iff {d : ThemeDefaults} {line : Text} :
    name? d line = none ↔ (d.judge line).isOk = false := by
  unfold name?
  split <;> simp [*]

/-- The message about a line that is not accepted as a name. -/
def rejection (d : ThemeDefaults) (line : Text) : Text :=
  Text.concat [(d.judge line).message.getD [], "\n"]

theorem asked_askName (d : ThemeDefaults) (c : Console) :
    Asked nameQuestion (name? d) (rejection d) c (askName d c).1 (askName d c).2 := by
  refine asked_of_eq (fun n c => ?_) (c.input.length + 1) c (Nat.lt_succ_self _)
  rw [askNameFrom]
  rcases (c.print nameQuestion).readLine? with _ | ⟨line, c'⟩
  · rfl
  · simp only [name?]
    cases (d.judge line).isOk <;> rfl

theorem asked_askDark (fallback : Bool) (c : Console) :
    Asked (darkQuestion fallback) (yesNo? fallback) (fun _ => notUnderstood) c
      (askDark fallback c).1 (askDark fallback c).2 := by
  refine asked_of_eq (fun n c => ?_) (c.input.length + 1) c (Nat.lt_succ_self _)
  rw [askDarkFrom]
  rcases (c.print (darkQuestion fallback)).readLine? with _ | ⟨line, c'⟩
  · rfl
  · dsimp only
    cases yesNo? fallback line <;> rfl

/-- What is printed while names are refused: one message for each of them. -/
def nameTranscript (d : ThemeDefaults) (refused : List Text) : Text :=
  transcript nameQuestion (rejection d) refused

/-- What is printed while answers about darkness are unclear. -/
def darkTranscript (fallback : Bool) (unclear : List Text) : Text :=
  transcript (darkQuestion fallback) (fun _ => notUnderstood) unclear

/-- How asking for a theme can go over an input: what is left of the input, what is printed, and
the request. -/
inductive Dialogue (d : ThemeDefaults) (fallback : Bool) (input : Text) :
    Text → Text → Option ThemeRequest → Prop
  | unnamed {refused : List Text} (hlines : IsLines input refused [])
      (hrefused : ∀ line ∈ refused, (d.judge line).isOk = false) :
      Dialogue d fallback input [] (nameTranscript d refused) none
  | undecided {refused unclear : List Text} {name : Text}
      (hlines : IsLines input (refused ++ name :: unclear) [])
      (hrefused : ∀ line ∈ refused, (d.judge line).isOk = false)
      (hname : (d.judge name).isOk = true)
      (hunclear : ∀ line ∈ unclear, ∀ b, ¬ Says fallback line b) :
      Dialogue d fallback input [] (nameTranscript d refused ++ darkTranscript fallback unclear)
        none
  | decided {refused unclear : List Text} {name answer rest : Text} {isDark : Bool}
      (hlines : IsLines input (refused ++ name :: (unclear ++ [answer])) rest)
      (hrefused : ∀ line ∈ refused, (d.judge line).isOk = false)
      (hname : (d.judge name).isOk = true)
      (hunclear : ∀ line ∈ unclear, ∀ b, ¬ Says fallback line b)
      (hanswer : Says fallback answer isDark) :
      Dialogue d fallback input rest (nameTranscript d refused ++ darkTranscript fallback unclear)
        (some ⟨name, isDark⟩)

theorem not_says_of_yesNo? {fallback : Bool} {lines : List Text}
    (h : ∀ line ∈ lines, yesNo? fallback line = none) :
    ∀ line ∈ lines, ∀ b, ¬ Says fallback line b := by
  intro line hline b hb
  rw [← yesNo?_eq_some_iff, h line hline] at hb
  exact nomatch hb

theorem dialogue_ask (d : ThemeDefaults) (fallback : Bool) (c : Console) : ∃ rest printed,
    (ask d fallback c).1 = { c with input := rest, output := c.output ++ printed } ∧
      Dialogue d fallback c.input rest printed (ask d fallback c).2 := by
  have hasked := asked_askName d c
  unfold ask
  generalize askName d c = r at hasked
  obtain ⟨c₁, name⟩ := r
  cases hasked with
  | unanswered hlines hall =>
    exact ⟨_, _, rfl, .unnamed hlines fun line hline => name?_eq_none_iff.mp (hall line hline)⟩
  | @answered refused line rest a hlines hall ha =>
    obtain ⟨hok, rfl⟩ := name?_eq_some_iff.mp ha
    have hrefused : ∀ line ∈ refused, (d.judge line).isOk = false := fun line hline =>
      name?_eq_none_iff.mp (hall line hline)
    have hdark := asked_askDark fallback
      { c with input := rest, output := c.output ++ nameTranscript d refused }
    change ∃ rest printed, _ = _ ∧ _
    dsimp only
    rw [show transcript nameQuestion (rejection d) refused = nameTranscript d refused from rfl]
    generalize askDark fallback _ = r at hdark ⊢
    obtain ⟨c₂, isDark⟩ := r
    cases hdark with
    | @unanswered unclear hlines' hall' =>
      refine ⟨[], nameTranscript d refused ++ darkTranscript fallback unclear, ?_, ?_⟩
      · simp [darkTranscript]
      · have happend := hlines.append hlines'
        rw [List.append_assoc] at happend
        exact .undecided happend hrefused hok (not_says_of_yesNo? hall')
    | @answered unclear answer rest' isDark hlines' hall' hanswer =>
      refine ⟨rest', nameTranscript d refused ++ darkTranscript fallback unclear, ?_, ?_⟩
      · simp [darkTranscript]
      · have happend := hlines.append hlines'
        rw [List.append_assoc] at happend
        exact .decided happend hrefused hok (not_says_of_yesNo? hall')
          (yesNo?_eq_some_iff.mp hanswer)

/-- An accepted line has been followed by one that answers the second question. -/
def HasAnswers (d : ThemeDefaults) (fallback : Bool) (input : Text) : Prop :=
  ∃ before name between answer rest isDark,
    IsLines input (before ++ name :: (between ++ [answer])) rest ∧
      (d.judge name).isOk = true ∧ Says fallback answer isDark

/-- What comes after a line is found after any line that comes before it. -/
theorem mem_of_isPrefix {α : Type} {before between refused unclear : List α} {a b x : α}
    (h : before ++ a :: (between ++ [x]) <+: refused ++ b :: unclear) (ha : a ∉ refused) :
    x ∈ unclear := by
  obtain ⟨after, h⟩ := h
  rw [List.append_assoc, List.cons_append, List.append_eq_append_iff] at h
  rcases h with ⟨c, hrefused, h⟩ | ⟨c, -, h⟩
  · cases c with
    | nil =>
      obtain ⟨-, htail⟩ := List.cons.inj h
      simp [← htail]
    | cons y c =>
      obtain ⟨rfl, -⟩ := List.cons.inj h
      exact absurd (by simp [hrefused]) ha
  · cases c with
    | nil =>
      obtain ⟨-, htail⟩ := List.cons.inj h
      simp [htail]
    | cons y c =>
      obtain ⟨-, htail⟩ := List.cons.inj h
      simp [htail]

/-- There is no request exactly if the input ends too soon. -/
theorem Dialogue.eq_none_iff {d : ThemeDefaults} {fallback : Bool} {input rest printed : Text}
    {r : Option ThemeRequest} (h : Dialogue d fallback input rest printed r) :
    r = none ↔ ¬ HasAnswers d fallback input := by
  have hrefuses {refused : List Text} {name : Text} (hname : (d.judge name).isOk = true)
      (hrefused : ∀ line ∈ refused, (d.judge line).isOk = false) : name ∉ refused := by
    intro hmem
    rw [hrefused name hmem] at hname
    exact nomatch hname
  cases h with
  | unnamed hlines hrefused =>
    refine iff_of_true rfl ?_
    rintro ⟨before, name, between, answer, rest, isDark, hlines', hname, -⟩
    exact hrefuses hname hrefused ((hlines.isPrefix hlines').subset (by simp))
  | undecided hlines hrefused _ hunclear =>
    refine iff_of_true rfl ?_
    rintro ⟨before, name, between, answer, rest, isDark, hlines', hname, hanswer⟩
    have hmem := mem_of_isPrefix (hlines.isPrefix hlines') (hrefuses hname hrefused)
    exact hunclear answer hmem isDark hanswer
  | decided hlines _ hname _ hanswer =>
    exact iff_of_false (nomatch ·) fun hnot => hnot ⟨_, _, _, _, _, _, hlines, hname, hanswer⟩

theorem Dialogue.isOk_judge {d : ThemeDefaults} {fallback : Bool} {input rest printed : Text}
    {r : ThemeRequest} (h : Dialogue d fallback input rest printed (some r)) :
    (d.judge r.name).isOk = true := by
  cases h with
  | decided _ _ hname _ _ => exact hname

/-- The record about a request that was not given. -/
def cancellation (r : Option ThemeRequest) : List LogRecord :=
  if r.isNone then
    [{ level := LogLevel.info, logger := Logger.prompt,
       message := "Theme creation cancelled at the prompt." }]
  else []

end Prompt

open Prompt

theorem Run.result_askForTheme (d : ThemeDefaults) (fallback : Bool) (w : World) :
    ∃ rest printed r, (askForTheme d fallback).result w = (.ok r, { w with
        console := { w.console with input := rest, output := w.console.output ++ printed }
        log := w.log ++ cancellation r }) ∧
      Dialogue d fallback w.console.input rest printed r := by
  obtain ⟨rest, printed, hc, hdialogue⟩ := dialogue_ask d fallback w.console
  refine ⟨rest, printed, (ask d fallback w.console).2, ?_, hdialogue⟩
  rw [← hc]
  unfold askForTheme
  rw [result_bind_ok (result_get w)]
  rcases ask d fallback w.console with ⟨c, _ | r⟩
  · rfl
  · simp only [cancellation, Option.isNone_some, Bool.false_eq_true, if_false, List.append_nil]
    rfl

/-! ## What was accepted is not refused later -/

variable [Template.Engine]

namespace ThemeAction

variable {a : ThemeAction} {r : ThemeRequest}

theorem plan?_ne_rejected (h : (a.defaults.judge r.name).isOk = true) (s : TemplateStore)
    (fs : FileSystem) (v : Verdict) : a.plan? r s fs ≠ .error (.rejected v) := by
  intro hplan
  rcases Except.bind_eq_error_iff.mp hplan with hg | ⟨g, -, hplan⟩
  · obtain ⟨e, hg, he⟩ := Except.mapError_eq_error_iff.mp hg
    rw [ThemeDefaults.generate?, if_pos h, Except.bind_eq_error_iff] at hg
    rcases hg with hg | ⟨fileName, -, hg⟩
    · obtain ⟨f, -, rfl⟩ := Except.mapError_eq_error_iff.mp hg
      cases he
    · cases hg
  rcases Except.bind_eq_error_iff.mp hplan with ht | ⟨t, -, hplan⟩
  · obtain ⟨e, -, he⟩ := Except.mapError_eq_error_iff.mp ht
    cases e <;> cases he
  rcases Except.bind_eq_error_iff.mp hplan with hdraft | ⟨bytes, -, hplan⟩
  · rcases Run.draft?_cases hdraft with ⟨_, h⟩ | ⟨_, h⟩ <;> cases h
  · cases hplan

/-- An action that asks for its request refuses no name. -/
theorem perform_prompt_ne_rejected (a : ThemeAction) (fallback : Bool) (directory : Text)
    (diskFull : Bool) (w : World) (v : Verdict) :
    ((a.perform (.prompt fallback) directory diskFull).result w).1 ≠ .error (.rejected v) := by
  obtain ⟨rest, printed, r, hasked, hdialogue⟩ := Run.result_askForTheme a.defaults fallback w
  have hrequest : ((a.request (.prompt fallback)).result w).1 = .ok r := by
    rw [request, hasked]
  cases r with
  | none =>
    obtain ⟨w', hw', -⟩ := perform_of_cancelled directory diskFull hrequest
    rw [hw']
    exact (nomatch ·)
  | some r =>
    rcases hplan : a.plan? r w.store w.files with f | ⟨n, bytes⟩
    · obtain ⟨w', hw', -⟩ := perform_of_plan_error directory diskFull hrequest hplan
      rw [hw']
      rintro ⟨⟩
      exact plan?_ne_rejected hdialogue.isOk_judge w.store w.files v hplan
    · obtain ⟨placed, o, -, w', -, -, hplaced, rfl, hw', -, -⟩ :=
        perform_of_plan_ok directory diskFull hrequest hplan
      rw [hw']
      rcases placed with f | _
      · rintro ⟨⟩
        rcases hplaced.error_cases with ⟨_, h⟩ | ⟨_, h⟩ | ⟨_, h⟩ <;> exact nomatch h
      · exact (nomatch ·)

end ThemeAction

/-- **Asking for a theme ends, whatever the input.** There is no request exactly if the input ends
before an accepted line has been followed by one that answers the second question. A request bears
the first accepted line as its name and what the first answer after it says; the input is then read
up to that answer, and each refused line has got one message. No action that asks in this way
refuses the name that it is given. -/
theorem prompt_dialogue (d : ThemeDefaults) (fallback : Bool) (w : World) :
    (∃ rest printed r, (Run.askForTheme d fallback).result w = (.ok r, { w with
        console := { w.console with input := rest, output := w.console.output ++ printed }
        log := w.log ++ cancellation r }) ∧
      Dialogue d fallback w.console.input rest printed r ∧
      (r = none ↔ ¬ HasAnswers d fallback w.console.input)) ∧
    ∀ (template : Text) (hasRegistry : Bool) (directory : Text) (diskFull : Bool) (v : Verdict),
      let a : ThemeAction := ⟨d, template, hasRegistry⟩
      ((a.perform (.prompt fallback) directory diskFull).result w).1 ≠ .error (.rejected v) := by
  obtain ⟨rest, printed, r, hasked, hdialogue⟩ := Run.result_askForTheme d fallback w
  refine ⟨⟨rest, printed, r, hasked, hdialogue, hdialogue.eq_none_iff⟩, ?_⟩
  intro template hasRegistry directory diskFull v a
  exact a.perform_prompt_ne_rejected fallback directory diskFull w v

end ThemeForge
