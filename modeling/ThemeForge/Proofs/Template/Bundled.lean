import ThemeForge.Platform
import ThemeForge.Proofs.Json.Reader
import ThemeForge.Proofs.World.Quiet
import ThemeForge.Template.Store
import ThemeForge.Theme.Generator

/-!
# The bundled template of themes

What the template for theme files is read as, and what it gives for a theme.

* `Bundled.statements?_themeSource`: the statements of the template;
* `Bundled.themeText`, **`Bundled.rendered?_theme`**: the text of a theme, whatever other templates
  there are;
* `Bundled.isEncodable_themeText`, **`Bundled.parse?_themeText`**: it can be written as UTF-8, and
  is read as the document that describes the theme;
* **`Bundled.find?_bundled`**: when a store finds the template.
-/

namespace ThemeForge.Bundled

open Template

/-! ## Reading the template -/

/-- The template up to the name. -/
def opening : Text := "\x7b\n  \"name\": \""

/-- The template between the name and the flag. -/
def middle : Text := "\",\n  \"dark\": "

/-- The template after the flag. -/
def closing : Text := Text.concat
  [",\n  \"author\": \"\",\n  \"editorScheme\": \"/Default.xml\",\n",
    "  \"ui\": \x7b\n  \x7d\n\x7d\n"]

/-- The tokens of a template with two placeholders between three texts. -/
def themeTokens (a b c : Text) : List Token :=
  [⟨1, .data a⟩, ⟨2, .printStart⟩, ⟨2, .name "NAME"⟩, ⟨2, .mark .pipe⟩, ⟨2, .name "json_string"⟩,
    ⟨2, .printEnd⟩, ⟨2, .data b⟩, ⟨3, .printStart⟩, ⟨3, .name "IS_DARK"⟩, ⟨3, .printEnd⟩,
    ⟨3, .data c⟩]

/-- The statements of a template with two placeholders between three texts. -/
def themeBody (a b c : Text) : List Stmt :=
  [.text a, .print (.filter 2 (.name 2 "NAME") "json_string" [] []), .text b,
    .print (.name 3 "IS_DARK"), .text c]

/-- The template for theme files, under some name. -/
def themeTemplate (name : Option Text) : Template := ⟨name, themeSource⟩

theorem tokens_themeSource :
    tokens themeSource = (themeTokens opening middle closing, none) := by
  decide +kernel

theorem parse?_themeSource : Stmt.parse? themeSource = .ok (themeBody opening middle closing) := by
  unfold Stmt.parse?
  rw [tokens_themeSource]
  -- the texts stay closed, so that only the tokens are looked at
  generalize opening = a, middle = b, closing = c
  rfl

theorem statements?_themeSource :
    statements? themeSource = .ok (themeBody opening middle closing) := by
  unfold statements?
  rw [parse?_themeSource]
  generalize opening = a, middle = b, closing = c
  rfl

theorem check?_eq (source : Text) :
    Engine.check? source = ((statements? source).map fun _ => ()).mapError .ofSource := rfl

theorem compile?_themeSource (name : Option Text) :
    Template.compile? name themeSource = .ok (themeTemplate name) := by
  rw [Template.compile?, check?_eq, statements?_themeSource]
  rfl

/-! ## Expanding the template -/

/-- The text of a theme. -/
def themeText (name : Text) (isDark : Bool) : Text :=
  opening ++ (Json.escape name ++ (middle ++ (Theme.flagWord isDark ++ closing)))

theorem run?_of_body {t : Template} {a b c : Text} (h : t.body = themeBody a b c)
    (library : Library) (name flag : Text) :
    run? library t [("NAME", .text name), ("IS_DARK", .text flag)] =
      (.ok (a ++ (Json.escape name ++ (b ++ (flag ++ (c ++ []))))), []) := by
  unfold run? maxInsertions expandIn?
  rw [h]
  rfl

theorem expand?_eq (library : Library) (t : Template) (names : List (Text × Value)) :
    Template.expand? library t names = run? library t names := rfl

theorem body_themeTemplate (name : Option Text) :
    (themeTemplate name).body = themeBody opening middle closing := by
  rw [body, themeTemplate, statements?_themeSource]
  rfl

theorem endsWith_append {s u : Text} (h : u.endsWith s = true) (t : Text) :
    (t ++ u).endsWith s = true := by
  unfold Text.endsWith at *
  rw [List.isSuffixOf_iff_suffix] at *
  exact h.trans (List.suffix_append t u)

/-- The text of a theme ends in a line end. -/
theorem endsWith_themeText (name : Text) (isDark : Bool) :
    (themeText name isDark).endsWith "\n" = true :=
  endsWith_append (endsWith_append (endsWith_append (endsWith_append (by decide) _) _) _) _

/-- **The template gives the text of a theme**, whatever other templates there are. -/
theorem expand?_theme (library : Library) (template : Option Text) (name : Text)
    (isDark : Bool) :
    (expand? library (themeTemplate template) (Theme.properties name isDark).toValues).1 =
      .ok (themeText name isDark) := by
  let values : List (Text × Value) :=
    [("NAME", .text name), ("IS_DARK", .text (Theme.flagWord isDark))]
  have hvalues : (Theme.properties name isDark).toValues = values := rfl
  have htext := run?_of_body (body_themeTemplate template) library name (Theme.flagWord isDark)
  rw [List.append_nil, ← themeText] at htext
  rw [hvalues, expand?_eq, htext]

/-- The text of a theme needs no further line end. -/
theorem rendered?_theme (library : Library) (template : Option Text) (name : Text)
    (isDark : Bool) :
    Run.rendered? library (themeTemplate template) (Theme.properties name isDark).toValues =
      .ok (themeText name isDark) := by
  have hown : (Theme.properties name isDark).toValues.any (fun e => e.1 == Run.ownName) = false :=
    rfl
  rw [Run.rendered?, hown, if_neg Bool.false_ne_true, expand?_theme]
  change Except.ok (Run.withLineEnd (themeText name isDark)) = _
  rw [Run.withLineEnd, if_pos (endsWith_themeText name isDark)]

theorem isEncodable_themeText (name : Text) (isDark : Bool) :
    (themeText name isDark).IsEncodable := by
  unfold themeText
  simp only [Text.isEncodable_append]
  refine ⟨by decide, Json.isEncodable_escape name, by decide, ?_, by decide⟩
  cases isDark <;> decide

/-! ## What the text says -/

open Json in
/-- The members of the object that describes a theme. -/
def themeMembers (name : Text) (isDark : Bool) : List Member :=
  [⟨"name", quoted name, .text name.joinPairs, by decide, reads_quoted name⟩,
    ⟨"dark", Theme.flagWord isDark, .bool isDark, by decide, reads_flagWord isDark⟩,
    ⟨"author", quoted "", .text "", by decide, reads_quoted ""⟩,
    ⟨"editorScheme", quoted "/Default.xml", .text "/Default.xml", by decide,
      reads_quoted "/Default.xml"⟩,
    ⟨"ui", Code.ofChar '\x7b' :: (("\n  " : Text) ++ [Code.ofChar '\x7d']), .mapping [],
      by decide, reads_empty (by decide)⟩]

theorem themeText_eq (name : Text) (isDark : Bool) :
    themeText name isDark = Code.ofChar '\x7b' :: (Json.membersText (themeMembers name isDark) ++
      [Code.ofChar '\n', Code.ofChar '\x7d', Code.ofChar '\n']) := by
  have hopening : opening = Code.ofChar '\x7b' :: (("\n  " : Text) ++ (Json.quoted "name" ++
      [Code.ofChar ':', Code.ofChar ' ', Code.ofChar '"'])) := by
    decide
  have hmiddle : middle = Code.ofChar '"' :: Code.ofChar ',' :: (("\n  " : Text) ++
      (Json.quoted "dark" ++ [Code.ofChar ':', Code.ofChar ' '])) := by
    decide
  have hclosing : closing = Code.ofChar ',' :: (Json.membersText ((themeMembers [] true).drop 2) ++
      [Code.ofChar '\n', Code.ofChar '\x7d', Code.ofChar '\n']) := by
    decide
  rw [themeText, hopening, hmiddle, hclosing]
  simp only [themeMembers, Json.membersText, Json.Member.text, List.drop_succ_cons, List.drop_zero,
    Json.quoted, List.cons_append, List.append_assoc, List.nil_append]

/-- The document that describes a theme; surrogate pairs in the name are joined. -/
def themeDocument (name : Text) (isDark : Bool) : Value :=
  .mapping [(.text "name", .text name.joinPairs), (.text "dark", .bool isDark),
    (.text "author", .text ""), (.text "editorScheme", .text "/Default.xml"),
    (.text "ui", .mapping [])]

/-- **The text of a theme is read as the document that describes it.** -/
theorem parse?_themeText (name : Text) (isDark : Bool) :
    Json.parse? (themeText name isDark) = some (themeDocument name isDark) := by
  have hmembers : themeMembers name isDark ≠ [] := List.cons_ne_nil _ _
  rw [themeText_eq, Json.parse?_object hmembers]
  simp +decide only [Json.entries, themeMembers, themeDocument, List.foldl_cons, List.foldl_nil,
    Value.Mapping.put_nil, Value.Mapping.put_cons_text, if_false]

/-! ## Finding the template -/

theorem source_of_bundledSource? {n source : Text}
    (h : TemplateStore.bundledSource? n = some source) : source = themeSource := by
  obtain ⟨steps, -, hlookup⟩ := Option.bind_eq_some_iff.mp h
  rw [templates, List.lookup_cons] at hlookup
  split at hlookup
  · exact (Option.some.inj hlookup).symm
  · exact nomatch hlookup

/-- **However the store has been used, it finds the bundled template** unless the user has one of
that name. -/
theorem find?_bundled {s : TemplateStore} {fs : FileSystem} {n source : Text} (hs : s.Reached)
    (huser : s.userFile? fs n = none) (hn : TemplateStore.bundledSource? n = some source) :
    s.find? fs n = .ok ⟨none, themeTemplate (some n)⟩ := by
  rw [hs.find?_eq_load? huser, TemplateStore.load?, huser]
  simp only [hn, source_of_bundledSource? hn, compile?_themeSource]
  rfl

end ThemeForge.Bundled
