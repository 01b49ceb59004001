import ThemeForge.Proofs.Theme.Plan

/-!
# Taking turns

Several requests for files of one directory, one after the other. What becomes of each is decided
by its plan and by what is in the directory when its turn comes.

* `FileSystem.add`: a new file, or none;
* `Turn`: the outcome of a request, and the file that it adds; `Turns`: those of several requests;
* `Turn.unique`, `Turn.of_lookup`: what a turn depends on;
* **`Turns.exists_turn`**: every turn, by what was there at the start and by the earlier outcomes;
* `Turns.lookup_eq_some`, `Turns.nodup_returned`: what all turns leave;
* **`Turns.swap`**: two requests with different names can change places.
-/

namespace ThemeForge

open FileSystem ThemeAction

theorem Text.bytes_inj {s t : Text} (hs : s.IsEncodable) (ht : t.IsEncodable) :
    s.bytes = t.bytes ↔ s = t := by
  refine ⟨fun h => ?_, congrArg Text.bytes⟩
  have heq := Text.decode?_bytes hs
  rw [h, Text.decode?_bytes ht] at heq
  exact (Except.ok.inj heq).symm

theorem FilePath.child_inj {p : FilePath} {m n : Text} : p.child m = p.child n ↔ m = n := by
  simp [child]

/-! ## New files -/

namespace FileSystem

variable {fs fs' : FileSystem} {x y : Option (Location × Bytes)}

/-- Adds a file, if there is one. -/
def add (fs : FileSystem) : Option (Location × Bytes) → FileSystem
  | none => fs
  | some (l, content) => fs.putFile l content

/-- Files at different places can be added in either order. -/
theorem sameContent_add_add (fs : FileSystem) (hx : ∀ a ∈ x, a.1.names ≠ [])
    (hy : ∀ b ∈ y, b.1.names ≠ []) (hne : ∀ a ∈ x, ∀ b ∈ y, a.1 ≠ b.1) :
    SameContent ((fs.add x).add y) ((fs.add y).add x) := by
  intro l
  rcases x with _ | ⟨m, b⟩
  · exact change?_self _
  · rcases y with _ | ⟨n, c⟩
    · exact change?_self _
    · have hmn : m ≠ n := hne _ rfl _ rfl
      simp only [add, lookup_putFile (hx _ rfl), lookup_putFile (hy _ rfl)]
      by_cases hm : l = m
      · subst hm
        rw [if_neg hmn, if_pos rfl, if_pos rfl, change?_file]
      · rw [if_neg hm, if_neg hm]
        by_cases hn : l = n
        · rw [if_pos hn, if_pos hn, change?_file]
        · rw [if_neg hn, if_neg hn, change?_self]

end FileSystem

/-! ## One request -/

/-- The turn of a request, or of a user who has cancelled, when `made` is there: its outcome and
the file that is added in the directory at `l`. -/
inductive Turn (plan : ThemeRequest → Except Failure (Text × Bytes)) (d : FilePath) (l : Location)
    (made : FileSystem) : Option ThemeRequest → Except Failure (Option FilePath) →
      Option (Location × Bytes) → Prop
  | cancelled : Turn plan d l made none (.ok none) none
  | failed {r : ThemeRequest} {f : Failure} (h : plan r = .error f) :
      Turn plan d l made (some r) (.error f) none
  | won {r : ThemeRequest} {n : Text} {bytes : Bytes} (h : plan r = .ok (n, bytes))
      (husable : (d.child n).IsUsable) (hfree : made.lookup (l.child n.bytes) = none) :
      Turn plan d l made (some r) (.ok (some (d.child n))) (some (l.child n.bytes, bytes))
  | lost {r : ThemeRequest} {n : Text} {bytes : Bytes} (h : plan r = .ok (n, bytes))
      (husable : (d.child n).IsUsable) (htaken : made.lookup (l.child n.bytes) ≠ none) :
      Turn plan d l made (some r) (.error (.fileExists (d.child n))) none
  | overlong {r : ThemeRequest} {n : Text} {bytes : Bytes} (h : plan r = .ok (n, bytes))
      (hlong : ¬ (d.child n).IsUsable) :
      Turn plan d l made (some r) (.error (.writing (.creation (d.child n) .nameTooLong))) none

/-- Whether a file is planned for a request. -/
def planned (plan : ThemeRequest → Except Failure (Text × Bytes)) : Option ThemeRequest → Bool
  | none => false
  | some r => (plan r).isOk

section

variable {plan : ThemeRequest → Except Failure (Text × Bytes)} {d : FilePath} {l : Location}
  {made made' : FileSystem} {r : Option ThemeRequest} {o o' : Except Failure (Option FilePath)}
  {x x' : Option (Location × Bytes)}

namespace Turn

theorem unique (h : Turn plan d l made r o x) (h' : Turn plan d l made r o' x') :
    o' = o ∧ x' = x := by
  cases h <;> cases h' <;> simp_all

/-- A turn depends on whether something is at the place of its file. -/
theorem of_lookup (h : Turn plan d l made r o x)
    (hsame : ∀ s ∈ r, ∀ n bytes, plan s = .ok (n, bytes) →
      made'.lookup (l.child n.bytes) = made.lookup (l.child n.bytes)) :
    Turn plan d l made' r o x := by
  cases h with
  | cancelled => exact .cancelled
  | failed h => exact .failed h
  | won h husable hfree => exact .won h husable (by rw [hsame _ rfl _ _ h, hfree])
  | lost h husable htaken => exact .lost h husable (by rw [hsame _ rfl _ _ h]; exact htaken)
  | overlong h hlong => exact .overlong h hlong

/-- The outcome of a request with a plan, unless the file cannot be written. -/
theorem eq_ite_of_plan {s : ThemeRequest} {n : Text} {bytes : Bytes}
    (h : Turn plan d l made (some s) o x) (hplan : plan s = .ok (n, bytes))
    (ho : ∀ e, o ≠ .error (.writing e)) :
    o = if made.lookup (l.child n.bytes) = none then .ok (some (d.child n))
      else .error (.fileExists (d.child n)) := by
  cases h with
  | failed h => exact nomatch hplan.symm.trans h
  | won h _ hfree =>
    cases hplan.symm.trans h
    rw [if_pos hfree]
  | lost h _ htaken =>
    cases hplan.symm.trans h
    rw [if_neg htaken]
  | overlong _ _ => exact absurd rfl (ho _)

/-- Placing a planned file is a turn. -/
theorem exists_of_placed {s : ThemeRequest} {n : Text} {bytes : Bytes} {fs fs' : FileSystem}
    {placed : Except Failure Unit} (hplan : plan s = .ok (n, bytes)) (hopens : Opens d fs made l)
    (hn : FileName.IsPortable n) (h : Run.Placed d n bytes fs false placed fs') :
    ∃ x, Turn plan d l made (some s) (placed.map fun _ => some (d.child n)) x ∧
      fs' = made.add x := by
  rcases h.of_opens hopens hn.isEntryName with
    ⟨husable, hfree, rfl, rfl⟩ | ⟨husable, htaken, rfl, rfl⟩ | ⟨hlong, rfl, rfl⟩
  · exact ⟨_, .won hplan husable hfree, rfl⟩
  · exact ⟨none, .lost hplan husable htaken, rfl⟩
  · exact ⟨none, .overlong hplan hlong, rfl⟩

theorem eq_none_of_returned (h : Turn plan d l made r o x) (ho : returned o = none) :
    x = none := by
  cases h with
  | won _ _ _ => exact nomatch ho
  | _ => rfl

theorem eq_none_of_not_planned (h : Turn plan d l made r o x) (hr : planned plan r = false) :
    x = none := by
  cases h with
  | won h _ _ => simp [planned, h, Except.isOk, Except.toBool] at hr
  | _ => rfl

theorem extends_add (h : Turn plan d l made r o x) : made.Extends (made.add x) := by
  cases h with
  | won _ _ hfree => exact extends_putFile hfree _
  | _ => exact .refl made

theorem isTree_add (h : Turn plan d l made r o x) (htree : made.IsTree)
    (hl : made.lookup l = some .directory) : (made.add x).IsTree := by
  cases h with
  | won _ _ hfree => exact htree.putFile hfree (by rw [Location.parent_child, hl]) _
  | _ => exact htree

theorem of_ok (h : Turn plan d l made r o x) {p : FilePath} (ho : o = .ok (some p)) :
    ∃ s n bytes, r = some s ∧ plan s = .ok (n, bytes) ∧ p = d.child n ∧
      made.lookup (l.child n.bytes) = none ∧ x = some (l.child n.bytes, bytes) := by
  cases h with
  | won h husable hfree =>
    cases ho
    exact ⟨_, _, _, rfl, h, rfl, hfree, rfl⟩
  | _ => exact nomatch ho

/-- The file that is added is a new one, with the planned bytes. -/
theorem eq_some_of_mem (h : Turn plan d l made r o x) {a : Location × Bytes} (ha : a ∈ x) :
    ∃ s n, r = some s ∧ plan s = .ok (n, a.2) ∧ o = .ok (some (d.child n)) ∧
      a.1 = l.child n.bytes ∧ made.lookup a.1 = none := by
  cases h with
  | won h husable hfree =>
    cases ha
    exact ⟨_, _, rfl, h, rfl, rfl, hfree⟩
  | _ => exact nomatch ha

theorem lookup_add (h : Turn plan d l made r o x) (m : Location) :
    (made.add x).lookup m = made.lookup m ∨
      ∃ s n bytes, r = some s ∧ plan s = .ok (n, bytes) ∧ o = .ok (some (d.child n)) ∧
        m = l.child n.bytes ∧ made.lookup m = none ∧
        (made.add x).lookup m = some (.file bytes made.clock) := by
  cases h with
  | @won s n bytes h husable hfree =>
    simp only [add, lookup_putFile (names_ne_nil_of_none hfree)]
    by_cases hm : m = l.child n.bytes
    · exact .inr ⟨s, n, bytes, rfl, h, rfl, hm, hm ▸ hfree, if_pos hm⟩
    · exact .inl (if_neg hm)
  | _ => exact .inl rfl

/-- A file that is there after a turn was there before the directory was made, or is new in it. -/
theorem lookup_file_of_grows (h : Turn plan d l made r o x) {fs : FileSystem}
    (hgrows : Grows d fs made) {m : Location} {c : Bytes} {stamp : Nat}
    (hm : (made.add x).lookup m = some (.file c stamp)) :
    fs.lookup m = some (.file c stamp) ∨ ∃ b, m = l.child b ∧ fs.lookup m = none := by
  rcases h.lookup_add m with hsame | ⟨s, n, -, -, -, -, hplace, hnone, -⟩
  · exact .inl (hgrows.lookup_file_iff.mp (hsame ▸ hm))
  · exact .inr ⟨n.bytes, hplace, hgrows.keeps.lookup_eq_none hnone⟩

section Names

variable (hnames : ∀ s n bytes, plan s = .ok (n, bytes) → n.IsEncodable)
include hnames

/-- A turn changes nothing at the place of a file with another name. -/
theorem lookup_add_of_ne (h : Turn plan d l made r o x) {n : Text} (hn : n.IsEncodable)
    (hne : ∀ s ∈ r, ∀ m bytes, plan s = .ok (m, bytes) → m ≠ n) :
    (made.add x).lookup (l.child n.bytes) = made.lookup (l.child n.bytes) := by
  rcases h.lookup_add (l.child n.bytes) with hsame | ⟨s, m, bytes, hs, hm, -, heq, -⟩
  · exact hsame
  · rw [Location.child_inj, Text.bytes_inj hn (hnames s m bytes hm)] at heq
    exact absurd heq.2.symm (hne s hs m bytes hm)

/-- After a turn, nothing is at the place of a file if nothing was and the turn has not written
it. -/
theorem lookup_child_eq_none_iff (h : Turn plan d l made r o x) {n : Text}
    (hn : n.IsEncodable) : (made.add x).lookup (l.child n.bytes) = none ↔
      made.lookup (l.child n.bytes) = none ∧ o ≠ .ok (some (d.child n)) := by
  cases h with
  | @won s m bytes h husable hfree =>
    simp only [add, lookup_putFile (names_ne_nil_of_none hfree),
      Location.child_inj, true_and, Text.bytes_inj hn (hnames _ _ _ h), ne_eq, Except.ok.injEq,
      Option.some.injEq, FilePath.child_inj]
    by_cases hnm : n = m
    · simp [hnm]
    · simp [hnm, Ne.symm hnm]
  | _ => simp [add]

end Names

end Turn

/-! ## Several requests -/

/-- The turns of several requests: their outcomes, and what is there at the end. -/
inductive Turns (plan : ThemeRequest → Except Failure (Text × Bytes)) (d : FilePath)
    (l : Location) : FileSystem → List (Option ThemeRequest) →
      List (Except Failure (Option FilePath)) → FileSystem → Prop
  | nil (made : FileSystem) : Turns plan d l made [] [] made
  | cons {made made' : FileSystem} {r : Option ThemeRequest} {rs : List (Option ThemeRequest)}
      {o : Except Failure (Option FilePath)} {os : List (Except Failure (Option FilePath))}
      {x : Option (Location × Bytes)} (h : Turn plan d l made r o x)
      (hs : Turns plan d l (made.add x) rs os made') : Turns plan d l made (r :: rs) (o :: os) made'

namespace Turns

variable {rs : List (Option ThemeRequest)} {os : List (Except Failure (Option FilePath))}

theorem length_eq (h : Turns plan d l made rs os made') : os.length = rs.length := by
  induction h with
  | nil made => rfl
  | cons h hs ih => rw [List.length_cons, List.length_cons, ih]

theorem eq_of_not_planned (h : Turns plan d l made rs os made')
    (hrs : rs.any (planned plan) = false) : made' = made := by
  induction h with
  | nil made => rfl
  | cons h hs ih =>
    rw [List.any_cons, Bool.or_eq_false_iff] at hrs
    rw [ih hrs.2, h.eq_none_of_not_planned hrs.1]
    rfl

theorem extends_made (h : Turns plan d l made rs os made') : made.Extends made' := by
  induction h with
  | nil made => exact .refl made
  | cons h hs ih => exact h.extends_add.trans ih

/-- At the end, there is what there was, and the file of each request that has won. -/
theorem lookup_eq_some (h : Turns plan d l made rs os made') {m : Location} {e : Entry}
    (he : made'.lookup m = some e) : made.lookup m = some e ∨
      ∃ (i : Nat) (s : ThemeRequest) (n : Text) (bytes : Bytes) (stamp : Nat),
        rs[i]? = some (some s) ∧ plan s = .ok (n, bytes) ∧
        os[i]? = some (.ok (some (d.child n))) ∧ m = l.child n.bytes ∧ e = .file bytes stamp := by
  induction h with
  | nil made => exact .inl he
  | cons h hs ih =>
    rcases ih he with hbefore | ⟨i, s, n, bytes, stamp, hr, hrest⟩
    · rcases h.lookup_add m with hsame | ⟨s, n, bytes, rfl, hs, rfl, hm, -, hfile⟩
      · exact .inl (hsame ▸ hbefore)
      · rw [hbefore] at hfile
        exact .inr ⟨0, s, n, bytes, _, rfl, hs, rfl, hm, Option.some.inj hfile⟩
    · exact .inr ⟨i + 1, s, n, bytes, stamp, hr, hrest⟩

section Names

variable (hnames : ∀ s n bytes, plan s = .ok (n, bytes) → n.IsEncodable)
include hnames

/-- **Every turn, by what was there at the start and by the earlier outcomes.** -/
theorem exists_turn (h : Turns plan d l made rs os made') {i : Nat} (hr : rs[i]? = some r) :
    ∃ o x between, os[i]? = some o ∧ Turn plan d l between r o x ∧
      (between.add x).Extends made' ∧
      ∀ n, n.IsEncodable → (between.lookup (l.child n.bytes) = none ↔
        made.lookup (l.child n.bytes) = none ∧
          ∀ j < i, os[j]? ≠ some (.ok (some (d.child n)))) := by
  induction h generalizing i with
  | nil made => exact nomatch hr
  | @cons made made' r' rs o os x h hs ih =>
    cases i with
    | zero =>
      cases hr
      exact ⟨o, x, made, rfl, h, hs.extends_made, fun n _ => by simp⟩
    | succ i =>
      obtain ⟨o', x', between, ho, hturn, hextends, hfree⟩ := ih hr
      refine ⟨o', x', between, ho, hturn, hextends, fun n hn => ?_⟩
      rw [hfree n hn, h.lookup_child_eq_none_iff hnames hn, and_assoc, Nat.forall_lt_succ_left]
      simp

theorem getElem?_of_cancelled (h : Turns plan d l made rs os made') {i : Nat}
    (hr : rs[i]? = some none) : os[i]? = some (.ok none) := by
  obtain ⟨o, x, between, ho, hturn, -⟩ := h.exists_turn hnames hr
  cases hturn
  exact ho

theorem getElem?_of_plan_error (h : Turns plan d l made rs os made') {i : Nat} {s : ThemeRequest}
    {f : Failure} (hr : rs[i]? = some (some s)) (hs : plan s = .error f) :
    os[i]? = some (.error f) := by
  obtain ⟨o, x, between, ho, hturn, -⟩ := h.exists_turn hnames hr
  cases hturn with
  | failed hf =>
    cases hs.symm.trans hf
    exact ho
  | won hn _ _ => exact nomatch hs.symm.trans hn
  | lost hn _ _ => exact nomatch hs.symm.trans hn
  | overlong hn _ => exact nomatch hs.symm.trans hn

/-- A request with a plan wins if nothing was at the place of its file and no earlier request has
won it. -/
theorem getElem?_of_plan (h : Turns plan d l made rs os made')
    (hos : ∀ o ∈ os, ∀ e, o ≠ .error (.writing e)) {i : Nat} {s : ThemeRequest} {n : Text}
    {bytes : Bytes} (hr : rs[i]? = some (some s)) (hs : plan s = .ok (n, bytes)) : os[i]? = some
      (if made.lookup (l.child n.bytes) = none ∧ ∀ j < i, os[j]? ≠ some (.ok (some (d.child n)))
        then .ok (some (d.child n)) else .error (.fileExists (d.child n))) := by
  obtain ⟨o, x, between, ho, hturn, -, hfree⟩ := h.exists_turn hnames hr
  rw [ho, hturn.eq_ite_of_plan hs (hos o (List.mem_of_getElem? ho))]
  simp only [hfree n (hnames s n bytes hs)]

theorem exists_lookup_eq (h : Turns plan d l made rs os made') {i : Nat} {s : ThemeRequest}
    {n : Text} {bytes : Bytes} (hr : rs[i]? = some (some s)) (hs : plan s = .ok (n, bytes))
    (hi : os[i]? = some (.ok (some (d.child n)))) :
    ∃ stamp, made'.lookup (l.child n.bytes) = some (.file bytes stamp) := by
  obtain ⟨o, x, between, ho, hturn, hextends, -⟩ := h.exists_turn hnames hr
  rw [hi] at ho
  cases ho
  obtain ⟨s, m, u, hs', hm, -, hnone, rfl⟩ := hturn.of_ok rfl
  cases hs'
  cases hs.symm.trans hm
  refine ⟨between.clock, hextends _ _ ?_⟩
  rw [add, lookup_putFile (names_ne_nil_of_none hnone), if_pos rfl]

/-- No path is returned twice. -/
theorem nodup_returned (h : Turns plan d l made rs os made') :
    (os.filterMap returned).Nodup := by
  rw [List.Nodup, List.pairwise_filterMap, List.pairwise_iff_getElem]
  intro i j hi hj hij p hp q hq hpq
  rw [returned_eq_some_iff] at hp hq
  have hjr : j < rs.length := h.length_eq ▸ hj
  obtain ⟨o, x, between, ho, hturn, -, hfree⟩ :=
    h.exists_turn hnames (List.getElem?_eq_getElem hjr)
  rw [List.getElem?_eq_getElem hj, hq, Option.some.injEq] at ho
  obtain ⟨s, n, bytes, -, hs, rfl, hnone, -⟩ := hturn.of_ok ho.symm
  -- the later turn has found the place empty, which the earlier one had filled
  refine ((hfree n (hnames s n bytes hs)).mp hnone).2 i hij ?_
  rw [List.getElem?_eq_getElem hi, hp, hpq]

/-- **Two requests with different names can change places.** -/
theorem swap {a b : Option ThemeRequest} {os os' : List (Except Failure (Option FilePath))}
    {made'' : FileSystem}
    (hne : ∀ s ∈ a, ∀ t ∈ b, ∀ m n u v, plan s = .ok (m, u) → plan t = .ok (n, v) → m ≠ n)
    (h : Turns plan d l made [a, b] os made') (h' : Turns plan d l made [b, a] os' made'') :
    ∃ oa ob, os = [oa, ob] ∧ os' = [ob, oa] ∧ SameContent made' made'' := by
  obtain _ | ⟨ha, _ | ⟨hb, _ | _⟩⟩ := h
  obtain _ | ⟨hb', _ | ⟨ha', _ | _⟩⟩ := h'
  rename_i oa xa ob xb ob' xb' oa' xa'
  have hb₀ : Turn plan d l made b ob xb := hb.of_lookup fun t ht n v hn =>
    (ha.lookup_add_of_ne hnames (hnames t n v hn) fun s hs m u hm =>
      hne s hs t ht m n u v hm hn).symm
  have ha₀ : Turn plan d l made a oa' xa' := ha'.of_lookup fun s hs m u hm =>
    (hb'.lookup_add_of_ne hnames (hnames s m u hm) fun t ht n v hn =>
      (hne s hs t ht m n u v hm hn).symm).symm
  obtain ⟨rfl, rfl⟩ := ha.unique ha₀
  obtain ⟨rfl, rfl⟩ := hb₀.unique hb'
  refine ⟨_, _, rfl, rfl,
    sameContent_add_add made (fun f hf => ?_) (fun g hg => ?_) fun f hf g hg => ?_⟩
  · obtain ⟨-, -, -, -, -, -, hnone⟩ := ha.eq_some_of_mem hf
    exact names_ne_nil_of_none hnone
  · obtain ⟨-, -, -, -, -, -, hnone⟩ := hb₀.eq_some_of_mem hg
    exact names_ne_nil_of_none hnone
  · obtain ⟨s, m, hs, hm, -, hf, -⟩ := ha.eq_some_of_mem hf
    obtain ⟨t, n, ht, hn, -, hg, -⟩ := hb₀.eq_some_of_mem hg
    intro heq
    rw [hf, hg, Location.child_inj, Text.bytes_inj (hnames s m _ hm) (hnames t n _ hn)] at heq
    exact hne s hs t ht m n _ _ hm hn heq.2

end Names

end Turns

end

end ThemeForge
