/-
# What a substitution writes

Two substitutions that differ in their settings write related texts for the
same template.  `Node.missing` lists the placeholders that are shown and have
no value; these are the only places where the marks of a missing value come
in, so two settings whose safe texts and marks are related write related texts
for the whole template (`Substitution.render_related`).  A relation may also
count the marks it meets, and then holds with the number of all missing names
(`Substitution.render_counted`).

From this follow the two facts that rendering rests on where every placeholder
has a value: leaving out placeholders without a value changes nothing
(`render_redacted`), and text made safe piece by piece is the whole text made
safe (`render_escape`).  The latter holds of every template if missing names are
marked without tags (`escape_render`).
-/
import Mathlib
import MessageTemplate.Content.Substitution

namespace MessageTemplate

/-! ## Nodes -/

/-- A property of nodes holds of all of them if it holds of a conditional
whenever it holds of each node that the conditional shows. -/
@[elab_as_elim, induction_eliminator]
theorem Node.induct {motive : Node → Prop}
    (text : ∀ t, motive (.text t))
    (value : ∀ name, motive (.value name))
    (conditional : ∀ name shown, (∀ n ∈ shown, motive n) → motive (.conditional name shown)) :
    ∀ n, motive n
  | .text t => text t
  | .value name => value name
  | .conditional name shown =>
    conditional name shown fun n _ => Node.induct text value conditional n

/-- A placeholder without a condition is read as one that shows a value. -/
theorem Segment.node_of_not_conditional {p : Placeholder} (h : p.isConditional = false) :
    (Segment.placeholder p).node = .value p.name := by
  rw [Placeholder.isConditional, Option.isSome_eq_false_iff, Option.isNone_iff_eq_none] at h
  rw [node, h]

/-- A placeholder with a condition is read together with its text. -/
theorem Segment.node_of_conditional {p : Placeholder} {shown : Text}
    (h : p.conditionalText? = some shown) :
    (Segment.placeholder p).node = .conditional p.name (Node.read shown) := by
  rw [node, h]

/-! ## Related texts -/

/-- A relation between texts that holds of texts put together from related parts. -/
structure Compositional (R : Text → Text → Prop) : Prop where
  nil : R [] []
  append : ∀ {t u t' u' : Text}, R t u → R t' u' → R (t ++ t') (u ++ u')

theorem Compositional.flatMap {R : Text → Text → Prop} (hR : Compositional R) {α : Type}
    {f g : α → Text} {l : List α} (h : ∀ a ∈ l, R (f a) (g a)) :
    R (l.flatMap f) (l.flatMap g) := by
  induction l with
  | nil => exact hR.nil
  | cons a l ih =>
    rw [List.flatMap_cons, List.flatMap_cons]
    exact hR.append (h a List.mem_cons_self) (ih fun b hb => h b (List.mem_cons_of_mem a hb))

/-- A relation between texts that comes with a number, and that holds of texts
put together from related parts with the sum of their numbers. -/
structure Additive (R : Nat → Text → Text → Prop) : Prop where
  nil : R 0 [] []
  append : ∀ {j k : Nat} {t u t' u' : Text}, R j t u → R k t' u' → R (j + k) (t ++ t') (u ++ u')

/-- A relation that counts nothing is one without numbers. -/
theorem Compositional.additive {R : Text → Text → Prop} (hR : Compositional R) :
    Additive fun _ => R :=
  ⟨hR.nil, hR.append⟩

theorem Additive.flatMap {R : Nat → Text → Text → Prop} (hR : Additive R) {α β : Type}
    {f g : α → Text} {names : α → List β} {l : List α}
    (h : ∀ a ∈ l, R (names a).length (f a) (g a)) :
    R (l.flatMap names).length (l.flatMap f) (l.flatMap g) := by
  induction l with
  | nil => exact hR.nil
  | cons a l ih =>
    rw [List.flatMap_cons, List.flatMap_cons, List.flatMap_cons, List.length_append]
    exact hR.append (h a List.mem_cons_self) (ih fun b hb => h b (List.mem_cons_of_mem a hb))

/-! ## Placeholders without a value -/

/-- The names of the placeholders of a node that are shown and have no value,
each as often as it is shown. -/
def Node.missing (values : Personalisation) : Node → List Text
  | .text _ => []
  | .value name => if (values.get? name).isSome then [] else [name]
  | .conditional name shown =>
    if Substitution.showsConditional values name then
      shown.flatMap (Node.missing values)
    else []

/-- The names of the placeholders of a template that are shown and have no value. -/
def missingNames (values : Personalisation) (content : Text) : List Text :=
  (Node.read content).flatMap (Node.missing values)

/-- What is looked up is no null. -/
theorem Personalisation.isNull_of_get? {p : Personalisation} {name : Text} {v : Value}
    (h : p.get? name = some v) : v.isNull = false := by
  rw [get?, Option.filter_eq_some_iff] at h
  simpa using h.2

/-- What is looked up is one of the entries. -/
theorem Personalisation.mem_entries_of_get? {p : Personalisation} {name : Text} {v : Value}
    (h : p.get? name = some v) : ∃ key, (key, v) ∈ p.entries := by
  rw [get?, Option.filter_eq_some_iff] at h
  obtain ⟨before, after, hentries, -⟩ := List.lookup_eq_some_iff.1 h.1
  refine ⟨name.trim, ?_⟩
  rw [hentries]
  exact List.mem_append_right before List.mem_cons_self

namespace Substitution

variable {s s' : Substitution} {values : Personalisation} {content : Text}

/-- Every value but the null has a text, whatever the settings. -/
theorem isSome_valueText? (s : Substitution) {v : Value} (h : v.isNull = false) :
    (s.valueText? v).isSome = true := by
  cases v with
  | null => simp [Value.isNull] at h
  | flag b => cases b <;> rfl
  | number n => rfl
  | text t => rfl
  | list items => rfl

/-- A placeholder has no value exactly when its name is not found. -/
theorem isSome_bind_valueText? (s : Substitution) (values : Personalisation) (name : Text) :
    ((values.get? name).bind s.valueText?).isSome = (values.get? name).isSome := by
  cases h : values.get? name with
  | none => rfl
  | some v => exact isSome_valueText? s (Personalisation.isNull_of_get? h)

/-- Counts that are added up over nodes count the names collected over them. -/
theorem foldr_eq_length_flatMap {count : Node → Nat} {names : Node → List Text} {nodes : List Node}
    (h : ∀ n ∈ nodes, count n = (names n).length) :
    nodes.foldr (fun n total => count n + total) 0 = (nodes.flatMap names).length := by
  induction nodes with
  | nil => rfl
  | cons n rest ih =>
    have hrest := ih fun n' hn' => h n' (List.mem_cons_of_mem n hn')
    rw [List.foldr_cons, hrest, h n List.mem_cons_self, List.flatMap_cons, List.length_append]

/-- The count of a node is the number of its missing names. -/
theorem unresolvedInNode_eq_length (s : Substitution) (values : Personalisation) (n : Node) :
    s.unresolvedInNode values n = (n.missing values).length := by
  induction n with
  | text t => rw [unresolvedInNode, Node.missing, List.length_nil]
  | value name =>
    rw [unresolvedInNode, Node.missing, isSome_bind_valueText?]
    split <;> rfl
  | conditional name shown ih =>
    rw [unresolvedInNode, Node.missing]
    split
    · exact foldr_eq_length_flatMap ih
    · rfl

/-- The count of a template is the number of its missing names, unless these
are left out. -/
theorem unresolvedCount_eq (s : Substitution) (values : Personalisation) (content : Text) :
    s.unresolvedCount values content
      = if s.redactMissing then 0 else (missingNames values content).length := by
  rw [unresolvedCount, missingNames,
    foldr_eq_length_flatMap fun n _ => unresolvedInNode_eq_length s values n]

/-- Nothing counts as missing exactly when missing names are left out or there
are none. -/
theorem unresolvedCount_eq_zero_iff :
    s.unresolvedCount values content = 0
      ↔ s.redactMissing = true ∨ missingNames values content = [] := by
  rw [unresolvedCount_eq]
  cases s.redactMissing <;> simp

/-! ## Substitutions that write related texts -/

/-- The text of a value depends on the list setting alone. -/
theorem valueText?_congr (hlists : s.markdownLists = s'.markdownLists) (v : Value) :
    s.valueText? v = s'.valueText? v := by
  have hlist : s.listText = s'.listText := by
    funext items
    rw [listText, listText, hlists]
  rw [valueText?, valueText?, hlist]

/-- A placeholder is written alike under two settings if safe texts are, and
the marks of its name where it has no value. -/
theorem writeValue_related {R : Text → Text → Prop} (hlists : s.markdownLists = s'.markdownLists)
    (hsafe : ∀ t, R (s.sanitise t) (s'.sanitise t)) {name : Text}
    (hmissing : values.get? name = none → R (s.missing name) (s'.missing name)) :
    R (s.writeValue values name) (s'.writeValue values name) := by
  rw [writeValue, writeValue]
  cases hget : values.get? name with
  | none => exact hmissing hget
  | some v =>
    rw [Option.bind_some, Option.bind_some, valueText?_congr hlists v]
    have hsome := isSome_valueText? s' (Personalisation.isNull_of_get? hget)
    obtain ⟨t, ht⟩ := Option.isSome_iff_exists.1 hsome
    rw [ht]
    exact hsafe t

/-- **One node.**  If safe texts are related without counting, and the mark of
each name missing from a node is related and counts once, then what is written
for the node is related with the number of names missing from it. -/
theorem writeNode_counted {R : Nat → Text → Text → Prop} (hR : Additive R)
    (hlists : s.markdownLists = s'.markdownLists)
    (hsafe : ∀ t, R 0 (s.sanitise t) (s'.sanitise t)) (n : Node)
    (hmissing : ∀ name ∈ n.missing values, R 1 (s.missing name) (s'.missing name)) :
    R (n.missing values).length (s.writeNode values n) (s'.writeNode values n) := by
  induction n with
  | text t =>
    rw [writeNode, writeNode, Node.missing]
    exact hsafe t
  | value name =>
    rw [Node.missing] at hmissing ⊢
    rw [writeNode, writeNode]
    cases hget : values.get? name with
    | none =>
      rw [hget] at hmissing
      rw [writeValue, writeValue, hget]
      exact hmissing name List.mem_cons_self
    | some v =>
      rw [Option.isSome_some, if_pos rfl]
      refine writeValue_related hlists hsafe fun hnone => ?_
      rw [hnone] at hget
      cases hget
  | conditional name shown ih =>
    rw [Node.missing] at hmissing ⊢
    rw [writeNode, writeNode]
    -- the names missing from what is shown are missing from the conditional
    split at hmissing
    · rename_i hshow
      rw [if_pos hshow, if_pos hshow, if_pos hshow]
      refine hR.flatMap fun n hn => ih n hn fun name' hname' => ?_
      exact hmissing name' (List.mem_flatMap.2 ⟨n, hn, hname'⟩)
    · rename_i hhide
      rw [if_neg hhide, if_neg hhide, if_neg hhide]
      exact hR.nil

/-- **Whole templates.**  What two substitutions write for a template is related
with the number of all names missing from it. -/
theorem render_counted {R : Nat → Text → Text → Prop} (hR : Additive R)
    (hlists : s.markdownLists = s'.markdownLists)
    (hsafe : ∀ t, R 0 (s.sanitise t) (s'.sanitise t))
    (hmissing : ∀ name ∈ missingNames values content, R 1 (s.missing name) (s'.missing name)) :
    R (missingNames values content).length (s.render values content)
      (s'.render values content) := by
  refine hR.flatMap fun n hn => writeNode_counted hR hlists hsafe n fun name hname => ?_
  exact hmissing name (List.mem_flatMap.2 ⟨n, hn, hname⟩)

/-- Two substitutions whose safe texts and marks are related write related texts. -/
theorem render_related {R : Text → Text → Prop} (hR : Compositional R)
    (hlists : s.markdownLists = s'.markdownLists) (hsafe : ∀ t, R (s.sanitise t) (s'.sanitise t))
    (hmissing : ∀ name ∈ missingNames values content, R (s.missing name) (s'.missing name)) :
    R (s.render values content) (s'.render values content) :=
  render_counted hR.additive hlists hsafe hmissing

/-- Two substitutions whose safe texts and marks are related by a map of
characters write related texts. -/
theorem render_eq_flatMap {g : Char → Text} (hlists : s.markdownLists = s'.markdownLists)
    (hsafe : ∀ t, s.sanitise t = (s'.sanitise t).flatMap g)
    (hmissing : ∀ name ∈ missingNames values content,
      s.missing name = (s'.missing name).flatMap g) :
    s.render values content = (s'.render values content).flatMap g := by
  have hR : Compositional fun t u => t = u.flatMap g :=
    ⟨rfl, fun ht hu => by rw [ht, hu, List.flatMap_append]⟩
  exact render_related hR hlists hsafe hmissing

/-- A placeholder that is left out is written as nothing. -/
theorem missing_of_redactMissing (h : s.redactMissing = true) (name : Text) :
    s.missing name = [] := by
  rw [missing, if_pos h]

/-- Where nothing counts as missing, leaving out what has no value changes nothing. -/
theorem render_redacted (h : s.unresolvedCount values content = 0) :
    { s with redactMissing := true }.render values content = s.render values content := by
  -- both are written alike: the related texts of the map that changes nothing
  have hsame : { s with redactMissing := true }.render values content
      = (s.render values content).flatMap fun c => [c] := by
    apply render_eq_flatMap
    · rfl
    · intro t
      rw [List.flatMap_singleton']
      rfl
    · intro name hname
      rw [missing_of_redactMissing rfl]
      rcases unresolvedCount_eq_zero_iff.1 h with hredact | hnone
      · rw [missing_of_redactMissing hredact]
        rfl
      · rw [hnone] at hname
        exact absurd hname List.not_mem_nil
  rw [hsame, List.flatMap_singleton']

/-! ## Escaping -/

/-- A text made safe by escaping is the text as written, escaped. -/
theorem sanitise_escape (hs : s.html = .escape) (hs' : s'.html = .passthrough) (t : Text) :
    s.sanitise t = Html.escape (s'.sanitise t) := by
  rw [sanitise, sanitise, hs, hs']

/-- Where nothing counts as missing, a template made safe piece by piece is
the template as written made safe as a whole, whatever the marks. -/
theorem render_escape (hs : s.html = .escape) (hs' : s'.html = .passthrough)
    (hlists : s.markdownLists = s'.markdownLists)
    (hredact : s.redactMissing = s'.redactMissing)
    (h : s'.unresolvedCount values content = 0) :
    s.render values content = Html.escape (s'.render values content) := by
  refine render_eq_flatMap hlists (sanitise_escape hs hs') ?_
  intro name hname
  rcases unresolvedCount_eq_zero_iff.1 h with hleft | hnone
  · rw [missing_of_redactMissing (hredact.trans hleft), missing_of_redactMissing hleft]
    rfl
  · rw [hnone] at hname
    exact absurd hname List.not_mem_nil

/-- A mark without tags that is made safe is the mark as written made safe. -/
theorem missing_escape (hs : s.html = .escape) (hs' : s'.html = .passthrough)
    (hstyle : s.style = .plain) (hstyle' : s'.style = .plain)
    (hredact : s.redactMissing = s'.redactMissing) (name : Text) :
    s.missing name = Html.escape (s'.missing name) := by
  unfold missing
  rw [hredact, hstyle, hstyle']
  split
  · rfl
  · show "((".toList ++ s.sanitise name ++ "))".toList
      = Html.escape ("((".toList ++ s'.sanitise name ++ "))".toList)
    rw [sanitise_escape hs hs', Html.escape_append, Html.escape_append]
    rfl

/-- Where missing names are marked without tags, a template made safe piece by
piece is the template as written made safe as a whole. -/
theorem render_plain_escape (hs : s.html = .escape) (hs' : s'.html = .passthrough)
    (hstyle : s.style = .plain) (hstyle' : s'.style = .plain)
    (hlists : s.markdownLists = s'.markdownLists)
    (hredact : s.redactMissing = s'.redactMissing) :
    s.render values content = Html.escape (s'.render values content) := by
  refine render_eq_flatMap hlists (sanitise_escape hs hs') ?_
  intro name _
  exact missing_escape hs hs' hstyle hstyle' hredact name

/-- **Escaping and substitution commute.**  Where missing names are marked
without tags, it makes no difference whether a template is escaped while its
placeholders are replaced or afterwards: literal text, values, lists, shown
conditional text and the names of missing values are each escaped once, and
names are looked up as they are written. -/
theorem escape_render (values : Personalisation) (content : Text)
    (markdownLists redactMissing : Bool) :
    render { html := .escape, style := .plain, markdownLists, redactMissing } values content
      = Html.escape (render
          { html := .passthrough, style := .plain, markdownLists, redactMissing }
          values content) :=
  render_plain_escape rfl rfl rfl rfl rfl rfl

/-! ## Values without lists -/

/-- Where no value is a list, it makes no difference how lists are written. -/
theorem render_markdownLists {lists : Bool}
    (h : ∀ name v, values.get? name = some v → v.items? = none) :
    { s with markdownLists := lists }.render values content = s.render values content := by
  have hvalue : ∀ name, { s with markdownLists := lists }.writeValue values name
      = s.writeValue values name := by
    intro name
    unfold writeValue
    cases hget : values.get? name with
    | none => rfl
    | some v =>
      have htext : ∀ s : Substitution, s.valueText? v = v.text? := by
        intro s
        unfold valueText?
        rw [h name v hget]
        rfl
      rw [Option.bind_some, Option.bind_some, htext, htext]
      rfl
  have hnode : ∀ n, { s with markdownLists := lists }.writeNode values n
      = s.writeNode values n := by
    intro n
    induction n with
    | text t =>
      rw [writeNode, writeNode]
      rfl
    | value name =>
      rw [writeNode, writeNode]
      exact hvalue name
    | conditional name shown ih =>
      rw [writeNode, writeNode]
      congr 1
      apply List.flatMap_congr
      exact ih
  unfold render writeNodes
  apply List.flatMap_congr
  intro n _
  exact hnode n

/-! ## Marks of missing values -/

/-- The mark of a name missing from a node stands in what is written for the node. -/
theorem missing_subset_writeNode {name : Text} {n : Node} (h : name ∈ n.missing values) :
    s.missing name ⊆ s.writeNode values n := by
  induction n with
  | text t =>
    rw [Node.missing] at h
    exact absurd h List.not_mem_nil
  | value name' =>
    rw [Node.missing] at h
    split at h
    · exact absurd h List.not_mem_nil
    · rename_i hget
      rw [List.mem_singleton] at h
      have hnone : values.get? name' = none := by simpa using hget
      rw [h, writeNode, writeValue, hnone]
      exact List.Subset.refl _
  | conditional name' shown ih =>
    rw [Node.missing] at h
    rw [writeNode]
    split at h
    · rename_i hshow
      obtain ⟨n, hn, hname⟩ := List.mem_flatMap.1 h
      rw [if_pos hshow]
      intro c hc
      exact List.mem_flatMap.2 ⟨n, hn, ih n hn hname hc⟩
    · exact absurd h List.not_mem_nil

/-- The mark of a missing name stands in what is written for the template. -/
theorem missing_subset_render {name : Text} (h : name ∈ missingNames values content) :
    s.missing name ⊆ s.render values content := by
  obtain ⟨n, hn, hname⟩ := List.mem_flatMap.1 h
  intro c hc
  exact List.mem_flatMap.2 ⟨n, hn, missing_subset_writeNode hname hc⟩

end Substitution

end MessageTemplate
