import Multifiling.Proofs.Api.Walk
import Multifiling.Proofs.Text.Pieces

/-!
Parts of the items that a listing is asked to include. Two requests for one page that ask for
different parts get answers that differ in these parts only, and a part that was not asked for is
null; requests that name the same parts get the same answer (`parts_only`).
-/

namespace Multifiling.Api
open Text

/-! ### Words for parts -/

/-- A text with commas names a word: one of its pieces is the word, with blanks around it. -/
def Names (given : Option String) (word : String) : Prop :=
  word ≠ "" ∧ ∃ piece ∈ (given.getD "").toList.splitOn ',', trimChars piece = word.toList

section
variable {given : Option String} {found includes : List Include} {words : List String}

theorem ofWord?_eq_some_iff {word : String} {part : Include} :
    Include.ofWord? word = some part ↔ part.word = word := by
  constructor
  · intro h
    simpa using List.find?_some h
  · rintro rfl
    cases part <;> rfl

theorem ofWord?_eq_none_iff {word : String} :
    Include.ofWord? word = none ↔ word ∉ Include.all.map Include.word := by
  rw [Option.eq_none_iff_forall_ne_some, List.mem_map]
  constructor
  · rintro h ⟨part, -, rfl⟩
    exact h part (ofWord?_eq_some_iff.mpr rfl)
  · rintro h part hpart
    exact h ⟨part, by cases part <;> decide, ofWord?_eq_some_iff.mp hpart⟩

/-- Words are refused if one of them is no word for a part. -/
theorem addIncludes_error_iff : (∃ e, addIncludes found words = .error e) ↔
    ∃ word ∈ words, word ∉ Include.all.map Include.word := by
  induction words generalizing found with
  | nil => exact ⟨nofun, nofun⟩
  | cons word rest ih =>
    rw [addIncludes]
    cases hword : Include.ofWord? word with
    | none =>
      exact ⟨fun _ => ⟨word, List.mem_cons_self, ofWord?_eq_none_iff.mp hword⟩, fun _ => ⟨_, rfl⟩⟩
    | some part =>
      have hknown : word ∈ Include.all.map Include.word := by
        by_contra hnot
        rw [ofWord?_eq_none_iff.mpr hnot] at hword
        cases hword
      simp only [ih, List.mem_cons, exists_eq_or_imp, hknown, not_true_eq_false, false_or]

theorem mem_addIncludes (h : addIncludes found words = .ok includes) (part : Include) :
    part ∈ includes ↔ part ∈ found ∨ part.word ∈ words := by
  induction words generalizing found with
  | nil =>
    cases h
    simp
  | cons word rest ih =>
    rw [addIncludes] at h
    split at h
    · cases h
    · next other hword =>
      obtain rfl := ofWord?_eq_some_iff.mp hword
      have hsame : part.word = other.word ↔ part = other := by
        cases part <;> cases other <;> decide
      rw [ih h, List.mem_cons, hsame]
      split
      · next hfound =>
        have hmem : other ∈ found := List.contains_iff_mem.mp hfound
        constructor
        · exact Or.imp_right .inr
        · rintro (hpart | rfl | hpart)
          · exact .inl hpart
          · exact .inl hmem
          · exact .inr hpart
      · rw [List.mem_append, List.mem_singleton, or_assoc]

/-- A text is refused just if it names a word that is none for a part. -/
theorem readInclude_error_iff : (∃ e, readInclude given = .error e) ↔
    ∃ word, Names given word ∧ word ∉ Include.all.map Include.word := by
  simp only [readInclude, addIncludes_error_iff, mem_commaList, Names]

theorem mem_readInclude (h : readInclude given = .ok includes) (part : Include) :
    part ∈ includes ↔ Names given part.word := by
  rw [mem_addIncludes h, mem_commaList, Names]
  simp

end

/-! ### Answers without parts -/

/-- A field of an object. -/
def field? (name : String) : Json → Option Json
  | .object fields => fields.lookup name
  | _ => none

/-- An item without the fields that hold parts. -/
def bare : Json → Json
  | .object fields => .object (fields.filter fun field => field.1 ∉ Include.all.map Include.word)
  | value => value

/-- An answer with all that it holds but the parts of its items. -/
def Response.withoutParts (response : Response) : Response :=
  { response with body := response.body.map fun
      | .object fields => .object (fields.map fun
          | ("items", .array items) => ("items", .array (items.map bare))
          | field => field)
      | value => value }

theorem bare_toJson (view : NodeView) : bare view.toJson = bare view.short.toJson := rfl

theorem field?_toJson (view : NodeView) (part : Include) :
    field? part.word view.toJson = some .null ↔ view.holds part = false := by
  cases part with
  | path =>
    have hfield : field? "path" view.toJson = some (NodeView.pathJson view.path) := rfl
    rw [Include.word, hfield, NodeView.holds]
    cases view.path <;> simp [NodeView.pathJson]
  | properties =>
    have hfield : field? "properties" view.toJson =
      some ((view.properties.map Json.object).getD .null) := rfl
    rw [Include.word, hfield, NodeView.holds]
    cases view.properties <;> simp

theorem withoutParts_pageJson (views : List NodeView) (total : Nat) (offset limit : Int) :
    (⟨200, some (pageJson views total offset limit)⟩ : Response).withoutParts =
      (⟨200, some (pageJson (views.map NodeView.short) total offset limit)⟩ :
        Response).withoutParts := by
  have hitems : (views.map NodeView.toJson).map bare =
      ((views.map NodeView.short).map NodeView.toJson).map bare := by
    simp only [List.map_map]
    exact List.map_congr_left fun view _ => bare_toJson view
  simp only [Response.withoutParts, pageJson, Option.map_some, List.map_cons, List.map_nil, hitems,
    List.length_map]

theorem withoutParts_pageAnswer (offset limit : Int)
    (listed : Except Failure (List NodeView × Nat)) :
    (pageAnswer offset limit listed).withoutParts = (pageAnswer offset limit
      (listed.map (Prod.map (List.map NodeView.short) id))).withoutParts := by
  cases listed with
  | error e => rfl
  | ok page => exact withoutParts_pageJson page.1 page.2 offset limit

/-! ### Requests for parts -/

variable {config : Config} {parent : String} {r r' : Request} {s : Store}

/-- Requests for one page of a listing; the parts that they ask for may differ. -/
structure SamePage (parent : String) (r r' : Request) : Prop where
  routes : Route.ofPath r.path = .children parent ∧ Route.ofPath r'.path = .children parent
  methods : Method.ofWord? r.method = some .get ∧ Method.ofWord? r'.method = some .get
  parameters : ∀ name ∈ ["where", "offset", "limit"], r.parameter? name = r'.parameter? name

/-- A request asks for what its text of parts names. -/
def Request.AsksFor (r : Request) (word : String) : Prop := Names (r.parameter? "include") word

section
variable {includes includes' : List Include} (h : SamePage parent r r')
  (hr : readInclude (r.parameter? "include") = .ok includes)
  (hr' : readInclude (r'.parameter? "include") = .ok includes')
include h hr hr'

/-- Requests for one page are answered without listing it, and then alike, or by listing it once
with the parts of the one and once with those of the other. -/
theorem list_samePage (config : Config) (s : Store) :
    list config parent r s = list config parent r' s ∨ ∃ assocType offset limit,
      list config parent r s = pageAnswer offset limit
        (Filing.list s config.registry parent assocType includes offset limit) ∧
      list config parent r' s = pageAnswer offset limit
        (Filing.list s config.registry parent assocType includes' offset limit) := by
  have hclauses := h.parameters "where" (by simp)
  have hoffsets := h.parameters "offset" (by simp)
  have hlimits := h.parameters "limit" (by simp)
  cases hpage : Page.read (r'.parameter? "offset") (r'.parameter? "limit") with
  | error issues =>
    refine .inl ?_
    simp only [list, hoffsets, hlimits, hpage]
  | ok page =>
    cases hclause : readWhere (r'.parameter? "where") with
    | error e =>
      refine .inl ?_
      simp only [list, hoffsets, hlimits, hclauses, hpage, hclause]
    | ok assocType =>
      refine .inr ⟨assocType, page.offset, _, ?_, list_read config parent s hpage hclause hr'⟩
      rw [← hoffsets, ← hlimits] at hpage
      rw [← hclauses] at hclause
      exact list_read config parent s hpage hclause hr

/-- Answers to requests for one page are alike up to the parts of their items. -/
theorem list_withoutParts (config : Config) (hs : s.Constraints) :
    (list config parent r s).withoutParts = (list config parent r' s).withoutParts := by
  rcases list_samePage h hr hr' config s with heq | ⟨assocType, offset, limit, hone, hother⟩
  · rw [heq]
  · rw [hone, hother, withoutParts_pageAnswer, Filing.list_short hs,
      withoutParts_pageAnswer offset limit (Filing.list s _ _ _ includes' _ _),
      Filing.list_short hs]

/-- Requests for one page that name the same parts are answered alike. -/
theorem list_sameParts (config : Config) (s : Store)
    (hwords : ∀ word, r.AsksFor word ↔ r'.AsksFor word) :
    list config parent r s = list config parent r' s := by
  have hparts (part : Include) : part ∈ includes ↔ part ∈ includes' := by
    rw [mem_readInclude hr, mem_readInclude hr']
    exact hwords part.word
  rcases list_samePage h hr hr' config s with heq | ⟨assocType, offset, limit, hone, hother⟩
  · exact heq
  · rw [hone, hother, Filing.list_congr hparts]

end

/-- A text of parts is refused with 400 just if it names something that is no part. Where the texts
of two requests for one page are read, on rows that keep their constraints, the answers differ in
the parts of their items only, and not at all if the texts name the same parts. A part of an item is
null just if it was not asked for. -/
theorem parts_only (config : Config) (hs : s.Constraints) (h : SamePage parent r r') :
    ((∃ e, readInclude (r.parameter? "include") = .error e ∧ e.status = 400) ↔
      ∃ word, r.AsksFor word ∧ word ∉ Include.all.map Include.word) ∧
    (∀ e page, readInclude (r.parameter? "include") = .error e →
      Page.read (r.parameter? "offset") (r.parameter? "limit") = .ok page →
      ∃ response, serve config r s = (response, s) ∧ response.status = 400) ∧
    (∀ includes includes', readInclude (r.parameter? "include") = .ok includes →
      readInclude (r'.parameter? "include") = .ok includes' →
      (serve config r s).1.withoutParts = (serve config r' s).1.withoutParts ∧
      ((∀ word, r.AsksFor word ↔ r'.AsksFor word) → serve config r s = serve config r' s)) ∧
    ∀ page, (serve config r s).1.page? = some page → ∀ item ∈ page.items, ∀ part : Include,
      field? part.word item = some .null ↔ ¬r.AsksFor part.word := by
  have hserve := serve_list config s h.routes.1 h.methods.1
  have hserve' := serve_list config s h.routes.2 h.methods.2
  refine ⟨?_, ?_, ?_, ?_⟩
  · simp only [Request.AsksFor, ← readInclude_error_iff, QueryError.status, and_true]
  · intro e page hparts hpage
    refine ⟨_, hserve, ?_⟩
    simp only [list, hpage, hparts]
    cases readWhere (r.parameter? "where") <;> rfl
  · intro includes includes' hr hr'
    rw [hserve, hserve']
    refine ⟨list_withoutParts h hr hr' config hs, fun hwords => ?_⟩
    rw [list_sameParts h hr hr' config s hwords]
  · intro page hpage item hitem part
    rw [hserve] at hpage
    obtain ⟨includes, _, _, _, views, _, hparts, hlist, hitems⟩ := list_of_page? hpage
    rw [hitems] at hitem
    obtain ⟨view, hview, rfl⟩ := List.mem_map.mp hitem
    rw [field?_toJson, Filing.list_holds hlist view hview, Request.AsksFor,
      ← mem_readInclude hparts]
    simp

/-! ### Two documents under the root -/

def withPath : Request where
  method := "GET"
  path := "nodes/-root-/secondary-children"
  query := [("include", "path")]

/-- Both parts, with blanks, an empty piece and a repetition. -/
def withBoth : Request where
  method := "GET"
  path := "nodes/-root-/secondary-children"
  query := [("include", " properties,,path ,properties")]

/-- The two documents are answered alike but for their parts; without their properties being asked
for, these are null. -/
theorem parts_only_threeDocuments :
    (serve plainConfig withPath threeDocuments).1.withoutParts =
      (serve plainConfig withBoth threeDocuments).1.withoutParts ∧
    ∃ page, (serve plainConfig withPath threeDocuments).1.page? = some page ∧
      page.items.length = 2 ∧ ∀ item ∈ page.items,
        field? "properties" item = some .null ∧ field? "path" item ≠ some .null := by
  have hs : threeDocuments.Constraints := (Committed.work .empty _).sound.constraints
  have hsame : SamePage Store.rootAlias withPath withBoth :=
    ⟨⟨by decide, by decide⟩, ⟨by decide, by decide⟩, by decide⟩
  obtain ⟨-, -, halike, hnull⟩ := parts_only plainConfig hs hsame
  have hread : readInclude (withPath.parameter? "include") = .ok [.path] := by decide +kernel
  have hreadBoth : readInclude (withBoth.parameter? "include") = .ok [.properties, .path] := by
    decide +kernel
  have hlength : ((serve plainConfig withPath threeDocuments).1.page?.map (·.items.length)) =
      some 2 := by decide +kernel
  obtain ⟨page, hpage, hlength⟩ := Option.map_eq_some_iff.mp hlength
  refine ⟨(halike _ _ hread hreadBoth).1, page, hpage, hlength, fun item hitem => ⟨?_, ?_⟩⟩
  · rw [show "properties" = Include.properties.word from rfl, hnull page hpage item hitem,
      Request.AsksFor, ← mem_readInclude hread]
    decide
  · rw [show "path" = Include.path.word from rfl, Ne, hnull page hpage item hitem, not_not,
      Request.AsksFor, ← mem_readInclude hread]
    decide

end Multifiling.Api
