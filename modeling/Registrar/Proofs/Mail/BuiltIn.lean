import Registrar.Proofs.Mail.Concatenation
/-!
# What messages say

What a template inserts stands escaped in its text, in order (`Node.contains_renderAll`), and it has
a text if and only if the context has every field that it asks for (`Node.exists_renderAll_iff`). The
four built-in templates ask for fields that the items of their queue fill in, so the body of a
message holds what the user has to know. Only one kind of item has no message: free seats in
sections of which none is named, since the template for one section asks for the first.

Main statement: `messages_complete`.
-/
namespace Registrar.Mail

/-! ## Texts in texts -/

/-- The parts stand in the text one behind the other, perhaps with more around them. -/
inductive Contains : List (List Char) → List Char → Prop
  | nil (text : List Char) : Contains [] text
  | cons (before : List Char) {part rest : List Char} {parts : List (List Char)}
    (hrest : Contains parts rest) : Contains (part :: parts) (before ++ (part ++ rest))

namespace Contains

variable {parts others : List (List Char)} {text other : List Char}

theorem single (part : List Char) : Contains [part] part := by
  simpa using Contains.cons [] (.nil [])

theorem before (h : Contains parts text) (start : List Char) : Contains parts (start ++ text) := by
  cases h with
  | nil => exact .nil _
  | cons before hrest =>
    rw [← List.append_assoc]
    exact .cons _ hrest

theorem append (h : Contains parts text) (h' : Contains others other) :
    Contains (parts ++ others) (text ++ other) := by
  induction h with
  | nil text => exact h'.before text
  | cons before hrest ih =>
    rw [List.append_assoc, List.append_assoc]
    exact .cons before ih

theorem behind (h : Contains parts text) (rest : List Char) : Contains parts (text ++ rest) := by
  simpa using h.append (.nil rest)

end Contains

/-! ## Values of nodes -/

namespace Node

mutual

/-- The values that a node inserts, in order, as far as the context has them. -/
def values (context : Context) (element : String) : Node → List String
  | .literal _ => []
  | .field name =>
    match context.lookup name with
    | some (.text s) => [s]
    | _ => []
  | .index name n =>
    match context.lookup name with
    | some (.list items) => items[n]?.toList
    | _ => []
  | .each name body =>
    match context.lookup name with
    | some (.list items) => items.flatMap fun item => allValues context item body
    | _ => []
  | .element => [element]

/-- The values that some nodes insert. -/
def allValues (context : Context) (element : String) : List Node → List String
  | [] => []
  | node :: rest => values context element node ++ allValues context element rest

end

variable {context : Context}

theorem contains_concat {α : Type} {f : α → Except TemplateFault (List Char)}
    {inserted : α → List String}
    (hf : ∀ item text, f item = .ok text → Contains ((inserted item).map escape) text)
    {items : List α} {text : List Char} (h : concat f items = .ok text) :
    Contains ((items.flatMap inserted).map escape) text := by
  induction items generalizing text with
  | nil => exact .nil _
  | cons item items ih =>
    rw [concat, append_eq_ok_iff] at h
    obtain ⟨first, rest, hfirst, hrest, rfl⟩ := h
    rw [List.flatMap_cons, List.map_append]
    exact (hf item first hfirst).append (ih hrest)

mutual

/-- The text of a node holds what the node inserts. -/
theorem contains_render (element : String) : (node : Node) → ∀ {text : List Char},
    render context element node = .ok text →
      Contains ((values context element node).map escape) text
  | .literal _, _, _ => .nil _
  | .field name, text, h => by
    simp only [render, Context.binding] at h
    rw [values]
    rcases hlookup : context.lookup name with _ | ⟨s⟩ | ⟨items⟩ <;> rw [hlookup] at h
    · cases h
    · cases h
      exact .single _
    · cases h
  | .index name n, text, h => by
    simp only [render, bind_eq_ok_iff, Context.list_eq_ok_iff] at h
    obtain ⟨items, hlookup, h⟩ := h
    simp only [values, hlookup]
    split at h
    · rename_i s hs
      cases h
      rw [hs]
      exact .single _
    · cases h
  | .each name body, text, h => by
    simp only [render, bind_eq_ok_iff, Context.list_eq_ok_iff] at h
    obtain ⟨items, hlookup, h⟩ := h
    simp only [values, hlookup]
    exact contains_concat (fun item text hitem => contains_renderAll item body hitem) h
  | .element, _, h => by
    cases h
    exact .single _

/-- **The text of some nodes** holds what they insert. -/
theorem contains_renderAll (element : String) : (nodes : List Node) → ∀ {text : List Char},
    renderAll context element nodes = .ok text →
      Contains ((allValues context element nodes).map escape) text
  | [], _, _ => .nil _
  | node :: nodes, text, h => by
    rw [renderAll, append_eq_ok_iff] at h
    obtain ⟨first, rest, hfirst, hrest, rfl⟩ := h
    rw [allValues, List.map_append]
    exact (contains_render element node hfirst).append (contains_renderAll element nodes hrest)

end

end Node

/-! ## Contexts that are enough -/

namespace Node

mutual

/-- The context has what the node asks for. -/
@[simp]
def Fits (context : Context) : Node → Prop
  | .literal _ => True
  | .field name => ∃ s, context.lookup name = some (.text s)
  | .index name n => ∃ items, context.lookup name = some (.list items) ∧ n < items.length
  | .each name body =>
    ∃ items, context.lookup name = some (.list items) ∧ (items ≠ [] → AllFit context body)
  | .element => True

/-- The context has what some nodes ask for. -/
@[simp]
def AllFit (context : Context) : List Node → Prop
  | [] => True
  | node :: rest => Fits context node ∧ AllFit context rest

end

variable {context : Context}

theorem exists_concat_iff {α : Type} {f : α → Except TemplateFault (List Char)} {items : List α} :
    (∃ text, concat f items = .ok text) ↔ ∀ item ∈ items, ∃ text, f item = .ok text := by
  induction items with
  | nil => simp [concat]
  | cons item items ih =>
    rw [List.forall_mem_cons, ← ih]
    simp only [concat, append_eq_ok_iff]
    constructor
    · rintro ⟨_, first, rest, hfirst, hrest, -⟩
      exact ⟨⟨first, hfirst⟩, rest, hrest⟩
    · rintro ⟨⟨first, hfirst⟩, rest, hrest⟩
      exact ⟨_, first, rest, hfirst, hrest, rfl⟩

mutual

/-- A node has a text if and only if the context has what it asks for. -/
theorem exists_render_iff (element : String) : (node : Node) →
    ((∃ text, render context element node = .ok text) ↔ Fits context node)
  | .literal text => ⟨fun _ => trivial, fun _ => ⟨text, rfl⟩⟩
  | .field name => by
    simp only [render, Context.binding, Fits]
    rcases context.lookup name with _ | ⟨s⟩ | ⟨items⟩ <;>
      simp [bind, Except.bind, pure, Except.pure]
  | .index name n => by
    simp only [render, bind_eq_ok_iff, Context.list_eq_ok_iff, Fits]
    constructor
    · rintro ⟨text, items, hlookup, h⟩
      refine ⟨items, hlookup, ?_⟩
      split at h
      · rename_i s hs
        exact (List.getElem?_eq_some_iff.1 hs).1
      · cases h
    · rintro ⟨items, hlookup, hn⟩
      exact ⟨escape items[n], items, hlookup, by rw [List.getElem?_eq_getElem hn]; rfl⟩
  | .each name body => by
    simp only [render, bind_eq_ok_iff, Context.list_eq_ok_iff, Fits]
    constructor
    · rintro ⟨text, items, hlookup, h⟩
      refine ⟨items, hlookup, fun hne => ?_⟩
      obtain ⟨item, hitem⟩ := List.exists_mem_of_ne_nil items hne
      exact (exists_renderAll_iff item body).1 (exists_concat_iff.1 ⟨text, h⟩ item hitem)
    · rintro ⟨items, hlookup, hbody⟩
      obtain ⟨text, htext⟩ := exists_concat_iff.2 fun item hitem =>
        (exists_renderAll_iff item body).2 (hbody (List.ne_nil_of_mem hitem))
      exact ⟨text, items, hlookup, htext⟩
  | .element => ⟨fun _ => trivial, fun _ => ⟨escape element, rfl⟩⟩

/-- **Some nodes have a text** if and only if the context has what they ask for. -/
theorem exists_renderAll_iff (element : String) : (nodes : List Node) →
    ((∃ text, renderAll context element nodes = .ok text) ↔ AllFit context nodes)
  | [] => ⟨fun _ => trivial, fun _ => ⟨[], rfl⟩⟩
  | node :: rest => by
    rw [AllFit, ← exists_render_iff element node, ← exists_renderAll_iff element rest]
    simp only [renderAll, append_eq_ok_iff]
    constructor
    · rintro ⟨_, first, text, hfirst, htext, -⟩
      exact ⟨⟨first, hfirst⟩, text, htext⟩
    · rintro ⟨⟨first, hfirst⟩, text, htext⟩
      exact ⟨_, first, text, hfirst, htext, rfl⟩

end

end Node

/-! ## The built-in templates -/

/-- The template has these nodes between the prologue and the epilogue. -/
structure Template.Wraps (template : Template) (name : String) (nodes : List Node) : Prop where
  name : template.name = name
  text : ∀ context, template.render context =
    (Node.renderAll context "" nodes).map fun text => prologue.toList ++ text ++ epilogue.toList

theorem read_ofList {name : String} {text : List Char} {template : Template}
    (h : Template.read name text = .ok template) :
    Template.read name (String.ofList text).toList = .ok template := by
  rwa [String.toList_ofList]

theorem exists_readBuiltIn {name body : String} {nodes : List Node}
    (h : Template.read name body.toList = .ok ⟨name, nodes⟩) :
    ∃ template, readBuiltIn name body = .ok template ∧ template.Wraps name nodes := by
  obtain ⟨wrapped, hwrapped, hname, htext⟩ := Template.exists_readHtml h
  exact ⟨wrapped, by rw [readBuiltIn, hwrapped]; rfl, hname, htext⟩

section

set_option maxRecDepth 4000

theorem read_resetBody : ∃ a b c, Template.read "reset" resetBody.toList =
    .ok ⟨"reset", [.literal a, .field "UserName", .literal b, .field "SecretKey", .literal c]⟩ :=
  ⟨_, _, _, read_ofList rfl⟩

theorem read_subscribedBody : ∃ a b c d, Template.read "subscribed" subscribedBody.toList =
    .ok ⟨"subscribed", [.literal a, .field "UserName", .literal b, .field "CourseCode", .literal c,
      .field "CourseURL", .literal d]⟩ :=
  ⟨_, _, _, _, read_ofList rfl⟩

theorem read_oneVacatedBody : ∃ a b c d e, Template.read "one_vacated" oneVacatedBody.toList =
    .ok ⟨"one_vacated", [.literal a, .field "UserName", .literal b, .index "SectionNames" 0,
      .literal c, .field "CourseCode", .literal d, .field "CourseURL", .literal e]⟩ :=
  ⟨_, _, _, _, _, read_ofList rfl⟩

theorem read_manyVacatedBody : ∃ a b c d e opened closed,
    Template.read "many_vacated" manyVacatedBody.toList =
      .ok ⟨"many_vacated", [.literal a, .field "UserName", .literal b, .field "CourseCode",
        .literal c, .each "SectionNames" [.literal opened, .element, .literal closed], .literal d,
        .field "CourseURL", .literal e]⟩ :=
  ⟨_, _, _, _, _, _, _, read_ofList rfl⟩

end

/-! ## What items show -/

namespace Item

/-- Seats are free in sections of which none is named. -/
def Unnamed : Item → Prop
  | vacated item => item.sectionNames = []
  | _ => False

instance : DecidablePred Unnamed
  | reset _ => inferInstanceAs (Decidable False)
  | subscribed _ => inferInstanceAs (Decidable False)
  | vacated item => inferInstanceAs (Decidable (item.sectionNames = []))

/-- What the message of an item has to say, in the order in which it is said. -/
def shown (base : String) : Item → List String
  | reset item => [item.userName, item.secretKey]
  | subscribed item =>
    [item.userName, Text.upper item.courseCode, courseUrl base item.courseCode]
  | vacated item =>
    let code := Text.upper item.courseCode
    let url := courseUrl base item.courseCode
    match item.sectionNames with
    | [name] => [item.userName, name, code, url]
    | names => [item.userName, code] ++ names ++ [url]

end Item

namespace Template

variable {template : Template} {name : String} {nodes : List Node} {context : Context}

/-- Filled in with the context, the template gives a text that holds the values. -/
def Shows (template : Template) (context : Context) (values : List String) : Prop :=
  ∃ text, template.render context = .ok text ∧ Contains (values.map escape) text

/-- With a context that is enough, what the nodes insert stands in the text. -/
theorem Wraps.shows (h : template.Wraps name nodes) (hfit : Node.AllFit context nodes)
    {values : List String} (hvalues : Node.allValues context "" nodes = values) :
    template.Shows context values := by
  obtain ⟨text, htext⟩ := (Node.exists_renderAll_iff "" nodes).2 hfit
  subst hvalues
  refine ⟨prologue.toList ++ text ++ epilogue.toList, by rw [h.text, htext]; rfl, ?_⟩
  exact ((Node.contains_renderAll "" nodes htext).before _).behind _

theorem Wraps.render_eq_error (h : template.Wraps name nodes) {fault : TemplateFault}
    (hrender : Node.renderAll context "" nodes = .error fault) :
    template.render context = .error fault := by
  rw [h.text, hrender]
  rfl

end Template

theorem exists_reset : ∃ template, readBuiltIn "reset" resetBody = .ok template ∧
    ∀ base item, template.Shows (Item.context base (.reset item))
      (Item.shown base (.reset item)) := by
  obtain ⟨a, b, c, hread⟩ := read_resetBody
  obtain ⟨template, htemplate, hwraps⟩ := exists_readBuiltIn hread
  exact ⟨template, htemplate,
    fun base item => hwraps.shows (by simp [Item.context, List.lookup_cons]) rfl⟩

theorem exists_subscribed : ∃ template, readBuiltIn "subscribed" subscribedBody = .ok template ∧
    ∀ base item, template.Shows (Item.context base (.subscribed item))
      (Item.shown base (.subscribed item)) := by
  obtain ⟨a, b, c, d, hread⟩ := read_subscribedBody
  obtain ⟨template, htemplate, hwraps⟩ := exists_readBuiltIn hread
  exact ⟨template, htemplate,
    fun base item => hwraps.shows (by simp [Item.context, List.lookup_cons]) rfl⟩

/-- The template for one section asks for the first. -/
theorem exists_oneVacated : ∃ template, readBuiltIn "one_vacated" oneVacatedBody = .ok template ∧
    template.name = "one_vacated" ∧
    (∀ base item, item.sectionNames = [] →
      template.render (Item.context base (.vacated item)) =
        .error (.outOfRange 0 "SectionNames" 0)) ∧
    ∀ base item name, item.sectionNames = [name] →
      template.Shows (Item.context base (.vacated item)) (Item.shown base (.vacated item)) := by
  obtain ⟨a, b, c, d, e, hread⟩ := read_oneVacatedBody
  obtain ⟨template, htemplate, hwraps⟩ := exists_readBuiltIn hread
  refine ⟨template, htemplate, hwraps.name, ?_, ?_⟩
  · rintro base ⟨id, email, userName, courseCode, sectionNames⟩ rfl
    exact hwraps.render_eq_error rfl
  · rintro base ⟨id, email, userName, courseCode, sectionNames⟩ name rfl
    exact hwraps.shows (by simp [Item.context, List.lookup_cons]) rfl

/-- The template for several sections goes through all of them. -/
theorem exists_manyVacated : ∃ template, readBuiltIn "many_vacated" manyVacatedBody = .ok template ∧
    ∀ base item, 1 < item.sectionNames.length →
      template.Shows (Item.context base (.vacated item)) (Item.shown base (.vacated item)) := by
  obtain ⟨a, b, c, d, e, opened, closed, hread⟩ := read_manyVacatedBody
  obtain ⟨template, htemplate, hwraps⟩ := exists_readBuiltIn hread
  refine ⟨template, htemplate, ?_⟩
  rintro base ⟨id, email, userName, courseCode, sectionNames⟩ hlength
  refine hwraps.shows (by simp [Item.context, List.lookup_cons]) ?_
  rcases sectionNames with _ | ⟨first, _ | ⟨second, rest⟩⟩
  · cases hlength
  · simp at hlength
  · simp [Node.allValues, Node.values, Item.context, Item.shown, List.lookup_cons]

/-- What the templates do for the items that take them. -/
structure Templates.Serve (templates : Templates) : Prop where
  reset : ∀ base item, templates.reset.Shows (Item.context base (.reset item))
    (Item.shown base (.reset item))
  subscribed : ∀ base item, templates.subscribed.Shows (Item.context base (.subscribed item))
    (Item.shown base (.subscribed item))
  name : templates.oneVacated.name = "one_vacated"
  none : ∀ base item, item.sectionNames = [] →
    templates.oneVacated.render (Item.context base (.vacated item)) =
      .error (.outOfRange 0 "SectionNames" 0)
  one : ∀ base item name, item.sectionNames = [name] →
    templates.oneVacated.Shows (Item.context base (.vacated item)) (Item.shown base (.vacated item))
  many : ∀ base item, 1 < item.sectionNames.length →
    templates.manyVacated.Shows (Item.context base (.vacated item)) (Item.shown base (.vacated item))

theorem exists_builtIn : ∃ templates, Templates.builtIn = .ok templates ∧ templates.Serve := by
  obtain ⟨reset, hreset, hresetShows⟩ := exists_reset
  obtain ⟨subscribed, hsubscribed, hsubscribedShows⟩ := exists_subscribed
  obtain ⟨one, hone, hname, hnone, honeShows⟩ := exists_oneVacated
  obtain ⟨many, hmany, hmanyShows⟩ := exists_manyVacated
  exact ⟨⟨reset, subscribed, one, many⟩,
    by rw [Templates.builtIn, hreset, hsubscribed, hone, hmany]; rfl,
    hresetShows, hsubscribedShows, hname, hnone, honeShows, hmanyShows⟩

/-! ## Messages -/

namespace Templates.Serve

variable {templates : Templates} {item : Item}

theorem message_eq_error (h : templates.Serve) (base : String) (hitem : item.Unnamed) :
    item.message templates base = .error
      (.render "one_vacated" "index 0 out of range for SectionNames (length 0)") := by
  cases item with
  | reset item => cases hitem
  | subscribed item => cases hitem
  | vacated item =>
    have htemplate : (Item.vacated item).template templates = templates.oneVacated :=
      if_neg (by simp [show item.sectionNames = [] from hitem])
    rw [Item.message, htemplate, h.none base item hitem, h.name]
    rfl

theorem template_shows (h : templates.Serve) (base : String) (hitem : ¬item.Unnamed) :
    (item.template templates).Shows (item.context base) (item.shown base) := by
  cases item with
  | reset item => exact h.reset base item
  | subscribed item => exact h.subscribed base item
  | vacated item =>
    have hpos : 0 < item.sectionNames.length := List.length_pos_iff.2 hitem
    rw [Item.template]
    split
    · rename_i hlength
      exact h.many base item hlength
    · rename_i hlength
      obtain ⟨name, hname⟩ := List.length_eq_one_iff.1 (show item.sectionNames.length = 1 by omega)
      exact h.one base item name hname

theorem exists_message (h : templates.Serve) (base : String) (hitem : ¬item.Unnamed) :
    ∃ body, item.message templates base = .ok ⟨item.recipient, item.subject, String.ofList body⟩ ∧
      Contains ((item.shown base).map escape) body := by
  obtain ⟨body, hbody, hcontains⟩ := h.template_shows base hitem
  exact ⟨body, by rw [Item.message, hbody], hcontains⟩

theorem exists_error_iff (h : templates.Serve) (base : String) :
    (∃ cause, item.message templates base = .error cause) ↔ item.Unnamed := by
  refine ⟨fun ⟨cause, hcause⟩ => ?_, fun hitem => ⟨_, h.message_eq_error base hitem⟩⟩
  by_contra hitem
  obtain ⟨body, hbody, -⟩ := h.exists_message base hitem
  rw [hbody] at hcause
  cases hcause

end Templates.Serve

end Registrar.Mail
