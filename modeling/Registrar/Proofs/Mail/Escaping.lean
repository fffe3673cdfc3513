import Registrar.Mail.Template
import Registrar.Proofs.Failure
/-!
# Values in templates

What a template is filled in with cannot become markup. Whether filling in succeeds depends on the
shape of the values only (`Node.together_renderAll`), and the markup of the text comes from the
literals of the template only (`Node.markup_renderAll`), since an escaped value holds none. Nothing
is lost by that: an escaped value is read back by its entities (`unescape_escape`).

Main statement: `values_inert`.
-/
namespace Registrar.Mail

/-! ## Escaped values -/

/-- The characters of markup: the brackets of tags and the quotation marks of attributes. -/
def isMarkup (c : Char) : Bool := c == '<' || c == '>' || c == '"' || c == '\''

/-- The markup of a text, in order. -/
def markup (text : List Char) : List Char := text.filter isMarkup

theorem markup_append (text rest : List Char) :
    markup (text ++ rest) = markup text ++ markup rest :=
  List.filter_append text rest

/-- What stands for a character that is not inserted as it is. -/
def entities : List (List Char × Char) :=
  [("&amp;".toList, '&'), ("&lt;".toList, '<'), ("&gt;".toList, '>'), ("&#34;".toList, '"'),
    ("&#39;".toList, '\'')]

/-- The entity that a text starts with, and the character that it stands for. -/
def entityAt? (text : List Char) : Option (List Char × Char) :=
  entities.find? fun entity => entity.1.isPrefixOf text

/-- The text in which every entity is read as its character, after `skip` characters that belong to
the entity before. -/
def unescapeAfter (skip : Nat) : List Char → List Char
  | [] => []
  | c :: rest =>
    match skip with
    | skip + 1 => unescapeAfter skip rest
    | 0 =>
      match entityAt? (c :: rest) with
      | some (entity, plain) => plain :: unescapeAfter (entity.length - 1) rest
      | none => c :: unescapeAfter 0 rest

/-- The text in which every entity is read as its character. -/
def unescape (text : List Char) : List Char := unescapeAfter 0 text

section

variable {c : Char} {entity : List Char} {s : String}

/-- Entities start with the only ampersand in them and hold no markup. -/
theorem entity_shape (h : (entity, c) ∈ entities) :
    ∃ name, entity = '&' :: name ∧ '&' ∉ name ∧ ∀ d ∈ entity, isMarkup d = false := by
  have hall : ∀ pair ∈ entities, pair.1.head? = some '&' ∧ '&' ∉ pair.1.tail ∧
      markup pair.1 = [] := by decide
  obtain ⟨hhead, htail, hmarkup⟩ := hall _ h
  have hplain : ∀ d ∈ entity, isMarkup d = false := by
    simpa [markup, List.filter_eq_nil_iff] using hmarkup
  cases entity with
  | nil => cases hhead
  | cons d name =>
    obtain rfl : d = '&' := Option.some.inj hhead
    exact ⟨name, rfl, htail, hplain⟩

/-- No entity is the start of another one. -/
theorem entityAt?_append (h : (entity, c) ∈ entities) (rest : List Char) :
    entityAt? (entity ++ rest) = some (entity, c) := by
  simp only [entities, List.mem_cons, Prod.mk.injEq, List.not_mem_nil, or_false] at h
  rcases h with ⟨rfl, rfl⟩ | ⟨rfl, rfl⟩ | ⟨rfl, rfl⟩ | ⟨rfl, rfl⟩ | ⟨rfl, rfl⟩ <;> rfl

theorem entityAt?_eq_none (h : c ≠ '&') (rest : List Char) : entityAt? (c :: rest) = none := by
  rw [entityAt?, List.find?_eq_none]
  rintro ⟨entity, plain⟩ hentity hprefix
  obtain ⟨name, rfl, -⟩ := entity_shape hentity
  simp [Ne.symm h] at hprefix

/-- A character is written as its entity, or as it is. -/
theorem escapeChar_cases (c : Char) :
    (escapeChar c, c) ∈ entities ∨ (escapeChar c = [c] ∧ c ≠ '&' ∧ isMarkup c = false) := by
  by_cases hlisted : c ∈ entities.map Prod.snd
  · have hall : ∀ pair ∈ entities, (escapeChar pair.2, pair.2) ∈ entities := by decide
    obtain ⟨pair, hpair, rfl⟩ := List.mem_map.1 hlisted
    exact Or.inl (hall pair hpair)
  · simp only [entities, List.map_cons, List.map_nil, List.mem_cons, List.not_mem_nil, or_false,
      not_or] at hlisted
    obtain ⟨hamp, hlt, hgt, hdouble, hsingle⟩ := hlisted
    refine Or.inr ⟨?_, hamp, by simp [isMarkup, hlt, hgt, hdouble, hsingle]⟩
    unfold escapeChar
    split <;> first | contradiction | rfl

theorem unescapeAfter_append (skipped rest : List Char) :
    unescapeAfter skipped.length (skipped ++ rest) = unescapeAfter 0 rest := by
  induction skipped with
  | nil => rfl
  | cons d skipped ih => exact ih

theorem unescapeAfter_escapeChar (c : Char) (rest : List Char) :
    unescapeAfter 0 (escapeChar c ++ rest) = c :: unescapeAfter 0 rest := by
  rcases escapeChar_cases c with hentity | ⟨hplain, hamp, -⟩
  · obtain ⟨name, hname, -⟩ := entity_shape hentity
    have hat := entityAt?_append hentity rest
    rw [hname] at hat ⊢
    rw [List.cons_append] at hat ⊢
    rw [unescapeAfter]
    simp only [hat, List.length_cons, Nat.add_sub_cancel, unescapeAfter_append]
  · rw [hplain, List.singleton_append, unescapeAfter]
    simp only [entityAt?_eq_none hamp]

/-- **Escaping loses nothing**: every value is read back by its entities. -/
theorem unescape_escape (s : String) : unescape (escape s) = s.toList := by
  have hall : ∀ text : List Char, unescapeAfter 0 (text.flatMap escapeChar) = text := by
    intro text
    induction text with
    | nil => rfl
    | cons c text ih => rw [List.flatMap_cons, unescapeAfter_escapeChar, ih]
  exact hall s.toList

theorem isMarkup_of_mem_escape (h : c ∈ escape s) : isMarkup c = false := by
  obtain ⟨d, -, hc⟩ := List.mem_flatMap.1 h
  rcases escapeChar_cases d with hentity | ⟨hplain, -, hmarkup⟩
  · obtain ⟨-, -, -, hmarkup⟩ := entity_shape hentity
    exact hmarkup c hc
  · rw [hplain, List.mem_singleton] at hc
    exact hc ▸ hmarkup

theorem markup_escape (s : String) : markup (escape s) = [] :=
  List.filter_eq_nil_iff.2 fun _ hc => by simp [isMarkup_of_mem_escape hc]

/-- Every ampersand of an escaped text starts an entity. -/
theorem exists_entity {text before after : List Char}
    (h : text.flatMap escapeChar = before ++ '&' :: after) :
    ∃ entity ∈ entities, entity.1 <+: '&' :: after := by
  induction text generalizing before with
  | nil => simp at h
  | cons c text ih =>
    rw [List.flatMap_cons, List.append_eq_append_iff] at h
    rcases h with ⟨middle, -, hlater⟩ | ⟨start, hfirst, hlater⟩
    · exact ih hlater
    · cases start with
      | nil =>
        have hnext : text.flatMap escapeChar = [] ++ '&' :: after := hlater.symm
        exact ih hnext
      | cons d start =>
        obtain ⟨rfl, rfl⟩ := List.cons.inj hlater
        -- the ampersand is in what stands for the first character
        rcases escapeChar_cases c with hentity | ⟨hplain, hamp, -⟩
        · obtain ⟨name, hname, hone, -⟩ := entity_shape hentity
          rw [hfirst] at hname
          cases before with
          | nil => exact ⟨_, hentity, by rw [hfirst]; exact ⟨_, rfl⟩⟩
          | cons d before =>
            obtain ⟨-, rfl⟩ := List.cons.inj hname
            simp at hone
        · rw [hplain] at hfirst
          have hmem : '&' ∈ [c] := by rw [hfirst]; simp
          exact absurd (List.mem_singleton.1 hmem).symm hamp

end

/-- What is inserted for a value holds no markup, entities are all that its ampersands start, and by
them it is read back. -/
structure Inert (value : String) : Prop where
  plain : ∀ c ∈ escape value, isMarkup c = false
  entity : ∀ before after, escape value = before ++ '&' :: after →
    ∃ entity ∈ entities, entity.1 <+: '&' :: after
  decoded : unescape (escape value) = value.toList

theorem inert (value : String) : Inert value :=
  ⟨fun _ => isMarkup_of_mem_escape, fun _ _ => exists_entity, unescape_escape value⟩

/-! ## Contexts of one shape -/

/-- Two texts, or two lists of as many texts. -/
inductive Binding.Alike : Binding → Binding → Prop
  | text (s t : String) : Alike (.text s) (.text t)
  | list {items others : List String} (hlength : items.length = others.length) :
    Alike (.list items) (.list others)

/-- Two computations fail with one fault, or succeed with related results. -/
inductive Together {α β : Type} (R : α → β → Prop) :
    Except TemplateFault α → Except TemplateFault β → Prop
  | fault (fault : TemplateFault) : Together R (.error fault) (.error fault)
  | both {a : α} {b : β} (h : R a b) : Together R (.ok a) (.ok b)

theorem Together.bind {α β γ δ : Type} {R : α → β → Prop} {S : γ → δ → Prop}
    {x : Except TemplateFault α} {y : Except TemplateFault β} {f : α → Except TemplateFault γ}
    {g : β → Except TemplateFault δ} (h : Together R x y)
    (hnext : ∀ a b, R a b → Together S (f a) (g b)) : Together S (x >>= f) (y >>= g) := by
  cases h with
  | fault fault => exact .fault fault
  | both h => exact hnext _ _ h

namespace Context

/-- The contexts have the same fields, and texts and lists of as many texts under them. -/
def Alike (context other : Context) : Prop :=
  ∀ name, Option.Rel Binding.Alike (context.lookup name) (other.lookup name)

theorem Alike.nil : Alike [] [] := fun _ => .none

theorem Alike.cons {context other : Context} {binding binding' : Binding} (name : String)
    (hbinding : binding.Alike binding') (h : Alike context other) :
    Alike ((name, binding) :: context) ((name, binding') :: other) := by
  intro field
  rw [List.lookup_cons, List.lookup_cons]
  split
  · exact .some hbinding
  · exact h field

/-- How many texts the list under a field has. -/
def size (context : Context) (name : String) : Nat :=
  match context.lookup name with
  | some (.list items) => items.length
  | _ => 0

variable {context other : Context}

theorem Alike.size_eq (h : context.Alike other) : context.size = other.size := by
  funext name
  have hname := h name
  unfold size
  revert hname
  rcases context.lookup name with _ | binding <;> rcases other.lookup name with _ | binding'
  · exact fun _ => rfl
  · rintro ⟨⟩
  · rintro ⟨⟩
  · rintro (hbinding | -)
    cases hbinding with
    | text s t => rfl
    | list hlength => exact hlength

theorem Alike.together_binding (h : context.Alike other) (name : String) :
    Together Binding.Alike (context.binding name) (other.binding name) := by
  have hname := h name
  unfold binding
  revert hname
  rcases context.lookup name with _ | binding <;> rcases other.lookup name with _ | binding'
  · exact fun _ => .fault _
  · rintro ⟨⟩
  · rintro ⟨⟩
  · rintro (hbinding | -)
    exact .both hbinding

theorem Alike.together_list (h : context.Alike other) (name : String) :
    Together (fun items others => items.length = others.length) (context.list name)
      (other.list name) := by
  refine (h.together_binding name).bind fun binding binding' hbinding => ?_
  cases hbinding with
  | text s t => exact .fault _
  | list hlength => exact .both hlength

theorem list_eq_ok_iff {name : String} {items : List String} :
    context.list name = .ok items ↔ context.lookup name = some (.list items) := by
  unfold list binding
  rcases context.lookup name with _ | ⟨s⟩ | ⟨others⟩ <;>
    simp [bind, Except.bind, pure, Except.pure]

end Context

/-! ## Filling in -/

namespace Node

variable {context other : Context}

/-- Lists of as many items are concatenated together. -/
theorem together_concat {α β : Type} {f : α → Except TemplateFault (List Char)}
    {g : β → Except TemplateFault (List Char)}
    (hfg : ∀ item item', Together (fun _ _ => True) (f item) (g item')) {items : List α}
    {others : List β} (h : items.length = others.length) :
    Together (fun _ _ => True) (concat f items) (concat g others) := by
  induction items generalizing others with
  | nil =>
    obtain rfl := List.length_eq_zero_iff.1 h.symm
    exact .both trivial
  | cons item items ih =>
    cases others with
    | nil => cases h
    | cons item' others =>
      refine (hfg item item').bind fun _ _ _ => ?_
      exact (ih (Nat.succ.inj h)).bind fun _ _ _ => .both trivial

mutual

/-- Whether a node can be filled in, and if not, why, depends on the shape of the context only. -/
theorem together_render (h : context.Alike other) (element element' : String) :
    (node : Node) →
      Together (fun _ _ => True) (render context element node) (render other element' node)
  | .literal text => .both trivial
  | .field name => by
    refine (h.together_binding name).bind fun binding binding' hbinding => ?_
    cases hbinding with
    | text s t => exact .both trivial
    | list hlength => exact .fault _
  | .index name n => by
    refine (h.together_list name).bind fun items others hlength => ?_
    by_cases hn : n < items.length
    · rw [List.getElem?_eq_getElem hn, List.getElem?_eq_getElem (hlength ▸ hn)]
      exact .both trivial
    · rw [List.getElem?_eq_none (by omega), List.getElem?_eq_none (by omega), hlength]
      exact .fault _
  | .each name body => by
    refine (h.together_list name).bind fun items others hlength => ?_
    exact together_concat (fun item item' => together_renderAll h item item' body) hlength
  | .element => .both trivial

theorem together_renderAll (h : context.Alike other) (element element' : String) :
    (nodes : List Node) →
      Together (fun _ _ => True) (renderAll context element nodes) (renderAll other element' nodes)
  | [] => .both trivial
  | node :: rest => by
    refine (together_render h element element' node).bind fun _ _ _ => ?_
    exact (together_renderAll h element element' rest).bind fun _ _ _ => .both trivial

end

mutual

/-- The literals that a node writes if lists have so many elements. -/
def literals (size : String → Nat) : Node → List Char
  | .literal text => text
  | .each name body => (List.replicate (size name) (allLiterals size body)).flatten
  | .field _ | .index _ _ | .element => []

/-- The literals that some nodes write, one after the other. -/
def allLiterals (size : String → Nat) : List Node → List Char
  | [] => []
  | node :: rest => literals size node ++ allLiterals size rest

end

/-- Two texts one after the other, as the loops over items and over nodes put them. -/
theorem append_eq_ok_iff {x y : Except TemplateFault (List Char)} {text : List Char} :
    (do return (← x) ++ (← y)) = .ok text ↔
      ∃ first rest, x = .ok first ∧ y = .ok rest ∧ first ++ rest = text := by
  rcases x with fault | first <;> rcases y with fault' | rest <;>
    simp [bind, Except.bind, pure, Except.pure]

theorem markup_concat {α : Type} {f : α → Except TemplateFault (List Char)} {bare : List Char}
    {items : List α}
    (hf : ∀ item text, f item = .ok text → markup text = markup bare) {text : List Char}
    (h : concat f items = .ok text) :
    markup text = markup (List.replicate items.length bare).flatten := by
  induction items generalizing text with
  | nil =>
    cases h
    rfl
  | cons item items ih =>
    rw [concat, append_eq_ok_iff] at h
    obtain ⟨first, rest, hfirst, hrest, rfl⟩ := h
    rw [List.length_cons, List.replicate_succ, List.flatten_cons, markup_append, markup_append,
      hf item first hfirst, ih hrest]

mutual

/-- The markup that a node writes is that of its literals. -/
theorem markup_render (element : String) : (node : Node) → ∀ {text : List Char},
    render context element node = .ok text → markup text = markup (literals context.size node)
  | .literal text, _, h => by
    cases h
    rfl
  | .field name, text, h => by
    simp only [render, bind_eq_ok_iff] at h
    obtain ⟨s | items, -, h⟩ := h <;> cases h
    exact markup_escape s
  | .index name n, text, h => by
    simp only [render, bind_eq_ok_iff] at h
    obtain ⟨items, -, h⟩ := h
    split at h <;> cases h
    exact markup_escape _
  | .each name body, text, h => by
    simp only [render, bind_eq_ok_iff] at h
    obtain ⟨items, hitems, h⟩ := h
    have hsize : context.size name = items.length := by
      rw [Context.size, Context.list_eq_ok_iff.1 hitems]
    rw [literals, hsize]
    exact markup_concat (fun item text hitem => markup_renderAll item body hitem) h
  | .element, _, h => by
    cases h
    exact markup_escape element

theorem markup_renderAll (element : String) : (nodes : List Node) → ∀ {text : List Char},
    renderAll context element nodes = .ok text →
      markup text = markup (allLiterals context.size nodes)
  | [], _, h => by
    cases h
    rfl
  | node :: nodes, text, h => by
    rw [renderAll, append_eq_ok_iff] at h
    obtain ⟨first, rest, hfirst, hrest, rfl⟩ := h
    rw [allLiterals, markup_append, markup_append, markup_render element node hfirst,
      markup_renderAll element nodes hrest]

end

end Node

/-- **Values are inert**: a template filled in with contexts of one shape fails with one fault, or
gives texts with the same markup, that of its literals; and whatever value is inserted, it brings no
markup and can be read back. -/
theorem values_inert (template : Template) {context other : Context} (h : context.Alike other) :
    Together (fun text text' => markup text = markup text') (template.render context)
      (template.render other) ∧
    (∀ text, template.render context = .ok text →
      markup text = markup (Node.allLiterals context.size template.nodes)) ∧
    ∀ value, Inert value := by
  have hmarkup : ∀ text, template.render context = .ok text →
      markup text = markup (Node.allLiterals context.size template.nodes) :=
    fun _ => Node.markup_renderAll "" template.nodes
  have hmarkup' : ∀ text, template.render other = .ok text →
      markup text = markup (Node.allLiterals context.size template.nodes) :=
    fun text htext => h.size_eq ▸ Node.markup_renderAll "" template.nodes htext
  have htogether : Together (fun _ _ => True) (template.render context) (template.render other) :=
    Node.together_renderAll h "" "" template.nodes
  refine ⟨?_, hmarkup, inert⟩
  revert htogether hmarkup hmarkup'
  rcases template.render context with fault | text <;>
    rcases template.render other with fault' | text'
  · rintro - - ⟨⟩
    exact .fault fault
  · rintro - - ⟨⟩
  · rintro - - ⟨⟩
  · intro hmarkup hmarkup' _
    exact .both ((hmarkup text rfl).trans (hmarkup' text' rfl).symm)

/-- A text, an element of a list and a block, filled in with plain and with hostile values. -/
theorem values_inert_of_hostile :
    let template : Template := ⟨"t", [.literal "<p>".toList, .field "Name", .index "Rooms" 1,
      .literal "</p>".toList, .each "Rooms" [.literal "<i>".toList, .element]]⟩
    let plain : Context := [("Name", .text "Ada"), ("Rooms", .list ["A", "B"])]
    let hostile : Context := [("Name", .text "<b>"), ("Rooms", .list ["&lt;", "\"'"])]
    plain.Alike hostile ∧
      template.render hostile = .ok "<p>&lt;b&gt;&#34;&#39;</p><i>&amp;lt;<i>&#34;&#39;".toList ∧
      Together (fun text text' => markup text = markup text') (template.render plain)
        (template.render hostile) ∧
      (∀ text, template.render plain = .ok text →
        markup text = markup (Node.allLiterals plain.size template.nodes)) ∧
      ∀ value, Inert value := by
  intro template plain hostile
  have halike : plain.Alike hostile :=
    .cons "Name" (.text _ _) (.cons "Rooms" (.list rfl) .nil)
  exact ⟨halike, by rfl, values_inert template halike⟩

end Registrar.Mail
