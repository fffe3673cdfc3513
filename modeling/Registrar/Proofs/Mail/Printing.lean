import Registrar.Proofs.Mail.Grammar
/-!
# Templates that are printed and read

A tree that is well formed has a source, which spans it (`spans_sources`) and from which it is
therefore read. A point stands only inside a block (`Spans.element_notMem`), so what it stands for
outside of one never matters (`renderAll_eq`).

Main statement: `understands_read`.
-/
namespace Registrar.Mail

/-! ## Sources of trees -/

/-- What stands in a tag between its braces. -/
def braced (tag : List Char) : List Char := opening ++ tag ++ closing

namespace Node

mutual

/-- The source of a node. -/
def source : Node → List Char
  | .literal text => text
  | .field name => braced name.toList
  | .index name n => braced (name.toList ++ '[' :: (Number.digits n ++ [']']))
  | .each name body =>
    braced (blockMark ++ name.toList) ++ sources body ++ braced blockEnd
  | .element => braced ['.']

/-- The source of some nodes, one after the other. -/
def sources : List Node → List Char
  | [] => []
  | node :: rest => node.source ++ sources rest

end

/-- Nodes that a source can tell apart: names are valid, numbers have 64 bits, and literals are not
empty, never adjacent, do not hold the braces that open a tag, and do not end in one of them before
a tag. A point stands only inside a block. -/
inductive WellFormed : Bool → List Node → Prop
  | nil (inside : Bool) : WellFormed inside []
  | literal {inside : Bool} {text : List Char} {nodes : List Node} (htext : text ≠ [])
      (hopening : ¬opening <:+: text)
      (hlast : inside = true ∨ nodes ≠ [] → text.getLast? ≠ some '\x7b')
      (hapart : ∀ other, nodes.head? ≠ some (.literal other)) (hnodes : WellFormed inside nodes) :
      WellFormed inside (.literal text :: nodes)
  | field {inside : Bool} {name : String} {nodes : List Node} (hname : IsName name.toList)
      (hnodes : WellFormed inside nodes) : WellFormed inside (.field name :: nodes)
  | index {inside : Bool} {name : String} {n : Nat} {nodes : List Node} (hname : IsName name.toList)
      (hn : n < 2 ^ 64) (hnodes : WellFormed inside nodes) :
      WellFormed inside (.index name n :: nodes)
  | each {inside : Bool} {name : String} {body nodes : List Node} (hname : IsName name.toList)
      (hbody : WellFormed true body) (hnodes : WellFormed inside nodes) :
      WellFormed inside (.each name body :: nodes)
  | element {nodes : List Node} (hnodes : WellFormed true nodes) :
      WellFormed true (.element :: nodes)

end Node

/-! ## Reading what was printed -/

section

variable {tag rest name : List Char} {n : Nat}

theorem isTag_braced (htrim : Text.trim tag = tag) (hbrace : '\x7d' ∉ tag) (rest : List Char) :
    IsTag (braced tag ++ rest) tag rest := by
  refine ⟨tag, by simp [braced], ?_, htrim⟩
  refine Text.clear_of_not_twice (fun htwice => hbrace (htwice.subset List.mem_cons_self)) ?_ _
  exact fun hlast => hbrace (List.mem_of_mem_getLast? hlast)

theorem isName_digits (n : Nat) : IsName (Number.digits n) := by
  refine ⟨Number.digits_ne_nil n, fun c hc => ?_⟩
  have hdigit := Number.isDigit_of_mem_digits hc
  rw [Number.isDigit_eq] at hdigit
  simp [Node.isNameChar, Char.isAlphanum, hdigit]

theorem isTag_name (h : IsName name) (rest : List Char) : IsTag (braced name ++ rest) name rest :=
  isTag_braced (trim_of_isName h) (fun hmem => absurd (h.2 _ hmem) (by decide)) rest

theorem isTag_index (h : IsName name) (n : Nat) (rest : List Char) :
    IsTag (braced (name ++ '[' :: (Number.digits n ++ [']'])) ++ rest)
      (name ++ '[' :: (Number.digits n ++ [']'])) rest := by
  have hname : '\x7d' ∉ name := fun hmem => absurd (h.2 _ hmem) (by decide)
  have hdigits : '\x7d' ∉ Number.digits n := fun hmem =>
    absurd ((isName_digits n).2 _ hmem) (by decide)
  refine isTag_braced ?_ (by simp [hname, hdigits]) rest
  obtain ⟨c, others, rfl⟩ := List.exists_cons_of_ne_nil h.1
  have hblank : Text.isBlank c = false := not_isBlank_of_isNameChar (h.2 c List.mem_cons_self)
  have hbracket : Text.isBlank ']' = false := by decide
  simpa using Text.trim_between hblank hbracket (others ++ '[' :: Number.digits n)

theorem isTag_open (h : IsName name) (rest : List Char) :
    IsTag (braced (Node.blockMark ++ name) ++ rest) (Node.blockMark ++ name) rest := by
  have hname : '\x7d' ∉ name := fun hmem => absurd (h.2 _ hmem) (by decide)
  refine isTag_braced ?_ (by simp [hname, Node.blockMark]) rest
  obtain ⟨others, c, rfl⟩ := (List.eq_nil_or_concat name).resolve_left h.1
  have hblank : Text.isBlank c = false := not_isBlank_of_isNameChar (h.2 c (by simp))
  have hmark : Text.isBlank '#' = false := by decide
  simpa [Node.blockMark] using Text.trim_between hmark hblank ("each ".toList ++ others)

theorem isTag_end (rest : List Char) :
    IsTag (braced Node.blockEnd ++ rest) Node.blockEnd rest :=
  isTag_braced (by decide) (by decide) rest

theorem isTag_element (rest : List Char) : IsTag (braced ['.'] ++ rest) ['.'] rest :=
  isTag_braced (by decide) (by decide) rest

end

namespace Node

/-- What follows a literal is a tag or nothing. -/
theorem opening_sources {nodes : List Node} {rest : List Char}
    (hapart : ∀ text, nodes.head? ≠ some (.literal text)) (hne : nodes ≠ []) :
    opening <+: sources nodes ++ rest := by
  cases nodes with
  | nil => exact absurd rfl hne
  | cons node nodes =>
    rw [sources, List.append_assoc]
    cases node with
    | literal text => exact absurd rfl (hapart text)
    | each name body => simp [source, braced]
    | _ => simp [source, braced]

/-- **A tree that is well formed** is what its source spans. -/
theorem spans_sources {inside : Bool} {nodes : List Node} (h : WellFormed inside nodes)
    {rest : List Char} (hopen : inside = true → opening <+: rest)
    (hend : inside = false → rest = []) :
    Spans OpensBlock inside (sources nodes ++ rest) nodes rest := by
  induction h generalizing rest with
  | nil inside => exact .nil inside rest
  | @literal inside text nodes htext hopening hlast hapart hnodes ih =>
    rw [sources, source, List.append_assoc]
    refine .literal ⟨htext, ?_, ?_⟩ (ih hopen hend)
    · by_cases hmore : inside = true ∨ nodes ≠ []
      · exact Text.clear_of_not_twice hopening (hlast hmore) _
      · obtain ⟨hinside, hnil⟩ := not_or.1 hmore
        rw [not_not.1 hnil, hend (Bool.eq_false_of_not_eq_true hinside)]
        exact Text.clear_of_not_infix hopening
    · by_cases hnil : nodes = []
      · subst hnil
        cases inside with
        | true => exact Or.inr (hopen rfl)
        | false => exact Or.inl (hend rfl)
      · exact Or.inr (opening_sources hapart hnil)
  | field hname hnodes ih =>
    rw [sources, source, List.append_assoc]
    exact .field (isTag_name hname _) hname (ih hopen hend)
  | @index inside name n nodes hname hn hnodes ih =>
    have htrim := trim_of_isName (isName_digits n)
    have hindex : IsIndex name n (name.toList ++ '[' :: (Number.digits n ++ [']'])) :=
      ⟨name.toList, Number.digits n, rfl, trim_of_isName hname, hname,
        htrim.symm ▸ Number.isNumeral_digits n, hn⟩
    rw [sources, source, List.append_assoc]
    exact .index (isTag_index hname n _) hindex (ih hopen hend)
  | @each inside name body nodes hname hbody hnodes ihBody ih =>
    have hopens : OpensBlock name (blockMark ++ name.toList) :=
      ⟨name.toList, rfl, trim_of_isName hname, hname⟩
    rw [sources, source, List.append_assoc, List.append_assoc, List.append_assoc]
    refine .each (isTag_open hname _) hopens (ihBody (fun _ => ?_) nofun) (isTag_end _)
      (ih hopen hend)
    exact ⟨blockEnd ++ closing ++ (sources nodes ++ rest), by simp [braced]⟩
  | element hnodes ih =>
    rw [sources, source, List.append_assoc]
    exact .element (isTag_element _) (ih hopen hend)

end Node

/-! ## Points -/

/-- A point stands only inside a block. -/
theorem Spans.element_notMem {opens : String → List Char → Prop} {source rest : List Char}
    {nodes : List Node} (h : Spans opens false source nodes rest) : Node.element ∉ nodes := by
  generalize hinside : false = inside at h
  induction h with
  | nil => exact List.not_mem_nil
  | element => cases hinside
  | each _ _ _ _ _ _ ih => exact List.not_mem_cons_of_ne_of_not_mem nofun (ih hinside)
  | literal _ _ ih => exact List.not_mem_cons_of_ne_of_not_mem nofun (ih hinside)
  | field _ _ _ ih => exact List.not_mem_cons_of_ne_of_not_mem nofun (ih hinside)
  | index _ _ _ ih => exact List.not_mem_cons_of_ne_of_not_mem nofun (ih hinside)

/-- Nodes without a point among them have the same text whatever it stands for. -/
theorem Node.renderAll_eq {nodes : List Node} (h : Node.element ∉ nodes) (context : Context)
    (element other : String) :
    Node.renderAll context element nodes = Node.renderAll context other nodes := by
  induction nodes with
  | nil => rfl
  | cons node nodes ih =>
    obtain ⟨hnode, hnodes⟩ := not_or.1 (mt List.mem_cons.2 h)
    have hsame : Node.render context element node = Node.render context other node := by
      cases node with
      | element => exact absurd rfl hnode
      | _ => simp [Node.render]
    rw [Node.renderAll, Node.renderAll, hsame, ih hnodes]

/-! ## The language -/

/-- A reader of templates understands their language; `opens` tells which tags open a block over a
field. -/
structure Understands (opens : String → List Char → Prop)
    (read : String → List Char → Except TemplateFault Template) : Prop where
  /-- It reads exactly what the nodes span. -/
  exact : ∀ name source template, read name source = .ok template ↔
    template.name = name ∧ Spans opens false source template.nodes []
  /-- It reads what was printed. -/
  printed : ∀ name nodes, Node.WellFormed false nodes →
    read name (Node.sources nodes) = .ok ⟨name, nodes⟩
  /-- A point stands only inside a block. -/
  inside : ∀ name source template, read name source = .ok template →
    Node.element ∉ template.nodes
  /-- No point is met outside of a block when the template is filled in. -/
  rendered : ∀ name source template, read name source = .ok template → ∀ context element,
    template.render context = Node.renderAll context element template.nodes

/-- **Templates are read** exactly from their language. -/
theorem understands_read : Understands OpensBlock Template.read where
  exact _ _ _ := Template.read_eq_ok_iff
  printed _ nodes h := by
    have hspans := Node.spans_sources h nofun fun _ => rfl
    rw [List.append_nil] at hspans
    exact Template.read_eq_ok_iff.2 ⟨rfl, hspans⟩
  inside _ _ _ h := (Template.read_eq_ok_iff.1 h).2.element_notMem
  rendered _ _ _ h context element :=
    Node.renderAll_eq (Template.read_eq_ok_iff.1 h).2.element_notMem context "" element

/-- The tag that opens a block over a field comes first in the source of the block. -/
theorem Spans.exists_open {opens : String → List Char → Prop} {inside : Bool} {name : String}
    {source rest : List Char} {body nodes : List Node}
    (h : Spans opens inside source (.each name body :: nodes) rest) :
    ∃ tag start, IsTag source tag start ∧ opens name tag := by
  cases h with
  | each htag hopens hbody hend hnext => exact ⟨_, _, htag, hopens⟩

/-- A block may be opened with more than one blank before the name of its field. -/
theorem not_understands_one_blank :
    ¬Understands (fun name tag => tag = Node.blockMark ++ name.toList ∧ IsName name.toList)
      Template.read := by
  intro h
  let source := "\x7b\x7b#each  L\x7d\x7d\x7b\x7b/each\x7d\x7d".toList
  have hread : Template.read "" source = .ok ⟨"", [.each "L" []]⟩ := by rfl
  have hscan : Piece.scan source = [.tag "#each  L".toList, .tag Node.blockEnd] := by decide
  obtain ⟨tag, start, htag, rfl, -⟩ := ((h.exact _ _ _).1 hread).2.exists_open
  have hfirst := (Piece.scan_tag htag).symm.trans hscan
  exact absurd (List.cons.inj hfirst).1 (by decide)

end Registrar.Mail
