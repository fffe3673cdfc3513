import Registrar.Mail.Message
import Registrar.Proofs.Mail.Escaping
import Registrar.Proofs.Mail.Grammar
/-!
# Templates one behind the other

Where one source ends and another one begins, two literals run into each other, so the pieces of both
together are not those of each. They are once every literal is taken apart into its characters
(`Piece.letters_append`), unless two braces meet at the seam or the first source breaks off inside a
tag. Taking literals apart leaves the text of a template as it is (`Node.together_reword`), so the
text of two templates one behind the other is that of the first and that of the second.

Faults do not depend on literals at all, hence what stands around a body is not to blame if it cannot
be read: it has no tags (`Piece.tags_between`).

Main statement: `texts_concatenate`.
-/
namespace Registrar.Mail

open Text (Clear)

/-! ## Pieces without regard to literals -/

namespace Piece

/-- The pieces with other literals in the place of each literal. -/
def reword (f : List Char → List (List Char)) (pieces : List Piece) : List Piece :=
  pieces.flatMap fun
    | .literal text => (f text).map .literal
    | piece => [piece]

section

variable {f : List Char → List (List Char)} {pieces : List Piece}

@[simp] theorem reword_nil : reword f [] = [] := rfl

@[simp] theorem reword_literal (text : List Char) :
    reword f (.literal text :: pieces) = (f text).map .literal ++ reword f pieces := rfl

@[simp] theorem reword_tag (tag : List Char) :
    reword f (.tag tag :: pieces) = .tag tag :: reword f pieces := rfl

@[simp] theorem reword_unterminated :
    reword f (.unterminated :: pieces) = .unterminated :: reword f pieces := rfl

theorem reword_append (before after : List Piece) :
    reword f (before ++ after) = reword f before ++ reword f after :=
  List.flatMap_append

theorem reword_map_literal (texts : List (List Char)) :
    reword f (texts.map .literal) = (texts.flatMap f).map .literal := by
  induction texts with
  | nil => rfl
  | cons text texts ih => rw [List.map_cons, reword_literal, ih, List.flatMap_cons, List.map_append]

end

/-- The pieces that are no literals. -/
def tags (pieces : List Piece) : List Piece := reword (fun _ => []) pieces

theorem tags_append (before after : List Piece) :
    tags (before ++ after) = tags before ++ tags after :=
  reword_append before after

theorem tags_map_literal (texts : List (List Char)) : tags (texts.map .literal) = [] := by
  rw [tags, reword_map_literal]
  simp

theorem tags_reword (f : List Char → List (List Char)) (pieces : List Piece) :
    tags (reword f pieces) = tags pieces := by
  induction pieces with
  | nil => rfl
  | cons piece pieces ih =>
    cases piece with
    | literal text => rw [reword_literal, tags_append, tags_map_literal, ih]; rfl
    | tag tag => exact congrArg (List.cons _) ih
    | unterminated => exact congrArg (List.cons _) ih

/-! ## Letters -/

/-- A literal for each character. -/
def spelled (text : List Char) : List Piece := (text.map fun c => [c]).map .literal

/-- The pieces of a source, with a literal for each character outside of tags. -/
def letters (source : List Char) : List Piece :=
  reword (fun text => text.map fun c => [c]) (scan source)

section

variable {source tag inner rest : List Char} {c : Char}

theorem letters_scanText (before source : List Char) :
    reword (fun text => text.map fun c => [c]) (scanText before source) =
      spelled before.reverse ++ letters source := by
  have hflush : ∀ text : List Char, reword (fun text => text.map fun c => [c]) (flush text) =
      spelled text.reverse := by
    intro text
    unfold flush
    split
    · rename_i hnil
      rw [hnil]
      rfl
    · exact List.append_nil _
  have hspelled : ∀ text : List Char, spelled (text.reverse ++ before).reverse =
      spelled before.reverse ++ spelled (text.reverse ++ []).reverse := by
    simp [spelled]
  rw [letters, scan]
  rcases Text.clear_or_first opening source with hclear | ⟨text, tail, rfl, hclear⟩
  · have hscan : ∀ start, scanText start source = flush (source.reverse ++ start) := by
      intro start
      have hall := scanText_clear start hclear
      rwa [List.append_nil] at hall
    rw [hscan, hscan, hflush, hflush, hspelled]
  · have hscan : ∀ start, scanText start (text ++ opening ++ tail) =
        flush (text.reverse ++ start) ++ scanTag [] tail := by
      intro start
      rw [List.append_assoc, scanText_clear start hclear, scanText_opening]
    rw [hscan, hscan, reword_append, reword_append, hflush, hflush, hspelled, List.append_assoc]

theorem letters_cons (h : ¬opening <+: c :: source) :
    letters (c :: source) = .literal [c] :: letters source := by
  have hclear : Clear opening [c] source := Text.clear_cons.2 ⟨h, Text.clear_nil⟩
  have hstep : scan (c :: source) = scanText [c] source := scanText_clear [] hclear
  rw [letters, hstep, letters_scanText]
  rfl

theorem letters_tag (h : IsTag source tag rest) : letters source = .tag tag :: letters rest := by
  rw [letters, scan_tag h, reword_tag, letters]

theorem letters_unterminated (h : Clear closing inner []) :
    letters (opening ++ inner) = [.unterminated] := by
  rw [letters, scan_unterminated h]
  rfl

/-- A source that is not empty starts with a character outside of tags, with a tag or with one that
never ends. -/
theorem letters_cases (source : List Char) :
    source = [] ∨ (∃ c rest, source = c :: rest ∧ ¬opening <+: source) ∨
      (∃ tag rest, IsTag source tag rest) ∨
      ∃ inner, source = opening ++ inner ∧ Clear closing inner [] := by
  by_cases hopening : opening <+: source
  · obtain ⟨tail, rfl⟩ := hopening
    rcases Text.clear_or_first closing tail with hopen | ⟨inner, rest, rfl, hinner⟩
    · exact Or.inr (Or.inr (Or.inr ⟨tail, rfl, hopen⟩))
    · exact Or.inr (Or.inr (Or.inl ⟨_, rest, inner, by simp, hinner, rfl⟩))
  · cases source with
    | nil => exact Or.inl rfl
    | cons c rest => exact Or.inr (Or.inl ⟨c, rest, rfl, hopening⟩)

/-- A text without an opening brace is literal. -/
theorem letters_plain (h : '\x7b' ∉ source) : letters source = spelled source := by
  induction source with
  | nil => rfl
  | cons c source ih =>
    obtain ⟨hc, hsource⟩ := not_or.1 (mt List.mem_cons.2 h)
    rw [letters_cons fun hopening => hc (List.cons_prefix_cons.1 hopening).1, ih hsource]
    rfl

end

/-- The last brace of one source and the first one of another open a tag. -/
def Meet (source after : List Char) : Prop :=
  source.getLast? = some '\x7b' ∧ after.head? = some '\x7b'

instance (source after : List Char) : Decidable (Meet source after) :=
  inferInstanceAs (Decidable (_ ∧ _))

section

variable {source after tag rest : List Char} {c : Char}

theorem Meet.cons (h : Meet source after) : Meet (c :: source) after := by
  obtain ⟨hlast, hfirst⟩ := h
  refine ⟨?_, hfirst⟩
  rw [List.getLast?_cons, hlast]
  rfl

theorem Meet.append (h : Meet source after) (before : List Char) :
    Meet (before ++ source) after := by
  induction before with
  | nil => exact h
  | cons c before ih => exact ih.cons

theorem not_opening_append (h : ¬opening <+: c :: source) (hseam : ¬Meet (c :: source) after) :
    ¬opening <+: c :: (source ++ after) := by
  intro hopening
  obtain ⟨rfl, hnext⟩ := List.cons_prefix_cons.1 hopening
  cases source with
  | nil =>
    obtain ⟨tail, rfl⟩ := hnext
    exact hseam ⟨rfl, rfl⟩
  | cons d source =>
    obtain ⟨rfl, -⟩ := List.cons_prefix_cons.1 hnext
    exact h (by simp [opening])

/-- A tag ends where it does, whatever follows. -/
theorem isTag_append (h : IsTag source tag rest) (after : List Char) :
    IsTag (source ++ after) tag (rest ++ after) := by
  obtain ⟨inner, rfl, hclear, htrim⟩ := h
  exact ⟨inner, by simp, Text.clear_mark_iff.2 (Text.clear_mark_iff.1 hclear), htrim⟩

/-- The pieces of two sources one behind the other, if their braces do not meet, are those of the
first and those of the second; but a tag that the first one leaves open stays so if no closing brace
follows. -/
theorem letters_append_cases (source : List Char) (hseam : ¬Meet source after) :
    (.unterminated ∉ letters source ∧
      letters (source ++ after) = letters source ++ letters after) ∨
    (.unterminated ∈ letters source ∧
      ('\x7d' ∉ after → letters (source ++ after) = letters source)) := by
  induction hlength : source.length using Nat.strong_induction_on generalizing source
  rename_i length ih
  subst hlength
  rcases letters_cases source with rfl | ⟨c, rest, rfl, hopening⟩ | ⟨tag, rest, htag⟩ |
    ⟨inner, rfl, hclear⟩
  · exact Or.inl ⟨List.not_mem_nil, rfl⟩
  · rw [List.cons_append, letters_cons hopening,
      letters_cons (not_opening_append hopening hseam)]
    rcases ih _ (Nat.lt_succ_self _) rest (fun h => hseam h.cons) rfl with
      ⟨hclosed, hrest⟩ | ⟨hopen, hrest⟩
    · exact Or.inl ⟨by simpa using hclosed, by rw [hrest, List.cons_append]⟩
    · exact Or.inr ⟨List.mem_cons_of_mem _ hopen, fun hafter => by rw [hrest hafter]⟩
  · rw [letters_tag htag, letters_tag (isTag_append htag after)]
    have hseam' : ¬Meet rest after := by
      obtain ⟨inner, rfl, -⟩ := htag
      exact fun h => hseam (h.append _)
    rcases ih _ htag.length_lt rest hseam' rfl with ⟨hclosed, hrest⟩ | ⟨hopen, hrest⟩
    · exact Or.inl ⟨by simpa using hclosed, by rw [hrest, List.cons_append]⟩
    · exact Or.inr ⟨List.mem_cons_of_mem _ hopen, fun hafter => by rw [hrest hafter]⟩
  · rw [letters_unterminated hclear]
    refine Or.inr ⟨List.mem_cons_self, fun hafter => ?_⟩
    rw [List.append_assoc, letters_unterminated (Text.clear_append hclear hafter)]

/-- **Two sources** one behind the other have the pieces of both. -/
theorem letters_append (hseam : ¬Meet source after) (hclosed : .unterminated ∉ letters source) :
    letters (source ++ after) = letters source ++ letters after := by
  rcases letters_append_cases source hseam with ⟨-, happend⟩ | ⟨hopen, -⟩
  · exact happend
  · exact absurd hopen hclosed

theorem tags_letters (source : List Char) : tags (letters source) = tags (scan source) :=
  tags_reword _ _

theorem tags_spelled (text : List Char) : tags (spelled text) = [] := tags_map_literal _

/-- **Texts without braces** around a source have no tags. -/
theorem tags_between {before behind : List Char} (hbefore : '\x7b' ∉ before)
    (hbehind : '\x7b' ∉ behind) (hbehind' : '\x7d' ∉ behind) (source : List Char) :
    tags (scan (before ++ source ++ behind)) = tags (scan source) := by
  have hseam : ∀ s, ¬Meet before s := fun s h => hbefore (List.mem_of_getLast? h.1)
  have hseam' : ¬Meet source behind := fun h => hbehind (List.mem_of_mem_head? h.2)
  have hclosed : .unterminated ∉ letters before := by
    rw [letters_plain hbefore]
    simp [spelled]
  rw [List.append_assoc, ← tags_letters, ← tags_letters, letters_append (hseam _) hclosed,
    tags_append, letters_plain hbefore, tags_spelled, List.nil_append]
  rcases letters_append_cases source hseam' with ⟨-, happend⟩ | ⟨-, happend⟩
  · rw [happend, tags_append, letters_plain hbehind, tags_spelled, List.append_nil]
  · rw [happend hbehind']

end

end Piece

/-! ## Trees of other literals -/

namespace Together

variable {α β : Type} {R : α → β → Prop} {x : Except TemplateFault α} {y : Except TemplateFault β}

theorem error_iff (h : Together R x y) (fault : TemplateFault) :
    x = .error fault ↔ y = .error fault := by
  cases h <;> simp

theorem exists_right {a : α} (h : Together R x y) (hx : x = .ok a) : ∃ b, y = .ok b ∧ R a b := by
  subst hx
  cases h with
  | both hab => exact ⟨_, rfl, hab⟩

theorem exists_left {b : β} (h : Together R x y) (hy : y = .ok b) : ∃ a, x = .ok a ∧ R a b := by
  subst hy
  cases h with
  | both hab => exact ⟨_, rfl, hab⟩

end Together

namespace Node

variable {blocks blocks' : List (String × List Node)} {done done' nodes : List Node}

/-- A relation of nodes in reverse, which is kept as reading goes on, if the one reader finds other
literals than the other. -/
structure Keeps (f : List Char → List (List Char)) (R : List Node → List Node → Prop) : Prop where
  nil : R [] []
  literal : ∀ {done done'} text, R done done' →
    R (.literal text :: done) (((f text).map .literal).reverse ++ done')
  node : ∀ {done done'} node, R done done' → R (node :: done) (node :: done')
  each : ∀ {before before' body body'} name, R before before' → R body body' →
    R (.each name body.reverse :: before) (.each name body'.reverse :: before')

theorem build_literals (texts : List (List Char)) (done : List Node) (rest : List Piece) :
    build blocks done (texts.map .literal ++ rest) =
      build blocks ((texts.map .literal).reverse ++ done) rest := by
  induction texts generalizing done with
  | nil => rfl
  | cons text texts ih =>
    rw [List.map_cons, List.cons_append, build, ih, List.map_cons, List.reverse_cons,
      List.append_assoc]
    rfl

/-- **Reading other literals** fails with the same fault or finds related nodes. -/
theorem together_reword {f : List Char → List (List Char)} {R : List Node → List Node → Prop}
    (h : Keeps f R) (pieces : List Piece)
    (hblocks :
      List.Forall₂ (fun block block' => block.1 = block'.1 ∧ R block.2 block'.2) blocks blocks')
    (hdone : R done done') :
    Together (fun nodes nodes' => R nodes.reverse nodes'.reverse) (build blocks done pieces)
      (build blocks' done' (Piece.reword f pieces)) := by
  induction pieces generalizing blocks blocks' done done' with
  | nil =>
    cases hblocks with
    | nil => exact .both (by simpa using hdone)
    | cons hblock hrest =>
      rw [Piece.reword_nil, build, build, hblock.1]
      exact .fault _
  | cons piece pieces ih =>
    cases piece with
    | literal text =>
      rw [Piece.reword_literal, build_literals]
      exact ih hblocks (h.literal text hdone)
    | unterminated => exact .fault _
    | tag tag =>
      rw [Piece.reword_tag, build.eq_def, build.eq_def blocks']
      dsimp only
      split
      · cases hblocks with
        | nil => exact .fault _
        | cons hblock hrest =>
          dsimp only
          rw [hblock.1]
          exact ih hrest (h.each _ hblock.2 hdone)
      split
      · split
        · exact ih (.cons ⟨rfl, hdone⟩ hblocks) h.nil
        · exact .fault _
      split
      · cases hblocks with
        | nil => exact .fault _
        | cons hblock hrest => exact ih (.cons hblock hrest) (h.node _ hdone)
      split
      · exact ih hblocks (h.node _ hdone)
      · exact .fault _

/-- A tag that is left open is not read. -/
theorem unterminated_notMem {pieces : List Piece} (h : build blocks done pieces = .ok nodes) :
    .unterminated ∉ pieces := by
  induction pieces generalizing blocks done with
  | nil => exact List.not_mem_nil
  | cons piece pieces ih =>
    cases piece with
    | literal text => exact List.not_mem_cons_of_ne_of_not_mem nofun (ih h)
    | unterminated => cases h
    | tag tag =>
      refine List.not_mem_cons_of_ne_of_not_mem nofun ?_
      rcases build_tag_cases h with ⟨-, name, before, outer, -, hrest⟩ | ⟨name, -, hrest⟩ |
        ⟨-, -, hrest⟩ | ⟨node, -, hrest⟩
      all_goals
        exact ih hrest

/-- Where reading has succeeded, no block is open, and it can go on. -/
theorem build_append {pieces : List Piece} (h : build blocks done pieces = .ok nodes)
    (rest : List Piece) : build blocks done (pieces ++ rest) = build [] nodes.reverse rest := by
  induction pieces generalizing blocks done with
  | nil =>
    cases blocks with
    | nil =>
      cases h
      rw [List.nil_append, List.reverse_reverse]
    | cons block outer => cases h
  | cons piece pieces ih =>
    cases piece with
    | literal text => exact ih h
    | unterminated => cases h
    | tag tag =>
      rw [List.cons_append]
      rcases build_tag_cases h with ⟨rfl, name, before, outer, rfl, hrest⟩ | ⟨name, hopens, hrest⟩ |
        ⟨rfl, hblocks, hrest⟩ | ⟨node, hreference, hrest⟩
      · rw [build_end, ih hrest]
      · rw [build_open hopens, ih hrest]
      · rw [build_element hblocks, ih hrest]
      · rw [build_reference hreference, ih hrest]

/-- Faults do not depend on literals. -/
theorem build_error_iff {pieces pieces' : List Piece} (h : Piece.tags pieces = Piece.tags pieces')
    (fault : TemplateFault) :
    build [] [] pieces = .error fault ↔ build [] [] pieces' = .error fault := by
  have hkeeps : Keeps (fun _ => []) fun _ _ => True := ⟨trivial, by simp, by simp, by simp⟩
  have htags : ∀ pieces, build [] [] pieces = .error fault ↔
      build [] [] (Piece.tags pieces) = .error fault :=
    fun pieces => (together_reword hkeeps pieces .nil trivial).error_iff fault
  rw [htags pieces, htags pieces', h]

/-! ## Texts -/

/-- The nodes have the same text, whatever they are filled in with. -/
def SameText (nodes nodes' : List Node) : Prop :=
  ∀ context element, renderAll context element nodes = renderAll context element nodes'

theorem renderAll_append (context : Context) (element : String) (nodes nodes' : List Node) :
    renderAll context element (nodes ++ nodes') = do
      return (← renderAll context element nodes) ++ (← renderAll context element nodes') := by
  induction nodes with
  | nil =>
    rw [List.nil_append, renderAll]
    cases renderAll context element nodes' <;> rfl
  | cons node nodes ih =>
    rw [List.cons_append, renderAll, renderAll, ih]
    cases render context element node with
    | error fault => rfl
    | ok first =>
      cases renderAll context element nodes with
      | error fault => rfl
      | ok text =>
        cases renderAll context element nodes' with
        | error fault => rfl
        | ok text' => exact congrArg Except.ok (List.append_assoc first text text').symm

theorem renderAll_literals (context : Context) (element : String) (texts : List (List Char)) :
    renderAll context element (texts.map .literal) = .ok texts.flatten := by
  induction texts with
  | nil => rfl
  | cons text texts ih =>
    rw [List.map_cons, renderAll, ih]
    rfl

namespace SameText

variable {nodes nodes' others others' : List Node}

theorem symm (h : SameText nodes nodes') : SameText nodes' nodes :=
  fun context element => (h context element).symm

theorem append (h : SameText nodes nodes') (h' : SameText others others') :
    SameText (nodes ++ others) (nodes' ++ others') := by
  intro context element
  rw [renderAll_append, renderAll_append, h, h']

theorem each (h : SameText nodes nodes') (name : String) :
    SameText [.each name nodes] [.each name nodes'] := by
  intro context element
  have hbody : (fun item => renderAll context item nodes) =
      fun item => renderAll context item nodes' :=
    funext fun item => h context item
  simp only [renderAll, render, hbody]

end SameText

/-- Literals may be taken apart into their characters. -/
theorem keeps_letters : Keeps (fun text => text.map fun c => [c])
    fun done done' => SameText done.reverse done'.reverse where
  nil _ _ := rfl
  literal {done done'} text h := by
    have htext : SameText [.literal text] ((text.map fun c => [c]).map .literal) := by
      intro context element
      have hone := renderAll_literals context element [text]
      rw [renderAll_literals, ← List.flatMap_def, List.flatMap_singleton']
      simpa using hone
    rw [List.reverse_cons, List.reverse_append, List.reverse_reverse]
    exact h.append htext
  node {done done'} node h := by
    rw [List.reverse_cons, List.reverse_cons]
    exact h.append fun _ _ => rfl
  each {before before' body body'} name h hbody := by
    rw [List.reverse_cons, List.reverse_cons]
    exact h.append (hbody.each name)

/-- What is read of a source and of its letters has the same text. -/
theorem together_letters (done : List Node) (source : List Char) :
    Together SameText (build [] done (Piece.scan source))
      (build [] done (Piece.letters source)) := by
  have hsame : SameText done.reverse done.reverse := fun _ _ => rfl
  have htogether := together_reword keeps_letters (Piece.scan source) .nil hsame
  simp only [List.reverse_reverse] at htogether
  exact htogether

end Node

/-! ## Templates -/

namespace Template

variable {name : String} {source after : List Char}

theorem build_of_read {template : Template} (h : read name source = .ok template) :
    template.name = name ∧ Node.build [] [] (Piece.scan source) = .ok template.nodes := by
  obtain ⟨nodes, hbuild, htemplate⟩ := bind_eq_ok_iff.1 h
  cases htemplate
  exact ⟨rfl, hbuild⟩

/-- **Two sources that are read** can be read one behind the other, and their texts stand one behind
the other as well. -/
theorem exists_read_append {first second : Template} (hfirst : read name source = .ok first)
    (hsecond : read name after = .ok second) (hseam : ¬Piece.Meet source after) :
    ∃ template, read name (source ++ after) = .ok template ∧ template.name = name ∧
      ∀ context, template.render context = do
        return (← first.render context) ++ (← second.render context) := by
  obtain ⟨-, hbuild⟩ := build_of_read hfirst
  obtain ⟨nodes, hletters, hsame⟩ := (Node.together_letters [] source).exists_right hbuild
  have hbehind : Node.build [] nodes.reverse (Piece.scan after) = .ok (nodes ++ second.nodes) := by
    rw [Node.build_of_spans (read_eq_ok_iff.1 hsecond).2 nofun]
    simp [Piece.scan, Piece.scanText, Piece.flush, Node.build]
  obtain ⟨both, hboth, hsameBoth⟩ := (Node.together_letters _ after).exists_right hbehind
  have hall : Node.build [] [] (Piece.letters (source ++ after)) = .ok both := by
    have hclosed : .unterminated ∉ Piece.letters source := Node.unterminated_notMem hletters
    rw [Piece.letters_append hseam hclosed, Node.build_append hletters, hboth]
  obtain ⟨joined, hjoined, hsameAll⟩ := (Node.together_letters [] _).exists_left hall
  refine ⟨⟨name, joined⟩, bind_eq_ok_iff.2 ⟨joined, hjoined, rfl⟩, rfl, fun context => ?_⟩
  rw [render, hsameAll, ← hsameBoth, Node.renderAll_append, ← hsame]
  rfl

/-- A text without an opening brace is a template for itself. -/
theorem exists_read_plain (name : String) (h : '\x7b' ∉ source) :
    ∃ template, read name source = .ok template ∧
      ∀ context, template.render context = .ok source := by
  have hletters : Node.build [] [] (Piece.letters source) =
      .ok ((source.map fun c => [c]).map .literal) := by
    rw [Piece.letters_plain h, Piece.spelled, ← List.append_nil (List.map _ _),
      Node.build_literals, Node.build]
    simp
  obtain ⟨nodes, hnodes, hsame⟩ := (Node.together_letters [] source).exists_left hletters
  refine ⟨⟨name, nodes⟩, bind_eq_ok_iff.2 ⟨nodes, hnodes, rfl⟩, fun context => ?_⟩
  rw [render, hsame, Node.renderAll_literals, ← List.flatMap_def, List.flatMap_singleton']

/-- The characters of a text that is written out are at hand, without the bytes that stand for
them. -/
theorem notMem_ofList {c : Char} {text : List Char} (h : c ∉ text) :
    c ∉ (String.ofList text).toList := by
  rwa [String.toList_ofList]

set_option maxRecDepth 4000 in
-- the text is longer than a term may be deep
theorem prologue_plain : '\x7b' ∉ prologue.toList := notMem_ofList (by decide +kernel)

theorem epilogue_plain : '\x7b' ∉ epilogue.toList ∧ '\x7d' ∉ epilogue.toList :=
  ⟨notMem_ofList (by decide +kernel), notMem_ofList (by decide +kernel)⟩

/-- A body that is read can be read between the prologue and the epilogue, and stands between
them. -/
theorem exists_readHtml {template : Template} (h : read name source = .ok template) :
    ∃ wrapped, readHtml name source = .ok wrapped ∧ wrapped.name = name ∧
      ∀ context, wrapped.render context =
        (template.render context).map fun text =>
          prologue.toList ++ text ++ epilogue.toList := by
  obtain ⟨before, hbefore, htextBefore⟩ := exists_read_plain name prologue_plain
  obtain ⟨behind, hbehind, htextBehind⟩ := exists_read_plain name epilogue_plain.1
  obtain ⟨opened, hopened, -, htext⟩ :=
    exists_read_append hbefore h fun hseam => prologue_plain (List.mem_of_getLast? hseam.1)
  obtain ⟨wrapped, hwrapped, hname, htext'⟩ :=
    exists_read_append hopened hbehind fun hseam => epilogue_plain.1 (List.mem_of_mem_head? hseam.2)
  refine ⟨wrapped, hwrapped, hname, fun context => ?_⟩
  rw [htext', htext, htextBefore, htextBehind]
  cases template.render context <;> rfl

/-- The prologue and the epilogue are not to blame for a fault. -/
theorem readHtml_eq_error_iff {fault : TemplateFault} :
    readHtml name source = .error fault ↔ read name source = .error fault := by
  have hread : ∀ source, read name source = .error fault ↔
      Node.build [] [] (Piece.scan source) = .error fault := by
    intro source
    rw [read]
    cases Node.build [] [] (Piece.scan source) <;> simp [bind, Except.bind, pure, Except.pure]
  rw [readHtml, hread, hread]
  refine Node.build_error_iff (Piece.tags_between prologue_plain ?_ ?_ source) fault
  · exact epilogue_plain.1
  · exact epilogue_plain.2

end Template

/-- **Texts are concatenated as sources are.** Two sources that are read can be read one behind the
other, unless braces meet at the seam, and the text is then that of the first and that of the second,
or the first fault of either. A body is read between the prologue and the epilogue exactly if it can
be read, with the same fault otherwise, and its text stands between them. -/
theorem texts_concatenate (name : String) :
    (∀ source after first second, Template.read name source = .ok first →
      Template.read name after = .ok second → ¬Piece.Meet source after →
      ∃ template, Template.read name (source ++ after) = .ok template ∧ template.name = name ∧
        ∀ context, template.render context = do
          return (← first.render context) ++ (← second.render context)) ∧
    ∀ body,
      (∀ fault, Template.readHtml name body = .error fault ↔
        Template.read name body = .error fault) ∧
      ∀ template, Template.read name body = .ok template →
        ∃ wrapped, Template.readHtml name body = .ok wrapped ∧ wrapped.name = name ∧
          ∀ context, wrapped.render context =
            (template.render context).map fun text =>
              prologue.toList ++ text ++ epilogue.toList :=
  ⟨fun _ _ _ _ => Template.exists_read_append,
    fun _ => ⟨fun _ => Template.readHtml_eq_error_iff, fun _ => Template.exists_readHtml⟩⟩

/-- A text that ends in a brace before one that starts with a tag and its braces, and one that starts
with a block. -/
theorem texts_concatenate_of_invitation :
    let greeting := "Dear \x7b\x7bName\x7d\x7d, \x7b".toList
    let rooms := " \x7d \x7b\x7b#each Rooms\x7d\x7d\x7b\x7b.\x7d\x7d;\x7b\x7b/each\x7d\x7d".toList
    let context : Context := [("Name", .text "A & B"), ("Rooms", .list ["MC", "DC"])]
    ¬Piece.Meet greeting rooms ∧
      (∃ template, Template.read "t" (greeting ++ rooms) = .ok template ∧
        template.render context = .ok "Dear A &amp; B, \x7b \x7d MC;DC;".toList) ∧
      (∃ template, Template.readHtml "t" rooms = .ok template ∧
        template.render context =
          .ok (prologue.toList ++ " \x7d MC;DC;".toList ++ epilogue.toList)) ∧
      Template.readHtml "t" "\x7b\x7b#each Rooms\x7d\x7d".toList = .error (.unclosed "Rooms") := by
  intro greeting rooms context
  have hseam : ¬Piece.Meet greeting rooms := by decide
  have hfirst : Template.read "t" greeting =
      .ok ⟨"t", [.literal "Dear ".toList, .field "Name", .literal ", \x7b".toList]⟩ := rfl
  have hsecond : Template.read "t" rooms =
      .ok ⟨"t", [.literal " \x7d ".toList, .each "Rooms" [.element, .literal ";".toList]]⟩ := rfl
  obtain ⟨hconcat, hhtml⟩ := texts_concatenate "t"
  obtain ⟨template, hread, -, htext⟩ := hconcat _ _ _ _ hfirst hsecond hseam
  obtain ⟨wrapped, hwrapped, -, htext'⟩ := (hhtml rooms).2 _ hsecond
  refine ⟨hseam, ⟨template, hread, ?_⟩, ⟨wrapped, hwrapped, ?_⟩, ((hhtml _).1 _).2 rfl⟩
  · rw [htext]
    rfl
  · rw [htext']
    rfl

end Registrar.Mail
