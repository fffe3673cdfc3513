import Registrar.Mail.Template
import Registrar.Proofs.Failure
import Registrar.Proofs.Number.Digits
import Registrar.Proofs.Text.Marks
/-!
# The language of templates

`Spans inside source nodes rest`: what stands before `rest` in the source are some nodes, piece by
piece. Whoever reads a source finds what it spans (`build_of_spans`), and finds nothing else
(`spans_of_build`), so a template is read exactly from the sources that its nodes span
(`read_eq_ok_iff`). Both go along the pieces of the source, of which `scan` finds the first one.
-/
namespace Registrar.Mail

open Text (Clear)

/-! ## Pieces of a source -/

/-- What opens a tag. -/
def opening : List Char := ['\x7b', '\x7b']

/-- What closes a tag. -/
def closing : List Char := ['\x7d', '\x7d']

/-- A text that is not empty and goes up to the next tag or to the end. -/
structure IsLiteral (text rest : List Char) : Prop where
  nonempty : text ≠ []
  clear : Clear opening text rest
  next : rest = [] ∨ opening <+: rest

/-- A source starts with a tag, which the first closing braces end. Between the braces stands `tag`,
perhaps between blanks. -/
def IsTag (source tag rest : List Char) : Prop :=
  ∃ inner, source = opening ++ inner ++ closing ++ rest ∧ Clear closing inner (closing ++ rest) ∧
    Text.trim inner = tag

theorem IsTag.length_lt {source tag rest : List Char} (h : IsTag source tag rest) :
    rest.length < source.length := by
  obtain ⟨inner, rfl, -, -⟩ := h
  simp [opening]
  omega

namespace Piece

variable {before text inner tag rest source : List Char}

theorem scanText_clear (before : List Char) (h : Clear opening text rest) :
    scanText before (text ++ rest) = scanText (text.reverse ++ before) rest := by
  induction text generalizing before with
  | nil => rfl
  | cons c text ih =>
    obtain ⟨hfirst, htext⟩ := Text.clear_cons.1 h
    have hstep : scanText before (c :: (text ++ rest)) = scanText (c :: before) (text ++ rest) := by
      cases htail : text ++ rest with
      | nil => simp [scanText]
      | cons d tail =>
        refine scanText.eq_3 before c (d :: tail) ?_
        rintro rest' rfl heq
        exact hfirst (htail ▸ heq ▸ ⟨rest', rfl⟩)
    rw [List.cons_append, hstep, ih _ htext]
    simp

theorem scanTag_clear (before : List Char) (h : Clear closing inner rest) :
    scanTag before (inner ++ rest) = scanTag (inner.reverse ++ before) rest := by
  induction inner generalizing before with
  | nil => rfl
  | cons c inner ih =>
    obtain ⟨hfirst, hinner⟩ := Text.clear_cons.1 h
    have hstep : scanTag before (c :: (inner ++ rest)) = scanTag (c :: before) (inner ++ rest) := by
      refine scanTag.eq_3 before c (inner ++ rest) ?_
      rintro rest' rfl heq
      exact hfirst (heq ▸ ⟨rest', rfl⟩)
    rw [List.cons_append, hstep, ih _ hinner]
    simp

theorem scanText_opening (before rest : List Char) :
    scanText before (opening ++ rest) = flush before ++ scanTag [] rest := rfl

theorem scanTag_closing (before rest : List Char) :
    scanTag before (closing ++ rest) = .tag (Text.trim before.reverse) :: scan rest := rfl

theorem scan_literal (h : IsLiteral text rest) :
    scan (text ++ rest) = .literal text :: scan rest := by
  have hflush : flush text.reverse = [.literal text] := by
    rw [flush, if_neg (by simpa using h.nonempty), List.reverse_reverse]
  rw [scan, scanText_clear [] h.clear, List.append_nil]
  rcases h.next with rfl | ⟨rest, rfl⟩
  · exact hflush
  · rw [scanText_opening, hflush]
    rfl

theorem scan_tag (h : IsTag source tag rest) : scan source = .tag tag :: scan rest := by
  obtain ⟨inner, rfl, hclear, rfl⟩ := h
  rw [List.append_assoc, List.append_assoc, scan, scanText_opening, scanTag_clear [] hclear,
    List.append_nil, scanTag_closing, List.reverse_reverse]
  rfl

theorem scan_unterminated (h : Clear closing inner []) :
    scan (opening ++ inner) = [.unterminated] := by
  have hscan := scanTag_clear [] h
  rw [List.append_nil] at hscan
  rw [scan, scanText_opening, hscan]
  rfl

/-- A source that is not empty starts with a literal, with a tag or with one that never ends. -/
theorem first_cases (source : List Char) :
    source = [] ∨ (∃ text rest, source = text ++ rest ∧ IsLiteral text rest) ∨
      (∃ tag rest, IsTag source tag rest) ∨ scan source = [.unterminated] := by
  rcases Text.clear_or_first opening source with hclear | ⟨text, tail, rfl, hclear⟩
  · by_cases hempty : source = []
    · exact Or.inl hempty
    · exact Or.inr (Or.inl ⟨source, [], (List.append_nil _).symm, hempty, hclear, Or.inl rfl⟩)
  by_cases hempty : text = []
  · subst hempty
    rcases Text.clear_or_first closing tail with hopen | ⟨inner, rest, rfl, hinner⟩
    · exact Or.inr (Or.inr (Or.inr (scan_unterminated hopen)))
    · exact Or.inr (Or.inr (Or.inl ⟨_, rest, inner, by simp, hinner, rfl⟩))
  · exact Or.inr (Or.inl ⟨text, opening ++ tail, List.append_assoc _ _ _, hempty, hclear,
      Or.inr ⟨tail, rfl⟩⟩)

end Piece

/-! ## What a tag may say -/

/-- One or more ASCII letters, digits and underscores. -/
def IsName (name : List Char) : Prop := name ≠ [] ∧ ∀ c ∈ name, Node.isNameChar c = true

/-- A name and, between brackets, the numeral of a number of 64 bits. There may be blanks around
both. -/
def IsIndex (name : String) (n : Nat) (tag : List Char) : Prop :=
  ∃ left right, tag = left ++ '[' :: (right ++ [']']) ∧ Text.trim left = name.toList ∧
    IsName name.toList ∧ Number.IsNumeral n (Text.trim right) ∧ n < 2 ^ 64

/-- The mark of a block, any blanks, and a name. -/
def OpensBlock (name : String) (tag : List Char) : Prop :=
  ∃ padded, tag = Node.blockMark ++ padded ∧ Text.trim padded = name.toList ∧ IsName name.toList

section

variable {name : List Char} {c : Char}

theorem not_isBlank_of_isNameChar (h : Node.isNameChar c = true) : Text.isBlank c = false := by
  have hcode : c.toNat = 0x5F ∨ 0x30 ≤ c.toNat ∧ c.toNat ≤ 0x39 ∨
      0x41 ≤ c.toNat ∧ c.toNat ≤ 0x5A ∨ 0x61 ≤ c.toNat ∧ c.toNat ≤ 0x7A := by
    unfold Node.isNameChar Char.isAlphanum Char.isAlpha Char.isUpper Char.isLower Char.isDigit at h
    simp only [Bool.or_eq_true, Bool.and_eq_true, decide_eq_true_eq, beq_iff_eq,
      UInt32.le_iff_toNat_le, ge_iff_le] at h
    rcases h with ((hupper | hlower) | hdigit) | rfl
    · exact Or.inr (Or.inr (Or.inl hupper))
    · exact Or.inr (Or.inr (Or.inr hlower))
    · exact Or.inr (Or.inl hdigit)
    · exact Or.inl rfl
  simp only [Text.isBlank, Bool.or_eq_false_iff, Bool.and_eq_false_iff, decide_eq_false_iff_not,
    beq_eq_false_iff_ne]
  omega

theorem trim_of_isName (h : IsName name) : Text.trim name = name :=
  Text.trim_eq_self
    (fun c hc => not_isBlank_of_isNameChar (h.2 c (List.mem_of_mem_head? hc)))
    (fun c hc => not_isBlank_of_isNameChar (h.2 c (List.mem_of_mem_getLast? hc)))

theorem fieldName_eq_ok_iff {field : String} :
    Node.fieldName name = .ok field ↔ IsName field.toList ∧ name = field.toList := by
  unfold Node.fieldName
  split
  · rename_i hname
    have hisName : IsName name := ⟨hname.1, List.all_eq_true.1 hname.2⟩
    constructor
    · intro h
      cases h
      rw [String.toList_ofList]
      exact ⟨hisName, rfl⟩
    · rintro ⟨-, rfl⟩
      rw [String.ofList_toList]
  · rename_i hname
    refine ⟨nofun, ?_⟩
    rintro ⟨hfield, rfl⟩
    exact absurd ⟨hfield.1, List.all_eq_true.2 hfield.2⟩ hname

end

section

variable {tag rest : List Char} {node : Node} {n : Nat}

theorem readIndex_eq_ok_iff : Node.readIndex tag rest = .ok n ↔
    ∃ right, rest = right ++ [']'] ∧ Number.IsNumeral n (Text.trim right) ∧ n < 2 ^ 64 := by
  unfold Node.readIndex
  by_cases hlast : rest.getLast? = some ']'
  · obtain ⟨right, rfl⟩ := List.getLast?_eq_some_iff.1 hlast
    simp only [hlast, if_true, List.dropLast_concat, List.append_cancel_right_eq]
    constructor
    · intro h
      cases hread : Number.readNat64 (Text.trim right) with
      | error fault =>
        rw [hread] at h
        cases h
      | ok i =>
        rw [hread] at h
        cases h
        obtain ⟨n, rfl, hnumeral, hlt⟩ := Number.readNat64_eq_ok_iff.1 hread
        exact ⟨right, rfl, hnumeral, hlt⟩
    · rintro ⟨_, rfl, hnumeral, hlt⟩
      rw [Number.readNat64_eq_ok_iff.2 ⟨n, rfl, hnumeral, hlt⟩]
      rfl
  · rw [if_neg hlast]
    refine ⟨nofun, ?_⟩
    rintro ⟨right, rfl, -⟩
    exact absurd List.getLast?_concat hlast

theorem notMem_of_isName {c : Char} (hname : Node.isNameChar c = false) {left : List Char}
    (hblank : Text.isBlank c = false) (h : IsName (Text.trim left)) : c ∉ left := by
  intro hmem
  have hc := h.2 c (Text.mem_trim hmem hblank)
  rw [hname] at hc
  cases hc

/-- A tag that is not of a block names a field, or an element of a field. -/
theorem reference_eq_ok_iff : Node.reference tag = .ok node ↔
    (∃ name : String, node = .field name ∧ IsName name.toList ∧ tag = name.toList) ∨
      ∃ name n, node = .index name n ∧ IsIndex name n tag := by
  unfold Node.reference
  cases hcut : Text.cutAt? '[' tag with
  | none =>
    have hbracket := Text.cutAt?_eq_none_iff.1 hcut
    simp only [bind_eq_ok_iff, fieldName_eq_ok_iff]
    constructor
    · rintro ⟨name, ⟨hname, rfl⟩, hnode⟩
      cases hnode
      exact Or.inl ⟨name, rfl, hname, rfl⟩
    · rintro (⟨name, rfl, hname, rfl⟩ | ⟨name, n, rfl, left, right, rfl, -⟩)
      · exact ⟨name, ⟨hname, rfl⟩, rfl⟩
      · simp at hbracket
  | some halves =>
    obtain ⟨left, rest⟩ := halves
    obtain ⟨rfl, hleft⟩ := Text.eq_of_cutAt? hcut
    simp only [bind_eq_ok_iff, fieldName_eq_ok_iff, readIndex_eq_ok_iff]
    constructor
    · rintro ⟨n, ⟨right, rfl, hnumeral, hlt⟩, name, ⟨hname, htrim⟩, hnode⟩
      cases hnode
      exact Or.inr ⟨name, n, rfl, left, right, rfl, htrim, hname, hnumeral, hlt⟩
    · rintro (⟨name, rfl, hname, htag⟩ |
        ⟨name, n, rfl, left', right, htag, htrim, hname, hnumeral, hlt⟩)
      · have hbracket : '[' ∈ name.toList := by
          rw [← htag]
          simp
        exact absurd (hname.2 _ hbracket) (by decide)
      · have hleft' : '[' ∉ left' := notMem_of_isName (by decide) (by decide) (htrim ▸ hname)
        have hsame := Text.cutAt?_append_cons hleft' (right ++ [']'])
        rw [← htag, hcut] at hsame
        cases hsame
        exact ⟨n, ⟨right, rfl, hnumeral, hlt⟩, name, ⟨hname, htrim⟩, rfl⟩

end

/-! ## Sources and nodes -/

/-- What stands before `rest` in a source are some nodes. `inside` tells whether a block is open,
and `opens` which tags open one over a field. -/
inductive Spans (opens : String → List Char → Prop) :
    Bool → List Char → List Node → List Char → Prop
  | nil (inside : Bool) (source : List Char) : Spans opens inside source [] source
  | literal {inside : Bool} {text next rest : List Char} {nodes : List Node}
      (hliteral : IsLiteral text next) (hnext : Spans opens inside next nodes rest) :
      Spans opens inside (text ++ next) (.literal text :: nodes) rest
  | field {inside : Bool} {source next rest : List Char} {nodes : List Node} {name : String}
      (htag : IsTag source name.toList next) (hname : IsName name.toList)
      (hnext : Spans opens inside next nodes rest) :
      Spans opens inside source (.field name :: nodes) rest
  | index {inside : Bool} {source tag next rest : List Char} {nodes : List Node} {name : String}
      {n : Nat} (htag : IsTag source tag next) (hindex : IsIndex name n tag)
      (hnext : Spans opens inside next nodes rest) :
      Spans opens inside source (.index name n :: nodes) rest
  | element {source next rest : List Char} {nodes : List Node} (htag : IsTag source ['.'] next)
      (hnext : Spans opens true next nodes rest) : Spans opens true source (.element :: nodes) rest
  | each {inside : Bool} {source tag start stop next rest : List Char} {body nodes : List Node}
      {name : String} (htag : IsTag source tag start) (hopens : opens name tag)
      (hbody : Spans opens true start body stop) (hend : IsTag stop Node.blockEnd next)
      (hnext : Spans opens inside next nodes rest) :
      Spans opens inside source (.each name body :: nodes) rest

theorem Spans.length_le {opens : String → List Char → Prop} {inside : Bool}
    {source rest : List Char} {nodes : List Node} (h : Spans opens inside source nodes rest) :
    rest.length ≤ source.length := by
  induction h with
  | nil => exact Nat.le_refl _
  | literal hliteral hnext ih =>
    rw [List.length_append]
    exact Nat.le_add_left_of_le ih
  | field htag hname hnext ih => exact ih.trans htag.length_lt.le
  | index htag hindex hnext ih => exact ih.trans htag.length_lt.le
  | element htag hnext ih => exact ih.trans htag.length_lt.le
  | each htag hopens hbody hend hnext ihBody ih =>
    exact ih.trans (hend.length_lt.le.trans (ihBody.trans htag.length_lt.le))

/-! ## What a tag does -/

namespace Node

variable {blocks : List (String × List Node)} {done nodes : List Node} {pieces : List Piece}
  {tag : List Char}

theorem build_end (name : String) (before : List Node) :
    build ((name, before) :: blocks) done (.tag blockEnd :: pieces) =
      build blocks (.each name done.reverse :: before) pieces := by
  rw [build.eq_def]
  simp only [if_true]

theorem build_open {name : String} (h : OpensBlock name tag) :
    build blocks done (.tag tag :: pieces) = build ((name, done) :: blocks) [] pieces := by
  obtain ⟨padded, rfl, htrim, hname⟩ := h
  have hend : blockMark ++ padded ≠ blockEnd := by simp [blockMark, blockEnd]
  have hmark : blockMark.isPrefixOf (blockMark ++ padded) = true := by simp
  rw [build.eq_def]
  simp only [if_neg hend, if_pos hmark, List.drop_left, fieldName_eq_ok_iff.2 ⟨hname, htrim⟩]

theorem build_element (h : blocks ≠ []) :
    build blocks done (.tag ['.'] :: pieces) = build blocks (.element :: done) pieces := by
  have hend : ['.'] ≠ blockEnd := by decide
  have hmark : ¬blockMark.isPrefixOf ['.'] = true := by decide
  rw [build.eq_def]
  simp only [if_neg hend, if_neg hmark, if_true, if_neg h]

/-- What starts a tag of another kind does not start a tag that names a field. -/
theorem head?_ne_of_reference {node : Node} (h : reference tag = .ok node) (c : Char)
    (hname : isNameChar c = false) (hblank : Text.isBlank c = false) (hbracket : c ≠ '[') :
    tag.head? ≠ some c := by
  intro hhead
  rcases reference_eq_ok_iff.1 h with ⟨name, -, hisName, rfl⟩ |
    ⟨name, n, -, left, right, rfl, htrim, hisName, -⟩
  · rw [hisName.2 c (List.mem_of_mem_head? hhead)] at hname
    cases hname
  · have hleft : c ∉ left := notMem_of_isName hname hblank (htrim ▸ hisName)
    cases left with
    | nil => exact hbracket (Option.some.inj hhead).symm
    | cons d left => exact hleft (Option.some.inj hhead ▸ List.mem_cons_self)

theorem build_reference {node : Node} (h : reference tag = .ok node) :
    build blocks done (.tag tag :: pieces) = build blocks (node :: done) pieces := by
  have hend : tag ≠ blockEnd := by
    rintro rfl
    exact head?_ne_of_reference h '/' (by decide) (by decide) (by decide) rfl
  have hmark : ¬blockMark.isPrefixOf tag = true := by
    intro hmark
    obtain ⟨padded, rfl⟩ := List.isPrefixOf_iff_prefix.1 hmark
    exact head?_ne_of_reference h '#' (by decide) (by decide) (by decide) rfl
  have hpoint : tag ≠ ['.'] := by
    rintro rfl
    exact head?_ne_of_reference h '.' (by decide) (by decide) (by decide) rfl
  rw [build.eq_def]
  simp only [if_neg hend, if_neg hmark, if_neg hpoint, h]

/-- A tag after which reading succeeds closes a block, opens one, is the point of one, or names a
field. -/
theorem build_tag_cases (h : build blocks done (.tag tag :: pieces) = .ok nodes) :
    (tag = blockEnd ∧ ∃ name before outer, blocks = (name, before) :: outer ∧
      build outer (.each name done.reverse :: before) pieces = .ok nodes) ∨
    (∃ name, OpensBlock name tag ∧ build ((name, done) :: blocks) [] pieces = .ok nodes) ∨
    (tag = ['.'] ∧ blocks ≠ [] ∧ build blocks (.element :: done) pieces = .ok nodes) ∨
    ∃ node, reference tag = .ok node ∧ build blocks (node :: done) pieces = .ok nodes := by
  rw [build.eq_def] at h
  dsimp only at h
  split at h
  · rename_i hend
    cases blocks with
    | nil => cases h
    | cons block outer => exact Or.inl ⟨hend, block.1, block.2, outer, rfl, h⟩
  split at h
  · rename_i hmark
    obtain ⟨padded, rfl⟩ := List.isPrefixOf_iff_prefix.1 hmark
    rw [List.drop_left] at h
    cases hfield : fieldName (Text.trim padded) with
    | error fault =>
      rw [hfield] at h
      cases h
    | ok name =>
      rw [hfield] at h
      obtain ⟨hname, htrim⟩ := fieldName_eq_ok_iff.1 hfield
      exact Or.inr (Or.inl ⟨name, ⟨padded, rfl, htrim, hname⟩, h⟩)
  split at h
  · rename_i hpoint
    split at h
    · cases h
    · rename_i hblocks
      exact Or.inr (Or.inr (Or.inl ⟨hpoint, hblocks, h⟩))
  · cases hnode : reference tag with
    | error fault =>
      rw [hnode] at h
      cases h
    | ok node =>
      rw [hnode] at h
      exact Or.inr (Or.inr (Or.inr ⟨node, rfl, h⟩))

/-! ## Reading and spanning -/

/-- **Whoever reads** a source finds the nodes that it spans. -/
theorem build_of_spans {inside : Bool} {source rest : List Char} {inner : List Node}
    (h : Spans OpensBlock inside source inner rest) (hinside : inside = true → blocks ≠ []) :
    build blocks done (Piece.scan source) =
      build blocks (inner.reverse ++ done) (Piece.scan rest) := by
  induction h generalizing blocks done with
  | nil => rfl
  | literal hliteral hnext ih =>
    rw [Piece.scan_literal hliteral, build, ih hinside, List.reverse_cons, List.append_assoc]
    rfl
  | @field inside source next rest nodes name htag hname hnext ih =>
    have hnode : reference name.toList = .ok (.field name) :=
      reference_eq_ok_iff.2 (Or.inl ⟨name, rfl, hname, rfl⟩)
    rw [Piece.scan_tag htag, build_reference hnode, ih hinside, List.reverse_cons,
      List.append_assoc]
    rfl
  | @index inside source tag next rest nodes name n htag hindex hnext ih =>
    have hnode : reference tag = .ok (.index name n) :=
      reference_eq_ok_iff.2 (Or.inr ⟨name, n, rfl, hindex⟩)
    rw [Piece.scan_tag htag, build_reference hnode, ih hinside, List.reverse_cons,
      List.append_assoc]
    rfl
  | element htag hnext ih =>
    rw [Piece.scan_tag htag, build_element (hinside rfl), ih hinside, List.reverse_cons,
      List.append_assoc]
    rfl
  | each htag hopens hbody hend hnext ihBody ih =>
    rw [Piece.scan_tag htag, build_open hopens, ihBody fun _ => List.cons_ne_nil _ _,
      Piece.scan_tag hend, build_end, ih hinside, List.append_nil, List.reverse_reverse,
      List.reverse_cons, List.append_assoc]
    rfl

/-- What is left to be read when the nodes of the innermost block are `done`: nothing if no block is
open, and otherwise the tag that closes it, after which reading goes on in the block around it. -/
def Finishes : List (String × List Node) → List Node → List Char → List Node → Prop
  | [], done, rest, nodes => rest = [] ∧ nodes = done.reverse
  | (name, before) :: outer, done, rest, nodes => ∃ next, IsTag rest blockEnd next ∧
      build outer (.each name done.reverse :: before) (Piece.scan next) = .ok nodes

/-- **Whoever reads** a source successfully has found what it spans, up to the end or to the tag
that closes the innermost block. -/
theorem spans_of_build (source : List Char)
    (h : build blocks done (Piece.scan source) = .ok nodes) :
    ∃ inner rest, Spans OpensBlock (!blocks.isEmpty) source inner rest ∧
      Finishes blocks (inner.reverse ++ done) rest nodes := by
  -- a block is read up to the tag that closes it, and then what follows, which is shorter
  induction hlength : source.length using Nat.strong_induction_on generalizing source blocks done
  rename_i length ih
  subst hlength
  rcases Piece.first_cases source with rfl | ⟨text, next, rfl, hliteral⟩ | ⟨tag, next, htag⟩ | hopen
  · refine ⟨[], [], .nil _ _, ?_⟩
    cases blocks with
    | nil =>
      cases h
      exact ⟨rfl, rfl⟩
    | cons block outer => cases h
  · rw [Piece.scan_literal hliteral, build] at h
    have hlt : next.length < (text ++ next).length := by
      have := List.length_pos_iff.2 hliteral.nonempty
      rw [List.length_append]
      omega
    obtain ⟨inner, rest, hspans, hfinishes⟩ := ih _ hlt next h rfl
    exact ⟨.literal text :: inner, rest, .literal hliteral hspans, by simpa using hfinishes⟩
  · rw [Piece.scan_tag htag] at h
    rcases build_tag_cases h with ⟨rfl, name, before, outer, rfl, hclose⟩ | ⟨name, hopens, hbody⟩ |
      ⟨rfl, hblocks, helement⟩ | ⟨node, hreference, hrest⟩
    · exact ⟨[], source, .nil _ _, next, htag, hclose⟩
    · obtain ⟨body, stop, hspansBody, after, hend, hafter⟩ := ih _ htag.length_lt next hbody rfl
      have hlt : after.length < source.length :=
        hend.length_lt.trans_le (hspansBody.length_le.trans htag.length_lt.le)
      obtain ⟨inner, rest, hspans, hfinishes⟩ := ih _ hlt after hafter rfl
      refine ⟨.each name body :: inner, rest, .each htag hopens hspansBody hend hspans, ?_⟩
      simpa using hfinishes
    · obtain ⟨inner, rest, hspans, hfinishes⟩ := ih _ htag.length_lt next helement rfl
      have hinside : (!blocks.isEmpty) = true := by simpa using hblocks
      rw [hinside] at hspans ⊢
      exact ⟨.element :: inner, rest, .element htag hspans, by simpa using hfinishes⟩
    · obtain ⟨inner, rest, hspans, hfinishes⟩ := ih _ htag.length_lt next hrest rfl
      refine ⟨node :: inner, rest, ?_, by simpa using hfinishes⟩
      rcases reference_eq_ok_iff.1 hreference with ⟨name, rfl, hname, rfl⟩ | ⟨name, n, rfl, hindex⟩
      · exact .field htag hname hspans
      · exact .index htag hindex hspans
  · rw [hopen] at h
    cases h

end Node

/-- **A template is read** exactly from the sources that its nodes span. -/
theorem Template.read_eq_ok_iff {name : String} {source : List Char} {template : Template} :
    read name source = .ok template ↔
      template.name = name ∧ Spans OpensBlock false source template.nodes [] := by
  rw [read, bind_eq_ok_iff]
  constructor
  · rintro ⟨nodes, hbuild, htemplate⟩
    cases htemplate
    obtain ⟨inner, rest, hspans, rfl, rfl⟩ := Node.spans_of_build source hbuild
    rw [List.append_nil, List.reverse_reverse]
    exact ⟨rfl, hspans⟩
  · rintro ⟨rfl, hspans⟩
    refine ⟨template.nodes, ?_, rfl⟩
    rw [Node.build_of_spans hspans nofun, Piece.scan]
    simp [Piece.scanText, Piece.flush, Node.build]

end Registrar.Mail
