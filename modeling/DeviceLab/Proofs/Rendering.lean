import Mathlib.Logic.ExistsUnique
import DeviceLab.Dispatch.Template
import DeviceLab.Proofs.Entries

/-! # Templates by their grammar

A template is written as plain text with identifiers between braces in it.  Plain text has no
identifier between braces, so there is only one way to write a template like that (`Layout.unique`):
an identifier has no brace in it, and whatever stands between the braces of one cannot reach beyond
the plain text that it begins in.  The reader of templates finds this layout
(`Layout.pieces_text`, `Layout.wellFormed_ofPieces`), and what is made of a template is told by it.

* `Layout`: plain text, and identifiers with the plain text behind each.
* `exists_render_iff`, `render_eq_error_iff`: when there is a text, and the name that it fails with.
* `renderAll_eq_ok_iff`, `renderAll_eq_error_iff`: the same for several templates.
* `rendered_as_written`: the statement for every template. -/

namespace DeviceLab.Template

open Json (lookup exists_mapM_iff mapM_eq_error_iff mapM_eq_ok_iff)

/-! ### The grammar -/

/-- A letter of the ASCII alphabet, or the underscore. -/
def Letter (c : Char) : Prop := ('A' ≤ c ∧ c ≤ 'Z') ∨ ('a' ≤ c ∧ c ≤ 'z') ∨ c = '_'

/-- An ASCII identifier: a letter, and letters and digits behind it. -/
def Identifier (name : List Char) : Prop :=
  ∃ c rest, name = c :: rest ∧ Letter c ∧ ∀ d ∈ rest, Letter d ∨ ('0' ≤ d ∧ d ≤ '9')

/-- A name between braces. -/
def slot (name : List Char) : List Char := '\x7b' :: (name ++ ['\x7d'])

/-- There is no identifier between braces in the text. -/
def Plain (text : List Char) : Prop := ∀ name, Identifier name → ¬slot name <:+: text

/-- Plain text, and identifiers with the plain text behind each. -/
structure Layout where
  lead : List Char
  slots : List (List Char × List Char)
  deriving DecidableEq, Repr

namespace Layout

/-- The text that is written so. -/
def text (l : Layout) : List Char := l.lead ++ l.slots.flatMap fun s => slot s.1 ++ s.2

/-- The identifiers, in order. -/
def names (l : Layout) : List String := l.slots.map fun s => String.ofList s.1

/-- The text with values in the places of the identifiers. -/
def filled (l : Layout) (value : String → String) : String :=
  String.ofList (l.lead ++ l.slots.flatMap fun s => (value (String.ofList s.1)).toList ++ s.2)

/-- The names are identifiers, and the text around them is plain. -/
structure WellFormed (l : Layout) : Prop where
  lead : Plain l.lead
  slots : ∀ s ∈ l.slots, Identifier s.1 ∧ Plain s.2

def Writes (l : Layout) (template : String) : Prop := l.WellFormed ∧ l.text = template.toList

end Layout

/-! ### One name -/

theorem isNameStart_iff {c : Char} : isNameStart c = true ↔ Letter c := by
  have hranges : isNameStart c =
      (decide ('A' ≤ c ∧ c ≤ 'Z') || (decide ('a' ≤ c) && decide (c ≤ 'z')) || c == '_') := rfl
  simp only [hranges, Bool.or_eq_true, Bool.and_eq_true, decide_eq_true_eq, beq_iff_eq, Letter,
    or_assoc]

theorem isNameChar_iff {c : Char} :
    isNameChar c = true ↔ Letter c ∨ ('0' ≤ c ∧ c ≤ '9') := by
  rw [← isNameStart_iff]
  simp only [isNameChar, isNameStart, Char.isAlphanum, Char.isDigit, Bool.or_eq_true,
    Bool.and_eq_true, decide_eq_true_eq, beq_iff_eq]
  exact or_right_comm

/-- No character of an identifier is a brace. -/
theorem Identifier.nameChars {name : List Char} (h : Identifier name) :
    ∀ c ∈ name, isNameChar c = true := by
  obtain ⟨c, rest, rfl, hc, hrest⟩ := h
  exact List.forall_mem_cons.2
    ⟨isNameChar_iff.2 (.inl hc), fun d hd => isNameChar_iff.2 (hrest d hd)⟩

/-- A name is found exactly where an identifier is followed by its brace. -/
theorem name?_eq_some_iff {cs name rest : List Char} :
    name? cs = some (name, rest) ↔ Identifier name ∧ cs = name ++ '\x7d' :: rest := by
  constructor
  · intro h
    have hsplit := List.takeWhile_append_dropWhile (p := isNameChar) (l := cs)
    unfold name? at h
    split at h
    · next c more rest' hbefore hafter =>
        split at h
        · next hstart =>
            cases h
            rw [hbefore, hafter] at hsplit
            refine ⟨⟨c, more, rfl, isNameStart_iff.1 hstart, fun d hd => ?_⟩, hsplit.symm⟩
            have hd : d ∈ cs.takeWhile isNameChar := hbefore ▸ List.mem_cons_of_mem c hd
            exact isNameChar_iff.1 (List.all_eq_true.1 List.all_takeWhile d hd)
        · cases h
    · cases h
  · rintro ⟨hname, rfl⟩
    have hbrace : isNameChar '\x7d' = false := by decide
    have hbefore : (name ++ '\x7d' :: rest).takeWhile isNameChar = name := by
      rw [List.takeWhile_append_of_pos hname.nameChars,
        List.takeWhile_cons_of_neg (by simp [hbrace]), List.append_nil]
    have hafter : (name ++ '\x7d' :: rest).dropWhile isNameChar = '\x7d' :: rest := by
      rw [List.dropWhile_append_of_pos hname.nameChars,
        List.dropWhile_cons_of_neg (by simp [hbrace])]
    obtain ⟨c, more, rfl, hc, -⟩ := hname
    simp only [name?, hbefore, hafter, if_pos (isNameStart_iff.2 hc)]

/-! ### Pieces -/

theorem pieces_slot {name : List Char} (h : Identifier name) (rest : List Char) :
    pieces (slot name ++ rest) = .name name :: pieces rest := by
  have hname : name? (name ++ '\x7d' :: rest) = some (name, rest) :=
    name?_eq_some_iff.2 ⟨h, rfl⟩
  have hlist : slot name ++ rest = '\x7b' :: (name ++ '\x7d' :: rest) := by simp [slot]
  rw [hlist, pieces, if_pos rfl]
  split
  · next found after hfound =>
      rw [hname] at hfound
      cases hfound
      rfl
  · next hnone => cases hname.symm.trans hnone

theorem pieces_char {c : Char} {rest : List Char} (h : c = '\x7b' → name? rest = none) :
    pieces (c :: rest) = .char c :: pieces rest := by
  rw [pieces]
  split
  · next hbrace =>
      split
      · next found after hfound => cases (h hbrace).symm.trans hfound
      · rfl
  · rfl

theorem plain_nil : Plain [] := fun name _ h => by simp [slot] at h

theorem plain_cons {c : Char} {text : List Char} : Plain (c :: text) ↔
    (c = '\x7b' → ∀ name, Identifier name → ¬name ++ ['\x7d'] <+: text) ∧ Plain text := by
  simp only [Plain, slot, List.infix_cons_iff, List.cons_prefix_cons, not_or, forall_and,
    not_and]
  exact and_congr_left fun _ => ⟨fun h hc name hname => h name hname hc.symm,
    fun h name hname hc => h hc.symm name hname⟩

/-- What stands before an opening brace, and begins with an identifier and a closing brace together
with it, begins with them alone. -/
theorem closed_prefix_of_append {name text rest after : List Char} (hname : Identifier name)
    (hrest : ∀ c ∈ rest.head?, c = '\x7b') (h : text ++ rest = name ++ '\x7d' :: after) :
    name ++ ['\x7d'] <+: text := by
  have hclosed : text ++ rest = (name ++ ['\x7d']) ++ after := by simpa using h
  rcases List.append_eq_append_iff.1 hclosed with ⟨more, hmore, hafter⟩ | ⟨more, hmore, -⟩
  · cases more with
    | nil => exact ⟨[], by simpa using hmore⟩
    | cons c more =>
        -- the opening brace would be one of the characters up to the closing one
        have hc : c = '\x7b' := hrest c (by simp [hafter])
        have hmem : '\x7b' ∈ name ++ ['\x7d'] := by simp [hmore, hc]
        rcases List.mem_append.1 hmem with hin | hin
        · exact absurd (hname.nameChars _ hin) (by decide)
        · exact absurd hin (by decide)
  · exact ⟨more, hmore.symm⟩

/-- Plain text before an opening brace, or at the end, is taken character by character. -/
theorem pieces_plain {text rest : List Char} (h : Plain text)
    (hrest : ∀ c ∈ rest.head?, c = '\x7b') :
    pieces (text ++ rest) = text.map .char ++ pieces rest := by
  induction text with
  | nil => rfl
  | cons c text ih =>
      obtain ⟨hopen, htext⟩ := plain_cons.1 h
      have hnone : c = '\x7b' → name? (text ++ rest) = none := by
        intro hc
        cases hfound : name? (text ++ rest) with
        | none => rfl
        | some found =>
            obtain ⟨name, after⟩ := found
            obtain ⟨hname, heq⟩ := name?_eq_some_iff.1 hfound
            exact absurd (closed_prefix_of_append hname hrest heq) (hopen hc name hname)
      rw [List.cons_append, pieces_char hnone, ih htext]
      rfl

/-! ### Layouts -/

namespace Layout

/-- The parts of the text that is written so. -/
def parts (l : Layout) : List Piece :=
  l.lead.map .char ++ l.slots.flatMap fun s => Piece.name s.1 :: s.2.map .char

/-- The layout of a row of parts. -/
def ofPieces : List Piece → Layout
  | [] => ⟨[], []⟩
  | .char c :: rest => { ofPieces rest with lead := c :: (ofPieces rest).lead }
  | .name name :: rest => ⟨[], (name, (ofPieces rest).lead) :: (ofPieces rest).slots⟩

/-- The reader of templates finds the parts of a well-formed layout. -/
theorem pieces_text {l : Layout} (h : l.WellFormed) : pieces l.text = l.parts := by
  obtain ⟨lead, slots⟩ := l
  have hslots : ∀ {slots : List (List Char × List Char)},
      ∀ c ∈ (slots.flatMap fun s => slot s.1 ++ s.2).head?, c = '\x7b' := by
    intro slots c hc
    cases slots with
    | nil => cases hc
    | cons s slots => simpa [slot] using hc.symm
  unfold text parts
  rw [pieces_plain h.lead hslots]
  refine congrArg _ ?_
  replace h := h.slots
  dsimp only at h ⊢
  induction slots with
  | nil => exact pieces.eq_1
  | cons s slots ih =>
      obtain ⟨⟨hname, hplain⟩, hrest⟩ := List.forall_mem_cons.1 h
      rw [List.flatMap_cons, List.flatMap_cons, List.append_assoc, pieces_slot hname,
        pieces_plain hplain hslots, ih hrest]
      rfl

theorem ofPieces_chars (text : List Char) (rest : List Piece) :
    ofPieces (text.map .char ++ rest) =
      ⟨text ++ (ofPieces rest).lead, (ofPieces rest).slots⟩ := by
  induction text with
  | nil => rfl
  | cons c text ih => rw [List.map_cons, List.cons_append, ofPieces, ih]; rfl

theorem ofPieces_parts (l : Layout) : ofPieces l.parts = l := by
  obtain ⟨lead, slots⟩ := l
  have hslots : ofPieces (slots.flatMap fun s => .name s.1 :: s.2.map .char) = ⟨[], slots⟩ := by
    induction slots with
    | nil => rfl
    | cons s slots ih =>
        rw [List.flatMap_cons, List.cons_append, ofPieces, ofPieces_chars, ih, List.append_nil]
  rw [parts, ofPieces_chars, hslots, List.append_nil]

theorem text_ofPieces (cs : List Char) : (ofPieces (pieces cs)).text = cs := by
  induction cs using pieces.induct with
  | case1 => rw [pieces]; rfl
  | case2 rest name after hfound _ ih =>
      obtain ⟨hname, rfl⟩ := name?_eq_some_iff.1 hfound
      have hlist : '\x7b' :: (name ++ '\x7d' :: after) = slot name ++ after := by simp [slot]
      rw [hlist, pieces_slot hname, ofPieces]
      simpa [text] using ih
  | case3 rest hnone ih =>
      rw [pieces_char fun _ => hnone, ofPieces]
      exact congrArg ('\x7b' :: ·) ih
  | case4 c rest hc ih =>
      rw [pieces_char fun h => absurd h hc, ofPieces]
      exact congrArg (c :: ·) ih

/-- No identifier between braces is passed over. -/
theorem wellFormed_ofPieces (cs : List Char) : (ofPieces (pieces cs)).WellFormed := by
  induction cs using pieces.induct with
  | case1 =>
      rw [pieces]
      exact ⟨plain_nil, List.forall_mem_nil _⟩
  | case2 rest name after hfound _ ih =>
      obtain ⟨hname, rfl⟩ := name?_eq_some_iff.1 hfound
      have hlist : '\x7b' :: (name ++ '\x7d' :: after) = slot name ++ after := by simp [slot]
      rw [hlist, pieces_slot hname, ofPieces]
      exact ⟨plain_nil, List.forall_mem_cons.2 ⟨⟨hname, ih.lead⟩, ih.slots⟩⟩
  | case3 rest hnone ih =>
      rw [pieces_char fun _ => hnone, ofPieces]
      refine ⟨plain_cons.2 ⟨fun _ name hname hclosed => ?_, ih.lead⟩, ih.slots⟩
      -- an identifier that is closed in the plain text is closed in the rest of the template
      obtain ⟨after, hafter⟩ := hclosed
      have htext := text_ofPieces rest
      rw [text, ← hafter, List.append_assoc, List.append_assoc] at htext
      have hfound := name?_eq_some_iff.2 ⟨hname, htext.symm⟩
      cases hnone.symm.trans hfound
  | case4 c rest hc ih =>
      rw [pieces_char fun h => absurd h hc, ofPieces]
      exact ⟨plain_cons.2 ⟨fun h => absurd h hc, ih.lead⟩, ih.slots⟩

theorem writes_ofPieces (template : String) : (ofPieces (pieces template.toList)).Writes template :=
  ⟨wellFormed_ofPieces _, text_ofPieces _⟩

variable {l : Layout} {template : String}

theorem Writes.pieces (h : l.Writes template) : pieces template.toList = l.parts :=
  h.2 ▸ pieces_text h.1

/-- There is one way to write a template. -/
theorem Writes.eq_ofPieces (h : l.Writes template) :
    l = ofPieces (Template.pieces template.toList) := by
  rw [h.pieces, ofPieces_parts]

end Layout

/-! ### Values in the places of names -/

/-- The name that a part is, if it is one. -/
def nameOf : Piece → Option String
  | .name name => some (String.ofList name)
  | .char _ => none

/-- The first of some names that has no value. -/
def missing? (values : Values) (names : List String) : Option String :=
  names.find? fun name => (lookup name values).isNone

variable {values : Values} {template : String}

theorem placeholders_eq (template : String) :
    placeholders template = (pieces template.toList).filterMap nameOf := by
  refine congrArg (List.filterMap · _) (funext fun part => ?_)
  cases part <;> rfl

theorem filterMap_nameOf_chars (text : List Char) :
    (text.map Piece.char).filterMap nameOf = [] := by
  induction text with
  | nil => rfl
  | cons c text ih => exact ih

theorem Layout.filterMap_nameOf_parts (l : Layout) : l.parts.filterMap nameOf = l.names := by
  obtain ⟨lead, slots⟩ := l
  rw [parts, List.filterMap_append, filterMap_nameOf_chars, List.nil_append]
  induction slots with
  | nil => rfl
  | cons s slots ih =>
      rw [List.flatMap_cons, List.filterMap_append, ih, List.filterMap_cons,
        filterMap_nameOf_chars]
      rfl

/-- The first name without a value is what fails, wherever it stands. -/
theorem fill_eq_error_iff {parts : List Piece} {name : String} :
    fill values parts = .error name ↔ missing? values (parts.filterMap nameOf) = some name := by
  induction parts with
  | nil => exact ⟨nofun, nofun⟩
  | cons part rest ih =>
      have hmap : ∀ f : List Char → List Char,
          (fill values rest).map f = .error name ↔ fill values rest = .error name := by
        intro f
        cases fill values rest with
        | ok cs => exact ⟨nofun, nofun⟩
        | error e => exact Iff.rfl
      cases part with
      | char c => rw [fill, hmap, ih]; rfl
      | name n =>
          rw [fill, List.filterMap_cons]
          dsimp only [nameOf]
          rw [missing?, List.find?_cons]
          cases lookup (String.ofList n) values with
          | none => exact ⟨fun h => by cases h; rfl, fun h => by cases h; rfl⟩
          | some value => exact (hmap _).trans ih

theorem fill_chars (text : List Char) (rest : List Piece) :
    fill values (text.map .char ++ rest) = (fill values rest).map (text ++ ·) := by
  induction text with
  | nil =>
      cases h : fill values rest <;> simp [h, Except.map]
  | cons c text ih =>
      rw [List.map_cons, List.cons_append, fill, ih]
      cases fill values rest <;> rfl

/-- When all names have values, the values stand in their places. -/
theorem Layout.fill_parts {l : Layout} {value : String → String}
    (h : ∀ name ∈ l.names, lookup name values = some (value name)) :
    fill values l.parts = .ok (l.filled value).toList := by
  obtain ⟨lead, slots⟩ := l
  have hslots : fill values (slots.flatMap fun s => .name s.1 :: s.2.map .char) =
      .ok (slots.flatMap fun s => (value (String.ofList s.1)).toList ++ s.2) := by
    dsimp only [names] at h
    induction slots with
    | nil => rfl
    | cons s slots ih =>
        rw [List.map_cons, List.forall_mem_cons] at h
        rw [List.flatMap_cons, List.cons_append, fill, h.1]
        dsimp only
        rw [fill_chars, ih h.2, List.flatMap_cons, List.append_assoc]
        rfl
  rw [parts, fill_chars, hslots, filled, String.toList_ofList]
  rfl

/-! ### Templates -/

theorem render_eq_error_iff {e : UnresolvedPlaceholder} : render template values = .error e ↔
    missing? values (placeholders template) = some e.name ∧ e.template = template := by
  rw [placeholders_eq, ← fill_eq_error_iff, render]
  cases fill values (pieces template.toList) with
  | ok cs => exact ⟨nofun, nofun⟩
  | error name =>
      refine ⟨fun h => ?_, fun ⟨hname, htemplate⟩ => ?_⟩
      · cases h
        exact ⟨rfl, rfl⟩
      · cases hname
        rw [← htemplate]

theorem missing?_eq_none_iff {names : List String} :
    missing? values names = none ↔ ∀ name ∈ names, (lookup name values).isSome := by
  simp [missing?, List.find?_eq_none, Option.isSome_iff_ne_none]

/-- There is a text exactly when every name has a value. -/
theorem exists_render_iff : (∃ text, render template values = .ok text) ↔
    ∀ name ∈ placeholders template, (lookup name values).isSome := by
  rw [← missing?_eq_none_iff]
  cases hresult : render template values with
  | ok text =>
      refine iff_of_true ⟨text, rfl⟩ ?_
      cases hmissing : missing? values (placeholders template) with
      | none => rfl
      | some name =>
          have herror : render template values = .error ⟨name, template⟩ :=
            render_eq_error_iff.2 ⟨hmissing, rfl⟩
          cases hresult.symm.trans herror
  | error e =>
      rw [(render_eq_error_iff.1 hresult).1]
      exact ⟨nofun, nofun⟩

theorem Layout.Writes.placeholders {l : Layout} (h : l.Writes template) :
    placeholders template = l.names := by
  rw [placeholders_eq, h.pieces, filterMap_nameOf_parts]

theorem Layout.Writes.render {l : Layout} (h : l.Writes template) {value : String → String}
    (hvalue : ∀ name ∈ l.names, lookup name values = some (value name)) :
    render template values = .ok (l.filled value) := by
  rw [Template.render, h.pieces, fill_parts hvalue]
  exact congrArg Except.ok String.ofList_toList

/-! ### Several templates -/

variable {templates : List String}

theorem renderAll_eq_ok_iff {texts : List String} : renderAll templates values = .ok texts ↔
    List.Forall₂ (fun template text => render template values = .ok text) templates texts :=
  mapM_eq_ok_iff

/-- The error is that of the first template with a name that has no value. -/
theorem renderAll_eq_error_iff {e : UnresolvedPlaceholder} :
    renderAll templates values = .error e ↔
      ∃ before after, templates = before ++ e.template :: after ∧
        (∀ earlier ∈ before, ∀ name ∈ placeholders earlier, (lookup name values).isSome) ∧
        missing? values (placeholders e.template) = some e.name := by
  rw [renderAll, mapM_eq_error_iff]
  simp only [exists_render_iff, render_eq_error_iff]
  constructor
  · rintro ⟨before, template, after, hsplit, hbefore, hmissing, rfl⟩
    exact ⟨before, after, hsplit, hbefore, hmissing⟩
  · rintro ⟨before, after, hsplit, hbefore, hmissing⟩
    exact ⟨before, e.template, after, hsplit, hbefore, hmissing, rfl⟩

theorem exists_renderAll_iff : (∃ texts, renderAll templates values = .ok texts) ↔
    ∀ template ∈ templates, ∀ name ∈ placeholders template, (lookup name values).isSome := by
  simp only [renderAll, exists_mapM_iff, exists_render_iff]

/-- Every template is written in exactly one way as plain text with identifiers between braces, its
`Layout` `l`.  Its `placeholders` are the names of `l`; when each of them has a value, `render`
gives the text with the values in their places, and otherwise an error that tells the first one
without a value and the whole template.  `renderAll` gives the texts of all templates, or the error
of the first one that has none. -/
theorem rendered_as_written :
    (∀ template : String, (∃! l : Layout, l.Writes template) ∧
      ∀ l : Layout, l.Writes template → placeholders template = l.names ∧
        (∀ values value, (∀ name ∈ l.names, lookup name values = some (value name)) →
          render template values = .ok (l.filled value)) ∧
        ∀ values name, missing? values l.names = some name →
          render template values = .error ⟨name, template⟩) ∧
    ∀ templates values,
      (∀ texts, renderAll templates values = .ok texts ↔
        List.Forall₂ (fun template text => render template values = .ok text) templates texts) ∧
      ∀ e, renderAll templates values = .error e ↔
        ∃ before template after, templates = before ++ template :: after ∧
          (∀ earlier ∈ before, ∃ text, render earlier values = .ok text) ∧
          render template values = .error e := by
  refine ⟨fun template => ⟨⟨_, Layout.writes_ofPieces template, fun l h => h.eq_ofPieces⟩,
    fun l h => ⟨h.placeholders, fun values value hvalue => h.render hvalue,
      fun values name hname => ?_⟩⟩, fun templates values => ⟨fun texts => renderAll_eq_ok_iff,
    fun e => mapM_eq_error_iff⟩⟩
  rw [← h.placeholders] at hname
  exact render_eq_error_iff.2 ⟨hname, rfl⟩

/-- A value is not looked at again, and a brace may stand before another one. -/
example : render "\x7b\x7ba\x7d\x7d" [("a", "\x7bb\x7d")] = .ok "\x7b\x7bb\x7d\x7d" := by cbv

end DeviceLab.Template
