import DeviceLab.Json.Decode

/-!
# Templates

A template is a text in which a name between braces stands for a value.  Names are ASCII
identifiers; braces around anything else are plain text.

* `Template.pieces`: a template as characters and names.
* `Template.render`: the text with the values in place; values are not looked at again.
-/

namespace DeviceLab

/-- A name without a value, and the whole template that it stands in. -/
structure UnresolvedPlaceholder where
  name : String
  template : String
  deriving DecidableEq, Repr

def UnresolvedPlaceholder.message (e : UnresolvedPlaceholder) : String :=
  "unresolved placeholder '\x7b" ++ e.name ++ "\x7d' in '" ++ e.template ++ "'"

/-- Values by name, in the order of the names. -/
abbrev Values := List (String × String)

namespace Template

def isNameStart (c : Char) : Bool := c.isAlpha || c == '_'

def isNameChar (c : Char) : Bool := c.isAlphanum || c == '_'

/-- A part of a template. -/
inductive Piece where
  | char (c : Char)
  | name (name : List Char)
  deriving DecidableEq, Repr

/-- The name at the start of a text, up to its closing brace, and what follows the brace. -/
def name? (cs : List Char) : Option (List Char × List Char) :=
  match cs.takeWhile isNameChar, cs.dropWhile isNameChar with
  | c :: name, '\x7d' :: rest => if isNameStart c then some (c :: name, rest) else none
  | _, _ => none

theorem name?_length {cs name rest : List Char} (h : name? cs = some (name, rest)) :
    rest.length < cs.length := by
  have hlen := List.takeWhile_append_dropWhile (p := isNameChar) (l := cs)
  have hsum : (cs.takeWhile isNameChar).length + (cs.dropWhile isNameChar).length = cs.length := by
    rw [← List.length_append, hlen]
  unfold name? at h
  split at h
  · rename_i c more rest' h₁ h₂
    split at h
    · simp only [Option.some.injEq, Prod.mk.injEq] at h
      obtain ⟨-, rfl⟩ := h
      simp only [h₁, h₂, List.length_cons] at hsum
      omega
    · simp at h
  · simp at h

/-- The parts of a template, from left to right. -/
def pieces : List Char → List Piece
  | [] => []
  | c :: rest =>
    if c = '\x7b' then
      match h : name? rest with
      | some (name, after) =>
        have := name?_length h
        .name name :: pieces after
      | none => .char c :: pieces rest
    else .char c :: pieces rest
  termination_by cs => cs.length
  decreasing_by all_goals (simp; try omega)

/-- The names in a template, in the order in which they appear. -/
def placeholders (template : String) : List String :=
  (pieces template.toList).filterMap fun
    | .name name => some (String.ofList name)
    | .char _ => none

/-- The characters that parts stand for, or the first name without a value. -/
def fill (values : Values) : List Piece → Except String (List Char)
  | [] => .ok []
  | .char c :: rest => (fill values rest).map (c :: ·)
  | .name name :: rest =>
    match Json.lookup (String.ofList name) values with
    | some value => (fill values rest).map (value.toList ++ ·)
    | none => .error (String.ofList name)

def render (template : String) (values : Values) : Except UnresolvedPlaceholder String :=
  match fill values (pieces template.toList) with
  | .ok cs => .ok (String.ofList cs)
  | .error name => .error ⟨name, template⟩

/-- The texts of several templates, or the first error. -/
def renderAll (templates : List String) (values : Values) :
    Except UnresolvedPlaceholder (List String) :=
  templates.mapM fun template => render template values

end Template

end DeviceLab
