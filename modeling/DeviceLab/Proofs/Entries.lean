import Mathlib.Data.List.Forall2
import DeviceLab.Json.Decode

/-! # Values under names

The value under a name is looked up in a list of entries, of which the first with the name counts
(`lookup_cons`, `lookup_append`).  Where no name stands twice every entry is found
(`lookup_of_mem`).  A value is found under the name that it has been entered under
(`lookup_enter_self`) and not seen under another one (`lookup_enter_of_ne`), and one entered under a
name that comes after all others stands at the end (`enter_last`): entries that are entered in their
order (`Ordered`) keep it.

A row of operations that may fail has the results of all of them (`mapM_eq_ok_iff`) or the error of
the first one that fails (`mapM_eq_error_iff`).

Entries are in order whatever the document that they are read from (`dictionary_ordered`).  What
the values of the fields satisfy carries over to the structure that is built of them
(`Record.Yields`). -/

namespace DeviceLab.Json

/-- The names of the entries are in order, and none stands twice. -/
def Ordered {α : Type} (entries : List (String × α)) : Prop :=
  (entries.map Prod.fst).Pairwise (· < ·)

variable {α : Type} {name other : String} {a : α} {entries : List (String × α)}

@[simp]
theorem lookup_nil (name : String) : lookup name ([] : List (String × α)) = none := rfl

@[simp]
theorem lookup_cons (name other : String) (a : α) (entries : List (String × α)) :
    lookup name ((other, a) :: entries) = if other = name then some a else lookup name entries := by
  rw [lookup, lookup, List.find?_cons]
  split
  · next h => rw [if_pos (beq_iff_eq.1 h), Option.map_some]
  · next h => rw [if_neg (beq_eq_false_iff_ne.1 h)]

@[simp]
theorem lookup_append (name : String) (entries others : List (String × α)) :
    lookup name (entries ++ others) = (lookup name entries).or (lookup name others) := by
  rw [lookup, lookup, lookup, List.find?_append, Option.map_or]

theorem mem_keys_of_lookup (h : lookup name entries = some a) : name ∈ entries.map Prod.fst := by
  obtain ⟨entry, hentry, -⟩ := Option.map_eq_some_iff.1 h
  have hkey : entry.1 = name := by simpa using List.find?_some hentry
  exact hkey ▸ List.mem_map_of_mem (List.mem_of_find?_eq_some hentry)

theorem lookup_eq_none (h : name ∉ entries.map Prod.fst) : lookup name entries = none := by
  cases hlookup : lookup name entries with
  | none => rfl
  | some a => exact absurd (mem_keys_of_lookup hlookup) h

theorem lookup_of_mem (hnodup : (entries.map Prod.fst).Nodup) (h : (name, a) ∈ entries) :
    lookup name entries = some a := by
  induction entries with
  | nil => cases h
  | cons entry entries ih =>
      obtain ⟨first, b⟩ := entry
      rw [List.map_cons, List.nodup_cons] at hnodup
      rw [lookup_cons]
      rcases List.mem_cons.1 h with heq | hmem
      · cases heq
        exact if_pos rfl
      · have hne : first ≠ name := by
          rintro rfl
          exact hnodup.1 (List.mem_map.2 ⟨_, hmem, rfl⟩)
        rw [if_neg hne]
        exact ih hnodup.2 hmem

theorem lookup_enter_self (name : String) (a : α) (entries : List (String × α)) :
    lookup name (enter name a entries) = some a := by
  induction entries with
  | nil => exact (lookup_cons ..).trans (if_pos rfl)
  | cons entry rest ih =>
      obtain ⟨first, b⟩ := entry
      rw [enter]
      split
      · exact (lookup_cons ..).trans (if_pos rfl)
      split
      · exact (lookup_cons ..).trans (if_pos rfl)
      · next hne _ => rw [lookup_cons, if_neg (Ne.symm hne), ih]

theorem lookup_enter_of_ne (hne : name ≠ other) (a : α) (entries : List (String × α)) :
    lookup name (enter other a entries) = lookup name entries := by
  induction entries with
  | nil => exact (lookup_cons ..).trans (if_neg hne.symm)
  | cons entry rest ih =>
      obtain ⟨first, b⟩ := entry
      rw [enter]
      split
      · next heq => rw [← heq, lookup_cons, lookup_cons, if_neg hne.symm, if_neg hne.symm]
      split
      · rw [lookup_cons, if_neg hne.symm]
      · rw [lookup_cons, lookup_cons, ih]

theorem enter_last (h : ∀ entry ∈ entries, entry.1 < name) (a : α) :
    enter name a entries = entries ++ [(name, a)] := by
  induction entries with
  | nil => rfl
  | cons entry entries ih =>
      obtain ⟨hfirst, hrest⟩ := List.forall_mem_cons.1 h
      have hne : name ≠ entry.1 := fun heq => String.lt_irrefl _ (heq ▸ hfirst)
      rw [enter, if_neg hne, if_neg (String.lt_asymm hfirst), ih hrest, List.cons_append]

/-! ### Entries in order -/

theorem mem_enter {entry : String × α} (h : entry ∈ enter name a entries) :
    entry = (name, a) ∨ entry ∈ entries := by
  induction entries with
  | nil => exact .inl (List.mem_singleton.1 h)
  | cons first rest ih =>
      rw [enter] at h
      split at h
      · exact (List.mem_cons.1 h).imp_right (List.mem_cons_of_mem _)
      split at h
      · exact List.mem_cons.1 h
      · rcases List.mem_cons.1 h with heq | hmem
        · exact .inr (List.mem_cons.2 (.inl heq))
        · exact (ih hmem).imp_right (List.mem_cons_of_mem _)

theorem mem_keys_enter {key : String} (h : key ∈ (enter name a entries).map Prod.fst) :
    key = name ∨ key ∈ entries.map Prod.fst := by
  obtain ⟨entry, hentry, rfl⟩ := List.mem_map.1 h
  rcases mem_enter hentry with rfl | hmem
  · exact .inl rfl
  · exact .inr (List.mem_map_of_mem hmem)

theorem ordered_nil : Ordered ([] : List (String × α)) := List.Pairwise.nil

/-- A value is entered where it belongs. -/
theorem Ordered.enter (h : Ordered entries) (name : String) (a : α) :
    Ordered (enter name a entries) := by
  induction entries with
  | nil => exact List.pairwise_singleton _ _
  | cons entry rest ih =>
      obtain ⟨first, b⟩ := entry
      rw [Ordered, List.map_cons, List.pairwise_cons] at h
      obtain ⟨hfirst, hrest⟩ := h
      rw [Json.enter]
      split
      · next heq =>
          rw [Ordered, List.map_cons, List.pairwise_cons, heq]
          exact ⟨hfirst, hrest⟩
      split
      · next hlt =>
          rw [Ordered, List.map_cons, List.map_cons, List.pairwise_cons, List.pairwise_cons]
          refine ⟨fun key hkey => ?_, hfirst, hrest⟩
          rcases List.mem_cons.1 hkey with rfl | hkey
          · exact hlt
          · exact String.lt_trans hlt (hfirst key hkey)
      · next hne hge =>
          have hgt : first < name :=
            Decidable.byContradiction fun hle => hne (String.le_antisymm hle hge)
          rw [Ordered, List.map_cons, List.pairwise_cons]
          refine ⟨fun key hkey => ?_, ih hrest⟩
          rcases mem_keys_enter hkey with rfl | hkey
          · exact hgt
          · exact hfirst key hkey

theorem Ordered.nodup (h : Ordered entries) : (entries.map Prod.fst).Nodup := by
  refine List.Pairwise.imp (fun {a b} hlt => ?_) h
  rintro rfl
  exact String.lt_irrefl a hlt

/-- What every step of a fold keeps that may fail, the fold keeps. -/
theorem foldlM_keeps {β ε : Type} {P : β → Prop} {step : β → α → Except ε β}
    (hstep : ∀ b a b', P b → step b a = .ok b' → P b') (l : List α) {b b' : β} (hb : P b)
    (h : l.foldlM step b = .ok b') : P b' := by
  induction l generalizing b with
  | nil =>
      cases h
      exact hb
  | cons a l ih =>
      rw [List.foldlM_cons] at h
      cases hnext : step b a with
      | error e =>
          rw [hnext] at h
          cases h
      | ok next =>
          rw [hnext] at h
          exact ih (hstep b a next hb hnext) h

theorem bind_eq_ok {ε β γ : Type} {x : Except ε β} {f : β → Except ε γ} {c : γ}
    (h : x >>= f = .ok c) : ∃ b, x = .ok b ∧ f b = .ok c := by
  cases x with
  | ok b => exact ⟨b, rfl, h⟩
  | error e => cases h

theorem map_eq_ok {ε β γ : Type} {x : Except ε β} {f : β → γ} {c : γ}
    (h : x.map f = .ok c) : ∃ b, x = .ok b ∧ f b = c := by
  cases x with
  | ok b =>
      cases h
      exact ⟨b, rfl, rfl⟩
  | error e => cases h

/-! ### Rows of results -/

section

variable {β ε : Type} {f : α → Except ε β} {l : List α}

theorem mapM_eq_ok_iff {found : List β} :
    l.mapM f = .ok found ↔ List.Forall₂ (fun a b => f a = .ok b) l found := by
  induction l generalizing found with
  | nil =>
      rw [List.forall₂_nil_left_iff]
      exact ⟨fun h => by cases h; rfl, fun h => by rw [h]; rfl⟩
  | cons a l ih =>
      rw [List.mapM_cons, List.forall₂_cons_left_iff]
      constructor
      · intro h
        obtain ⟨b, hb, h⟩ := bind_eq_ok h
        obtain ⟨rest, hrest, h⟩ := bind_eq_ok h
        cases h
        exact ⟨b, rest, hb, ih.1 hrest, rfl⟩
      · rintro ⟨b, rest, hb, hrest, rfl⟩
        rw [hb, ih.2 hrest]
        rfl

/-- What fails first is what all of it fails with. -/
theorem mapM_eq_error_iff {e : ε} : l.mapM f = .error e ↔
    ∃ before a after, l = before ++ a :: after ∧ (∀ b ∈ before, ∃ c, f b = .ok c) ∧
      f a = .error e := by
  induction l with
  | nil =>
      refine iff_of_false nofun ?_
      rintro ⟨before, a, after, heq, -⟩
      exact List.append_ne_nil_of_right_ne_nil before (List.cons_ne_nil a after) heq.symm
  | cons a l ih =>
      rw [List.mapM_cons]
      cases ha : f a with
      | error e' =>
          constructor
          · intro h
            cases h
            exact ⟨[], a, l, rfl, List.forall_mem_nil _, ha⟩
          · rintro ⟨before, a', after, heq, hbefore, herror⟩
            cases before with
            | nil =>
                cases heq
                cases ha.symm.trans herror
                rfl
            | cons b before =>
                cases heq
                obtain ⟨c, hc⟩ := hbefore a List.mem_cons_self
                cases ha.symm.trans hc
      | ok b =>
          have hrest : ((do return b :: (← l.mapM f)) : Except ε (List β)) = .error e ↔
              l.mapM f = .error e := by
            cases l.mapM f with
            | ok bs => exact ⟨nofun, nofun⟩
            | error e' => exact Iff.rfl
          refine hrest.trans (ih.trans ?_)
          constructor
          · rintro ⟨before, a', after, rfl, hbefore, herror⟩
            exact ⟨a :: before, a', after, rfl, List.forall_mem_cons.2 ⟨⟨b, ha⟩, hbefore⟩, herror⟩
          · rintro ⟨before, a', after, heq, hbefore, herror⟩
            cases before with
            | nil =>
                cases heq
                cases ha.symm.trans herror
            | cons b' before =>
                cases heq
                exact ⟨before, a', after, rfl, (List.forall_mem_cons.1 hbefore).2, herror⟩

/-- All of them succeed exactly if each does. -/
theorem exists_mapM_iff : (∃ found, l.mapM f = .ok found) ↔ ∀ a ∈ l, ∃ b, f a = .ok b := by
  cases hresult : l.mapM f with
  | ok found =>
      have hall : List.Forall₂ (fun a b => (∃ b, f a = .ok b) ∧ f a = .ok b) l found :=
        (mapM_eq_ok_iff.1 hresult).imp fun _ b h => ⟨⟨b, h⟩, h⟩
      exact iff_of_true ⟨found, rfl⟩ ((List.forall₂_and_left _ _).1 hall).1
  | error e =>
      obtain ⟨before, a, after, rfl, -, herror⟩ := mapM_eq_error_iff.1 hresult
      refine iff_of_false nofun fun hall => ?_
      obtain ⟨b, hb⟩ := hall a (by simp)
      cases herror.symm.trans hb

end

/-! ### Dictionaries -/

/-- What an empty table satisfies, and every table after one more value has been entered, is true of
every dictionary. -/
theorem dictionary_induction {P : List (String × α) → Prop} {decode : Decoder α} (hnil : P [])
    (henter : ∀ found name d a, P found → decode d = .ok a → P (enter name a found))
    {d : Document} (h : dictionary decode d = .ok entries) : P entries := by
  cases d with
  | object fields ending =>
      obtain ⟨found, hfound, hending⟩ := bind_eq_ok h
      have hall : P found := by
        refine foldlM_keeps (fun before field after hbefore hstep => ?_) fields hnil hfound
        obtain ⟨name?, value⟩ := field
        cases name? with
        | none => cases hstep
        | some name =>
            obtain ⟨a, ha, hafter⟩ := bind_eq_ok hstep
            cases hafter
            exact henter before name value a hbefore ha
      cases hfault : ending.fault? with
      | none =>
          rw [hfault] at hending
          cases hending
          exact hall
      | some fault =>
          rw [hfault] at hending
          cases hending
  | _ => cases h

/-- A dictionary is read in the order of its names, whatever their order in the document. -/
theorem dictionary_ordered {decode : Decoder α} {d : Document}
    (h : dictionary decode d = .ok entries) : Ordered entries :=
  dictionary_induction ordered_nil (fun _ name _ a hfound _ => hfound.enter name a) h

/-- What every value that is read satisfies, the values of a dictionary satisfy. -/
theorem dictionary_keeps {P : α → Prop} {decode : Decoder α}
    (hdecode : ∀ d a, decode d = .ok a → P a) {d : Document}
    (h : dictionary decode d = .ok entries) : ∀ entry ∈ entries, P entry.2 := by
  refine dictionary_induction (P := fun found => ∀ entry ∈ found, P entry.2)
    (List.forall_mem_nil _) (fun found name d a hfound ha entry hentry => ?_) h
  rcases mem_enter hentry with rfl | hmem
  · exact hdecode d a ha
  · exact hfound entry hmem

/-! ### What every record satisfies -/

namespace Record

variable {β : Type} {P : α → Prop} {Q : β → Prop}

/-- Whatever it is read from, the structure satisfies something. -/
structure Yields (P : α → Prop) (r : Record α) : Prop where
  build : ∀ found a, r.build found = .ok a → P a
  take : ∀ items a rest, r.take items = .ok (a, rest) → P a

/-- A field that has a value of its own when it is missing. -/
theorem Yields.withDefault {decode : Decoder α} {name : String} {value : α}
    (h : ∀ d a, decode d = .ok a → P a) (hvalue : P value) :
    Yields P (withDefault name decode value) := by
  refine ⟨fun found a ha => ?_, fun items a rest ha => ?_⟩
  · simp only [Record.withDefault, Record.field] at ha
    cases hfound : found name with
    | none =>
        rw [hfound] at ha
        cases ha
        exact hvalue
    | some d =>
        rw [hfound] at ha
        exact h d a ha
  · obtain ⟨items, ending⟩ := items
    cases items with
    | nil =>
        simp only [Record.withDefault, Record.field] at ha
        split at ha
        · cases ha
        · cases ha
          exact hvalue
    | cons d items =>
        obtain ⟨b, hread, hb⟩ := map_eq_ok ha
        cases hb
        exact h d a hread

/-- A dictionary of values that satisfy something, which is empty when it is missing. -/
theorem Yields.dictionary (decode : Decoder α) (hdecode : ∀ d a, decode d = .ok a → P a)
    (name : String) : Yields (fun entries : List (String × α) => ∀ entry ∈ entries, P entry.2)
      (.withDefault name (Json.dictionary decode) []) :=
  .withDefault (fun _ _ => dictionary_keeps hdecode) (List.forall_mem_nil _)

/-- The structure that is built of a function and of a field. -/
theorem Yields.seq {f : Record (α → β)} {x : Record α}
    (hf : Yields (fun g => ∀ a, P a → Q (g a)) f) (hx : Yields P x) : Yields Q (f <*> x) := by
  refine ⟨fun found b hb => ?_, fun items b rest hb => ?_⟩
  · obtain ⟨g, hg, hb⟩ := bind_eq_ok hb
    obtain ⟨a, ha, hb⟩ := bind_eq_ok hb
    cases hb
    exact hf.build found g hg a (hx.build found a ha)
  · obtain ⟨⟨g, items₁⟩, hg, hb⟩ := bind_eq_ok hb
    obtain ⟨⟨a, items₂⟩, ha, hb⟩ := bind_eq_ok hb
    cases hb
    exact hf.take items g items₁ hg a (hx.take items₁ a rest ha)

/-- A field that makes no difference. -/
theorem Yields.skip {f : Record (α → β)} {x : Record α}
    (hf : Yields (fun g => ∀ a, Q (g a)) f) : Yields Q (f <*> x) :=
  .seq (P := fun _ => True) ⟨fun found g hg a _ => hf.build found g hg a,
    fun items g rest hg a _ => hf.take items g rest hg a⟩
    ⟨fun _ _ _ => True.intro, fun _ _ _ _ => True.intro⟩

/-- The first field, when it makes no difference. -/
theorem Yields.first {g : α → β} {x : Record α} (hg : ∀ a, Q (g a)) : Yields Q (g <$> x) :=
  .skip (f := Record.pure g)
    ⟨fun _ _ h => by cases h; exact hg, fun _ _ _ h => by cases h; exact hg⟩

theorem Yields.decoder {r : Record α} (h : Yields P r) {d : Document} {a : α}
    (ha : r.decoder d = .ok a) : P a := by
  cases d with
  | object fields ending =>
      obtain ⟨found, -, hb⟩ := bind_eq_ok ha
      cases hfault : ending.fault? with
      | none =>
          rw [hfault] at hb
          exact h.build _ a hb
      | some fault =>
          rw [hfault] at hb
          cases hb
  | array items ending =>
      obtain ⟨⟨b, rest⟩, htake, hb⟩ := bind_eq_ok ha
      obtain ⟨items', ending'⟩ := rest
      have hyield : P b := h.take _ b _ htake
      cases items' with
      | nil =>
          cases hfault : ending'.fault? with
          | none =>
              simp only [hfault] at hb
              cases hb
              exact hyield
          | some fault =>
              simp only [hfault] at hb
              cases hb
      | cons item items' =>
          cases ending with
          | whole =>
              cases hb
              exact hyield
          | _ => cases hb
  | _ => cases ha

end Record

end DeviceLab.Json
