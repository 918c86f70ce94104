import DeviceLab.Proofs.Entries
import DeviceLab.Proofs.Written

/-! # Values told by documents

`Tells decode v a`: the JSON value `v` is written without loss, and the decoder finds `a` in what
is read.  Each combinator of decoders has one lemma that makes it tell a value where its parts tell
theirs: scalars, optional values, lists and dictionaries under `Tells`.

A record is decoded from the fields of an object, of which some may be missing.  `Record.Reads`
says what one applicative step sees of them: the names that it knows, and the value that it builds
of the fields under these names.  Records are put together by `Reads.map` and `Reads.seq` in the
way their decoders are, from fields that are there (`Reads.given`) and fields that are written when
they have a value (`Reads.present`); `Reads.tells` ends the chain. -/

namespace DeviceLab.Json

open Decimal

variable {α β : Type} {decode : Decoder α} {v : Value} {a : α}

/-- A value is told by a JSON value: it is written without loss, and the decoder finds the value in
what is read. -/
structure Tells (decode : Decoder α) (v : Value) (a : α) : Prop where
  plain : v.Plain
  reads : decode (.ofValue v) = .ok a

/-- What is told is read from the text. -/
theorem Tells.decodeText (h : Tells decode v a) : decodeText decode v.pretty = .ok a := by
  rw [Json.decodeText, Document.ofText_pretty h.plain]
  simp only [h.reads]
  rfl

namespace Tells

/-! ### Scalars -/

theorem text (s : String) : Tells Json.text (.string s) s := ⟨.string s, rfl⟩

theorem flag (b : Bool) : Tells Json.flag (.bool b) b := ⟨.bool b, rfl⟩

theorem whole {low high n : Int} (h : low ≤ n ∧ n ≤ high) (hn : IsInt64 n) :
    Tells (Json.whole low high) (.int n) n :=
  ⟨.int hn, if_pos h⟩

theorem natural {limit n : Nat} (h : n < limit) (hlimit : limit ≤ twoTo 64) :
    Tells (Json.natural limit) (.nat n) n := by
  have hint : IsInt64 n := ⟨by omega, by omega⟩
  refine ⟨.int hint, ?_⟩
  rw [Json.natural, Value.nat, (whole (by omega) hint).reads]
  rfl

theorem variant {named? : String → Option α} {name : String} (h : named? name = some a) :
    Tells (Json.variant named?) (.string name) a :=
  ⟨.string name, by simp only [Document.ofValue, Json.variant, h]; rfl⟩

theorem variantAside {named? : String → Option α} {name : String} (h : named? name = some a) :
    Tells (Json.variantAside named?) (.string name) a :=
  ⟨.string name, by simp only [Document.ofValue, Json.variantAside, h]; rfl⟩

/-! ### Collections -/

theorem null : Tells (optional decode) .null none := ⟨.null, rfl⟩

theorem some (h : Tells decode v a) (hv : v ≠ .null) : Tells (optional decode) v (some a) := by
  refine ⟨h.plain, ?_⟩
  have hreads := h.reads
  cases v with
  | null => exact absurd rfl hv
  | _ => simp only [optional, Document.ofValue] at hreads ⊢; rw [hreads]; rfl

theorem ofOption {f : α → Value} {o : Option α} (h : ∀ a, o = Option.some a → Tells decode (f a) a)
    (hf : ∀ a, f a ≠ .null) : Tells (optional decode) (.ofOption f o) o := by
  cases o with
  | none => exact null
  | some a => exact (h a rfl).some (hf a)

theorem list {f : α → Value} {as : List α} (h : ∀ a ∈ as, Tells decode (f a) a) :
    Tells (Json.list decode) (.array (as.map f)) as := by
  refine ⟨.array ?_, ?_⟩
  · intro item hitem
    obtain ⟨a, ha, rfl⟩ := List.mem_map.1 hitem
    exact (h a ha).plain
  · have hitems : (Document.ofItems (as.map f)).mapM decode = .ok as := by
      induction as with
      | nil => rfl
      | cons a as ih =>
          obtain ⟨ha, has⟩ := List.forall_mem_cons.1 h
          rw [List.map_cons, Document.ofItems, List.mapM_cons, ha.reads, ih has]
          rfl
    rw [Document.ofValue, Json.list, hitems]
    rfl

/-- Entries in the order of their names are entered one behind the other. -/
theorem foldlM_enter {f : α → Value}
    {step : List (String × α) → Option String × Document → Except Fault (List (String × α))}
    (hstep : ∀ entries name d,
      step entries (Option.some name, d) = (decode d).map fun a => enter name a entries)
    (done entries : List (String × α)) (hsorted : Ordered (done ++ entries))
    (h : ∀ entry ∈ entries, Tells decode (f entry.2) entry.2) :
    (Document.ofFields (entries.map fun (name, a) => (name, f a))).foldlM step done =
      .ok (done ++ entries) := by
  induction entries generalizing done with
  | nil => rw [List.append_nil]; rfl
  | cons entry entries ih =>
      obtain ⟨name, a⟩ := entry
      obtain ⟨hfirst, hrest⟩ := List.forall_mem_cons.1 h
      have hlast : ∀ entry ∈ done, entry.1 < name := by
        intro entry hentry
        rw [Ordered, List.map_append, List.pairwise_append] at hsorted
        exact hsorted.2.2 entry.1 (List.mem_map_of_mem hentry) name List.mem_cons_self
      have hread : decode (.ofValue (f a)) = .ok a := hfirst.reads
      have hnext := ih (done ++ [(name, a)]) (by rwa [List.append_cons] at hsorted) hrest
      rw [List.append_assoc, List.singleton_append] at hnext
      rw [List.map_cons, Document.ofFields, List.foldlM_cons, hstep, hread]
      change List.foldlM step (enter name a done) _ = _
      rw [enter_last hlast, hnext]

theorem dictionary {f : α → Value} {entries : List (String × α)} (hsorted : Ordered entries)
    (h : ∀ entry ∈ entries, Tells decode (f entry.2) entry.2) :
    Tells (Json.dictionary decode) (.object (entries.map fun (name, a) => (name, f a)))
      entries := by
  refine ⟨.object ?_, ?_⟩
  · intro field hfield
    obtain ⟨entry, hentry, rfl⟩ := List.mem_map.1 hfield
    exact (h entry hentry).plain
  · rw [Document.ofValue, Json.dictionary, foldlM_enter ?_ [] entries hsorted h]
    · rfl
    · intro entries name d
      dsimp only
      cases decode d <;> rfl

end Tells

/-! ### Records -/

/-- The fields of an object tell a record with fields of some names: each field that the record
knows is written without loss and is accepted, and the record is built of their values. -/
structure Record.Reads (r : Record α) (names : List String) (fields : List (String × Value))
    (a : α) : Prop where
  knows : ∀ name ∈ names, (r.accepts name).isSome
  accepts : ∀ name v, lookup name fields = some v → ∀ read, r.accepts name = some read →
    v.Plain ∧ read (.ofValue v) = .ok ()
  builds : r.build (fun name => (lookup name fields).map Document.ofValue) = .ok a

namespace Record

variable {fields : List (String × Value)} {name : String} {names others : List String}

theorem Reads.field {missing missingItem : Except Fault α}
    (h : ∀ v, lookup name fields = some v → Tells decode v a)
    (hmissing : lookup name fields = none → missing = .ok a) :
    (field name decode missing missingItem).Reads [name] fields a := by
  refine ⟨fun other hother => ?_, fun other v hv read hread => ?_, ?_⟩
  · rw [List.mem_singleton.1 hother]
    simp only [Record.field, if_true, Option.isSome_some]
  · simp only [Record.field] at hread
    split at hread
    · next heq =>
        subst heq
        cases hread
        have htells := h v hv
        exact ⟨htells.plain, by simp only [htells.reads]; rfl⟩
    · cases hread
  · simp only [Record.field]
    cases hlookup : lookup name fields with
    | none => exact hmissing hlookup
    | some v => exact (h v hlookup).reads

/-- A field that is there. -/
theorem Reads.given {missing missingItem : Except Fault α} (hfield : lookup name fields = some v)
    (h : Tells decode v a) : (Record.field name decode missing missingItem).Reads [name] fields a :=
  .field (fun _ hv => by rw [hfield] at hv; cases hv; exact h) fun hnone => by
    rw [hfield] at hnone; cases hnone

/-- A field that is there when it has a value. -/
theorem Reads.present {f : α → Value} {o : Option α} (hfield : lookup name fields = o.map f)
    (h : ∀ a, o = some a → Tells decode (f a) a) (hf : ∀ a, f a ≠ .null) :
    (nullableWithDefault name decode).Reads [name] fields o := by
  cases o with
  | none =>
      refine .field (fun _ hv => ?_) fun _ => rfl
      rw [hfield] at hv
      cases hv
  | some a => exact .given hfield ((h a rfl).some (hf a))

theorem Reads.seq {f : Record (α → β)} {x : Record α} {g : α → β} (hf : f.Reads names fields g)
    (hx : x.Reads others fields a) : (f <*> x).Reads (names ++ others) fields (g a) := by
  have haccepts (name : String) :
      (f <*> x).accepts name = (f.accepts name).orElse fun _ => x.accepts name := rfl
  refine ⟨fun name hname => ?_, fun name v hv read hread => ?_, ?_⟩
  · rw [haccepts]
    cases hfirst : f.accepts name with
    | some _ => rfl
    | none =>
        refine hx.knows name ((List.mem_append.1 hname).resolve_left fun hmem => ?_)
        have := hf.knows name hmem
        rw [hfirst] at this
        cases this
  · rw [haccepts] at hread
    cases hfirst : f.accepts name with
    | none =>
        rw [hfirst] at hread
        exact hx.accepts name v hv read hread
    | some _ =>
        rw [hfirst] at hread
        cases hread
        exact hf.accepts name v hv _ hfirst
  · change (do return (← f.build _) (← x.build _)) = _
    rw [hf.builds, hx.builds]
    rfl

theorem Reads.map {x : Record α} (g : α → β) (hx : x.Reads names fields a) :
    (g <$> x).Reads names fields (g a) :=
  Reads.seq (f := Record.pure g)
    ⟨fun _ hname => absurd hname List.not_mem_nil, fun _ _ _ _ => nofun, rfl⟩ hx

/-- Fields without a name that stands twice are all found when they are read. -/
theorem readFields_found {r : Record α} (found : List (String × Document))
    (fields : List (String × Value)) (hnames : (fields.map Prod.fst).Nodup)
    (hnew : ∀ field ∈ fields, lookup field.1 found = none)
    (hread : ∀ field ∈ fields, ∃ read, r.accepts field.1 = some read ∧
      read (.ofValue field.2) = .ok ()) :
    ∃ all, r.readFields found (Document.ofFields fields) = .ok all ∧ ∀ name,
      lookup name all = ((lookup name fields).map Document.ofValue).or (lookup name found) := by
  induction fields generalizing found with
  | nil => exact ⟨found, rfl, fun _ => rfl⟩
  | cons field fields ih =>
      obtain ⟨name, v⟩ := field
      rw [List.map_cons, List.nodup_cons] at hnames
      obtain ⟨hfresh, hnames⟩ := hnames
      obtain ⟨hname, hnew⟩ := List.forall_mem_cons.1 hnew
      obtain ⟨⟨read, haccepts, hok⟩, hread⟩ := List.forall_mem_cons.1 hread
      have hne : ∀ field ∈ fields, name ≠ field.1 := fun field hfield heq =>
        hfresh (List.mem_map.2 ⟨field, hfield, heq.symm⟩)
      obtain ⟨all, hall, hlookup⟩ := ih ((name, .ofValue v) :: found) hnames
        (fun field hfield => by
          rw [lookup_cons, if_neg (hne field hfield)]
          exact hnew field hfield) hread
      refine ⟨all, ?_, fun other => ?_⟩
      · rw [Document.ofFields, readFields]
        simp only [haccepts, hname, hok]
        exact hall
      · rw [hlookup, lookup_cons, lookup_cons]
        split
        · next heq =>
            subst heq
            rw [lookup_eq_none hfresh]
            rfl
        · rfl

/-- A record whose fields are written in their order is told by its object. -/
theorem Reads.tells {r : Record α} (h : r.Reads names fields a) (hnames : names.Nodup)
    (hfields : (fields.map Prod.fst).Sublist names) : Tells r.decoder (.object fields) a := by
  have hnodup := hnames.sublist hfields
  have haccepts : ∀ field ∈ fields, ∃ read, r.accepts field.1 = some read ∧ field.2.Plain ∧
      read (.ofValue field.2) = .ok () := by
    intro field hfield
    obtain ⟨read, hread⟩ := Option.isSome_iff_exists.1
      (h.knows field.1 (hfields.subset (List.mem_map_of_mem hfield)))
    exact ⟨read, hread, h.accepts _ _ (lookup_of_mem hnodup hfield) read hread⟩
  refine ⟨.object fun field hfield => ?_, ?_⟩
  · obtain ⟨read, -, hplain, -⟩ := haccepts field hfield
    exact hplain
  · obtain ⟨found, hfound, hall⟩ := readFields_found [] fields hnodup (fun _ _ => rfl)
      fun field hfield => by
        obtain ⟨read, hread, -, hok⟩ := haccepts field hfield
        exact ⟨read, hread, hok⟩
    have hfun : (fun name => lookup name found) =
        fun name => (lookup name fields).map Document.ofValue := by
      funext name
      rw [hall]
      exact Option.or_none
    rw [Document.ofValue, decoder, hfound]
    simp only [Ending.fault?]
    rw [← h.builds, ← hfun]
    rfl

end Record

end DeviceLab.Json
